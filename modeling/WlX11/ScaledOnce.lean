import WlX11.SceneScaling

/-!
# WlX11 — a scene scaled exactly once

The position of a node is its logical position multiplied as often as passes have gone over it since
the parent's last commit: `NodeOk`, an invariant of every run. Destinations come from the surface
every time, so they are right whenever a pass has gone over an enabled buffer. What is left of "scaled
exactly once" is a condition on the passes alone.

* **`NodeOk`** — the invariant of one node; `commitAll_ok`, `sceneNodeApplyScale_ok` and the lemmas
  next to them say that commits and passes keep it.
* **`scaled_once_iff`** — the scene is scaled once after every toplevel commit and frame, iff every
  enabled node has had one pass then, or the passes it has had come to the same.
-/

namespace Wlx

open Rose (All AllOf)

/-! ## Scaling positions -/

/-- At no scale, or at 1, positions stay. -/
theorem Config.scalePoint_of_unscaled {cfg : Config}
    (h : cfg.contentScale ≤ 0 ∨ cfg.contentScale = 1) (p : Point) : cfg.scalePoint p = p := by
  unfold scalePoint
  exact if_pos h

/-- So do sizes. -/
theorem Config.scaleDest_of_unscaled {cfg : Config}
    (h : cfg.contentScale ≤ 0 ∨ cfg.contentScale = 1) (size : Size) :
    cfg.scaleDest size = size := by
  unfold scaleDest
  rw [if_pos]
  rcases h with h | h
  · exact Or.inl h
  · exact Or.inr (Or.inl h)

/-- Multiplying only what is not at the origin is multiplying everything. -/
theorem SubsurfaceNode.scalePosition_node {cfg : Config}
    (h : ¬ (cfg.contentScale ≤ 0 ∨ cfg.contentScale = 1)) (n : SubsurfaceNode) :
    (n.scalePosition cfg).node = cfg.scalePoint n.node := by
  show (if n.node.x ≠ 0 ∨ n.node.y ≠ 0 then _ else n.node) = cfg.scalePoint n.node
  unfold Config.scalePoint
  rw [if_neg h]
  split
  · rfl
  · next hzero =>
    obtain ⟨hx, hy⟩ := not_or.mp hzero
    have hround : lround (((0 : Int) : ℚ) * cfg.contentScale) = 0 := by
      rw [Int.cast_zero, zero_mul]
      exact lround_intCast 0
    show Point.mk n.node.x n.node.y = _
    rw [not_not.mp hx, not_not.mp hy, hround]

/-! ## The invariant of one node -/

/-- A buffer gives its surface a size, only a surface with a buffer is mapped, and what is cached is
no protocol error. -/
structure NodeFed (n : SubsurfaceNode) : Prop where
  sized : n.hasBuffer = true → n.size.isSet = true
  buffered : n.mapped = true → n.hasBuffer = true
  cached : ∀ c ∈ n.cached, c.valid = true

/-- Besides, the node lies where the passes since the last reset have put it, and the destination is
the logical or the scaled size. -/
structure NodeOk (cfg : Config) (n : SubsurfaceNode) : Prop extends NodeFed n where
  node : n.node = cfg.scalePoint^[n.passes] n.pos
  dest : n.size.isSet = true → n.dest = n.size ∨ n.dest = cfg.scaleDest n.size

variable {cfg : Config}

/-- A surface that is added to the scene is placed and sized by its listeners. -/
theorem NodeOk.create (c : CommittedSurface) : NodeOk cfg (.create c) where
  sized := fun h => by
    have h' : (c.buffer.filter (·.isSet)).isSome = true := h
    obtain ⟨size, hsize⟩ := Option.isSome_iff_exists.mp h'
    show ((c.buffer.filter (·.isSet)).getD ⟨0, 0⟩).isSet = true
    rw [hsize]
    exact (Option.filter_eq_some_iff.mp hsize).2
  buffered := fun h => by cases h
  cached := fun c hc => by cases hc
  node := rfl
  dest := fun _ => Or.inl rfl

/-- Committed state keeps a surface fed, if one that loses its buffer is not mapped. -/
theorem NodeFed.moveState {n : SubsurfaceNode} (h : NodeFed n) {c : TreeCommit}
    (hc : c.valid = true) (hd : c.detaches = true → n.mapped = false) :
    NodeFed (n.moveState c) := by
  unfold SubsurfaceNode.moveState
  cases hb : c.buffer with
  | keep => exact h
  | attach size =>
    have hset : size.isSet = true := by
      unfold TreeCommit.valid at hc
      rw [hb] at hc
      exact hc
    exact ⟨fun _ => hset, fun _ => rfl, h.cached⟩
  -- a surface without a buffer is unmapped by then
  | detach =>
    refine ⟨(by intro hb; cases hb), fun hm => ?_, h.cached⟩
    have hunmapped := hd (by simp [TreeCommit.detaches, hb])
    have hm' : n.mapped = true := hm
    rw [hunmapped] at hm'
    cases hm'

/-- Moving the state leaves the node where it is. -/
theorem moveState_node (n : SubsurfaceNode) (c : TreeCommit) :
    (n.moveState c).node = n.node ∧ (n.moveState c).pos = n.pos ∧
      (n.moveState c).passes = n.passes := by
  unfold SubsurfaceNode.moveState
  cases c.buffer <;> exact ⟨rfl, rfl, rfl⟩

/-- Placing a node at its logical position undoes the passes. -/
theorem NodeOk.placeAt {n : SubsurfaceNode} (h : NodeOk cfg n) (pos : Point) :
    NodeOk cfg (n.placeAt pos) :=
  ⟨⟨h.sized, h.buffered, h.cached⟩, rfl, h.dest⟩

/-! ## Mapping and unmapping -/

mutual

/-- Mapping a surface maps it, whatever else it maps. -/
theorem mapSurface_spec (n : SubsurfaceNode) (ts : List SurfaceScene) (h : AllOf (NodeOk cfg) ts) :
    ∃ ts', mapSurface (.node n ts) = .node { n with mapped := true } ts' ∧
      AllOf (NodeOk cfg) ts' := by
  unfold mapSurface
  split
  · next hm => exact ⟨ts, by rw [← hm], h⟩
  · exact ⟨_, rfl, considerMaps_ok ts h⟩

/-- Subsurfaces that wait for their parent are mapped with it. -/
theorem considerMaps_ok (ts : List SurfaceScene) (h : AllOf (NodeOk cfg) ts) :
    AllOf (NodeOk cfg) (considerMaps ts) := by
  cases ts with
  | nil => trivial
  | cons t ts =>
    refine ⟨?_, considerMaps_ok ts h.2⟩
    split
    · next hb =>
      cases t with
      | node n us =>
        obtain ⟨us', heq, hus⟩ := mapSurface_spec n us h.1.2
        rw [heq]
        exact ⟨⟨⟨h.1.1.sized, fun _ => hb, h.1.1.cached⟩, h.1.1.node, h.1.1.dest⟩, hus⟩
    · exact h.1

end

mutual

/-- Unmapping keeps places and sizes, on the surface and on all below it. -/
theorem unmapSurface_ok (t : SurfaceScene) (h : t.All (NodeOk cfg)) :
    (unmapSurface t).All (NodeOk cfg) := by
  cases t with
  | node n ts =>
    unfold unmapSurface
    split
    · exact ⟨⟨⟨h.1.sized, (by intro hm; cases hm), h.1.cached⟩, h.1.node, h.1.dest⟩,
        unmapSurfaces_ok ts h.2⟩
    · exact h

theorem unmapSurfaces_ok (ts : List SurfaceScene) (h : AllOf (NodeOk cfg) ts) :
    AllOf (NodeOk cfg) (unmapSurfaces ts) := by
  cases ts with
  | nil => trivial
  | cons t ts => exact ⟨unmapSurface_ok t h.1, unmapSurfaces_ok ts h.2⟩

end

theorem unmapSurface_mapped (t : SurfaceScene) : (unmapSurface t).label.mapped = false := by
  cases t with
  | node n ts =>
    unfold unmapSurface
    split
    · rfl
    · next hm => exact Bool.not_eq_true _ ▸ hm

/-! ## Commits -/

/-- The listeners of a commit set everything they leave unscaled: the destination of the surface's
buffer and the positions of its subsurfaces. -/
theorem commitEvents_ok {n : SubsurfaceNode} {ts : List SurfaceScene} (c : TreeCommit)
    (h : NodeFed n) (hnode : n.node = cfg.scalePoint^[n.passes] n.pos)
    (hts : AllOf (NodeOk cfg) ts) : (commitEvents c (.node n ts)).All (NodeOk cfg) := by
  refine ⟨⟨⟨h.sized, h.buffered, h.cached⟩, hnode, fun hset => Or.inl ?_⟩, ?_⟩
  · exact if_pos hset
  · exact hts.each fun t ht => ht.relabel fun hn => hn.placeAt _

/-- **One commit keeps the invariant**, if a surface that loses its buffer has been unmapped. -/
theorem commitNode_ok {parentMapped : Bool} {c : TreeCommit} {n : SubsurfaceNode}
    {ts : List SurfaceScene} (hc : c.valid = true) (hn : NodeOk cfg n)
    (hd : c.detaches = true → n.mapped = false) (hts : AllOf (NodeOk cfg) ts) :
    (commitNode parentMapped c n ts).All (NodeOk cfg) := by
  have hfed := hn.toNodeFed.moveState hc hd
  obtain ⟨hnode, hpos, hpasses⟩ := moveState_node n c
  have hplace : (n.moveState c).node = cfg.scalePoint^[(n.moveState c).passes] (n.moveState c).pos := by
    rw [hnode, hpos, hpasses]
    exact hn.node
  unfold commitNode
  dsimp only
  split
  -- the commit maps the surface, so it has a buffer
  · next hmap =>
    rw [Bool.and_eq_true] at hmap
    obtain ⟨ts', heq, hts'⟩ := mapSurface_spec (n.moveState c) ts hts
    rw [heq]
    exact commitEvents_ok c ⟨hfed.sized, fun _ => hmap.2, hfed.cached⟩ hplace hts'
  · exact commitEvents_ok c hfed hplace hts

/-- One waiting commit, with the unmap that goes before it. -/
theorem applyNext_ok {parentMapped : Bool} {t : SurfaceScene} {c : TreeCommit}
    (h : t.All (NodeOk cfg)) (hc : c.valid = true) :
    (applyNext parentMapped t c).All (NodeOk cfg) := by
  have hroot : (if c.detaches then unmapSurface t else t).All (NodeOk cfg) ∧
      (c.detaches = true → (if c.detaches then unmapSurface t else t).label.mapped = false) := by
    split
    · exact ⟨unmapSurface_ok t h, fun _ => unmapSurface_mapped t⟩
    · next hno => exact ⟨h, fun hd => absurd hd hno⟩
  unfold applyNext
  generalize (if c.detaches then unmapSurface t else t) = u at hroot
  cases u with
  | node n ts => exact commitNode_ok hc hroot.1.1 hroot.2 hroot.1.2

/-- All waiting commits, in order. -/
theorem foldl_applyNext_ok {parentMapped : Bool} {cs : List TreeCommit} {t : SurfaceScene}
    (h : t.All (NodeOk cfg)) (hcs : ∀ c ∈ cs, c.valid = true) :
    (cs.foldl (applyNext parentMapped) t).All (NodeOk cfg) := by
  induction cs generalizing t with
  | nil => exact h
  | cons c cs ih =>
    exact ih (applyNext_ok h (hcs c List.mem_cons_self)) fun c' hc' =>
      hcs c' (List.mem_cons_of_mem c hc')

mutual

/-- **Applying what is waiting keeps the invariant**, on the surface and on all below it. -/
theorem commitAll_ok {unmap parentMapped : Bool} {cs : List TreeCommit} (t : SurfaceScene)
    (h : t.All (NodeOk cfg)) (hcs : ∀ c ∈ cs, c.valid = true) :
    (commitAll unmap parentMapped cs t).All (NodeOk cfg) := by
  cases t with
  | node n ts =>
    cases cs with
    -- nothing was waiting: only the unmap is left
    | nil =>
      unfold commitAll
      dsimp only
      split
      · exact unmapSurface_ok _ h
      · exact h
    | cons c cs =>
      unfold commitAll
      refine foldl_applyNext_ok ?_ fun c' hc' => hcs c' (List.mem_cons_of_mem c hc')
      refine commitNode_ok (hcs c List.mem_cons_self) ?_ ?_ (releaseAll_ok ts h.2)
      · refine ⟨⟨h.1.sized, fun hm => h.1.buffered ?_, fun c' hc' => by cases hc'⟩, h.1.node, h.1.dest⟩
        exact (Bool.and_eq_true _ _ ▸ hm : _ ∧ _).1
      · intro hd
        show (n.mapped && !(unmap || c.detaches)) = false
        rw [hd, Bool.or_true, Bool.not_true, Bool.and_false]

/-- What the subsurfaces of a committed surface had cached is applied with it. -/
theorem releaseAll_ok {unmap parentMapped : Bool} (ts : List SurfaceScene)
    (h : AllOf (NodeOk cfg) ts) : AllOf (NodeOk cfg) (releaseAll unmap parentMapped ts) := by
  cases ts with
  | nil => trivial
  | cons t ts =>
    refine ⟨commitAll_ok t h.1 ?_, releaseAll_ok ts h.2⟩
    split
    · exact h.1.label.cached
    · intro c hc
      cases hc

end

/-! ## Requests -/

section Requests

variable {surface : Nat}

mutual

/-- A subsurface's commit is cached or applied, wherever in the tree it is. -/
theorem subsurfaceCommit_ok {c : TreeCommit} {sync parentMapped : Bool} (hc : c.valid = true)
    (t : SurfaceScene) (h : t.All (NodeOk cfg)) :
    (subsurfaceCommit surface c sync parentMapped t).All (NodeOk cfg) := by
  cases t with
  | node n ts =>
    have hall : ∀ c' ∈ n.cached ++ [c], c'.valid = true := by
      intro c' hc'
      rcases List.mem_append.mp hc' with hc' | hc'
      · exact h.1.cached c' hc'
      · rw [List.mem_singleton.mp hc']
        exact hc
    unfold subsurfaceCommit
    split
    -- a synchronized subsurface keeps the commit for its parent's
    · split
      · exact ⟨⟨⟨h.1.sized, h.1.buffered, hall⟩, h.1.node, h.1.dest⟩, h.2⟩
      · exact commitAll_ok _ h hall
    · exact ⟨h.1, subsurfaceCommits_ok hc ts h.2⟩

theorem subsurfaceCommits_ok {c : TreeCommit} {sync parentMapped : Bool} (hc : c.valid = true)
    (ts : List SurfaceScene) (h : AllOf (NodeOk cfg) ts) :
    AllOf (NodeOk cfg) (subsurfaceCommits surface c sync parentMapped ts) := by
  cases ts with
  | nil => trivial
  | cons t ts => exact ⟨subsurfaceCommit_ok hc t h.1, subsurfaceCommits_ok hc ts h.2⟩

end

mutual

/-- To leave the synchronised mode applies what was cached. -/
theorem setDesync_ok {sync parentMapped : Bool} (t : SurfaceScene) (h : t.All (NodeOk cfg)) :
    (setDesync surface sync parentMapped t).All (NodeOk cfg) := by
  cases t with
  | node n ts =>
    have hfree : (Rose.node { n with synchronized := false } ts).All (NodeOk cfg) :=
      ⟨⟨⟨h.1.sized, h.1.buffered, h.1.cached⟩, h.1.node, h.1.dest⟩, h.2⟩
    unfold setDesync
    split
    · split
      · dsimp only
        split
        · exact hfree
        · exact commitAll_ok _ hfree h.1.cached
      · exact h
    · exact ⟨h.1, setDesyncs_ok ts h.2⟩

theorem setDesyncs_ok {sync parentMapped : Bool} (ts : List SurfaceScene)
    (h : AllOf (NodeOk cfg) ts) :
    AllOf (NodeOk cfg) (setDesyncs surface sync parentMapped ts) := by
  cases ts with
  | nil => trivial
  | cons t ts => exact ⟨setDesync_ok t h.1, setDesyncs_ok ts h.2⟩

end

end Requests

/-! ## Passes -/

/-- A buffer with a size is shown at the scaled size after a pass. -/
theorem SubsurfaceNode.scaleBuffer_dest (hcfg : ¬ (cfg.contentScale ≤ 0 ∨ cfg.contentScale = 1))
    {n : SubsurfaceNode} (hb : n.bufferEnabled = true) (hset : n.size.isSet = true) :
    (n.scaleBuffer cfg).dest = cfg.scaleDest n.size := by
  unfold scaleBuffer Config.scaleDest
  rw [if_pos (by rw [hb, hset]; rfl), if_neg]
  rintro (h | h | h)
  · exact hcfg (Or.inl h)
  · exact hcfg (Or.inr h)
  · rw [hset] at h
    cases h

/-- A pass changes the destination to the scaled size, or leaves it. -/
theorem NodeOk.scaleBuffer (hcfg : ¬ (cfg.contentScale ≤ 0 ∨ cfg.contentScale = 1))
    {n : SubsurfaceNode} (h : NodeOk cfg n) : NodeOk cfg (n.scaleBuffer cfg) := by
  unfold SubsurfaceNode.scaleBuffer
  split
  · next hb =>
    rw [Bool.and_eq_true] at hb
    refine ⟨⟨h.sized, h.buffered, h.cached⟩, h.node, fun _ => Or.inr ?_⟩
    have hdest := SubsurfaceNode.scaleBuffer_dest hcfg hb.1 hb.2
    unfold SubsurfaceNode.scaleBuffer at hdest
    rw [if_pos (by rw [hb.1, hb.2]; rfl)] at hdest
    exact hdest
  · exact h

/-- A pass over positions multiplies the place once more, and is counted. -/
theorem NodeOk.scalePosition (hcfg : ¬ (cfg.contentScale ≤ 0 ∨ cfg.contentScale = 1))
    {n : SubsurfaceNode} (h : NodeOk cfg n) : NodeOk cfg (n.scalePosition cfg) := by
  refine ⟨⟨h.sized, h.buffered, h.cached⟩, ?_, h.dest⟩
  rw [SubsurfaceNode.scalePosition_node hcfg, h.node]
  exact (Function.iterate_succ_apply' cfg.scalePoint n.passes n.pos).symm

/-- What a pass does to a node's position, if it is one over positions. -/
theorem NodeOk.scaled (hcfg : ¬ (cfg.contentScale ≤ 0 ∨ cfg.contentScale = 1)) {positions : Bool}
    {n : SubsurfaceNode} (h : NodeOk cfg n) :
    NodeOk cfg ((if positions then (·.scalePosition cfg) else id) n) := by
  cases positions with
  | true => exact h.scalePosition hcfg
  | false => exact h

mutual

/-- A pass goes down the enabled part of the tree. -/
theorem sceneNodeApplyScale_ok (hcfg : ¬ (cfg.contentScale ≤ 0 ∨ cfg.contentScale = 1))
    {positions : Bool} (t : SurfaceScene) (h : t.All (NodeOk cfg)) :
    (sceneNodeApplyScale cfg positions t).All (NodeOk cfg) := by
  cases t with
  | node n ts =>
    unfold sceneNodeApplyScale
    split
    · exact ⟨h.1.scaleBuffer hcfg, sceneNodesApplyScale_ok hcfg ts h.2⟩
    · exact h

theorem sceneNodesApplyScale_ok (hcfg : ¬ (cfg.contentScale ≤ 0 ∨ cfg.contentScale = 1))
    {positions : Bool} (ts : List SurfaceScene) (h : AllOf (NodeOk cfg) ts) :
    AllOf (NodeOk cfg) (sceneNodesApplyScale cfg positions ts) := by
  cases ts with
  | nil => trivial
  | cons t ts =>
    exact ⟨(sceneNodeApplyScale_ok hcfg t h.1).relabel fun hn => hn.scaled hcfg,
      sceneNodesApplyScale_ok hcfg ts h.2⟩

end

/-- Unscaled, there is no pass. -/
theorem wlxApplyContentScaleEx_ok {positions : Bool} {t : SurfaceScene} (h : t.All (NodeOk cfg)) :
    (wlxApplyContentScaleEx cfg positions t).All (NodeOk cfg) := by
  unfold wlxApplyContentScaleEx
  split
  · exact h
  · next hcfg => exact (sceneNodeApplyScale_ok hcfg t h).relabel fun hn => hn.scaled hcfg

/-! ## The toplevel -/

/-- What is known of the toplevel's tree while one of its commits is under way: its own node is only
reset at the end of the commit. -/
structure RootFed (cfg : Config) (t : SurfaceScene) : Prop where
  fed : NodeFed t.label
  below : AllOf (NodeOk cfg) t.children

/-- A root that is mapped has a buffer. -/
theorem RootFed.mapSurface {t : SurfaceScene} (h : RootFed cfg t)
    (hb : t.label.hasBuffer = true) : RootFed cfg (mapSurface t) := by
  cases t with
  | node n ts =>
    obtain ⟨ts', heq, hts'⟩ := mapSurface_spec n ts h.below
    rw [heq]
    exact ⟨⟨h.fed.sized, fun _ => hb, h.fed.cached⟩, hts'⟩

/-- A pass feeds no surface. -/
theorem RootFed.scale {t : SurfaceScene} (h : RootFed cfg t) {positions : Bool} :
    RootFed cfg (wlxApplyContentScaleEx cfg positions t) := by
  unfold wlxApplyContentScaleEx
  split
  · exact h
  · next hcfg =>
    cases t with
    | node n ts =>
      unfold sceneNodeApplyScale
      have hbuffer : NodeFed (n.scaleBuffer cfg) := by
        unfold SubsurfaceNode.scaleBuffer
        split
        · exact ⟨h.fed.sized, h.fed.buffered, h.fed.cached⟩
        · exact h.fed
      have hposition : ∀ m : SubsurfaceNode, NodeFed m →
          NodeFed ((if positions then (·.scalePosition cfg) else id) m) := by
        intro m hm
        cases positions with
        | true => exact ⟨hm.sized, hm.buffered, hm.cached⟩
        | false => exact hm
      -- the children of an unmapped surface are not reached
      by_cases hm : n.mapped = true
      · rw [if_pos hm]
        exact ⟨hposition _ hbuffer, sceneNodesApplyScale_ok hcfg ts h.below⟩
      · rw [if_neg hm]
        exact ⟨hposition _ h.fed, h.below⟩

/-- The end of a commit resets the toplevel's own node. -/
theorem RootFed.commitEvents {t : SurfaceScene} (h : RootFed cfg t) (c : TreeCommit) (pos : Point) :
    ((commitEvents c t).relabel (·.placeAt pos)).All (NodeOk cfg) := by
  cases t with
  | node n ts =>
    refine ⟨⟨⟨h.fed.sized, h.fed.buffered, h.fed.cached⟩, rfl, fun hset => Or.inl ?_⟩, ?_⟩
    · exact if_pos hset
    · exact h.below.each fun t ht => ht.relabel fun hn => hn.placeAt _

/-- What a toplevel's commit does before it scales. -/
theorem beforeScaling_ok {c : TreeCommit} {geometry : Option Box} {created : Bool}
    {s : ToplevelScene} (h : s.root.All (NodeOk cfg)) (hc : c.valid = true) :
    (beforeScaling cfg c geometry created s).root.All (NodeOk cfg) := by
  have hroot := h.label
  have hunmapped : NodeFed { s.root.label with mapped := s.root.label.mapped && !c.detaches } := by
    refine ⟨hroot.sized, fun hm => hroot.buffered ?_, hroot.cached⟩
    exact (Bool.and_eq_true _ _ ▸ hm : _ ∧ _).1
  have hmoved := hunmapped.moveState hc fun hd => by
    show (s.root.label.mapped && !c.detaches) = false
    rw [hd, Bool.not_true, Bool.and_false]
  unfold beforeScaling
  dsimp only
  refine RootFed.commitEvents ?_ c _
  generalize hn : ({ s.root.label with
    mapped := s.root.label.mapped && !c.detaches } : SubsurfaceNode).moveState c = n at hmoved ⊢
  have happlied : RootFed cfg (.node n (releaseAll c.detaches n.mapped s.root.children)) :=
    ⟨hmoved, releaseAll_ok _ h.children⟩
  -- the surface may be mapped by this commit, and the scene scaled for its new output
  have hshown : RootFed cfg (if (!n.mapped && n.hasBuffer) = true then
      mapSurface (.node n (releaseAll c.detaches n.mapped s.root.children))
      else .node n (releaseAll c.detaches n.mapped s.root.children)) := by
    split
    · next hm => exact happlied.mapSurface (Bool.and_eq_true _ _ ▸ hm : _ ∧ _).2
    · exact happlied
  split
  · exact hshown.scale
  · exact hshown

/-- **Step lemma.** -/
theorem sceneStep_ok {s s' : ToplevelScene} {e : SceneEvent} (h : s.root.All (NodeOk cfg))
    (hstep : sceneStep cfg s e = some s') : s'.root.All (NodeOk cfg) := by
  unfold sceneStep at hstep
  cases e with
  -- the role commits, the nodes are placed, and then all are scaled
  | toplevelCommit c geometry created =>
    obtain ⟨hc, hs⟩ := Option.ite_none_right_eq_some.mp hstep
    cases hs
    exact wlxApplyContentScaleEx_ok (beforeScaling_ok h hc)
  | subsurfaceCommit surface c =>
    obtain ⟨hc, hs⟩ := Option.ite_none_right_eq_some.mp hstep
    cases hs
    exact ⟨h.label, subsurfaceCommits_ok hc _ h.children⟩
  | setSync surface =>
    cases hstep
    refine All.map (fun n hn => ?_) _ h
    split
    · exact ⟨⟨hn.sized, hn.buffered, hn.cached⟩, hn.node, hn.dest⟩
    · exact hn
  -- what was cached is applied
  | setDesync surface =>
    cases hstep
    exact ⟨h.label, setDesyncs_ok _ h.children⟩
  | setSceneEnabled surface enabled =>
    cases hstep
    refine All.map (fun n hn => ?_) _ h
    split
    · exact ⟨⟨hn.sized, hn.buffered, hn.cached⟩, hn.node, hn.dest⟩
    · exact hn
  | frame =>
    obtain ⟨_, hs⟩ := Option.ite_none_right_eq_some.mp hstep
    cases hs
    exact wlxApplyContentScaleEx_ok h

/-- The scene of a new toplevel is laid out by its listeners. -/
theorem create_ok (t : Rose CommittedSurface) : (ToplevelScene.create t).root.All (NodeOk cfg) :=
  All.map (fun c _ => NodeOk.create c) t (Rose.all_true t)

/-! ## What a pass leaves enabled -/

/-- What a pass does to an enabled node. -/
def SubsurfaceNode.pass (cfg : Config) (positions : Bool) (n : SubsurfaceNode) : SubsurfaceNode :=
  (if positions then (·.scalePosition cfg) else id) (n.scaleBuffer cfg)

/-- A pass changes no more of a buffer than its destination. -/
theorem SubsurfaceNode.scaleBuffer_frame (cfg : Config) (n : SubsurfaceNode) :
    (n.scaleBuffer cfg).mapped = n.mapped ∧ (n.scaleBuffer cfg).pos = n.pos ∧
      (n.scaleBuffer cfg).size = n.size ∧
      (n.scaleBuffer cfg).bufferEnabled = n.bufferEnabled ∧
      (n.scaleBuffer cfg).passes = n.passes := by
  unfold scaleBuffer
  split <;> exact ⟨rfl, rfl, rfl, rfl, rfl⟩

mutual

/-- A pass goes over every enabled node, once. -/
theorem reach_scaled (positions : Bool) (t : SurfaceScene) :
    ((sceneNodeApplyScale cfg positions t).relabel
        (if positions then (·.scalePosition cfg) else id)).reach (·.mapped) =
      (t.reach (·.mapped)).map (·.pass cfg positions) := by
  have hmapped : ∀ n : SubsurfaceNode,
      ((if positions then (·.scalePosition cfg) else id) n).mapped = n.mapped := by
    intro n
    cases positions <;> rfl
  cases t with
  | node n ts =>
    unfold sceneNodeApplyScale
    -- a surface that is not mapped is not reached, before the pass and after it
    by_cases hm : n.mapped = true
    · have hm' : (n.pass cfg positions).mapped = true := by
        unfold SubsurfaceNode.pass
        rw [hmapped, (n.scaleBuffer_frame cfg).1, hm]
      rw [if_pos hm, Rose.relabel, Rose.reach, Rose.reach]
      show (if (n.pass cfg positions).mapped = true then _ else _) = _
      rw [if_pos hm', if_pos hm, reachOf_scaled positions ts]
      rfl
    · rw [if_neg hm, Rose.relabel, Rose.reach, Rose.reach, hmapped, if_neg hm, if_neg hm]
      rfl

/-- A pass reaches the nodes that are mapped all the way up. -/
theorem reachOf_scaled (positions : Bool) (ts : List SurfaceScene) :
    Rose.reachOf (·.mapped) (sceneNodesApplyScale cfg positions ts) =
      (Rose.reachOf (·.mapped) ts).map (·.pass cfg positions) := by
  cases ts with
  | nil => rfl
  | cons t ts =>
    show _ ++ _ = List.map _ (_ ++ _)
    rw [List.map_append, reach_scaled positions t, reachOf_scaled positions ts]

end

/-! ## Scaled once -/

/-- Position and destination of a node are its logical ones, scaled. -/
def SubsurfaceNode.Scaled (cfg : Config) (n : SubsurfaceNode) : Prop :=
  n.node = cfg.scalePoint n.pos ∧ (n.bufferEnabled = true → n.dest = cfg.scaleDest n.size)

/-- After `passes` passes over its position a node lies where one pass would put it. -/
def SubsurfaceNode.OnceAfter (cfg : Config) (passes : Nat) (n : SubsurfaceNode) : Prop :=
  cfg.scalePoint^[passes] n.pos = cfg.scalePoint n.pos

instance : DecidablePred (SubsurfaceNode.Scaled cfg) :=
  fun _ => inferInstanceAs (Decidable (_ ∧ _))

instance (passes : Nat) : DecidablePred (SubsurfaceNode.OnceAfter cfg passes) :=
  fun _ => inferInstanceAs (Decidable (_ = _))

/-- The enabled nodes. -/
def enabledNodes (t : SurfaceScene) : List SubsurfaceNode := t.reach (·.mapped)

/-- The part of a pass that counts. -/
def passCount (positions : Bool) : Nat := if positions then 1 else 0

/-- A pass leaves the logical place and size, and adds to the count. -/
theorem SubsurfaceNode.pass_frame (cfg : Config) (positions : Bool) (n : SubsurfaceNode) :
    (n.pass cfg positions).pos = n.pos ∧ (n.pass cfg positions).size = n.size ∧
      (n.pass cfg positions).bufferEnabled = n.bufferEnabled ∧
      (n.pass cfg positions).dest = (n.scaleBuffer cfg).dest ∧
      (n.pass cfg positions).passes = n.passes + passCount positions := by
  obtain ⟨-, hpos, hsize, henabled, hpasses⟩ := scaleBuffer_frame cfg n
  cases positions with
  | true => exact ⟨hpos, hsize, henabled, rfl, congrArg (· + 1) hpasses⟩
  | false => exact ⟨hpos, hsize, henabled, rfl, hpasses⟩

/-- **A pass leaves a node scaled** iff the passes over its position, this one included, come to
one. The destination always does. -/
theorem SubsurfaceNode.pass_scaled_iff (hcfg : ¬ (cfg.contentScale ≤ 0 ∨ cfg.contentScale = 1))
    {positions : Bool} {n : SubsurfaceNode} (h : NodeOk cfg n) (hm : n.mapped = true) :
    (n.pass cfg positions).Scaled cfg ↔ n.OnceAfter cfg (n.passes + passCount positions) := by
  obtain ⟨hpos, hsize, henabled, hdest, hpasses⟩ := n.pass_frame cfg positions
  have hnode : (n.pass cfg positions).node = cfg.scalePoint^[n.passes + passCount positions] n.pos := by
    have hok : NodeOk cfg (n.pass cfg positions) := (h.scaleBuffer hcfg).scaled hcfg
    rw [← hpasses, ← hpos]
    exact hok.node
  have hset : n.size.isSet = true := h.sized (h.buffered hm)
  -- the buffer's box is right after any pass, so only the position counts
  have hsized : (n.pass cfg positions).bufferEnabled = true →
      (n.pass cfg positions).dest = cfg.scaleDest (n.pass cfg positions).size := by
    intro hb
    rw [henabled] at hb
    rw [hdest, hsize]
    exact scaleBuffer_dest hcfg hb hset
  unfold Scaled OnceAfter
  rw [hnode, hpos]
  exact and_iff_left hsized

/-- Without a scale every position and destination is the logical one. -/
theorem SubsurfaceNode.scaled_of_unscaled (hcfg : cfg.contentScale ≤ 0 ∨ cfg.contentScale = 1)
    {n : SubsurfaceNode} (h : NodeOk cfg n) (hm : n.mapped = true) : n.Scaled cfg := by
  have hset : n.size.isSet = true := h.sized (h.buffered hm)
  refine ⟨?_, fun _ => ?_⟩
  · rw [h.node, Config.scalePoint_of_unscaled hcfg]
    exact Function.iterate_fixed (Config.scalePoint_of_unscaled hcfg n.pos) n.passes
  · rw [Config.scaleDest_of_unscaled hcfg]
    rcases h.dest hset with hd | hd
    · exact hd
    · rw [hd, Config.scaleDest_of_unscaled hcfg]

/-- Unscaled, every node is where it should be. -/
theorem SubsurfaceNode.onceAfter_of_unscaled
    (hcfg : cfg.contentScale ≤ 0 ∨ cfg.contentScale = 1) (n : SubsurfaceNode) (passes : Nat) :
    n.OnceAfter cfg passes := by
  have hfix := Config.scalePoint_of_unscaled hcfg n.pos
  show cfg.scalePoint^[passes] n.pos = cfg.scalePoint n.pos
  rw [hfix]
  exact Function.iterate_fixed hfix passes

/-- **The enabled nodes after a pass.** -/
theorem enabledNodes_scaled_iff (positions : Bool) {t : SurfaceScene} (h : t.All (NodeOk cfg)) :
    (∀ n ∈ enabledNodes (wlxApplyContentScaleEx cfg positions t), n.Scaled cfg) ↔
      ∀ n ∈ enabledNodes t, n.OnceAfter cfg (n.passes + passCount positions) := by
  have hok : ∀ n ∈ enabledNodes t, NodeOk cfg n := All.reach t h
  have hmapped : ∀ n ∈ enabledNodes t, n.mapped = true := Rose.reach_test t
  unfold wlxApplyContentScaleEx
  split
  · next hcfg =>
    constructor
    · intro _ n _
      exact n.onceAfter_of_unscaled hcfg _
    · intro _ n hn
      exact SubsurfaceNode.scaled_of_unscaled hcfg (hok n hn) (hmapped n hn)
  · next hcfg =>
    -- the pass reaches the same nodes as the question does
    have hpass : enabledNodes ((sceneNodeApplyScale cfg positions t).relabel
        (if positions then (·.scalePosition cfg) else id)) =
        (enabledNodes t).map (·.pass cfg positions) := reach_scaled positions t
    rw [hpass, List.forall_mem_map]
    constructor
    · intro hall n hn
      exact (SubsurfaceNode.pass_scaled_iff hcfg (hok n hn) (hmapped n hn)).mp (hall n hn)
    · intro hall n hn
      exact (SubsurfaceNode.pass_scaled_iff hcfg (hok n hn) (hmapped n hn)).mpr (hall n hn)

/-- Each toplevel commit and each frame leaves every enabled node scaled. -/
def ScaledAfter (cfg : Config) (s : ToplevelScene) : SceneEvent → Prop
  | .toplevelCommit c geometry created =>
    c.valid = true →
      ∀ n ∈ enabledNodes (toplevelCommit cfg c geometry created s).root, n.Scaled cfg
  | .frame => ∀ n ∈ enabledNodes (outputFrame cfg s).root, n.Scaled cfg
  | _ => True

/-- The pass that ends a toplevel commit is the first over each enabled node since its parent was
last committed, and a frame finds that there has been one; or the passes, more or none, come to
the same. -/
def ScalesOnce (cfg : Config) (s : ToplevelScene) : SceneEvent → Prop
  | .toplevelCommit c geometry created =>
    c.valid = true →
      ∀ n ∈ enabledNodes (beforeScaling cfg c geometry created s).root,
        n.OnceAfter cfg (n.passes + 1)
  | .frame => ∀ n ∈ enabledNodes s.root, n.OnceAfter cfg n.passes
  | _ => True

instance (s : ToplevelScene) : DecidablePred (ScaledAfter cfg s)
  | .toplevelCommit _ _ _ => inferInstanceAs (Decidable (_ → _))
  | .frame => inferInstanceAs (Decidable (∀ n ∈ _, _))
  | .subsurfaceCommit _ _ | .setSync _ | .setDesync _ | .setSceneEnabled _ _ => isTrue trivial

instance (s : ToplevelScene) : DecidablePred (ScalesOnce cfg s)
  | .toplevelCommit _ _ _ => inferInstanceAs (Decidable (_ → _))
  | .frame => inferInstanceAs (Decidable (∀ n ∈ _, _))
  | .subsurfaceCommit _ _ | .setSync _ | .setDesync _ | .setSceneEnabled _ _ => isTrue trivial

/-- An event leaves all that is shown scaled once exactly if no node of it is passed over again. -/
theorem scaledAfter_iff {s : ToplevelScene} (h : s.root.All (NodeOk cfg)) (e : SceneEvent) :
    ScaledAfter cfg s e ↔ ScalesOnce cfg s e := by
  cases e with
  | toplevelCommit c geometry created =>
    refine forall_congr' fun hc => ?_
    exact enabledNodes_scaled_iff true (beforeScaling_ok h hc)
  | frame => exact enabledNodes_scaled_iff false h
  | _ => exact Iff.rfl

/-- **In every run, whatever the tree and the order of commits, the scene is scaled once after each
toplevel commit and each frame iff the passes since the last resets come to one.** -/
theorem scaled_once_iff (cfg : Config) (t : Rose CommittedSurface) (es : List SceneEvent) :
    Run.Along (sceneStep cfg) (ScaledAfter cfg) (.create t) es ↔
      Run.Along (sceneStep cfg) (ScalesOnce cfg) (.create t) es :=
  Run.along_congr (fun _ _ _ h hstep => sceneStep_ok h hstep) (fun _ e h => scaledAfter_iff h e)
    (create_ok t)

/-- A subsurface of a subsurface. The commit that maps the toplevel gives it its output, which
scales the scene; the end of the same commit scales it again, and only the positions of the
toplevel's own subsurfaces have been reset in between. -/
theorem not_scaled_once :
    ¬ ∀ (cfg : Config) (t : Rose CommittedSurface) (es : List SceneEvent),
      Run.Along (sceneStep cfg) (ScaledAfter cfg) (.create t) es := by
  intro h
  have hrun := h ⟨2, false⟩
    (.node ⟨0, ⟨0, 0⟩, none, false⟩
      [.node ⟨1, ⟨0, 0⟩, none, true⟩ [.node ⟨2, ⟨0, 0⟩, none, true⟩ []]])
    [.subsurfaceCommit 2 ⟨.attach ⟨10, 10⟩, []⟩,
      .subsurfaceCommit 1 ⟨.attach ⟨40, 40⟩, [(2, ⟨5, 0⟩)]⟩,
      .toplevelCommit ⟨.attach ⟨100, 100⟩, [(1, ⟨10, 0⟩)]⟩ none true]
  revert hrun
  decide +kernel

end Wlx
