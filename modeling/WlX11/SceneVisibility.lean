import WlX11.SceneGraph

/-!
# WlX11 — what is visible of a scene

The `visible` regions of `wlr_scene` are kept, not computed: each change of a node looks again at a part of the
scene only, and damages a part only.

* **`Sound`** — the regions are those that would be computed anew.
* **`Moves`** — all changes are of one kind: a node is taken from its place, and put in another.
* **`Updated`** — what each of them does to everything else; **`Sound.step`** has it for all of the functions.
* **`Steady`**, **`Damaging`** — what has to be said about another buffer that needs no update: for the regions,
  and for the picture.
* **`Draws.surfaceReconfigure`** — what a client commits is what its node draws.
-/

namespace Wlx

namespace SceneGraph

variable {Look Color : Type} {pal : Palette Look Color} {ground : Ground Color}
  {s s₁ s' : SceneGraph Look Color} {id : Nat} {fs gs : List (Rose.Frame (GraphNode Look Color))}
  {t u : Rose (GraphNode Look Color)} {e : PlacedNode Look Color}

/-! ## Nodes have names -/

/-- A node is handed to the iterators under its own name, once at most. -/
theorem emit_sublist (o : Pixel) (a : GraphNode Look Color) :
    ((emit o a).map PlacedNode.id).Sublist [a.id] := by
  unfold emit coordsFrom
  split_ifs
  · exact List.nil_sublist _
  · exact .refl _
  · exact List.nil_sublist _

theorem id_of_mem_emit {o : Pixel} {a : GraphNode Look Color} (h : e ∈ emit o a) : e.id = a.id :=
  List.mem_singleton.mp ((emit_sublist o a).subset (List.mem_map_of_mem h))

/-- All nodes have different names. -/
def Unique (tree : Rose (GraphNode Look Color)) : Prop := (tree.labels.map (·.id)).Nodup

/-- What the iterators meet has names of its own too. -/
theorem Unique.nodes (h : Unique s.tree) : (s.nodes.map PlacedNode.id).Nodup :=
  (List.nodup_reverse.mpr h).sublist (Rose.walk_sublist emit_sublist (0, 0) s.tree)

/-- What is elsewhere than in a place. -/
def around (fs : List (Rose.Frame (GraphNode Look Color))) : List (PlacedNode Look Color) :=
  Rose.walkBefore enter emit (0, 0) fs ++ Rose.walkAfter enter emit (0, 0) fs

def inside (fs : List (Rose.Frame (GraphNode Look Color))) (t : Rose (GraphNode Look Color)) :
    List (PlacedNode Look Color) :=
  Rose.walkInside enter emit (0, 0) fs t

/-- Before a place, in it, and after it. -/
theorem nodes_plug (h : s.tree = Rose.plug fs t) :
    s.nodes = Rose.walkBefore enter emit (0, 0) fs ++ inside fs t ++ Rose.walkAfter enter emit (0, 0) fs := by
  rw [nodes, nodesBelow, h]
  exact Rose.walk_plug fs t

/-- A place has no name of what is around it. -/
theorem Unique.plug (h : Unique (Rose.plug fs t)) :
    (t.labels.map (·.id)).Nodup ∧ ((Rose.frameLabels fs).map (·.id)).Nodup ∧
      ∀ a ∈ t.labels, ∀ b ∈ Rose.frameLabels fs, a.id ≠ b.id := by
  have hperm := ((Rose.labels_plug fs t).map fun a : GraphNode Look Color => a.id).nodup_iff.mp h
  rw [List.map_append, List.nodup_append] at hperm
  obtain ⟨ht, hfs, hdisjoint⟩ := hperm
  exact ⟨ht, hfs, fun a ha b hb => hdisjoint _ (List.mem_map_of_mem ha) _ (List.mem_map_of_mem hb)⟩

/-- Names are told apart or not, wherever in the tree they are. -/
theorem unique_plug_iff (hids : (t.labels.map (·.id)).Perm (u.labels.map (·.id)))
    (hfs : ((Rose.frameLabels fs).map (·.id)).Perm ((Rose.frameLabels gs).map (·.id))) :
    Unique (Rose.plug fs t) ↔ Unique (Rose.plug gs u) := by
  rw [Unique, ((Rose.labels_plug fs t).map _).nodup_iff, Unique, ((Rose.labels_plug gs u).map _).nodup_iff,
    List.map_append, List.map_append]
  exact (hids.append hfs).nodup_iff

theorem label_mem_labels (t : Rose (GraphNode Look Color)) : t.label ∈ t.labels := by
  cases t with
  | node a ts => exact List.mem_cons_self

/-- A node is found in its place. -/
theorem Unique.locate (h : Unique (Rose.plug fs t)) (hid : t.label.id = id) :
    (Rose.plug fs t).locate (fun a => a.id = id) = some (fs, t) := by
  refine Rose.locate_plug (decide_eq_true hid) fun b hb => decide_eq_false fun hb' => ?_
  exact h.plug.2.2 t.label (label_mem_labels t) b hb (hid.trans hb'.symm)

/-- What is found is there, under its name. -/
theorem plug_of_locate {tree : Rose (GraphNode Look Color)} (h : tree.locate (fun a => a.id = id) = some (fs, t)) :
    tree = Rose.plug fs t ∧ t.label.id = id := by
  obtain ⟨hplug, hid⟩ := Rose.plug_of_locate tree h
  exact ⟨hplug.symm, of_decide_eq_true hid⟩

/-- What is met around a place is a node around it. -/
theorem id_of_mem_around (h : e ∈ around fs) : ∃ a ∈ Rose.frameLabels fs, e.id = a.id := by
  cases fs with
  | nil => cases h
  | cons f fs =>
    rw [around, ← Rose.walk_hollow] at h
    obtain ⟨o, a, ha, he⟩ := Rose.mem_walk (0, 0) _ h
    exact ⟨a, (Rose.labels_hollow f fs).mem_iff.mp ha, id_of_mem_emit he⟩

/-- What is met in a part of the scene is a node of this part. -/
theorem id_of_mem_nodesBelow {o : Pixel} (h : e ∈ nodesBelow o t) : ∃ a ∈ t.labels, e.id = a.id := by
  obtain ⟨o', a, ha, he⟩ := Rose.mem_walk o t h
  exact ⟨a, ha, id_of_mem_emit he⟩

/-- Where its parent is does not matter for whether a node is entered. -/
theorem enter_isSome (o o' : Pixel) (a : GraphNode Look Color) : (enter o a).isSome = (enter o' a).isSome := by
  unfold enter coordsFrom
  split_ifs <;> rfl

theorem emit_map_id (o o' : Pixel) (a : GraphNode Look Color) :
    (emit o a).map PlacedNode.id = (emit o' a).map PlacedNode.id := by
  unfold emit coordsFrom
  split_ifs <;> rfl

/-- The same nodes are met, wherever the parent is. -/
theorem nodesBelow_map_id (o o' : Pixel) (t : Rose (GraphNode Look Color)) :
    (nodesBelow o t).map PlacedNode.id = (nodesBelow o' t).map PlacedNode.id :=
  Rose.walk_map_congr enter_isSome emit_map_id o o' t

/-- What is seen of a part of the scene is what is seen of a node in it. -/
theorem mem_nodeVisibility (o : Pixel) {p : Pixel} :
    p ∈ s.nodeVisibility t ↔ ∃ e ∈ nodesBelow o t, p ∈ s.visible e.id := by
  have hids : (nodesBelow (0, 0) t).map (fun e => s.visible e.id) =
      (nodesBelow o t).map fun e => s.visible e.id := by
    have hmap := congrArg (List.map s.visible) (nodesBelow_map_id (0, 0) o t)
    rwa [List.map_map, List.map_map] at hmap
  rw [nodeVisibility, hids, Region.mem_unionAll]
  simp only [List.mem_map, exists_exists_and_eq_and]

/-- What an enabled node is to the iterators. -/
theorem inside_of_nodeCoords {p : Pixel} (h : nodeCoords fs t = some p) :
    inside fs t = nodesBelow (p.1 - t.label.pos.1, p.2 - t.label.pos.2) t := by
  obtain ⟨o, ho, hp⟩ := Option.bind_eq_some_iff.mp h
  obtain ⟨-, hp⟩ := Option.ite_none_right_eq_some.mp hp
  cases hp
  rw [inside, Rose.walkInside, ho, Option.elim_some, Int.add_sub_cancel, Int.add_sub_cancel]
  rfl

/-- The bounds of a node are those of all that is met in it. -/
theorem box_subset_nodeBounds {p : Pixel} (h : nodeCoords fs t = some p) (he : e ∈ inside fs t) :
    e.box ⊆ nodeBounds p t := by
  rw [inside_of_nodeCoords h] at he
  exact fun _ hp => Region.mem_unionAll.mpr ⟨e.box, List.mem_map_of_mem he, hp⟩

/-- What is seen inside of a place is a part of what is seen of its node. -/
theorem mem_nodeVisibility_of_inside {p : Pixel} (he : e ∈ inside fs t) (hp : p ∈ s.visible e.id) :
    p ∈ s.nodeVisibility t := by
  rw [inside, Rose.walkInside] at he
  cases ho : Rose.handed enter (0, 0) fs with
  | none =>
    rw [ho] at he
    cases he
  | some o =>
    rw [ho] at he
    exact (mem_nodeVisibility o).mpr ⟨e, he, hp⟩

/-- What is not enabled is not met. -/
theorem inside_eq_nil (h : nodeCoords fs t = none) : inside fs t = [] := by
  rw [inside, Rose.walkInside]
  unfold nodeCoords at h
  cases ho : Rose.handed enter (0, 0) fs with
  | none => rfl
  | some o =>
    rw [ho, Option.bind_some] at h
    cases t with
    | node a ts =>
      have ha : coordsFrom o a = none := h
      rw [Option.elim_some, Rose.walk_node, enter, emit, ha]
      split_ifs <;> rfl

/-- Nothing is to be looked at again. -/
theorem updateRegion_empty (s : SceneGraph Look Color) : s.updateRegion pal ∅ = s := by
  have hnone : s.nodesInBox (Region.extents ∅) = [] := by
    refine List.filter_eq_nil_iff.mpr fun e _ => ?_
    simp [Region.extents, between]
  rw [updateRegion, hnone]
  rfl

/-- A node that keeps its name changes no name. -/
theorem labels_relabel_id {f : GraphNode Look Color → GraphNode Look Color} (hf : (f t.label).id = t.label.id) :
    (t.relabel f).labels.map (·.id) = t.labels.map (·.id) := by
  cases t with
  | node a ts =>
    show (f a).id :: _ = a.id :: _
    rw [show (f a).id = a.id from hf]

/-! ## Nodes as sheets -/

/-- A node is opaque inside its box only. -/
theorem solid_subset (pal : Palette Look Color) (calculateVisibility : Bool) (e : PlacedNode Look Color) :
    (if calculateVisibility then e.opaqueRegion pal else ∅) ⊆ e.box := by
  split_ifs
  · intro p hp
    rw [PlacedNode.opaqueRegion, Region.mem_translate] at hp
    rw [PlacedNode.box, Region.mem_translate]
    exact e.node.content.opaqueRegion_subset pal hp
  · exact Finset.empty_subset _

variable [DecidableEq Color]

def sheet (pal : Palette Look Color) (calculateVisibility : Bool) (ground : Ground Color) (e : PlacedNode Look Color) :
    Sheet Nat Pixel Color where
  key := e.id
  box := e.box
  solid := if calculateVisibility then e.opaqueRegion pal else ∅
  solid_subset := solid_subset pal calculateVisibility e
  tint := e.shade pal calculateVisibility ground.black

variable (pal ground) in
def sheets (s : SceneGraph Look Color) : List (Sheet Nat Pixel Color) :=
  s.nodes.map (sheet pal s.calculateVisibility ground)

/-- The picture is what the sheets give, painted from the bottom. -/
theorem drawing_eq_paint (p : Pixel) :
    s.drawing pal ground p = Sheet.paint ground.backdrop (s.sheets pal ground) p := by
  rw [sheets, Sheet.paint, List.foldr_map]
  rfl

/-- So the sheets have keys of their own. -/
theorem Unique.sheets (h : Unique s.tree) : ((s.sheets pal ground).map (·.key)).Nodup := by
  rw [SceneGraph.sheets, List.map_map]
  exact h.nodes

/-- The node meets the box of a region. -/
def near (region : Region) (l : Sheet Nat Pixel Color) : Bool := l.box ∩ region.extents ≠ ∅

/-- One call of the iterator is one turn of the general refresh. -/
theorem updateIterator_eq (region : Region) (ground : Ground Color) (data : (Nat → Region) × Region)
    (e : PlacedNode Look Color) :
    s.updateIterator pal region data e =
      Sheet.refreshOne region data (sheet pal s.calculateVisibility ground e) := by
  unfold updateIterator Sheet.refreshOne sheet
  cases s.calculateVisibility with
  | true => rfl
  | false => simp

/-- `scene_update_region` looks again at the sheets. -/
theorem visible_updateRegion (region : Region) (ground : Ground Color) :
    (s.updateRegion pal region).visible =
      Sheet.refresh (near region) region s.visible (s.sheets pal ground) := by
  have hnear : near region ∘ sheet pal s.calculateVisibility ground =
      fun e => decide (e.box ∩ region.extents ≠ ∅) := rfl
  have hone : s.updateIterator pal region =
      fun data e => Sheet.refreshOne region data (sheet pal s.calculateVisibility ground e) := by
    funext data e
    exact updateIterator_eq region ground data e
  rw [updateRegion, Sheet.refresh, sheets, List.filter_map, List.foldl_map, hnear, hone]
  rfl

omit [DecidableEq Color] in
/-- The iterator is not called where there is nothing to do. -/
theorem disjoint_of_not_near {region : Region} {l : Sheet Nat Pixel Color} (h : near region l = false) :
    Disjoint l.box region := by
  have hnone : l.box ∩ region.extents = ∅ := by simpa [near] using h
  refine Finset.disjoint_left.mpr fun p hbox hp => ?_
  have hboth : p ∈ l.box ∩ region.extents := Finset.mem_inter.mpr ⟨hbox, Region.subset_extents region hp⟩
  rw [hnone] at hboth
  exact Finset.notMem_empty p hboth

/-! ## What an update does -/

/-- The regions kept are those that would be computed anew. -/
structure Sound (pal : Palette Look Color) (s : SceneGraph Look Color) : Prop where
  unique : Unique s.tree
  seen : ∀ ground, Sheet.Seen s.visible (s.sheets pal ground)

/-- Of what there is to see, `N` is taken away; a node comes to a place, and no update has been made yet. -/
structure Moves (s s₁ : SceneGraph Look Color) (A N B : List (PlacedNode Look Color))
    (fs : List (Rose.Frame (GraphNode Look Color))) (t : Rose (GraphNode Look Color)) : Prop where
  nodes : s.nodes = A ++ N ++ B
  rest : A ++ B = around fs
  tree : s₁.tree = Rose.plug fs t
  unique : Unique s₁.tree
  calculateVisibility : s₁.calculateVisibility = s.calculateVisibility
  visible : ∀ e ∈ A ++ B, s₁.visible e.id = s.visible e.id
  damage : s₁.damage = s.damage

/-- What a change of a node does to everything else: it is still right, and outside of the damage the picture is
the same. -/
structure Updated (pal : Palette Look Color) (ground : Ground Color) (s s' : SceneGraph Look Color)
    (others : List (PlacedNode Look Color)) : Prop where
  sound : s'.Sound pal
  calculateVisibility : s'.calculateVisibility = s.calculateVisibility
  damage : s.damage ⊆ s'.damage
  drawing : (∀ e ∈ others, (sheet pal s.calculateVisibility ground e).Hides) →
    ∀ p ∉ s'.damage, s'.drawing pal ground p = s.drawing pal ground p

/-- A call that finds nothing to change. -/
theorem Updated.refl (h : s.Sound pal) (others : List (PlacedNode Look Color)) :
    Updated pal ground s s others :=
  ⟨h, rfl, Finset.Subset.refl _, fun _ _ _ => rfl⟩

variable {A N B : List (PlacedNode Look Color)}

/-- The sheets after the change. -/
theorem Moves.sheets (m : Moves s s₁ A N B fs t) :
    s₁.sheets pal ground =
      (Rose.walkBefore enter emit (0, 0) fs).map (sheet pal s.calculateVisibility ground) ++
        (inside fs t).map (sheet pal s.calculateVisibility ground) ++
        (Rose.walkAfter enter emit (0, 0) fs).map (sheet pal s.calculateVisibility ground) := by
  rw [SceneGraph.sheets, nodes_plug m.tree, m.calculateVisibility, List.map_append, List.map_append]

/-- The sheets before it. -/
theorem Moves.sheets_before (m : Moves s s₁ A N B fs t) :
    s.sheets pal ground =
      A.map (sheet pal s.calculateVisibility ground) ++ N.map (sheet pal s.calculateVisibility ground) ++
        B.map (sheet pal s.calculateVisibility ground) := by
  rw [SceneGraph.sheets, m.nodes, List.map_append, List.map_append]

/-- All other sheets are the same, in the same order. -/
theorem Moves.sheets_rest (m : Moves s s₁ A N B fs t) :
    A.map (sheet pal s.calculateVisibility ground) ++ B.map (sheet pal s.calculateVisibility ground) =
      (Rose.walkBefore enter emit (0, 0) fs).map (sheet pal s.calculateVisibility ground) ++
        (Rose.walkAfter enter emit (0, 0) fs).map (sheet pal s.calculateVisibility ground) := by
  rw [← List.map_append, ← List.map_append, m.rest]
  rfl

/-- It is enough to look again where something was seen that is gone, and where something is now. -/
theorem Moves.sound_updateRegion (m : Moves s s₁ A N B fs t) (h : s.Sound pal) (region : Region)
    (hold : ∀ e ∈ N, ∀ p ∈ e.box, p ∈ s.visible e.id → p ∈ region) (hnew : ∀ e ∈ inside fs t, e.box ⊆ region) :
    (s₁.updateRegion pal region).Sound pal := by
  refine ⟨m.unique, fun ground => ?_⟩
  have hkeys : ((s₁.sheets pal ground).map (·.key)).Nodup := m.unique.sheets
  have hseen := h.seen ground
  rw [m.sheets_before] at hseen
  rw [visible_updateRegion region ground]
  show Sheet.Seen _ (s₁.sheets pal ground)
  rw [m.sheets] at hkeys ⊢
  refine hseen.refresh m.sheets_rest hkeys ?_ ?_ ?_ fun l _ hfar => disjoint_of_not_near hfar
  -- what is gone was seen inside the region only
  · intro l hl p hbox hp
    obtain ⟨e, he, rfl⟩ := List.mem_map.mp hl
    exact hold e he p hbox hp
  · intro l hl
    obtain ⟨e, he, rfl⟩ := List.mem_map.mp hl
    exact hnew e he
  · intro l hl
    rw [← List.map_append] at hl
    obtain ⟨e, he, rfl⟩ := List.mem_map.mp hl
    exact m.visible e he

/-- The picture changes where something was seen that is gone, and where something is seen now. -/
theorem Moves.drawing (m : Moves s s₁ A N B fs t) (h : s.Sound pal) (h' : s'.Sound pal)
    (htree : s'.tree = s₁.tree) (hcalculate : s'.calculateVisibility = s₁.calculateVisibility) {p : Pixel}
    (hides : ∀ e ∈ A ++ B, (sheet pal s.calculateVisibility ground e).Hides)
    (hold : ∀ e ∈ N, p ∈ e.box → p ∉ s.visible e.id)
    (hnew : ∀ e ∈ inside fs t, p ∈ e.box → p ∉ s'.visible e.id) :
    s'.drawing pal ground p = s.drawing pal ground p := by
  have hseen := h.seen ground
  have hseen' := h'.seen ground
  have hsheets' : s'.sheets pal ground = s₁.sheets pal ground := by
    rw [SceneGraph.sheets, SceneGraph.sheets, SceneGraph.nodes, SceneGraph.nodes, htree, hcalculate]
  rw [drawing_eq_paint, drawing_eq_paint, hsheets', m.sheets, m.sheets_before]
  rw [m.sheets_before] at hseen
  rw [hsheets', m.sheets] at hseen'
  -- both pictures are painted from sheets that differ in this node's only
  refine (Sheet.paint_exchange hseen hseen' m.sheets_rest ?_ ?_ ?_).symm
  · intro l hl
    rw [← List.map_append] at hl
    obtain ⟨e, he, rfl⟩ := List.mem_map.mp hl
    exact hides e he
  · intro l hl
    obtain ⟨e, he, rfl⟩ := List.mem_map.mp hl
    exact hold e he
  · intro l hl
    obtain ⟨e, he, rfl⟩ := List.mem_map.mp hl
    exact hnew e he

omit [DecidableEq Color] in
/-- What is disabled is forgotten, and nothing else. -/
theorem Moves.cleanupWhenDisabled (m : Moves s s₁ A N B fs t) :
    Moves s (s₁.cleanupWhenDisabled t) A N B fs t := by
  refine ⟨m.nodes, m.rest, m.tree, m.unique, m.calculateVisibility, fun e he => ?_, m.damage⟩
  have hunique := m.unique
  rw [m.tree] at hunique
  refine (if_neg fun hmem => ?_).trans (m.visible e he)
  obtain ⟨e', he', heq⟩ := List.mem_map.mp hmem
  obtain ⟨a, ha, hid⟩ := id_of_mem_nodesBelow he'
  rw [m.rest] at he
  obtain ⟨b, hb, hid'⟩ := id_of_mem_around he
  -- the node is walked as if it were enabled, so what is forgotten is below it
  have ha' : a.id ∈ t.labels.map (·.id) := by
    rw [← labels_relabel_id (f := fun a => { a with enabled := true }) rfl]
    exact List.mem_map_of_mem ha
  obtain ⟨c, hc, hca⟩ := List.mem_map.mp ha'
  exact hunique.plug.2.2 c hc b hb (hca.trans (hid.symm.trans (heq.trans hid')))

/-- Nothing has to be done if neither what is gone nor what has come is there to be seen. -/
theorem Moves.updated_of_inside_nil (m : Moves s s₁ A N B fs t) (h : s.Sound pal)
    (hnone : inside fs t = []) (hold : ∀ e ∈ N, ∀ p ∈ e.box, p ∉ s.visible e.id) :
    Updated pal ground s s₁ (A ++ B) := by
  have hnew : ∀ e, e ∉ inside fs t := by
    rw [hnone]
    exact fun _ => List.not_mem_nil
  have hsound := m.sound_updateRegion h ∅ (fun e he p hbox hp => absurd hp (hold e he p hbox))
    fun e he => absurd he (hnew e)
  rw [updateRegion_empty] at hsound
  refine ⟨hsound, m.calculateVisibility, m.damage.symm.subset, fun hides p _ => ?_⟩
  exact m.drawing h hsound rfl rfl hides (fun e he hbox => hold e he p hbox) fun e he => absurd he (hnew e)

/-- **`scene_node_update` is enough**, if what was seen before is damaged. -/
theorem Moves.sceneNodeUpdate (m : Moves s s₁ A N B fs t) (h : s.Sound pal) (hid : t.label.id = id)
    {damage : Option Region}
    (hold : ∀ e ∈ N, ∀ p ∈ e.box, p ∈ s.visible e.id →
      p ∈ damage.getD (if (nodeCoords fs t).isSome then s₁.nodeVisibility t else ∅)) :
    Updated pal ground s (s₁.sceneNodeUpdate pal id damage) (A ++ B) := by
  have hunique := m.unique
  rw [m.tree] at hunique
  have hfound : s₁.tree.locate (fun a => a.id = id) = some (fs, t) := by
    rw [m.tree]
    exact hunique.locate hid
  unfold SceneGraph.sceneNodeUpdate
  rw [hfound]
  dsimp only
  cases hcoords : nodeCoords fs t with
  | none =>
    -- the node is not met in its new place: all there is to do is about the old one
    rw [hcoords, Option.isSome_none, if_neg Bool.false_ne_true] at hold
    have hnone := inside_eq_nil hcoords
    have hnew : ∀ e, e ∉ inside fs t := by
      rw [hnone]
      exact fun _ => List.not_mem_nil
    cases damage with
    | none =>
      rw [Option.getD_none] at hold
      exact m.updated_of_inside_nil h hnone fun e he p hbox hp => Finset.notMem_empty p (hold e he p hbox hp)
    | some damage =>
      rw [Option.getD_some] at hold
      have m' := m.cleanupWhenDisabled
      have hsound := m'.sound_updateRegion h damage hold fun e he => absurd he (hnew e)
      refine ⟨⟨hsound.unique, hsound.seen⟩, m.calculateVisibility, ?_, fun hides p hp => ?_⟩
      · exact m.damage.symm.subset.trans Finset.subset_union_left
      · refine m'.drawing h ⟨hsound.unique, hsound.seen⟩ rfl rfl hides (fun e he hbox hseen => ?_)
          fun e he => absurd he (hnew e)
        exact hp (Finset.mem_union_right _ (hold e he p hbox hseen))
  | some origin =>
    -- what was seen is damaged by assumption, and what is seen now because it is inside the bounds
    rw [hcoords, Option.isSome_some, if_pos rfl] at hold
    have hsound := m.sound_updateRegion h (damage.getD (s₁.nodeVisibility t) ∪ nodeBounds origin t)
      (fun e he p hbox hseen => Finset.mem_union_left _ (hold e he p hbox hseen))
      (fun e he => (box_subset_nodeBounds hcoords he).trans Finset.subset_union_right)
    refine ⟨⟨hsound.unique, hsound.seen⟩, m.calculateVisibility, ?_, fun hides p hp => ?_⟩
    · exact m.damage.symm.subset.trans Finset.subset_union_left
    · refine m.drawing h ⟨hsound.unique, hsound.seen⟩ rfl rfl hides (fun e he hbox hseen => ?_)
        fun e he hbox hseen => ?_
      · exact hp (Finset.mem_union_right _ (Finset.mem_union_left _ (hold e he p hbox hseen)))
      · exact hp (Finset.mem_union_right _ (Finset.mem_union_right _ (mem_nodeVisibility_of_inside he hseen)))

/-! ## Changes of a node -/

variable {f : GraphNode Look Color → GraphNode Look Color}

omit [DecidableEq Color] in
/-- The same nodes are met below a node that is enabled as before and a tree as before. -/
theorem nodesBelow_relabel_id (hid : (f t.label).id = t.label.id)
    (henabled : (f t.label).enabled = t.label.enabled)
    (htree : (f t.label).content.isTree = t.label.content.isTree) (o : Pixel) :
    (nodesBelow o (t.relabel f)).map PlacedNode.id = (nodesBelow o t).map PlacedNode.id := by
  cases t with
  | node a ts =>
    have hid' : (f a).id = a.id := hid
    have henabled' : (f a).enabled = a.enabled := henabled
    have htree' : (f a).content.isTree = a.content.isTree := htree
    show (Rose.walk enter emit o (.node (f a) ts)).map PlacedNode.id = _
    rw [nodesBelow, Rose.walk_node, Rose.walk_node, List.map_append, List.map_append]
    unfold enter emit coordsFrom
    rw [htree', henabled']
    -- an enabled tree, a disabled one, an enabled leaf, a disabled one
    split_ifs
    · exact congrArg (· ++ []) (Rose.walkOf_map_congr enter_isSome emit_map_id _ _ ts)
    · rfl
    · exact congrArg (fun i => [i]) hid'
    · rfl

omit [DecidableEq Color] in
/-- So the same is seen of it. -/
theorem nodeVisibility_relabel (hid : (f t.label).id = t.label.id)
    (henabled : (f t.label).enabled = t.label.enabled)
    (htree : (f t.label).content.isTree = t.label.content.isTree) :
    s.nodeVisibility (t.relabel f) = s.nodeVisibility t := by
  have hids := congrArg (List.map s.visible) (nodesBelow_relabel_id hid henabled htree (0, 0))
  rw [List.map_map, List.map_map] at hids
  exact congrArg Region.unionAll hids

omit [DecidableEq Color] in
/-- And it is met if it was. -/
theorem nodeCoords_relabel_isSome (henabled : (f t.label).enabled = t.label.enabled) :
    (nodeCoords fs (t.relabel f)).isSome = (nodeCoords fs t).isSome := by
  have hlabel : (t.relabel f).label = f t.label := by
    cases t
    rfl
  unfold nodeCoords coordsFrom
  rw [hlabel, henabled]
  cases Rose.handed enter (0, 0) fs with
  | none => rfl
  | some o =>
    rw [Option.bind_some, Option.bind_some]
    split_ifs <;> rfl

/-- What there is besides a node and what is below it. -/
def others (s : SceneGraph Look Color) (id : Nat) : List (PlacedNode Look Color) :=
  match s.tree.locate fun a => a.id = id with
  | none => s.nodes
  | some (fs, _) => around fs

omit [DecidableEq Color] in
/-- What a call is not about is what is met around the place. -/
theorem others_of_locate (h : s.tree.locate (fun a => a.id = id) = some (fs, t)) : s.others id = around fs := by
  rw [others, h]

omit [DecidableEq Color] in
theorem relabel_label_id (hid : (f t.label).id = t.label.id) : (t.relabel f).label.id = t.label.id := by
  cases t
  exact hid

/-- A node is changed in its place. -/
theorem Sound.moves_relabel (h : s.Sound pal) (hfound : s.tree.locate (fun a => a.id = id) = some (fs, t))
    (hid : (f t.label).id = t.label.id) :
    Moves s { s with tree := Rose.plug fs (t.relabel f) } (Rose.walkBefore enter emit (0, 0) fs) (inside fs t)
      (Rose.walkAfter enter emit (0, 0) fs) fs (t.relabel f) := by
  obtain ⟨htree, -⟩ := plug_of_locate hfound
  have hunique := h.unique
  rw [htree] at hunique
  refine ⟨nodes_plug htree, rfl, rfl, ?_, rfl, fun _ _ => rfl, rfl⟩
  exact (unique_plug_iff (.of_eq (labels_relabel_id hid)) (.refl _)).mpr hunique

omit [DecidableEq Color] in
/-- A place where something is met has coordinates. -/
theorem isSome_of_inside (he : e ∈ inside fs t) : (nodeCoords fs t).isSome = true := by
  by_contra hnone
  rw [inside_eq_nil (by simpa using hnone)] at he
  cases he

/-- The node is the same, and in the same place, as far as the iterators are concerned. -/
theorem Sound.relabel (h : s.Sound pal) (hfound : s.tree.locate (fun a => a.id = id) = some (fs, t))
    (hid : (f t.label).id = t.label.id) (henabled : (f t.label).enabled = t.label.enabled)
    (htree : (f t.label).content.isTree = t.label.content.isTree) :
    Updated pal ground s (({ s with tree := Rose.plug fs (t.relabel f) } : SceneGraph Look Color).sceneNodeUpdate
      pal id none) (around fs) := by
  have hlabel := (relabel_label_id hid).trans (plug_of_locate hfound).2
  refine (h.moves_relabel hfound hid).sceneNodeUpdate h hlabel fun e he p _ hp => ?_
  rw [Option.getD_none, nodeCoords_relabel_isSome henabled, if_pos (isSome_of_inside he)]
  show p ∈ s.nodeVisibility _
  rw [nodeVisibility_relabel hid henabled htree]
  exact mem_nodeVisibility_of_inside he hp

/-- Most changes of a node. -/
theorem Sound.assign (h : s.Sound pal) {same : GraphNode Look Color → Bool}
    (hid : ∀ a, (f a).id = a.id) (henabled : ∀ a, (f a).enabled = a.enabled)
    (htree : ∀ a, (f a).content.isTree = a.content.isTree) (hs : s.assign pal id same f = some s') :
    Updated pal ground s s' (s.others id) := by
  obtain ⟨⟨fs, t⟩, hfound, hs⟩ := Option.map_eq_some_iff.mp hs
  rw [others_of_locate hfound]
  dsimp only at hs
  split_ifs at hs
  · rw [← hs]
    exact .refl h _
  · rw [← hs]
    exact h.relabel hfound (hid t.label) (henabled t.label) (htree t.label)

/-- The damage is what is seen before: afterwards there may be nothing. -/
theorem Sound.setEnabled (h : s.Sound pal) {enabled : Bool}
    (hs : s.setEnabled pal id enabled = some s') : Updated pal ground s s' (s.others id) := by
  obtain ⟨⟨fs, t⟩, hfound, hs⟩ := Option.map_eq_some_iff.mp hs
  rw [others_of_locate hfound]
  dsimp only at hs
  -- "if (node->enabled == enabled) return"
  split at hs
  · rw [← hs]
    exact .refl h _
  · rw [← hs]
    have hlabel := (relabel_label_id (f := fun a => { a with enabled := enabled }) rfl).trans
      (plug_of_locate hfound).2
    refine (h.moves_relabel hfound rfl).sceneNodeUpdate h hlabel fun e he p _ hp => ?_
    rw [Option.getD_some, if_pos (isSome_of_inside he)]
    exact mem_nodeVisibility_of_inside he hp

/-! ## Changes of the tree -/

variable {k k' : Rose.Frame (GraphNode Look Color)}

/-- A node is taken to another place of what is there without it. -/
theorem Sound.moves_plug (h : s.Sound pal)
    (hfound : s.tree.locate (fun a => a.id = id) = some (k :: fs, t))
    (hhollow : Rose.hollow k' gs = Rose.hollow k fs) :
    Moves s { s with tree := Rose.plug (k' :: gs) t } (Rose.walkBefore enter emit (0, 0) (k :: fs))
      (inside (k :: fs) t) (Rose.walkAfter enter emit (0, 0) (k :: fs)) (k' :: gs) t := by
  obtain ⟨htree, -⟩ := plug_of_locate hfound
  have hunique := h.unique
  rw [htree] at hunique
  refine ⟨nodes_plug htree, ?_, rfl, ?_, rfl, fun _ _ => rfl, rfl⟩
  -- the iterators meet the rest as they would without the node, wherever it is
  · rw [around, ← Rose.walk_hollow, ← Rose.walk_hollow, hhollow]
  · refine (unique_plug_iff (.refl _) (List.Perm.map _ ?_)).mp hunique
    have hlabels := (Rose.labels_hollow k fs).symm
    rw [← hhollow] at hlabels
    exact hlabels.trans (Rose.labels_hollow k' gs)

/-- Another place among its siblings. -/
theorem Sound.place (h : s.Sound pal)
    (hfound : s.tree.locate (fun a => a.id = id) = some (k :: fs, t)) (hlabel : k'.label = k.label)
    (hsiblings : k'.before ++ k'.after = k.before ++ k.after) :
    Updated pal ground s (({ s with tree := Rose.plug (k' :: fs) t } : SceneGraph Look Color).sceneNodeUpdate
      pal id none) (s.others id) := by
  have hhollow : Rose.hollow k' fs = Rose.hollow k fs := by rw [Rose.hollow, Rose.hollow, hlabel, hsiblings]
  have hcoords : nodeCoords (k' :: fs) t = nodeCoords (k :: fs) t := by
    rw [nodeCoords, nodeCoords, Rose.handed_cons, Rose.handed_cons, hlabel]
  rw [others_of_locate hfound]
  refine (h.moves_plug hfound hhollow).sceneNodeUpdate h (plug_of_locate hfound).2 fun e he p _ hp => ?_
  rw [Option.getD_none, hcoords, if_pos (isSome_of_inside he)]
  exact mem_nodeVisibility_of_inside he hp

/-- The siblings are taken apart, and all of them are there. -/
theorem append_of_span {α : Type} {q : α → Bool} {l l₁ l₂ : List α} (h : l.span q = (l₁, l₂)) : l₁ ++ l₂ = l := by
  rw [List.span_eq_takeWhile_dropWhile] at h
  obtain ⟨h₁, h₂⟩ := Prod.mk.inj h
  rw [← h₁, ← h₂]
  exact List.takeWhile_append_dropWhile

/-- Above a sibling: the node goes right behind it in the list of the children. -/
theorem Sound.placeAbove (h : s.Sound pal) {sibling : Nat}
    (hs : s.placeAbove pal id sibling = some s') : Updated pal ground s s' (s.others id) := by
  unfold SceneGraph.placeAbove at hs
  split at hs
  · rename_i k fs t hfound
    split at hs
    · cases hs
      exact .refl h _
    · split at hs
      · cases hs
      · rename_i below u above hspan
        cases hs
        refine h.place hfound rfl ?_
        rw [List.append_assoc]
        exact append_of_span hspan
  · cases hs

/-- Below a sibling: right before it. -/
theorem Sound.placeBelow (h : s.Sound pal) {sibling : Nat}
    (hs : s.placeBelow pal id sibling = some s') : Updated pal ground s s' (s.others id) := by
  unfold SceneGraph.placeBelow at hs
  split at hs
  · rename_i k fs t hfound
    split at hs
    · cases hs
      exact .refl h _
    · split at hs
      · cases hs
      · rename_i below u above hspan
        cases hs
        exact h.place hfound rfl (append_of_span hspan)
  · cases hs

/-- Above the topmost of its siblings, unless it is this itself. -/
theorem Sound.raiseToTop (h : s.Sound pal) (hs : s.raiseToTop pal id = some s') :
    Updated pal ground s s' (s.others id) := by
  unfold SceneGraph.raiseToTop at hs
  split at hs
  · split at hs
    · cases hs
      exact .refl h _
    · exact h.placeAbove hs
  · cases hs

/-- Below the lowest of its siblings. -/
theorem Sound.lowerToBottom (h : s.Sound pal) (hs : s.lowerToBottom pal id = some s') :
    Updated pal ground s s' (s.others id) := by
  unfold SceneGraph.lowerToBottom at hs
  split at hs
  · split at hs
    · cases hs
      exact .refl h _
    · exact h.placeBelow hs
  · cases hs

omit [DecidableEq Color] in
/-- The top of a tree's children is a place where nothing is. -/
theorem topOf_eq_some {tree : Rose (GraphNode Look Color)} {parent : Nat} (h : topOf tree parent = some gs) :
    ∃ k gs', gs = k :: gs' ∧ Rose.hollow k gs' = tree := by
  obtain ⟨⟨gs', u⟩, hfound, hs⟩ := Option.bind_eq_some_iff.mp h
  dsimp only at hs
  split_ifs at hs
  cases hs
  refine ⟨_, gs', rfl, ?_⟩
  rw [Rose.hollow, (plug_of_locate hfound).1, List.append_nil]
  cases u
  rfl

/-- The damage is what is seen in the old place. -/
theorem Sound.reparent (h : s.Sound pal) {parent : Nat} (hs : s.reparent pal id parent = some s') :
    Updated pal ground s s' (s.others id) := by
  unfold SceneGraph.reparent at hs
  split at hs
  · rename_i k fs t hfound
    split at hs
    · cases hs
      exact .refl h _
    · obtain ⟨gs, htop, rfl⟩ := Option.map_eq_some_iff.mp hs
      -- both places are places of the tree without the node
      obtain ⟨k', gs', rfl, hhollow⟩ := topOf_eq_some htop
      rw [others_of_locate hfound]
      refine (h.moves_plug hfound hhollow).sceneNodeUpdate h (plug_of_locate hfound).2 fun e he p _ hp => ?_
      rw [Option.getD_some, if_pos (isSome_of_inside he)]
      exact mem_nodeVisibility_of_inside he hp
  · cases hs

/-- A new node is put where nothing was. -/
theorem Sound.moves_create (h : s.Sound pal) (hfresh : id ∉ s.tree.labels.map (·.id))
    (hhollow : Rose.hollow k gs = s.tree) (content : NodeContent Look Color) (r : Region) :
    Moves s { s with
        tree := Rose.plug (k :: gs) (.node ⟨id, true, (0, 0), content⟩ [])
        visible := Function.update s.visible id r }
      (Rose.walkBefore enter emit (0, 0) (k :: gs)) [] (Rose.walkAfter enter emit (0, 0) (k :: gs)) (k :: gs)
      (.node ⟨id, true, (0, 0), content⟩ []) := by
  have hlabels : (Rose.frameLabels (k :: gs)).Perm s.tree.labels := by
    rw [← hhollow]
    exact (Rose.labels_hollow k gs).symm
  refine ⟨?_, rfl, rfl, ?_, rfl, fun e he => Function.update_of_ne (fun hid => hfresh ?_) _ _, rfl⟩
  · rw [List.append_nil, nodes, nodesBelow, ← hhollow]
    exact Rose.walk_hollow k gs
  -- the new name is none of those there are
  · rw [Unique, ((Rose.labels_plug _ _).map _).nodup_iff]
    show (id :: (Rose.frameLabels (k :: gs)).map (·.id)).Nodup
    refine List.nodup_cons.mpr ⟨?_, (hlabels.map _).nodup_iff.mpr h.unique⟩
    rwa [(hlabels.map _).mem_iff]
  · obtain ⟨a, ha, hea⟩ := id_of_mem_around he
    rw [← hid, hea]
    exact List.mem_map_of_mem (hlabels.mem_iff.mp ha)

/-- The new node is on top of its siblings. -/
theorem Sound.create (h : s.Sound pal) {parent : Nat} {content : NodeContent Look Color}
    (hs : s.create pal parent id content = some s') : Updated pal ground s s' s.nodes := by
  unfold SceneGraph.create at hs
  split at hs
  · cases hs
  · rename_i hfresh
    obtain ⟨gs, htop, hs⟩ := Option.map_eq_some_iff.mp hs
    obtain ⟨k, gs', rfl, hhollow⟩ := topOf_eq_some htop
    have m := h.moves_create hfresh hhollow content ∅
    have hnodes := m.nodes
    rw [List.append_nil] at hnodes
    rw [hnodes]
    dsimp only at hs
    split at hs
    · -- a tree that has no children yet is handed to no iterator, and the source makes no update
      rename_i htree
      cases hs
      refine m.updated_of_inside_nil h ?_ fun e he => absurd he List.not_mem_nil
      rw [inside, Rose.walkInside]
      cases Rose.handed enter (0, 0) (k :: gs') with
      | none => rfl
      | some o =>
        show Rose.walk enter emit o _ = []
        rw [Rose.walk_node, emit, if_pos htree]
        cases enter o _ <;> rfl
    · cases hs
      -- nothing was there that could be seen
      exact m.sceneNodeUpdate h rfl fun e he => absurd he List.not_mem_nil

omit [DecidableEq Color] in
/-- An update looks at the tree and leaves it. -/
theorem sceneNodeUpdate_tree (damage : Option Region) : (s.sceneNodeUpdate pal id damage).tree = s.tree := by
  unfold SceneGraph.sceneNodeUpdate
  split
  · rfl
  · split
    · split <;> rfl
    · rfl

omit [DecidableEq Color] in
theorem label_relabel (t : Rose (GraphNode Look Color)) : (t.relabel f).label = f t.label := by
  cases t
  rfl

omit [DecidableEq Color] in
/-- The place is the same, and the node in it is enabled or not, as was asked. -/
theorem setEnabled_tree {enabled : Bool} (hfound : s.tree.locate (fun a => a.id = id) = some (fs, t))
    (hs : s.setEnabled pal id enabled = some s') :
    ∃ t', s'.tree = Rose.plug fs t' ∧ t'.label.enabled = enabled := by
  rw [SceneGraph.setEnabled, hfound, Option.map_some] at hs
  dsimp only at hs
  split at hs
  · rename_i hsame
    cases hs
    exact ⟨t, (plug_of_locate hfound).1, hsame⟩
  · cases hs
    exact ⟨_, sceneNodeUpdate_tree _, by rw [label_relabel]⟩

omit [DecidableEq Color] in
/-- Nothing is met in a node that is not enabled. -/
theorem inside_of_disabled (h : t.label.enabled = false) : inside fs t = [] := by
  refine inside_eq_nil ?_
  unfold nodeCoords coordsFrom
  rw [h]
  cases Rose.handed enter (0, 0) fs <;> rfl

/-- A node is disabled first, and then taken out where nobody sees it. -/
theorem Sound.destroy (h : s.Sound pal) (hs : s.destroy pal id = some s') :
    Updated pal ground s s' (s.others id) := by
  unfold SceneGraph.destroy at hs
  split at hs
  · rename_i k fs t hfound
    obtain ⟨s₂, hs₂, rfl⟩ := Option.map_eq_some_iff.mp hs
    have hu : Updated pal ground s s₂ (s.others id) := h.setEnabled hs₂
    obtain ⟨t', htree, hdisabled⟩ := setEnabled_tree hfound hs₂
    have hunique := hu.sound.unique
    rw [htree] at hunique
    -- what is disabled is not met any more, so nobody misses it
    have hnodes : ({ s₂ with tree := Rose.hollow k fs } : SceneGraph Look Color).nodes = s₂.nodes := by
      rw [nodes_plug htree, inside_of_disabled hdisabled, List.append_nil]
      exact Rose.walk_hollow k fs
    have hsheets : ∀ ground, ({ s₂ with tree := Rose.hollow k fs } : SceneGraph Look Color).sheets pal ground =
        s₂.sheets pal ground := fun ground => by rw [SceneGraph.sheets, SceneGraph.sheets, hnodes]
    refine ⟨⟨?_, fun ground => ?_⟩, hu.calculateVisibility, hu.damage, fun hides p hp => ?_⟩
    · exact ((Rose.labels_hollow k fs).map _).nodup_iff.mpr hunique.plug.2.1
    · show Sheet.Seen s₂.visible _
      rw [hsheets]
      exact hu.sound.seen ground
    · rw [drawing_eq_paint, hsheets, ← drawing_eq_paint]
      exact hu.drawing hides p hp
  · cases hs

/-! ## Changes of a buffer -/

omit [DecidableEq Color] in
/-- A node that is enabled and placed as before is where it was. -/
theorem nodeCoords_relabel (henabled : (f t.label).enabled = t.label.enabled)
    (hpos : (f t.label).pos = t.label.pos) : nodeCoords fs (t.relabel f) = nodeCoords fs t := by
  unfold nodeCoords coordsFrom
  rw [label_relabel, henabled, hpos]

omit [DecidableEq Color] in
/-- What is not a tree is met itself, and nothing else. -/
theorem inside_of_leaf {origin : Pixel} (hleaf : t.label.content.isTree = false)
    (hcoords : nodeCoords fs t = some origin) : inside fs t = [⟨t.label, origin⟩] := by
  obtain ⟨o, ho, horigin⟩ := Option.bind_eq_some_iff.mp hcoords
  rw [inside, Rose.walkInside, ho, Option.elim_some]
  cases t with
  | node a ts =>
    have hleaf' : a.content.isTree = false := hleaf
    have horigin' : coordsFrom o a = some origin := horigin
    rw [Rose.walk_node, enter, emit, hleaf', if_neg Bool.false_ne_true, if_neg Bool.false_ne_true, horigin']
    rfl

variable {content : NodeContent Look Color} {origin : Pixel}

omit [DecidableEq Color] in
/-- What is met of a node that is no tree, with another content. -/
theorem inside_withContent (hleaf : content.isTree = false) (hcoords : nodeCoords fs t = some origin) :
    inside fs (t.relabel fun a => { a with content := content }) =
      [⟨{ t.label with content := content }, origin⟩] := by
  have hsame : nodeCoords fs (t.relabel fun a => { a with content := content }) = some origin :=
    (nodeCoords_relabel rfl rfl).trans hcoords
  rw [inside_of_leaf (by rw [label_relabel]; exact hleaf) hsame, label_relabel]

omit [DecidableEq Color] in
/-- A content as large has the same box. -/
theorem box_withContent (origin : Pixel) {a : GraphNode Look Color} (hsize : content.getSize = a.content.getSize) :
    (⟨{ a with content := content }, origin⟩ : PlacedNode Look Color).box = PlacedNode.box ⟨a, origin⟩ :=
  congrArg (fun size : Size => size.rect.translate origin) hsize

/-- A node gets another content in its place, and no update. -/
def withContent (s : SceneGraph Look Color) (fs : List (Rose.Frame (GraphNode Look Color)))
    (t : Rose (GraphNode Look Color)) (content : NodeContent Look Color) : SceneGraph Look Color :=
  { s with tree := Rose.plug fs (t.relabel fun a => { a with content := content }) }

/-- A node that is not met may be changed. -/
theorem Sound.relabel_hidden (h : s.Sound pal)
    (hfound : s.tree.locate (fun a => a.id = id) = some (fs, t)) (hcoords : nodeCoords fs t = none) :
    Updated pal ground s (s.withContent fs t content) (around fs) := by
  have hsame : nodeCoords fs (t.relabel fun a => { a with content := content }) = none :=
    (nodeCoords_relabel rfl rfl).trans hcoords
  refine (h.moves_relabel hfound rfl).updated_of_inside_nil h (inside_eq_nil hsame) fun e he => ?_
  rw [inside_eq_nil hcoords] at he
  exact absurd he List.not_mem_nil

/-- The picture is the same where another content looks the same. -/
theorem Sound.drawing_withContent (h : s.Sound pal)
    (hfound : s.tree.locate (fun a => a.id = id) = some (fs, t)) (hcoords : nodeCoords fs t = some origin)
    (hbefore : t.label.content.isTree = false) (hleaf : content.isTree = false)
    (hsize : content.getSize = t.label.content.getSize) {p : Pixel}
    (hshade : p ∈ PlacedNode.box ⟨t.label, origin⟩ → ∀ below,
      content.shade pal s.calculateVisibility ground.black (p.1 - origin.1, p.2 - origin.2) below =
        t.label.content.shade pal s.calculateVisibility ground.black (p.1 - origin.1, p.2 - origin.2) below) :
    (s.withContent fs t content).drawing pal ground p = s.drawing pal ground p := by
  have m : Moves s (s.withContent fs t content) _ _ _ fs _ :=
    h.moves_relabel hfound (f := fun a => { a with content := content }) rfl
  rw [drawing_eq_paint, drawing_eq_paint, m.sheets_before, m.sheets, inside_of_leaf hbefore hcoords,
    inside_withContent hleaf hcoords]
  have hbox := box_withContent origin hsize
  -- the leaf keeps its box, and in it the same is seen
  refine Sheet.paint_replace ?_ fun hin c => hshade ?_ c
  · show p ∈ PlacedNode.box _ ↔ p ∈ PlacedNode.box _
    rw [hbox]
  · rw [← hbox]
    exact hin

/-- Another opaque region of a buffer is looked at, and nothing is damaged: the picture is the same. -/
theorem Sound.bufferSetOpaqueRegion (h : s.Sound pal) {region : Region}
    (hs : s.bufferSetOpaqueRegion pal id region = some s') : Updated pal ground s s' (s.others id) := by
  obtain ⟨⟨fs, t⟩, hfound, hs⟩ := Option.bind_eq_some_iff.mp hs
  rw [others_of_locate hfound]
  dsimp only at hs
  split at hs
  · rename_i b hcontent
    split at hs
    · cases hs
      exact .refl h _
    · rw [nodeCoords_relabel rfl rfl] at hs
      cases hcoords : nodeCoords fs t with
      | none =>
        rw [hcoords] at hs
        cases hs
        exact h.relabel_hidden hfound hcoords
      | some origin =>
        rw [hcoords] at hs
        cases hs
        have hleaf : t.label.content.isTree = false := by
          rw [hcontent]
          rfl
        have hsize : (NodeContent.buffer { b with opaqueRegion := region }).getSize = t.label.content.getSize := by
          rw [hcontent]
          rfl
        have hnew := fun e he => box_subset_nodeBounds (e := e)
          ((nodeCoords_relabel (f := fun a => { a with content := .buffer { b with opaqueRegion := region } })
            rfl rfl).trans hcoords) he
        -- the bounds are those of before: only what is opaque has changed
        refine ⟨(h.moves_relabel hfound rfl).sound_updateRegion h _ (fun e he p hp _ => ?_) hnew, rfl,
          Finset.Subset.refl _, fun _ p _ => ?_⟩
        · rw [inside_of_leaf hleaf hcoords, List.mem_singleton] at he
          subst he
          rw [← box_withContent origin hsize] at hp
          exact hnew _ (by rw [inside_withContent rfl hcoords]; exact List.mem_cons_self) hp
        · refine h.drawing_withContent hfound hcoords hleaf rfl hsize fun _ c => ?_
          rw [hcontent]
          rfl
  · cases hs

/-- A buffer that needs no update is as large and as opaque as the one before. The function does not ask for
this. -/
def Steady (pal : Palette Look Color) (s : SceneGraph Look Color) : SceneAction Look Color → Prop
  | .bufferSetBuffer id buffer _ =>
    ∀ fs t b, s.tree.locate (fun a => a.id = id) = some (fs, t) → t.label.content = .buffer b →
      bufferNeedsUpdate b buffer = false →
      (NodeContent.buffer { b with buffer := buffer }).getSize = (NodeContent.buffer b).getSize ∧
        (NodeContent.buffer { b with buffer := buffer }).opaqueRegion pal = (NodeContent.buffer b).opaqueRegion pal
  | _ => True

/-- A buffer that needs no update looks the same where it is not damaged. It is up to the client to damage what it
changes. -/
def Damaging (pal : Palette Look Color) (ground : Ground Color) (s : SceneGraph Look Color) :
    SceneAction Look Color → Prop
  | .bufferSetBuffer id buffer damage =>
    ∀ fs t b, s.tree.locate (fun a => a.id = id) = some (fs, t) → t.label.content = .buffer b →
      bufferNeedsUpdate b buffer = false →
      ∀ q ∈ (NodeContent.buffer b).getSize.rect \ damage.getD (NodeContent.buffer b).getSize.rect, ∀ below,
        (NodeContent.buffer { b with buffer := buffer }).shade pal s.calculateVisibility ground.black q below =
          (NodeContent.buffer b).shade pal s.calculateVisibility ground.black q below
  | _ => True

/-- Where another content is as large and as opaque, nothing that hides or is hidden has changed: what is kept is
still right. -/
theorem Sound.withContent (h : s.Sound pal) (hfound : s.tree.locate (fun a => a.id = id) = some (fs, t))
    (hcoords : nodeCoords fs t = some origin) (hbefore : t.label.content.isTree = false)
    (hleaf : content.isTree = false) (hsize : content.getSize = t.label.content.getSize)
    (hcovers : content.opaqueRegion pal = t.label.content.opaqueRegion pal) :
    (s.withContent fs t content).Sound pal := by
  have m : Moves s (s.withContent fs t content) _ _ _ fs _ :=
    h.moves_relabel hfound (f := fun a => { a with content := content }) rfl
  have hbox := box_withContent origin hsize
  have hsolid := congrArg (Region.translate · origin) hcovers
  refine ⟨m.unique, fun ground p => (Sheet.seenAt_congr_sheets ?_).mp (h.seen ground p)⟩
  rw [m.sheets_before, m.sheets, inside_of_leaf hbefore hcoords, inside_withContent hleaf hcoords]
  simp only [List.map_append, List.map_cons, List.map_nil, sheet, PlacedNode.opaqueRegion, hbox, hsolid]
  rfl

omit [DecidableEq Color] in
/-- What becomes of the scene if the buffer needs an update, if the node is not met, and otherwise. -/
theorem bufferSetBuffer_cases {buffer : Option (ClientImage Color)} {damage : Option Region}
    (hs : s.bufferSetBuffer pal id buffer damage = some s') :
    ∃ fs t b, s.tree.locate (fun a => a.id = id) = some (fs, t) ∧ t.label.content = .buffer b ∧
      (s' = s ∨
        s' = (s.withContent fs t (.buffer { b with buffer := buffer })).sceneNodeUpdate pal id none ∨
        nodeCoords fs t = none ∧ s' = s.withContent fs t (.buffer { b with buffer := buffer }) ∨
        ∃ origin, nodeCoords fs t = some origin ∧ bufferNeedsUpdate b buffer = false ∧
          s' = (s.withContent fs t (.buffer { b with buffer := buffer })).damageOutputs
            ((damage.getD (NodeContent.buffer { b with buffer := buffer }).getSize.rect).translate origin ∩
              s.visible id)) := by
  obtain ⟨⟨fs, t⟩, hfound, hs⟩ := Option.bind_eq_some_iff.mp hs
  dsimp only at hs
  split at hs
  · rename_i b hcontent
    refine ⟨fs, t, b, hfound, hcontent, ?_⟩
    split at hs
    · exact .inl (Option.some.inj hs).symm
    · split at hs
      · exact .inr (.inl (Option.some.inj hs).symm)
      · rename_i hneeds
        cases hcoords : nodeCoords fs t with
        -- a node that no scene meets has no place to damage
        | none =>
          rw [hcoords] at hs
          exact .inr (.inr (.inl ⟨rfl, (Option.some.inj hs).symm⟩))
        | some origin =>
          rw [hcoords] at hs
          exact .inr (.inr (.inr ⟨origin, rfl, by simpa using hneeds, (Option.some.inj hs).symm⟩))
  · cases hs

/-- Right regions do not depend on what is damaged. -/
theorem Sound.bufferSetBuffer_sound (h : s.Sound pal) {buffer : Option (ClientImage Color)}
    {damage : Option Region} (hsteady : s.Steady pal (.bufferSetBuffer id buffer damage))
    (hs : s.bufferSetBuffer pal id buffer damage = some s') : s'.Sound pal := by
  obtain ⟨fs, t, b, hfound, hcontent, rfl | rfl | ⟨hcoords, rfl⟩ | ⟨origin, hcoords, hneeds, rfl⟩⟩ :=
    bufferSetBuffer_cases hs
  · exact h
  · refine (?_ : Updated pal ⟨pal.clear, none⟩ s _ (around fs)).sound
    exact h.relabel hfound rfl rfl (by rw [hcontent]; rfl)
  · refine (?_ : Updated pal ⟨pal.clear, none⟩ s _ (around fs)).sound
    exact h.relabel_hidden hfound hcoords
  · obtain ⟨hsize, hcovers⟩ := hsteady fs t b hfound hcontent hneeds
    rw [← hcontent] at hsize hcovers
    have hsound := h.withContent hfound hcoords (by rw [hcontent]; rfl) rfl hsize hcovers
    exact ⟨hsound.unique, hsound.seen⟩

/-- Another buffer, with or without an update. -/
theorem Sound.bufferSetBuffer (h : s.Sound pal) {buffer : Option (ClientImage Color)}
    {damage : Option Region} (hsteady : s.Steady pal (.bufferSetBuffer id buffer damage))
    (hdamaging : s.Damaging pal ground (.bufferSetBuffer id buffer damage))
    (hs : s.bufferSetBuffer pal id buffer damage = some s') : Updated pal ground s s' (s.others id) := by
  have hsound := h.bufferSetBuffer_sound hsteady hs
  obtain ⟨fs, t, b, hfound, hcontent, rfl | rfl | ⟨hcoords, rfl⟩ | ⟨origin, hcoords, hneeds, rfl⟩⟩ :=
    bufferSetBuffer_cases hs
  · exact .refl h _
  -- the size is the same and nothing is to be drawn anew
  · rw [others_of_locate hfound]
    exact h.relabel hfound rfl rfl (by rw [hcontent]; rfl)
  · rw [others_of_locate hfound]
    exact h.relabel_hidden hfound hcoords
  · rw [others_of_locate hfound]
    obtain ⟨hsize, -⟩ := hsteady fs t b hfound hcontent hneeds
    have hshade := hdamaging fs t b hfound hcontent hneeds
    rw [← hcontent] at hsize hshade
    have hid : t.label.id = id := (plug_of_locate hfound).2
    have hleaf : t.label.content.isTree = false := by
      rw [hcontent]
      rfl
    have m := h.moves_relabel hfound (f := fun a => { a with content := .buffer { b with buffer := buffer } }) rfl
    refine ⟨hsound, rfl, Finset.subset_union_left, fun hides p hp => ?_⟩
    by_cases hshown : p ∈ PlacedNode.box ⟨t.label, origin⟩ → p ∈ s.visible id
    · -- it is seen there, so it is damaged or looks the same
      refine h.drawing_withContent hfound hcoords hleaf rfl hsize fun hin c => ?_
      refine hshade _ (Finset.mem_sdiff.mpr ⟨Region.mem_translate.mp hin, fun hdamage => hp ?_⟩) c
      refine Finset.mem_union_right _ (Finset.mem_inter.mpr ⟨Region.mem_translate.mpr ?_, hshown hin⟩)
      rwa [hsize]
    · -- neither the old buffer nor the new one is seen there
      refine m.drawing h hsound rfl rfl hides (fun e he hin hvisible => hshown fun _ => ?_)
        fun e he hin hvisible => hshown fun _ => ?_
      -- the node before, then the node after
      · rw [inside_of_leaf hleaf hcoords, List.mem_singleton] at he
        rw [he] at hvisible
        exact hid ▸ hvisible
      · rw [inside_withContent rfl hcoords, List.mem_singleton] at he
        rw [he] at hvisible
        exact hid ▸ hvisible

/-- Another place in the parent. -/
theorem Sound.setPosition (h : s.Sound pal) {pos : Pixel} (hs : s.setPosition pal id pos = some s') :
    Updated pal ground s s' (s.others id) := by
  unfold SceneGraph.setPosition at hs
  exact h.assign (f := fun a => { a with pos := pos }) (fun _ => rfl) (fun _ => rfl) (fun _ => rfl) hs

/-- A rectangle is given another size, or color. -/
theorem Sound.assignRect (h : s.Sound pal) {same : Size → Color → Bool}
    {g : Size → Color → NodeContent Look Color} (hg : ∀ size color, (g size color).isTree = false)
    (hs : s.assignRect pal id same g = some s') : Updated pal ground s s' (s.others id) := by
  unfold SceneGraph.assignRect at hs
  refine h.assign ?_ ?_ ?_ hs
  · exact fun _ => rfl
  · exact fun _ => rfl
  · intro a
    dsimp only
    split
    · rename_i size color hcontent
      rw [hcontent, hg]
      rfl
    · rfl

/-- A buffer is given something else than other pixels. -/
theorem Sound.assignBuffer (h : s.Sound pal) {same : SceneBuffer Look Color → Bool}
    {g : SceneBuffer Look Color → SceneBuffer Look Color} (hs : s.assignBuffer pal id same g = some s') :
    Updated pal ground s s' (s.others id) := by
  unfold SceneGraph.assignBuffer at hs
  refine h.assign ?_ ?_ ?_ hs
  · exact fun _ => rfl
  · exact fun _ => rfl
  · intro a
    dsimp only
    split
    · rename_i b hcontent
      rw [hcontent]
      rfl
    · rfl

/-! ## Runs -/

omit [DecidableEq Color] in
/-- Whatever a call is about, the others are nodes of the scene. -/
theorem others_subset : ∀ e ∈ s.others id, e ∈ s.nodes := by
  intro e he
  unfold others at he
  split at he
  · exact he
  · rename_i fs t hfound
    rw [nodes_plug (plug_of_locate hfound).1]
    rcases List.mem_append.mp he with hbefore | hafter
    · exact List.mem_append_left _ (List.mem_append_left _ hbefore)
    · exact List.mem_append_right _ hafter

/-- More may be asked to hide what is below than need be. -/
theorem Updated.mono {others others' : List (PlacedNode Look Color)} (h : Updated pal ground s s' others)
    (hsub : ∀ e ∈ others, e ∈ others') : Updated pal ground s s' others' :=
  ⟨h.sound, h.calculateVisibility, h.damage, fun hides => h.drawing fun e he => hides e (hsub e he)⟩

variable [DecidableEq Look] {a : SceneAction Look Color} {as : List (SceneAction Look Color)}

/-- **Each function keeps the scene right**, and damages what it changes. -/
theorem Sound.step (h : s.Sound pal) (hsteady : s.Steady pal a) (hdamaging : s.Damaging pal ground a)
    (hs : s.step pal a = some s') : Updated pal ground s s' s.nodes := by
  -- one case per function; a change of a leaf's content damages the leaf's box
  cases a with
  | create parent id content => exact h.create hs
  | destroy id => exact (h.destroy hs).mono others_subset
  | setEnabled id enabled => exact (h.setEnabled hs).mono others_subset
  | setPosition id pos => exact (h.setPosition hs).mono others_subset
  | placeAbove id sibling => exact (h.placeAbove hs).mono others_subset
  | placeBelow id sibling => exact (h.placeBelow hs).mono others_subset
  | raiseToTop id => exact (h.raiseToTop hs).mono others_subset
  | lowerToBottom id => exact (h.lowerToBottom hs).mono others_subset
  | reparent id parent => exact (h.reparent hs).mono others_subset
  | rectSetSize id size => exact (h.assignRect (fun _ _ => rfl) hs).mono others_subset
  | rectSetColor id color => exact (h.assignRect (fun _ _ => rfl) hs).mono others_subset
  | bufferSetBuffer id buffer damage => exact (h.bufferSetBuffer hsteady hdamaging hs).mono others_subset
  | bufferSetOpaqueRegion id region => exact (h.bufferSetOpaqueRegion hs).mono others_subset
  | bufferSetDestSize id dst => exact (h.assignBuffer hs).mono others_subset
  | bufferSetTransform id transform => exact (h.assignBuffer hs).mono others_subset
  | bufferSetOpacity id opacity => exact (h.assignBuffer hs).mono others_subset
  | bufferSetLook id look => exact (h.assignBuffer hs).mono others_subset

/-- For the regions it does not matter what clients damage. -/
theorem Sound.step_sound (h : s.Sound pal) (hsteady : s.Steady pal a) (hs : s.step pal a = some s') :
    s'.Sound pal := by
  cases a with
  | bufferSetBuffer id buffer damage => exact h.bufferSetBuffer_sound hsteady hs
  | _ =>
    have hup : Updated pal ⟨pal.clear, none⟩ s _ _ := h.step hsteady trivial hs
    exact hup.sound

omit [DecidableEq Look] in
/-- A new scene has no node that could be seen. -/
theorem sound_init (calculateVisibility : Bool) :
    (init calculateVisibility : SceneGraph Look Color).Sound pal :=
  ⟨List.nodup_singleton _, fun _ _ => trivial⟩

theorem Sound.run (h : s.Sound pal) (hrun : Run.run (SceneGraph.step pal) s as = some s')
    (hsteady : Run.Along (SceneGraph.step pal) (Steady pal) s as) : s'.Sound pal :=
  Run.run_invariant_of_along (fun _ _ _ hs ha hstep => hs.step_sound ha hstep) h hsteady hrun

/-! ## A commit of a surface -/

/-- The node `id` is in the scene, and `b` is what it draws. -/
structure Draws (s : SceneGraph Look Color) (id : Nat) (b : SceneBuffer Look Color) : Prop where
  unique : Unique s.tree
  found : ∃ fs t, s.tree.locate (fun a => a.id = id) = some (fs, t) ∧ t.label.content = .buffer b

variable {b : SceneBuffer Look Color}

omit [DecidableEq Color] [DecidableEq Look] in
/-- A node that is changed in its place is found there, and draws what it was given. -/
theorem draws_relabel (hunique : Unique s.tree) (hfound : s.tree.locate (fun a => a.id = id) = some (fs, t))
    (hid : (f t.label).id = t.label.id) (hcontent : (f t.label).content = .buffer b)
    (htree : s'.tree = Rose.plug fs (t.relabel f)) : s'.Draws id b := by
  obtain ⟨hplug, hname⟩ := plug_of_locate hfound
  rw [hplug] at hunique
  have hunique' : Unique (Rose.plug fs (t.relabel f)) :=
    (unique_plug_iff (.of_eq (labels_relabel_id hid)) (.refl _)).mpr hunique
  refine ⟨by rw [htree]; exact hunique', fs, t.relabel f, ?_, ?_⟩
  · rw [htree]
    exact hunique'.locate ((relabel_label_id hid).trans hname)
  · rw [label_relabel]
    exact hcontent

omit [DecidableEq Color] [DecidableEq Look] in
/-- A setter that leaves the node alone has found it as it should be. -/
theorem Draws.assignBuffer (h : s.Draws id b) {same : SceneBuffer Look Color → Bool}
    {g : SceneBuffer Look Color → SceneBuffer Look Color} (hsame : same b = true → g b = b) :
    ∃ s', s.assignBuffer pal id same g = some s' ∧ s'.Draws id (g b) := by
  obtain ⟨hunique, fs, t, hfound, hcontent⟩ := h
  unfold SceneGraph.assignBuffer SceneGraph.assign
  rw [hfound, Option.map_some]
  simp only [hcontent]
  refine ⟨_, rfl, ?_⟩
  split
  · next hskip =>
    rw [hsame hskip]
    exact ⟨hunique, fs, t, hfound, hcontent⟩
  · exact draws_relabel hunique hfound rfl (by rw [hcontent]) (sceneNodeUpdate_tree none)

omit [DecidableEq Color] [DecidableEq Look] in
theorem Draws.bufferSetOpaqueRegion (h : s.Draws id b) (pal : Palette Look Color) (region : Region) :
    ∃ s', s.bufferSetOpaqueRegion pal id region = some s' ∧ s'.Draws id { b with opaqueRegion := region } := by
  obtain ⟨hunique, fs, t, hfound, hcontent⟩ := h
  unfold SceneGraph.bufferSetOpaqueRegion
  rw [hfound, Option.bind_some]
  dsimp only
  rw [hcontent]
  dsimp only
  split
  · next hsame =>
    rw [← hsame]
    exact ⟨s, rfl, hunique, fs, t, hfound, hcontent⟩
  · split
    · exact ⟨_, rfl, draws_relabel hunique hfound rfl rfl rfl⟩
    · exact ⟨_, rfl, draws_relabel hunique hfound rfl rfl rfl⟩

omit [DecidableEq Color] [DecidableEq Look] in
/-- Whether it needs an update or not, the node has the buffer it is given. -/
theorem Draws.bufferSetBuffer (h : s.Draws id b) (pal : Palette Look Color) (buffer : Option (ClientImage Color))
    (damage : Option Region) :
    ∃ s', s.bufferSetBuffer pal id buffer damage = some s' ∧ s'.Draws id { b with buffer := buffer } := by
  obtain ⟨hunique, fs, t, hfound, hcontent⟩ := h
  unfold SceneGraph.bufferSetBuffer
  rw [hfound, Option.bind_some]
  dsimp only
  rw [hcontent]
  dsimp only
  split
  · next hnone =>
    -- no buffer before and none now
    obtain ⟨hnow, hbefore⟩ := Bool.and_eq_true_iff.mp hnone
    rw [Option.isNone_iff_eq_none.mp hnow, ← Option.isNone_iff_eq_none.mp hbefore]
    exact ⟨s, rfl, hunique, fs, t, hfound, hcontent⟩
  · split
    · exact ⟨_, rfl, draws_relabel hunique hfound rfl rfl (sceneNodeUpdate_tree none)⟩
    · split
      · exact ⟨_, rfl, draws_relabel hunique hfound rfl rfl rfl⟩
      · exact ⟨_, rfl, draws_relabel hunique hfound rfl rfl rfl⟩

/-- **A commit reaches the scene**: the calls of `surface_reconfigure` go through, and leave the node what was
committed, or no buffer. -/
theorem Draws.surfaceReconfigure (h : s.Draws id b) (committed : Option (SceneBuffer Look Color × Region)) :
    ∃ s', Run.run (SceneGraph.step pal) s (surfaceReconfigure id committed) = some s' ∧
      s'.Draws id ((committed.map Prod.fst).getD { b with buffer := none }) := by
  cases committed with
  | none =>
    obtain ⟨s', hs', hdraws⟩ := h.bufferSetBuffer pal none none
    refine ⟨s', ?_, hdraws⟩
    rw [SceneGraph.surfaceReconfigure, Run.run_cons, SceneGraph.step, hs', Option.bind_some, Run.run_nil]
  | some c =>
    obtain ⟨new, damage⟩ := c
    -- one setter after another, the buffer last
    obtain ⟨s₁, hs₁, h⟩ := h.bufferSetOpaqueRegion pal new.opaqueRegion
    obtain ⟨s₂, hs₂, h⟩ : ∃ s₂, s₁.bufferSetLook pal id new.look = some s₂ ∧ _ :=
      h.assignBuffer fun hsame => by rw [← of_decide_eq_true hsame]
    obtain ⟨s₃, hs₃, h⟩ : ∃ s₃, s₂.bufferSetDestSize pal id new.dst = some s₃ ∧ _ :=
      h.assignBuffer fun hsame => by rw [← of_decide_eq_true hsame]
    obtain ⟨s₄, hs₄, h⟩ : ∃ s₄, s₃.bufferSetTransform pal id new.transform = some s₄ ∧ _ :=
      h.assignBuffer fun hsame => by rw [← of_decide_eq_true hsame]
    obtain ⟨s₅, hs₅, h⟩ : ∃ s₅, s₄.bufferSetOpacity pal id new.opacity = some s₅ ∧ _ :=
      h.assignBuffer fun hsame => by rw [← of_decide_eq_true hsame]
    obtain ⟨s', hs', h⟩ := h.bufferSetBuffer pal new.buffer (new.buffer.map fun _ => damage)
    refine ⟨s', ?_, h⟩
    simp only [SceneGraph.surfaceReconfigure, Run.run_cons, SceneGraph.step, hs₁, hs₂, hs₃, hs₄, hs₅, hs',
      Option.bind_some, Run.run_nil]

end SceneGraph

end Wlx
