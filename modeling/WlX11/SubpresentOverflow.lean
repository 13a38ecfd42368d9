import WlX11.SubpresentRegistry

/-!
# WlX11 — what overflows is shown

One toplevel with its subsurfaces, to any depth, and the commits on them. The program looks for
subsurfaces that overflow when the toplevel commits and when it gets a new subsurface; a commit of a
subsurface alone only places the subpresent it may have. The handlers are those of `SubpresentRegistry`, and
`OverflowRegistry` shows that a session is a run of the registry; here the parts of a commit are one action, as
the condition is on the whole of it.

* **`Exact`** — a surface has a present window exactly if it is mapped and overflows, and its scene
  buffer is disabled exactly then.
* **`Attended`** — the condition on a step: a toplevel's commit gets the memory and the present
  windows it needs, and nothing else changes which subsurfaces overflow.
* **`exact_of_attended`** — if all steps of a run meet it, every state reached is exact.
-/

namespace Wlx

/-- A toplevel, the surfaces and the registry. -/
structure OverflowSession where
  win : SubWindow
  surfaces : Nat → Option SurfaceState
  subs : Subpresents

/-- One surface's part in a commit, or a change without one. -/
structure TreeChange where
  /-- the surfaces that get another state -/
  surfaces : List (Nat × SurfaceState)
  tree : SubsurfaceTree
  place : PopupWindow
  /-- `xdg_toplevel_map` runs, with or without an output that can be created -/
  map : Option Bool
  /-- the toplevel's surface has a new subsurface: `window_new_subsurface` runs -/
  newSubsurface : Bool
  /-- the surface whose commit event comes then -/
  committed : Option Nat
  env : Nat → SubpresentEnv

inductive OverflowAction where
  /-- A commit: that of the toplevel's own surface with all it releases, or another surface's. -/
  | commit (parts : List TreeChange) (toplevel : Bool) (env : Nat → SubpresentEnv)
  /-- the toplevel's surface is unmapped, and with it all its subsurfaces -/
  | unmap
  | destroySurface (surface : Nat)
  /-- a present window is destroyed -/
  | presentDestroyed (p : Nat)
  /-- the host has moved the window -/
  | reposition (place : PopupWindow) (env : Nat → SubpresentEnv)

namespace OverflowSession

def init (root : Nat) (place : PopupWindow) : OverflowSession where
  win := ⟨0, false, place, .mk root ⟨0, 0⟩ [] []⟩
  surfaces := fun x => if x = root then some ⟨false, ⟨0, 0⟩, none⟩ else none
  subs := ⟨[], fun _ => false, []⟩

/-- The clients' side of a change, and the toplevel's output. -/
def change (v : OverflowSession) (c : TreeChange) : OverflowSession :=
  let win := { v.win with tree := c.tree, place := c.place, output := v.win.output || c.map.getD false }
  { win := win
    surfaces := fun x => (c.surfaces.lookup x).or (v.surfaces x)
    subs := v.subs.renode v.win.hasNode win.hasNode }

/-- `wlx_window_sync_subpresents`. -/
def sync (cfg : Config) (env : Nat → SubpresentEnv) (v : OverflowSession) : OverflowSession :=
  { v with subs := v.subs.sync cfg v.surfaces env v.win }

def commitSurface (cfg : Config) (env : Nat → SubpresentEnv) (v : OverflowSession) (surface : Nat) :
    OverflowSession :=
  { v with
    subs := v.subs.commitSurface cfg (fun w => if w = v.win.id then some v.win else none) v.surfaces env
      surface }

def part (cfg : Config) (v : OverflowSession) (c : TreeChange) : OverflowSession :=
  let v := v.change c
  let v := if c.newSubsurface then v.sync cfg c.env else v
  match c.committed with
  | none => v
  | some surface => v.commitSurface cfg c.env surface

/-- Only a commit of the toplevel's surface maps it, gives it new subsurfaces or has its event. -/
def ofToplevel (v : OverflowSession) (c : TreeChange) : Bool :=
  c.newSubsurface || c.map.isSome || c.committed = some v.win.tree.surface

def step (cfg : Config) (v : OverflowSession) : OverflowAction → Option OverflowSession
  | .commit parts toplevel env =>
    if toplevel then
      let v := parts.foldl (part cfg) v
      some (if v.win.output then v.sync cfg env else v)
    else if parts.all (!v.ofToplevel ·) then some (parts.foldl (part cfg) v)
    else none
  | .unmap => some
    { win := { v.win with output := false }
      surfaces := fun x => (v.surfaces x).map fun st =>
        if v.win.hasNode x then { st with mapped := false } else st
      subs := v.subs.destroyOf v.win }
  | .destroySurface surface =>
    if v.win.tree.surface = surface then none
    else
      let win := { v.win with tree := v.win.tree.prune surface }
      some
        { win := win
          surfaces := fun x => if x = surface then none else v.surfaces x
          subs := (v.subs.destroyWhere v.win (·.surface = surface)).renode v.win.hasNode win.hasNode }
  | .presentDestroyed p => some
    { v with subs := v.subs.presentDestroyed (fun sp => v.win.hasNode sp.surface) p }
  | .reposition place env =>
    let win := { v.win with place := place }
    some
      { v with
        win := win
        subs := v.subs.reposition cfg v.surfaces env win }

/-- The surface has a present window, which is mapped from the start. -/
def Presented (v : OverflowSession) (x : Nat) : Prop :=
  ∃ sp ∈ v.subs.entries, sp.surface = x ∧ sp.xpresent.isSome = true

/-- The mapped surfaces whose boxes are not inside the toplevel's surface. -/
def overflowing (v : OverflowSession) : List Nat :=
  (Subpresents.overflowing v.surfaces v.win).map (·.1)

/-- What overflows has a present window and nothing else has one; and what has one is disabled in the
scene and nothing else is. -/
def Exact (v : OverflowSession) : Prop :=
  ∀ x, (v.Presented x ↔ x ∈ v.overflowing) ∧ (v.subs.disabled x = true ↔ v.Presented x)

/-- The same subsurfaces overflow. -/
def SameOverflow (v v' : OverflowSession) : Prop :=
  (∀ x ∈ v.overflowing, x ∈ v'.overflowing) ∧ ∀ x ∈ v'.overflowing, x ∈ v.overflowing

/-- A toplevel's commit gets what it needs for all that overflows. -/
def Served (v : OverflowSession) (env : Nat → SubpresentEnv) : Prop :=
  (v.overflowing ≠ [] → v.win.output = true ∧ v.win.place.contentRoot.isSome = true) ∧
    ∀ x ∈ v.overflowing, (env x).keep = true ∧ (env x).memory = true ∧ (env x).xpresent.isSome = true

/-- A change that leaves each subpresent where it is: its surface stays in the tree, and if it commits
it is still mapped and its place known. -/
def Quiet (v : OverflowSession) (c : TreeChange) : Prop :=
  ∀ sp ∈ v.subs.entries, (v.change c).win.hasNode sp.surface = true ∧
    (c.committed = some sp.surface → sp.nodeNewer = false ∧ c.place.contentRoot.isSome = true ∧
      ((v.change c).surfaces sp.surface).any (fun surf => surf.mapped && surf.size.isSet) = true)

/-- The clients' side of a commit, without what the program makes of it. -/
def changes (v : OverflowSession) (parts : List TreeChange) : OverflowSession :=
  parts.foldl change v

/-- The step leaves nothing unattended that overflows, and nothing presented that does not. -/
def Attended (cfg : Config) (v : OverflowSession) : OverflowAction → Prop
  | .commit parts toplevel env =>
    if toplevel then (v.changes parts).Served env
    else v.SameOverflow (v.changes parts) ∧
      Run.Along (fun v c => some (v.part cfg c)) Quiet v parts
  | .unmap => True
  | .destroySurface surface =>
    -- no subsurface of it overflows
    let v' : OverflowSession :=
      { v with
        win := { v.win with tree := v.win.tree.prune surface }
        surfaces := fun x => if x = surface then none else v.surfaces x }
    (∀ x ∈ v.overflowing, x ≠ surface → x ∈ v'.overflowing) ∧ ∀ x ∈ v'.overflowing, x ∈ v.overflowing
  | .presentDestroyed p => ∀ sp ∈ v.subs.entries, sp.xpresentDestroy ≠ some p
  | .reposition .. => True

section Decidable

variable (v v' : OverflowSession)

instance (x : Nat) : Decidable (v.Presented x) :=
  inferInstanceAs (Decidable (∃ sp ∈ _, _))

instance : Decidable (v.SameOverflow v') :=
  inferInstanceAs (Decidable ((∀ x ∈ _, x ∈ _) ∧ ∀ x ∈ _, x ∈ _))

instance (env : Nat → SubpresentEnv) : Decidable (v.Served env) :=
  inferInstanceAs (Decidable ((¬ _ = _ → _ ∧ _) ∧ ∀ x ∈ _, _))

instance (c : TreeChange) : Decidable (v.Quiet c) :=
  inferInstanceAs (Decidable (∀ sp ∈ v.subs.entries, _ ∧ (_ → _)))

instance (cfg : Config) : (a : OverflowAction) → Decidable (v.Attended cfg a)
  | .commit _ toplevel _ =>
    match toplevel with
    | true => inferInstanceAs (Decidable (Served _ _))
    | false => inferInstanceAs (Decidable (SameOverflow _ _ ∧ Run.Along _ Quiet _ _))
  | .unmap => isTrue trivial
  | .destroySurface _ => inferInstanceAs (Decidable ((∀ x ∈ _, _ → _) ∧ ∀ x ∈ _, _))
  | .presentDestroyed _ => inferInstanceAs (Decidable (∀ sp ∈ v.subs.entries, _))
  | .reposition .. => isTrue trivial

end Decidable

end OverflowSession

/-! ## Which buffers are disabled -/

/-- It can be placed if it is mapped, has a size, and the X server serves it. -/
theorem Subpresent.positionAndPresent_isSome (cfg : Config) (sp : Subpresent) {place : PopupWindow}
    {surf : SurfaceState} {created : Option Nat} (hmapped : surf.mapped = true)
    (hsize : surf.size.isSet = true) (hroot : place.contentRoot.isSome = true)
    (hcreated : sp.xpresent.isSome = true ∨ created.isSome = true) :
    (sp.positionAndPresent cfg place surf created).isSome = true := by
  obtain ⟨hw, hh⟩ := Size.isSet_iff.mp hsize
  obtain ⟨o, ho⟩ := Option.isSome_iff_exists.mp hroot
  unfold Subpresent.positionAndPresent Subpresent.computeRoot
  rw [if_pos hmapped, if_neg (by omega), ho, Option.map_some, Option.bind_some, Option.isSome_map]
  unfold Subpresent.createXpresent
  cases hx : sp.xpresent with
  | some p => rfl
  | none =>
    rw [hx] at hcreated
    simpa using hcreated

namespace Subpresents

variable {id : Nat} {s : Subpresents} {sp : Subpresent} {win : SubWindow}

/-- The registry of the one toplevel `id`. -/
def KeptBy (id : Nat) (s : Subpresents) : Prop := s.Kept (fun _ => True) (· = id)

def HasEntry (s : Subpresents) (x : Nat) : Prop := ∃ sp ∈ s.entries, sp.surface = x

/-- What is disabled has a node and a subpresent. -/
def Covered (hasNode : Nat → Bool) (s : Subpresents) : Prop :=
  ∀ x, s.disabled x = true → hasNode x = true ∧ s.HasEntry x

/-- The surface has a present window, and its buffer is disabled. -/
def Shown (s : Subpresents) (x : Nat) : Prop :=
  s.disabled x = true ∧ ∃ sp ∈ s.entries, sp.surface = x ∧ sp.xpresent.isSome = true

/-- To replace an entry takes none away. -/
theorem HasEntry.set {x : Nat} (h : s.HasEntry x) : (s.set sp).HasEntry x := by
  obtain ⟨e, he, rfl⟩ := h
  refine ⟨_, List.mem_map_of_mem he, ?_⟩
  split
  · rename_i heq
    exact heq.symm
  · rfl

@[simp] theorem setSceneEnabled_hasEntry {x y : Nat} {on : Bool} :
    (s.setSceneEnabled win y on).HasEntry x ↔ s.HasEntry x := by
  unfold HasEntry
  rw [setSceneEnabled_entries]

/-- Nor does a placement. -/
theorem HasEntry.positionAndPresent {cfg : Config} {surf : SurfaceState} {created : Option Nat} {x : Nat}
    (h : s.HasEntry x) : (s.positionAndPresent cfg win surf created sp).HasEntry x := by
  unfold Subpresents.positionAndPresent
  split
  · exact h
  · rw [setSceneEnabled_hasEntry]
    exact h.set

/-- Placing a subpresent disables its buffer and no other. -/
theorem Covered.positionAndPresent {cfg : Config} {surf : SurfaceState} {created : Option Nat}
    (h : s.Covered win.hasNode) (hentry : s.HasEntry sp.surface) (hlinked : sp.Linked) :
    (s.positionAndPresent cfg win surf created sp).Covered win.hasNode := by
  intro x hx
  unfold Subpresents.positionAndPresent at hx ⊢
  split at hx
  · exact h x hx
  -- what is disabled now is the surface that is presented
  · rename_i sp' hsp'
    obtain ⟨hsurface, -⟩ := Subpresent.positionAndPresent_spec hsp' hlinked
    rw [setSceneEnabled_hasEntry]
    unfold setSceneEnabled at hx
    split at hx
    · rename_i hnode
      dsimp only at hx
      split at hx
      · rename_i hxs
        rw [hxs]
        exact ⟨hnode, by rw [hsurface]; exact hentry.set⟩
      · obtain ⟨hnode', hentry'⟩ := h x hx
        exact ⟨hnode', hentry'.set⟩
    · obtain ⟨hnode', hentry'⟩ := h x hx
      exact ⟨hnode', hentry'.set⟩

/-- The end of a present window that no subpresent has changes no subpresent. -/
theorem presentDestroyed_eq_self {hasNode : Subpresent → Bool} {p : Nat}
    (h : ∀ sp ∈ s.entries, sp.xpresentDestroy ≠ some p) :
    s.presentDestroyed hasNode p = { s with presents := s.presents.filter (· ≠ p) } := by
  have hentries : s.entries.map (fun e =>
      if e.xpresentDestroy = some p then e.handleXpresentDestroy else e) = s.entries := by
    conv_rhs => rw [← List.map_id s.entries]
    apply List.map_congr_left
    intro e he
    rw [if_neg (h e he), id]
  -- no node is enabled again
  have hany : ∀ x, s.entries.any (fun e => e.xpresentDestroy = some p && e.surface = x &&
      hasNode e) = false := by
    intro x
    rw [List.any_eq_false]
    intro e he
    simp [h e he]
  unfold Subpresents.presentDestroyed
  simp only [hentries, hany, Bool.not_false, Bool.and_true]

/-- What is shown stays shown when some subpresent is placed. -/
theorem Shown.positionAndPresent {cfg : Config} {surf : SurfaceState} {created : Option Nat} {x : Nat}
    (h : s.Shown x) (hlinked : sp.Linked) : (s.positionAndPresent cfg win surf created sp).Shown x := by
  obtain ⟨hdisabled, e, he, rfl, hpresent⟩ := h
  unfold Subpresents.positionAndPresent
  split
  · exact ⟨hdisabled, e, he, rfl, hpresent⟩
  -- it is disabled if it is this surface, and left alone if not
  · rename_i sp' hsp'
    obtain ⟨hsurface, -, hpresent', -⟩ := Subpresent.positionAndPresent_spec hsp' hlinked
    constructor
    · unfold setSceneEnabled
      split
      · dsimp only
        split
        · rfl
        · exact hdisabled
      · exact hdisabled
    · rw [setSceneEnabled_entries]
      refine ⟨_, List.mem_map_of_mem he, ?_⟩
      split
      · rename_i heq
        exact ⟨heq.symm, hpresent'⟩
      · exact ⟨rfl, hpresent⟩

/-- A subpresent that can be placed is shown then. -/
theorem shown_positionAndPresent {cfg : Config} {surf : SurfaceState} {created : Option Nat}
    (hplaced : (sp.positionAndPresent cfg win.place surf created).isSome = true) (hlinked : sp.Linked)
    (hentry : s.HasEntry sp.surface) (hnode : win.hasNode sp.surface = true) :
    (s.positionAndPresent cfg win surf created sp).Shown sp.surface := by
  obtain ⟨sp', hsp'⟩ := Option.isSome_iff_exists.mp hplaced
  obtain ⟨hsurface, -, hpresent, -⟩ := Subpresent.positionAndPresent_spec hsp' hlinked
  unfold Subpresents.positionAndPresent
  rw [hsp']
  dsimp only
  constructor
  -- its node is disabled, and its entry has the window
  · unfold setSceneEnabled
    rw [hsurface, if_pos hnode]
    simp
  · rw [setSceneEnabled_entries]
    obtain ⟨e, he, heq⟩ := hentry
    refine ⟨_, List.mem_map_of_mem he, ?_⟩
    rw [if_pos (heq.trans hsurface.symm)]
    exact ⟨hsurface, hpresent⟩

/-- What `subpresent_get_or_create` gives belongs to the toplevel; no buffer is enabled or disabled
by it, and what is shown stays shown. -/
theorem getOrCreate_spec {surface : Nat} {offset : Point} {memory : Bool} {s' : Subpresents}
    (hunique : (s.entries.map (·.surface)).Nodup)
    (hget : s.getOrCreate win surface offset memory = some (s', sp)) :
    sp.surface = surface ∧ s'.HasEntry surface ∧ s'.disabled = s.disabled ∧
      (∀ x, s.HasEntry x → s'.HasEntry x) ∧ ∀ x, s.Shown x → s'.Shown x := by
  unfold getOrCreate at hget
  split at hget
  · rename_i sp₀ hfind
    obtain ⟨hmem, hsurface⟩ := find_some hfind
    simp only [Option.some.injEq, Prod.mk.injEq] at hget
    obtain ⟨rfl, rfl⟩ := hget
    refine ⟨hsurface, ?_, rfl, fun x hx => hx.set, ?_⟩
    · exact HasEntry.set ⟨sp₀, hmem, hsurface⟩
    · rintro x ⟨hdisabled, e, he, rfl, hpresent⟩
      refine ⟨hdisabled, _, List.mem_map_of_mem he, ?_⟩
      split
      · rename_i heq
        -- the entry that is found keeps its window
        obtain rfl : e = sp₀ := List.inj_on_of_nodup_map hunique he hmem heq
        exact ⟨rfl, hpresent⟩
      · exact ⟨rfl, hpresent⟩
  · split at hget
    · simp only [Option.some.injEq, Prod.mk.injEq] at hget
      obtain ⟨rfl, rfl⟩ := hget
      refine ⟨rfl, ⟨_, List.mem_cons_self, rfl⟩, rfl, ?_, ?_⟩
      · rintro x ⟨e, he, rfl⟩
        exact ⟨e, List.mem_cons_of_mem _ he, rfl⟩
      · rintro x ⟨hdisabled, e, he, rfl, hpresent⟩
        exact ⟨hdisabled, e, List.mem_cons_of_mem _ he, rfl, hpresent⟩
    · cases hget

section Sync

variable {cfg : Config} {surfaces : Nat → Option SurfaceState} {env : Nat → SubpresentEnv}
  {acc : Subpresents × List Nat} {x : Nat × Point}

/-- A surface is disabled in the scene only after it got its subpresent. -/
theorem Covered.syncIterator (h : acc.1.Covered win.hasNode) (hkept : acc.1.KeptBy win.id) :
    (syncIterator cfg surfaces env win acc x).1.Covered win.hasNode := by
  rcases syncIterator_cases cfg surfaces env win acc x with heq | ⟨s', sp, hget, hplaced⟩
  · rw [heq]
    exact h
  · obtain ⟨hsurface, hentry, hdisabled, hmono, -⟩ := getOrCreate_spec hkept.unique hget
    obtain ⟨-, -, hlinked⟩ := hkept.getOrCreate trivial rfl hget
    -- the entry is there before the node is disabled
    have hcovered : s'.Covered win.hasNode := by
      intro y hy
      rw [hdisabled] at hy
      exact ⟨(h y hy).1, hmono y (h y hy).2⟩
    rcases hplaced with heq | ⟨surf, heq⟩
    · rw [heq]
      exact hcovered
    · rw [heq]
      exact hcovered.positionAndPresent (by rw [hsurface]; exact hentry) hlinked

/-- What is shown stays shown while the tree is walked. -/
theorem Shown.syncIterator {y : Nat} (h : acc.1.Shown y) (hkept : acc.1.KeptBy win.id) :
    (Subpresents.syncIterator cfg surfaces env win acc x).1.Shown y := by
  rcases syncIterator_cases cfg surfaces env win acc x with heq | ⟨s', sp, hget, hplaced⟩
  · rw [heq]
    exact h
  · obtain ⟨-, -, -, -, hmono⟩ := getOrCreate_spec hkept.unique hget
    obtain ⟨-, -, hlinked⟩ := hkept.getOrCreate trivial rfl hget
    rcases hplaced with heq | ⟨surf, heq⟩
    · rw [heq]
      exact hmono y h
    · rw [heq]
      exact (hmono y h).positionAndPresent hlinked

/-- An overflowing surface that gets what it needs is shown and noted. -/
theorem shown_syncIterator (cfg : Config) (hkept : acc.1.KeptBy win.id) (hkeep : (env x.1).keep = true)
    (hmemory : (env x.1).memory = true) (hxpresent : (env x.1).xpresent.isSome = true)
    (hroot : win.place.contentRoot.isSome = true) (hnode : win.hasNode x.1 = true)
    (hsurf : (surfaces x.1).any (fun surf => surf.mapped && surf.size.isSet) = true) :
    (Subpresents.syncIterator cfg surfaces env win acc x).1.Shown x.1 ∧
      (Subpresents.syncIterator cfg surfaces env win acc x).2 = acc.2 ++ [x.1] := by
  unfold Subpresents.syncIterator
  rw [if_pos hkeep]
  -- with memory for it there is an entry
  obtain ⟨⟨s', sp⟩, hget⟩ : ∃ r, acc.1.getOrCreate win x.1 x.2 (env x.1).memory = some r := by
    rw [hmemory]
    unfold getOrCreate
    cases acc.1.find x.1 with
    | none => exact ⟨_, rfl⟩
    | some sp => exact ⟨_, rfl⟩
  obtain ⟨hsurface, hentry, -, -, -⟩ := getOrCreate_spec hkept.unique hget
  obtain ⟨-, -, hlinked⟩ := hkept.getOrCreate trivial rfl hget
  rw [hget]
  dsimp only
  cases hs : surfaces x.1 with
  | none =>
    rw [hs] at hsurf
    cases hsurf
  | some surf =>
    rw [hs, Option.any_some, Bool.and_eq_true] at hsurf
    refine ⟨?_, rfl⟩
    have hplaced := Subpresent.positionAndPresent_isSome cfg sp hsurf.1 hsurf.2 hroot (Or.inr hxpresent)
    have hshown := shown_positionAndPresent hplaced hlinked (by rw [hsurface]; exact hentry)
      (by rw [hsurface]; exact hnode)
    rw [hsurface] at hshown
    exact hshown

/-- The whole walk. -/
theorem foldl_syncIterator_tidy (cfg : Config) (surfaces : Nat → Option SurfaceState)
    (env : Nat → SubpresentEnv) (xs : List (Nat × Point)) (acc : Subpresents × List Nat)
    (hkept : acc.1.KeptBy win.id)
    (hcovered : acc.1.Covered win.hasNode) :
    (xs.foldl (Subpresents.syncIterator cfg surfaces env win) acc).1.KeptBy win.id ∧
      (xs.foldl (Subpresents.syncIterator cfg surfaces env win) acc).1.Covered win.hasNode := by
  induction xs generalizing acc with
  | nil => exact ⟨hkept, hcovered⟩
  | cons x xs ih =>
    exact ih _ (Kept.syncIterator hkept trivial rfl) (hcovered.syncIterator hkept)

/-- Once the walk is over, all that overflows is shown and noted. -/
theorem foldl_syncIterator_shown (cfg : Config) (xs : List (Nat × Point))
    (acc : Subpresents × List Nat) (hkept : acc.1.KeptBy win.id)
    (hroot : xs ≠ [] → win.place.contentRoot.isSome = true)
    (hxs : ∀ x ∈ xs, win.hasNode x.1 = true ∧
      (surfaces x.1).any (fun surf => surf.mapped && surf.size.isSet) = true ∧
      (env x.1).keep = true ∧ (env x.1).memory = true ∧ (env x.1).xpresent.isSome = true) :
    (∀ y, acc.1.Shown y → (xs.foldl (Subpresents.syncIterator cfg surfaces env win) acc).1.Shown y) ∧
      (∀ x ∈ xs, (xs.foldl (Subpresents.syncIterator cfg surfaces env win) acc).1.Shown x.1) ∧
      (xs.foldl (Subpresents.syncIterator cfg surfaces env win) acc).2 = acc.2 ++ xs.map (·.1) := by
  induction xs generalizing acc with
  | nil => exact ⟨fun _ h => h, nofun, (List.append_nil _).symm⟩
  | cons x xs ih =>
    rw [List.forall_mem_cons] at hxs
    obtain ⟨⟨hnode, hsurf, hkeep, hmemory, hxpresent⟩, hxs⟩ := hxs
    obtain ⟨hshown, hnoted⟩ := shown_syncIterator cfg hkept hkeep hmemory hxpresent
      (hroot (List.cons_ne_nil x xs)) hnode hsurf
    obtain ⟨hstay, hall, hkeep⟩ := ih _ (Kept.syncIterator hkept trivial rfl)
      (fun _ => hroot (List.cons_ne_nil x xs)) hxs
    -- what is shown stays shown while the walk goes on
    refine ⟨fun y hy => hstay y (hy.syncIterator hkept), ?_, ?_⟩
    · intro y hy
      rcases List.mem_cons.mp hy with rfl | hy
      · exact hstay _ hshown
      · exact hall y hy
    · rw [List.foldl_cons, hkeep, hnoted, List.append_assoc]
      rfl

/-- The buffer of a surface whose subpresent goes is enabled again. -/
theorem Covered.destroyWhere (h : s.Covered win.hasNode) (hkept : s.KeptBy win.id)
    (p : Subpresent → Bool) : (s.destroyWhere win p).Covered win.hasNode := by
  intro x hx
  simp only [Subpresents.destroyWhere, Bool.and_eq_true, Bool.not_eq_true', List.any_eq_false] at hx
  obtain ⟨hdisabled, hstays⟩ := hx
  obtain ⟨hnode, sp, hsp, hsurface⟩ := h x hdisabled
  refine ⟨hnode, sp, ?_, hsurface⟩
  -- an entry that went would have enabled the buffer
  have hnot := hstays sp hsp
  obtain ⟨-, hparent, -⟩ := hkept.entry sp hsp
  simp only [hparent, hsurface, hnode] at hnot
  rw [Subpresents.destroyWhere, List.mem_filter]
  simpa [hsp, hparent] using hnot

/-- Exactly the surfaces `xs` are shown. -/
structure Shows (win : SubWindow) (s : Subpresents) (xs : List Nat) : Prop where
  kept : s.KeptBy win.id
  covered : s.Covered win.hasNode
  shown : ∀ x ∈ xs, s.Shown x
  only : ∀ sp ∈ s.entries, sp.surface ∈ xs

/-- A sync keeps the registry tidy, whether or not the toplevel has an output. -/
theorem sync_tidy (cfg : Config) (surfaces : Nat → Option SurfaceState) (env : Nat → SubpresentEnv)
    (hkept : s.KeptBy win.id) (hcovered : s.Covered win.hasNode) :
    (s.sync cfg surfaces env win).KeptBy win.id ∧ (s.sync cfg surfaces env win).Covered win.hasNode := by
  refine ⟨hkept.sync (fun _ _ => trivial) fun _ => rfl, ?_⟩
  unfold sync
  split
  · obtain ⟨hkept', hcovered'⟩ := foldl_syncIterator_tidy cfg surfaces env
      (Subpresents.overflowing surfaces win) (s, []) hkept hcovered
    exact hcovered'.destroyWhere hkept' _
  · exact hcovered.destroyWhere hkept _

/-- **A sync that gets what it needs** shows what overflows, and nothing else. -/
theorem shows_sync (hkept : s.KeptBy win.id) (hcovered : s.Covered win.hasNode)
    (hout : win.output = true)
    (hroot : Subpresents.overflowing surfaces win ≠ [] → win.place.contentRoot.isSome = true)
    (henv : ∀ x ∈ Subpresents.overflowing surfaces win,
      (env x.1).keep = true ∧ (env x.1).memory = true ∧ (env x.1).xpresent.isSome = true) :
    (s.sync cfg surfaces env win).Shows win ((Subpresents.overflowing surfaces win).map (·.1)) := by
  obtain ⟨hkept', hcovered'⟩ := sync_tidy cfg surfaces env hkept hcovered
  have hxs : ∀ x ∈ Subpresents.overflowing surfaces win, win.hasNode x.1 = true ∧
      (surfaces x.1).any (fun surf => surf.mapped && surf.size.isSet) = true := by
    intro x hx
    obtain ⟨hwalk, hover⟩ := List.mem_filter.mp hx
    refine ⟨List.contains_iff_mem.mpr (SubsurfaceTree.mem_surfaces_of_forEachSurface _ _ hwalk), ?_⟩
    dsimp only at hover
    cases hs : surfaces x.1 with
    | none => simp [hs] at hover
    | some surf =>
      simp only [hs, Option.any_some, Bool.and_eq_true, decide_eq_true_eq] at hover
      simp only [Option.any_some, Bool.and_eq_true, Size.isSet_iff]
      exact ⟨hover.2.1.1.1, hover.2.1.1.2, hover.2.1.2⟩
  obtain ⟨-, hall, hkeep⟩ := foldl_syncIterator_shown cfg
    (Subpresents.overflowing surfaces win) (s, []) hkept hroot
    (fun x hx => ⟨(hxs x hx).1, (hxs x hx).2, henv x hx⟩)
  have hparent := (foldl_syncIterator_tidy cfg surfaces env (Subpresents.overflowing surfaces win)
    (s, []) hkept hcovered).1.entry
  refine ⟨hkept', hcovered', ?_, ?_⟩
  · intro x hx
    obtain ⟨y, hy, rfl⟩ := List.mem_map.mp hx
    obtain ⟨hdisabled, sp, hsp, hsurface, hpresent⟩ := hall y hy
    -- what the walk noted is not demoted
    have hnoted : ∀ sp : Subpresent, sp.surface = y.1 →
        ((Subpresents.overflowing surfaces win).map (·.1)).contains sp.surface = true := by
      intro sp hsp
      rw [hsp]
      exact List.contains_iff_mem.mpr hx
    unfold sync Shown
    rw [if_pos hout]
    dsimp only
    rw [hkeep]
    unfold Subpresents.destroyWhere
    dsimp only
    constructor
    · rw [hdisabled, Bool.true_and, Bool.not_eq_true', List.any_eq_false]
      intro sp' _
      by_cases hy' : sp'.surface = y.1
      · rw [List.nil_append, hnoted sp' hy']
        simp
      · simp [hy']
    · refine ⟨sp, List.mem_filter.mpr ⟨hsp, ?_⟩, hsurface, hpresent⟩
      rw [List.nil_append, hnoted sp hsurface]
      simp
  -- and whatever it did not note is
  · intro sp hsp
    unfold sync at hsp
    rw [if_pos hout] at hsp
    dsimp only at hsp
    rw [hkeep] at hsp
    obtain ⟨hmem, hsel⟩ := List.mem_filter.mp hsp
    rw [(hparent sp hmem).2.1] at hsel
    simpa using hsel

end Sync

/-- A commit moves no entry to another toplevel. -/
theorem KeptBy.commitSurface (h : s.KeptBy id) (cfg : Config) (window : Nat → Option SubWindow)
    (surfaces : Nat → Option SurfaceState) (env : Nat → SubpresentEnv) (surface : Nat) :
    (s.commitSurface cfg window surfaces env surface).KeptBy id :=
  Kept.commitSurface h surface

/-- The commit enables the buffer of its surface, which is disabled again only with a subpresent. -/
theorem Covered.commitSurface {cfg : Config} {surfaces : Nat → Option SurfaceState}
    {env : Nat → SubpresentEnv} (h : s.Covered win.hasNode) (hkept : s.KeptBy win.id) (surface : Nat) :
    (s.commitSurface cfg (fun w => if w = win.id then some win else none) surfaces env surface).Covered
      win.hasNode := by
  -- enabling a buffer leaves fewer disabled
  have hreconfigure : ∀ {t : Subpresents}, t.Covered win.hasNode →
      Covered win.hasNode { t with disabled := fun x => if x = surface then false else t.disabled x } := by
    intro t ht x hx
    dsimp only at hx
    split at hx
    · cases hx
    · exact ht x hx
  unfold Subpresents.commitSurface
  dsimp only
  cases hfind : s.find surface with
  | none => exact hreconfigure h
  | some sp =>
    obtain ⟨hmem, -⟩ := find_some hfind
    obtain ⟨-, hparent, hlinked⟩ := hkept.entry sp hmem
    dsimp only
    rw [if_pos hparent]
    cases surfaces surface with
    | none =>
      dsimp only
      split <;> exact hreconfigure h
    | some surf =>
      dsimp only
      split
      · exact hreconfigure (h.positionAndPresent ⟨sp, hmem, rfl⟩ hlinked)
      · exact (hreconfigure h).positionAndPresent ⟨sp, hmem, rfl⟩ hlinked

/-- A placement keeps the list of surfaces, -/
theorem positionAndPresent_surfaces {cfg : Config} {surf : SurfaceState} {created : Option Nat} :
    (s.positionAndPresent cfg win surf created sp).entries.map (·.surface) =
      s.entries.map (·.surface) := by
  unfold Subpresents.positionAndPresent
  split
  · rfl
  · rw [setSceneEnabled_entries]
    unfold set
    rw [List.map_map]
    -- an entry is replaced by one of the same surface
    apply List.map_congr_left
    intro e _
    dsimp only [Function.comp]
    split
    · rename_i heq
      exact heq.symm
    · rfl

/-- and so does a commit. -/
theorem commitSurface_surfaces {cfg : Config} {window : Nat → Option SubWindow}
    {surfaces : Nat → Option SurfaceState} {env : Nat → SubpresentEnv} (surface : Nat) :
    (s.commitSurface cfg window surfaces env surface).entries.map (·.surface) =
      s.entries.map (·.surface) := by
  unfold Subpresents.commitSurface
  dsimp only
  cases hfind : s.find surface with
  | none => rfl
  | some sp =>
    dsimp only
    split
    · dsimp only
      split
      · exact positionAndPresent_surfaces
      · rfl
    · split
      · exact positionAndPresent_surfaces
      · rfl

/-- A commit of a surface leaves what is shown as it is, if its own subpresent can be placed. -/
theorem Shows.commitSurface {cfg : Config} {surfaces : Nat → Option SurfaceState}
    {env : Nat → SubpresentEnv} {xs : List Nat} (h : s.Shows win xs) {surface : Nat}
    (hplaced : ∀ sp ∈ s.entries, sp.surface = surface → sp.nodeNewer = false ∧
      win.place.contentRoot.isSome = true ∧
        (surfaces surface).any (fun surf => surf.mapped && surf.size.isSet) = true) :
    (s.commitSurface cfg (fun w => if w = win.id then some win else none) surfaces env surface).Shows
      win xs := by
  refine ⟨h.kept.commitSurface cfg _ surfaces env surface, h.covered.commitSurface h.kept surface, ?_, ?_⟩
  · intro x hx
    have hshown := h.shown x hx
    obtain ⟨hdisabled, e, he, hex, hpresent⟩ := hshown
    unfold Subpresents.commitSurface
    dsimp only
    -- the commit enables the buffer of its own surface only
    have hother : x ≠ surface →
        Shown { s with disabled := fun y => if y = surface then false else s.disabled y } x := by
      intro hne
      refine ⟨?_, e, he, hex, hpresent⟩
      dsimp only
      rw [if_neg hne]
      exact hdisabled
    cases hfind : s.find surface with
    | none =>
      apply hother
      intro heq
      have hnone := List.find?_eq_none.mp hfind e he
      simp [hex, heq] at hnone
    | some sp =>
      obtain ⟨hmem, hsurface⟩ := find_some hfind
      obtain ⟨-, hparent, hlinked⟩ := h.kept.entry sp hmem
      obtain ⟨hnewer, hroot, hsurf⟩ := hplaced sp hmem hsurface
      obtain ⟨surf, hs, hset⟩ := (Option.any_eq_true _ _).mp hsurf
      rw [Bool.and_eq_true] at hset
      dsimp only
      rw [hnewer, if_pos hparent, hs]
      simp only [Bool.false_eq_true, if_false]
      by_cases hne : x = surface
      · -- and its subpresent disables it again
        have hesp : e = sp := List.inj_on_of_nodup_map h.kept.unique he hmem
          (hex.trans (hne.trans hsurface.symm))
        rw [hne, ← hsurface]
        refine shown_positionAndPresent ?_ hlinked ⟨sp, hmem, rfl⟩ ?_
        · exact Subpresent.positionAndPresent_isSome cfg sp hset.1 hset.2 hroot
            (Or.inl (by rw [← hesp]; exact hpresent))
        · rw [hsurface, ← hne]
          exact (h.covered x hdisabled).1
      · exact (hother hne).positionAndPresent hlinked
  · intro sp hsp
    have hmem := List.mem_map_of_mem (f := (·.surface)) hsp
    rw [commitSurface_surfaces, List.mem_map] at hmem
    obtain ⟨sp₀, hsp₀, heq⟩ := hmem
    rw [← heq]
    exact h.only sp₀ hsp₀

/-- A node that is new is enabled. -/
theorem Covered.renode (h : s.Covered win.hasNode) (after : Nat → Bool) :
    (s.renode win.hasNode after).Covered after := by
  intro x hx
  simp only [Subpresents.renode, Bool.and_eq_true] at hx
  obtain ⟨⟨hdisabled, -⟩, hafter⟩ := hx
  obtain ⟨-, sp, hsp, rfl⟩ := h x hdisabled
  refine ⟨hafter, _, List.mem_map_of_mem hsp, ?_⟩
  split <;> rfl

/-- An entry whose surface has a node already is not changed. -/
theorem renode_entries {before after : Nat → Bool} (h : ∀ e ∈ s.entries, before e.surface = true) :
    (s.renode before after).entries = s.entries := by
  unfold Subpresents.renode
  dsimp only
  conv_rhs => rw [← List.map_id s.entries]
  apply List.map_congr_left
  intro e he
  simp [h e he]

/-- What is shown stays shown if all that is shown keeps its node. -/
theorem Shows.renode {win' : SubWindow} {xs : List Nat} (h : s.Shows win xs) (hid : win'.id = win.id)
    (hafter : ∀ x ∈ xs, win'.hasNode x = true) :
    (s.renode win.hasNode win'.hasNode).Shows win' xs := by
  refine ⟨?_, h.covered.renode _, ?_, ?_⟩
  · rw [hid]
    exact h.kept.renode _ _
  · intro x hx
    obtain ⟨hdisabled, e, he, hex, hpresent⟩ := h.shown x hx
    constructor
    · simp only [Subpresents.renode, Bool.and_eq_true]
      exact ⟨⟨hdisabled, (h.covered x hdisabled).1⟩, hafter x hx⟩
    -- a node that comes back changes the order of the listeners, not the window
    · refine ⟨_, List.mem_map_of_mem he, ?_⟩
      split
      · exact ⟨hex, hpresent⟩
      · exact ⟨hex, hpresent⟩
  · intro sp hsp
    obtain ⟨e, he, rfl⟩ := List.mem_map.mp hsp
    split
    · exact h.only e he
    · exact h.only e he

/-- What has an entry has a node. -/
theorem Shows.hasNode {xs : List Nat} (h : s.Shows win xs) :
    ∀ e ∈ s.entries, win.hasNode e.surface = true :=
  fun e he => (h.covered _ (h.shown _ (h.only e he)).1).1

/-- Which surfaces are shown, not in which order they are listed. -/
theorem Shows.congr {xs ys : List Nat} (h : s.Shows win xs) (hxy : ∀ x, x ∈ xs ↔ x ∈ ys) :
    s.Shows win ys :=
  ⟨h.kept, h.covered, fun x hx => h.shown x ((hxy x).mpr hx), fun sp hsp => (hxy _).mp (h.only sp hsp)⟩

/-- It depends on the tree and the toplevel's id only. -/
theorem Shows.of_tree {win' : SubWindow} {xs : List Nat} (h : s.Shows win xs) (hid : win'.id = win.id)
    (htree : win'.tree = win.tree) : s.Shows win' xs := by
  have hnode : win'.hasNode = win.hasNode := by
    unfold SubWindow.hasNode
    rw [htree]
  refine ⟨?_, ?_, h.shown, h.only⟩
  · rw [hid]
    exact h.kept
  · rw [hnode]
    exact h.covered

/-- Nothing is shown once there are no entries. -/
theorem shows_nil (hcovered : s.Covered win.hasNode) (hentries : s.entries = []) : s.Shows win [] := by
  refine ⟨⟨?_, ?_⟩, hcovered, nofun, ?_⟩
  · rw [hentries]
    exact List.nodup_nil
  · rw [hentries]
    exact fun _ hmem => absurd hmem List.not_mem_nil
  · rw [hentries]
    exact fun _ hmem => absurd hmem List.not_mem_nil

/-- A subpresent that is shown can be placed anew. -/
theorem Shows.positionAndPresent {cfg : Config} {surf : SurfaceState} {created : Option Nat}
    {xs : List Nat} (h : s.Shows win xs) (hx : sp.surface ∈ xs) (hparent : sp.parent = win.id)
    (hlinked : sp.Linked) :
    (s.positionAndPresent cfg win surf created sp).Shows win xs := by
  have hentry : s.HasEntry sp.surface := by
    obtain ⟨-, e, he, heq, -⟩ := h.shown _ hx
    exact ⟨e, he, heq⟩
  refine ⟨h.kept.positionAndPresent hparent hlinked, h.covered.positionAndPresent hentry hlinked,
    fun x hx => (h.shown x hx).positionAndPresent hlinked, ?_⟩
  · intro e he
    have hmem := List.mem_map_of_mem (f := (·.surface)) he
    rw [positionAndPresent_surfaces, List.mem_map] at hmem
    obtain ⟨e₀, he₀, heq⟩ := hmem
    rw [← heq]
    exact h.only e₀ he₀

/-- The entries of one surface go, and its buffer is enabled. -/
theorem Shows.destroySurface {xs : List Nat} (h : s.Shows win xs) (surface : Nat) :
    (s.destroyWhere win (·.surface = surface)).Shows win (xs.filter (· ≠ surface)) := by
  have hentries : ∀ e ∈ s.entries, e.surface ≠ surface →
      e ∈ (s.destroyWhere win (·.surface = surface)).entries := by
    intro e he hne
    refine List.mem_filter.mpr ⟨he, ?_⟩
    simp [hne]
  refine ⟨h.kept.filter rfl, h.covered.destroyWhere h.kept _, ?_, ?_⟩
  · intro x hx
    obtain ⟨hx, hne⟩ := List.mem_filter.mp hx
    rw [decide_eq_true_eq] at hne
    obtain ⟨hdisabled, e, he, rfl, hpresent⟩ := h.shown x hx
    refine ⟨?_, e, hentries e he hne, rfl, hpresent⟩
    simp only [Subpresents.destroyWhere, hdisabled, Bool.true_and, Bool.not_eq_true', List.any_eq_false]
    intro e' _
    -- only the entry of the destroyed surface enables a buffer
    by_cases heq : e'.surface = surface
    · simp [heq, hne.symm]
    · simp [heq]
  · intro sp hsp
    obtain ⟨hmem, hsel⟩ := List.mem_filter.mp hsp
    rw [(h.kept.entry sp hmem).2.1] at hsel
    refine List.mem_filter.mpr ⟨h.only sp hmem, ?_⟩
    simpa using hsel

end Subpresents

namespace OverflowSession

variable {cfg : Config} {v v' : OverflowSession}

/-- The registry is the toplevel's, and empty while it has no output. -/
structure Tidy (v : OverflowSession) : Prop where
  kept : v.subs.KeptBy v.win.id
  covered : v.subs.Covered v.win.hasNode
  bare : v.win.output = false → v.subs.entries = []

/-- The clients' part of a commit changes nodes and no entries. -/
theorem Tidy.change (h : v.Tidy) (c : TreeChange) : (v.change c).Tidy where
  kept := h.kept.renode _ _
  covered := h.covered.renode _
  bare := by
    intro hout
    have hnil := h.bare (Bool.or_eq_false_iff.mp hout).1
    simp only [OverflowSession.change, Subpresents.renode, hnil, List.map_nil]

/-- Without an output a sync empties the registry. -/
theorem Tidy.sync (h : v.Tidy) (env : Nat → SubpresentEnv) : (v.sync cfg env).Tidy where
  kept := (Subpresents.sync_tidy cfg v.surfaces env h.kept h.covered).1
  covered := (Subpresents.sync_tidy cfg v.surfaces env h.kept h.covered).2
  bare := by
    intro hout
    have hnil := h.bare hout
    simp only [OverflowSession.sync] at hout ⊢
    simp [Subpresents.sync, hout, Subpresents.destroyOf, Subpresents.destroyWhere, hnil]

/-- A commit adds no entries. -/
theorem Tidy.commitSurface (h : v.Tidy) (env : Nat → SubpresentEnv) (surface : Nat) :
    (v.commitSurface cfg env surface).Tidy where
  kept := by
    dsimp only [OverflowSession.commitSurface]
    exact Subpresents.KeptBy.commitSurface h.kept cfg _ v.surfaces env surface
  covered := h.covered.commitSurface h.kept surface
  bare := by
    intro hout
    apply List.map_eq_nil_iff.mp
    rw [OverflowSession.commitSurface, Subpresents.commitSurface_surfaces, h.bare hout]
    rfl

/-- The program's part of a commit, after the clients'. -/
theorem Tidy.part (h : v.Tidy) (c : TreeChange) : (v.part cfg c).Tidy := by
  unfold OverflowSession.part
  have hsync : (if c.newSubsurface then (v.change c).sync cfg c.env else v.change c).Tidy := by
    split
    · exact (h.change c).sync c.env
    · exact h.change c
  cases c.committed with
  | none => exact hsync
  | some surface => exact hsync.commitSurface c.env surface

/-- All parts of a commit. -/
theorem Tidy.parts (cfg : Config) (h : v.Tidy) (parts : List TreeChange) :
    (parts.foldl (OverflowSession.part cfg) v).Tidy := by
  induction parts generalizing v with
  | nil => exact h
  | cons c parts ih => exact ih (h.part c)

/-- The program's part leaves the toplevel and the surfaces as the clients made them. -/
theorem part_eq (cfg : Config) (v : OverflowSession) (c : TreeChange) :
    (v.part cfg c).win = (v.change c).win ∧ (v.part cfg c).surfaces = (v.change c).surfaces := by
  unfold part
  cases c.newSubsurface <;> cases c.committed <;> exact ⟨rfl, rfl⟩

/-- What the clients do does not depend on what the program does. -/
theorem parts_eq (cfg : Config) (parts : List TreeChange) (hwin : v.win = v'.win)
    (hsurfaces : v.surfaces = v'.surfaces) :
    (parts.foldl (part cfg) v).win = (v'.changes parts).win ∧
      (parts.foldl (part cfg) v).surfaces = (v'.changes parts).surfaces := by
  induction parts generalizing v v' with
  | nil => exact ⟨hwin, hsurfaces⟩
  | cons c parts ih =>
    obtain ⟨hwin', hsurfaces'⟩ := part_eq cfg v c
    apply ih
    · rw [hwin']
      simp only [change, hwin]
    · rw [hsurfaces']
      simp only [change, hsurfaces]

/-- What overflows is the clients' doing. -/
theorem overflowing_congr (hwin : v.win = v'.win) (hsurfaces : v.surfaces = v'.surfaces) :
    v.overflowing = v'.overflowing := by
  rw [overflowing, overflowing, hwin, hsurfaces]

/-- What overflows is in the tree, and mapped. -/
theorem mem_overflowing {x : Nat} (h : x ∈ v.overflowing) :
    v.win.hasNode x = true ∧ (v.surfaces x).any (·.mapped) = true := by
  obtain ⟨y, hy, rfl⟩ := List.mem_map.mp h
  obtain ⟨hwalk, hover⟩ := List.mem_filter.mp hy
  refine ⟨List.contains_iff_mem.mpr (SubsurfaceTree.mem_surfaces_of_forEachSurface _ _ hwalk), ?_⟩
  dsimp only at hover
  cases hs : v.surfaces y.1 with
  | none => simp [hs] at hover
  | some surf =>
    simp only [hs, Option.any_some, Bool.and_eq_true] at hover
    exact hover.2.1.1.1

/-- What overflows is shown, and nothing else. -/
structure Inv (v : OverflowSession) : Prop where
  shows : v.subs.Shows v.win v.overflowing
  bare : v.win.output = false → v.subs.entries = []

/-- The invariant gives what a handler needs to know of the registry. -/
theorem Inv.tidy (h : v.Inv) : v.Tidy := ⟨h.shows.kept, h.shows.covered, h.bare⟩

/-- A surface is presented if and only if it overflows, and just then it is disabled in the scene. -/
theorem Inv.exact (h : v.Inv) : v.Exact := by
  intro x
  have hpresented : v.Presented x ↔ x ∈ v.overflowing := by
    -- to be presented and to be listed are one thing, since no entry is without a window
    constructor
    · rintro ⟨sp, hsp, rfl, -⟩
      exact h.shows.only sp hsp
    · exact fun hx => (h.shows.shown x hx).2
  refine ⟨hpresented, ?_⟩
  rw [hpresented]
  constructor
  · intro hdisabled
    obtain ⟨-, sp, hsp, rfl⟩ := h.shows.covered x hdisabled
    exact h.shows.only sp hsp
  · exact fun hx => (h.shows.shown x hx).1

/-- A part of a commit of another surface than the toplevel's leaves what is shown as it is. -/
theorem shows_part {xs : List Nat} (h : v.subs.Shows v.win xs) {c : TreeChange}
    (hnew : c.newSubsurface = false) (hquiet : v.Quiet c) :
    (v.part cfg c).subs.Shows (v.part cfg c).win xs := by
  -- first what the clients change, then the commit itself
  have hchange : (v.change c).subs.Shows (v.change c).win xs := by
    refine h.renode rfl fun x hx => ?_
    obtain ⟨-, sp, hsp, rfl, -⟩ := h.shown x hx
    exact (hquiet sp hsp).1
  unfold part
  rw [hnew]
  cases hcommitted : c.committed with
  | none => exact hchange
  | some surface =>
    refine hchange.commitSurface fun sp hsp hsurface => ?_
    change sp ∈ (v.subs.renode v.win.hasNode (v.change c).win.hasNode).entries at hsp
    rw [Subpresents.renode_entries h.hasNode] at hsp
    rw [← hsurface] at hcommitted ⊢
    exact (hquiet sp hsp).2 hcommitted

/-- So does a whole commit of subsurfaces, if each part is quiet. -/
theorem shows_parts {xs : List Nat} (h : v.subs.Shows v.win xs) {parts : List TreeChange}
    (hnew : ∀ c ∈ parts, c.newSubsurface = false)
    (hquiet : Run.Along (fun v c => some (v.part cfg c)) Quiet v parts) :
    (parts.foldl (part cfg) v).subs.Shows (parts.foldl (part cfg) v).win xs := by
  induction parts generalizing v with
  | nil => exact h
  | cons c parts ih =>
    rw [List.forall_mem_cons] at hnew
    obtain ⟨hquiet, hrest⟩ := (Run.along_cons rfl).mp hquiet
    exact ih (shows_part h hnew.1 hquiet) hnew.2 hrest

/-- All entries are placed anew, in the order of the list. -/
theorem shows_reposition {win : SubWindow} {xs : List Nat} {subs : Subpresents}
    (surfaces : Nat → Option SurfaceState) (env : Nat → SubpresentEnv) (h : subs.Shows win xs)
    (hentries : ∀ sp ∈ subs.entries, sp.surface ∈ xs ∧ sp.parent = win.id ∧ sp.Linked) :
    (subs.reposition cfg surfaces env win).Shows win xs := by
  refine List.foldlRecOn (motive := fun t : Subpresents => t.Shows win xs) _ _ h fun t ht sp hsp => ?_
  obtain ⟨hx, hparent, hlinked⟩ := hentries sp hsp
  split
  · cases surfaces sp.surface with
    | none => exact ht
    | some surf => exact ht.positionAndPresent hx hparent hlinked
  · exact ht

/-- A commit of the toplevel's surface that gets what it needs. -/
theorem Inv.commitToplevel (h : v.Inv) (cfg : Config) {parts : List TreeChange}
    {env : Nat → SubpresentEnv} (hserved : (v.changes parts).Served env) :
    (if (parts.foldl (part cfg) v).win.output then (parts.foldl (part cfg) v).sync cfg env
      else parts.foldl (part cfg) v).Inv := by
  have htidy := h.tidy.parts cfg parts
  -- what is asked for of the changes holds when the sync comes
  obtain ⟨hwin, hsurfaces⟩ := parts_eq cfg parts (v := v) rfl rfl
  have hover := overflowing_congr hwin hsurfaces
  obtain ⟨hneeds, henv⟩ := hserved
  rw [← hover, ← hwin] at hneeds
  rw [← hover] at henv
  split
  · rename_i hout
    refine ⟨Subpresents.shows_sync htidy.kept htidy.covered hout ?_ ?_, ?_⟩
    · intro hne
      exact (hneeds fun hnil => hne (List.map_eq_nil_iff.mp hnil)).2
    · intro x hx
      exact henv x.1 (List.mem_map_of_mem hx)
    · exact (htidy.sync env).bare
  · -- without an output nothing overflows, and nothing is shown
    rename_i hout
    rw [Bool.not_eq_true] at hout
    refine ⟨?_, htidy.bare⟩
    have hnil : (parts.foldl (part cfg) v).overflowing = [] := by
      by_contra hne
      rw [(hneeds hne).1] at hout
      cases hout
    rw [hnil]
    exact Subpresents.shows_nil htidy.covered (htidy.bare hout)

/-- A commit of another surface after which the same surfaces overflow. -/
theorem Inv.commitOther (h : v.Inv) {parts : List TreeChange}
    (hall : parts.all (!v.ofToplevel ·) = true) (hsame : v.SameOverflow (v.changes parts))
    (hquiet : Run.Along (fun v c => some (v.part cfg c)) Quiet v parts) :
    (parts.foldl (part cfg) v).Inv := by
  obtain ⟨hwin, hsurfaces⟩ := parts_eq cfg parts (v := v) rfl rfl
  have hnew : ∀ c ∈ parts, c.newSubsurface = false := by
    intro c hc
    have hc' := List.all_eq_true.mp hall c hc
    simp [ofToplevel] at hc'
    exact hc'.1.1
  refine ⟨?_, (h.tidy.parts cfg parts).bare⟩
  rw [overflowing_congr hwin hsurfaces]
  exact (shows_parts h.shows hnew hquiet).congr fun x => ⟨hsame.1 x, hsame.2 x⟩

/-- The toplevel's surface is unmapped, and all its subsurfaces with it. -/
theorem Inv.unmap (h : v.Inv) : (OverflowSession.mk { v.win with output := false }
    (fun x => (v.surfaces x).map fun st =>
      if v.win.hasNode x then { st with mapped := false } else st)
    (v.subs.destroyOf v.win)).Inv := by
  -- all entries are of this toplevel
  have hnil : (v.subs.destroyOf v.win).entries = [] := by
    refine List.filter_eq_nil_iff.mpr fun sp hsp => ?_
    simp [(h.shows.kept.entry sp hsp).2.1]
  have hcovered := h.shows.covered.destroyWhere h.shows.kept fun _ => true
  have hshows : Subpresents.Shows { v.win with output := false } (v.subs.destroyOf v.win) [] :=
    (Subpresents.shows_nil hcovered hnil).of_tree rfl rfl
  refine ⟨hshows.congr fun x => ?_, fun _ => hnil⟩
  constructor
  · intro hx
    cases hx
  · intro hx
    obtain ⟨hnode, hmapped⟩ := mem_overflowing hx
    change v.win.hasNode x = true at hnode
    dsimp only at hmapped
    cases hs : v.surfaces x with
    | none => simp [hs] at hmapped
    | some surf => simp [hs, hnode] at hmapped

/-- Each step that is attended to keeps what is shown to what overflows. One case per event. -/
theorem Inv.step (h : v.Inv) {a : OverflowAction} (hattended : v.Attended cfg a)
    (hstep : v.step cfg a = some v') : v'.Inv := by
  cases a with
  | commit parts toplevel env =>
    unfold OverflowSession.step at hstep
    unfold Attended at hattended
    cases toplevel with
    | true =>
      dsimp only at hstep hattended
      simp only [if_true, Option.some.injEq] at hstep hattended
      rw [← hstep]
      exact h.commitToplevel cfg hattended
    | false =>
      simp only [Bool.false_eq_true, if_false, Option.ite_none_right_eq_some, Option.some.injEq]
        at hstep hattended
      obtain ⟨hall, rfl⟩ := hstep
      exact h.commitOther hall hattended.1 hattended.2
  | unmap =>
    cases hstep
    exact h.unmap
  | destroySurface surface =>
    simp only [OverflowSession.step, Option.ite_none_left_eq_some, Option.some.injEq] at hstep
    obtain ⟨hroot, rfl⟩ := hstep
    obtain ⟨hstays, hcomes⟩ := hattended
    constructor
    · -- what is left to show overflows as before
      have hleft : ∀ x, x ∈ v.overflowing.filter (· ≠ surface) ↔ x ∈ overflowing
          ⟨{ v.win with tree := v.win.tree.prune surface },
            fun x => if x = surface then none else v.surfaces x, v.subs⟩ := by
        intro x
        rw [List.mem_filter, decide_eq_true_eq]
        constructor
        · exact fun hx => hstays x hx.1 hx.2
        · intro hx
          have hnode := List.contains_iff_mem.mp (mem_overflowing hx).1
          exact ⟨hcomes x hx, (SubsurfaceTree.mem_surfaces_prune _ hroot hnode).2⟩
      refine Subpresents.Shows.congr ((h.shows.destroySurface surface).renode rfl fun x hx => ?_) hleft
      exact (mem_overflowing ((hleft x).mp hx)).1
    · intro hout
      have hnil := h.bare hout
      simp [Subpresents.renode, Subpresents.destroyWhere, hnil]
  -- a window that is destroyed here belongs to none of the entries
  | presentDestroyed p =>
    cases hstep
    rw [Subpresents.presentDestroyed_eq_self hattended]
    obtain ⟨hkept, hcovered, hshown, honly⟩ := h.shows
    exact ⟨⟨⟨hkept.unique, hkept.entry⟩, hcovered, hshown, honly⟩, h.bare⟩
  | reposition place env =>
    cases hstep
    have hshows : v.subs.Shows { v.win with place := place } v.overflowing := h.shows.of_tree rfl rfl
    refine ⟨shows_reposition v.surfaces env hshows fun sp hsp => ?_,
      fun hout => ?_⟩
    · exact ⟨h.shows.only sp hsp, (h.shows.kept.entry sp hsp).2⟩
    · simp [Subpresents.reposition, h.bare hout]

/-- **What overflows is shown.** As long as every toplevel's commit gets what it needs and nothing else
changes which subsurfaces overflow, each surface that is mapped and overflows, and no other, has a
present window, and the scene buffers of exactly these are disabled. -/
theorem exact_of_attended (cfg : Config) (root : Nat) (place : PopupWindow) (as : List OverflowAction)
    (v : OverflowSession)
    (hattended : Run.Along (OverflowSession.step cfg) (Attended cfg) (init root place) as)
    (hrun : Run.run (OverflowSession.step cfg) (init root place) as = some v) : v.Exact := by
  have hinit : (init root place).Inv := by
    have hnil : (init root place).overflowing = [] := by
      simp [overflowing, Subpresents.overflowing, init, SubsurfaceTree.forEachSurface,
        SubsurfaceTree.forEachSubsurface, SubsurfaceTree.surface]
    refine ⟨?_, fun _ => rfl⟩
    rw [hnil]
    refine Subpresents.shows_nil (fun x hx => ?_) rfl
    cases hx
  exact (Run.run_invariant_of_along (fun _ _ _ h ha hstep => h.step ha hstep) hinit hattended hrun).exact

/-- Memory for everything, and the present window `p` if one is to be created. -/
def serves (p : Nat) : Nat → SubpresentEnv := fun _ => ⟨true, true, some p⟩

def editorPlace : PopupWindow := ⟨some ⟨100, 100⟩, ⟨0, 0, 640, 480⟩⟩

/-- An editor with a menu that is not mapped yet. -/
def editorOpens : OverflowAction :=
  .commit
    [⟨[(0, ⟨true, ⟨640, 480⟩, some ⟨640, 480⟩⟩)], .mk 0 ⟨0, 0⟩ [] [], editorPlace, some true, false, some 0,
        serves 7⟩,
      ⟨[(1, ⟨false, ⟨0, 0⟩, none⟩)], .mk 0 ⟨0, 0⟩ [] [.mk 1 ⟨-20, 10⟩ [] []], editorPlace, none, true, none,
        serves 7⟩]
    true (serves 7)

/-- The menu gets a buffer; its commit is applied when it is made, or with the toplevel's. -/
def menuMaps (toplevel : Bool) : OverflowAction :=
  .commit
    [⟨[(1, ⟨true, ⟨200, 300⟩, some ⟨200, 300⟩⟩)], .mk 0 ⟨0, 0⟩ [] [.mk 1 ⟨-20, 10⟩ [] []], editorPlace, none,
      false, some 1, serves 7⟩]
    toplevel (serves 7)

/-- The menu opens with a commit of the editor's surface, is drawn anew and moves with the window. -/
def menuSession : List OverflowAction :=
  [editorOpens, menuMaps true, menuMaps false,
    .reposition ⟨some ⟨300, 40⟩, ⟨0, 0, 640, 480⟩⟩ (serves 8)]

theorem menuSession_exact : ∃ v,
    Run.run (OverflowSession.step ⟨1, true⟩) (init 0 editorPlace) menuSession = some v ∧ v.Presented 1 ∧
      v.Exact := by
  have hany : (Run.run (OverflowSession.step ⟨1, true⟩) (init 0 editorPlace) menuSession).any
      (fun v => decide (v.Presented 1)) = true := by decide +kernel
  obtain ⟨v, hrun, hpresented⟩ := (Option.any_eq_true ..).mp hany
  exact ⟨v, hrun, of_decide_eq_true hpresented,
    exact_of_attended ⟨1, true⟩ 0 editorPlace menuSession v (by decide +kernel) hrun⟩

/-- **A menu that opens by its own commit.** The subsurface is desynchronized and commits a buffer of its
own that sticks out to the left: nothing looks for what overflows then. -/
theorem menu_not_presented : ¬ ∀ (cfg : Config) (root : Nat) (place : PopupWindow)
    (as : List OverflowAction) (v : OverflowSession),
    Run.run (OverflowSession.step cfg) (init root place) as = some v → v.Exact := by
  intro hall
  have hany : (Run.run (OverflowSession.step ⟨1, true⟩) (init 0 editorPlace)
      [editorOpens, menuMaps false]).any
      (fun v => decide (1 ∈ v.overflowing ∧ ¬v.Presented 1)) = true := by decide +kernel
  obtain ⟨v, hrun, hmissed⟩ := (Option.any_eq_true ..).mp hany
  obtain ⟨hover, hnot⟩ := of_decide_eq_true hmissed
  have hexact := hall ⟨1, true⟩ 0 editorPlace [editorOpens, menuMaps false] v hrun
  exact hnot ((hexact 1).1.mpr hover)

end OverflowSession

end Wlx
