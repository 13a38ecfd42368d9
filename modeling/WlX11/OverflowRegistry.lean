import WlX11.SubpresentOverflow

/-!
# WlX11 — one toplevel of the registry

`SubpresentOverflow` follows one toplevel through the parts of its commits, `SubpresentRegistry` all toplevels
there are, in smaller steps. They share the handlers, and what one toplevel does is something the registry of
all toplevels can go through.

* **`server`** — the registry with this toplevel only.
* **`Possible`** — the surfaces of the trees are there, and present windows get the names they have in the
  registry.
* **`reachable_of_step`** — a step of the toplevel is a run of the registry.
* **`session_wellFormed`** — so its registry is well formed, whether what overflows is shown or not.
-/

namespace Wlx

namespace Subpresents

variable {s : Subpresents} {win : SubWindow}

/-- Where only surfaces with a node are disabled, nothing becomes of a scene that stays. -/
theorem renode_self {hasNode : Nat → Bool} (h : s.Covered hasNode) :
    s.renode hasNode hasNode = s := by
  have hdisabled : (fun x => s.disabled x && hasNode x && hasNode x) = s.disabled := by
    funext x
    cases hx : s.disabled x with
    | false => rfl
    | true => simp [(h x hx).1]
  unfold Subpresents.renode
  rw [hdisabled]
  simp

/-- Nothing is destroyed where nothing is selected. -/
theorem destroyWhere_eq_self {p : Subpresent → Bool}
    (h : ∀ e ∈ s.entries, p e = false) : s.destroyWhere win p = s := by
  have hany : ∀ q : Subpresent → Bool, (∀ e, p e = false → q e = false) → s.entries.any q = false := by
    intro q hq
    rw [List.any_eq_false]
    intro e he
    simp [hq e (h e he)]
  -- entries, nodes and X windows are filtered by the same test, which is false throughout
  have hentries : (s.entries.filter fun e => !(e.parent = win.id && p e)) = s.entries := by
    rw [List.filter_eq_self]
    intro e he
    simp [h e he]
  have hdisabled : (fun x => s.disabled x &&
      !(s.entries.any fun e => e.parent = win.id && p e && e.surface = x && win.hasNode x)) = s.disabled := by
    funext x
    rw [hany _ fun e he => by simp [he], Bool.not_false, Bool.and_true]
  have hpresents : (s.presents.filter fun x =>
      !(s.entries.any fun e => e.parent = win.id && p e && e.xpresent = some x)) = s.presents := by
    rw [List.filter_eq_self]
    intro x _
    rw [hany _ fun e he => by simp [he], Bool.not_false]
  unfold Subpresents.destroyWhere
  rw [hentries, hdisabled, hpresents]

theorem Covered.presentDestroyed {hasNode : Nat → Bool} (h : s.Covered hasNode)
    (onNode : Subpresent → Bool) (p : Nat) : (s.presentDestroyed onNode p).Covered hasNode := by
  intro x hx
  obtain ⟨hdisabled, -⟩ := Bool.and_eq_true_iff.mp hx
  obtain ⟨hnode, sp, hsp, rfl⟩ := h x hdisabled
  refine ⟨hnode, _, List.mem_map_of_mem hsp, ?_⟩
  split <;> rfl

theorem Covered.reposition (h : s.Covered win.hasNode) (hlinked : ∀ sp ∈ s.entries, sp.Linked) (cfg : Config)
    (surfaces : Nat → Option SurfaceState) (env : Nat → SubpresentEnv) :
    (s.reposition cfg surfaces env win).Covered win.hasNode := by
  refine (List.foldlRecOn (motive := fun t : Subpresents => t.Covered win.hasNode ∧ ∀ x, s.HasEntry x → t.HasEntry x)
    _ _ ⟨h, fun _ hx => hx⟩ fun t ht sp hsp => ?_).1
  obtain ⟨hcovered, hentries⟩ := ht
  split
  · cases surfaces sp.surface with
    | none => exact ⟨hcovered, hentries⟩
    | some surf =>
      exact ⟨hcovered.positionAndPresent (hentries _ ⟨sp, hsp, rfl⟩) (hlinked sp hsp),
        fun x hx => (hentries x hx).positionAndPresent⟩
  · exact ⟨hcovered, hentries⟩

end Subpresents

namespace OverflowSession

variable {cfg : Config} {v v' : OverflowSession} {env : Nat → SubpresentEnv}

/-- The registry with this toplevel only. -/
def server (v : OverflowSession) : SubpresentServer := ⟨[v.win], v.surfaces, v.subs⟩

/-- The present windows that a handler creates in this state get the names of the registry. -/
def Names (v : OverflowSession) (env : Nat → SubpresentEnv) : Prop := Subpresents.Named v.subs.newName env

/-- The surfaces of the tree are there, and present windows get their names. -/
structure PossiblePart (cfg : Config) (v : OverflowSession) (c : TreeChange) : Prop where
  tree : ∀ x ∈ c.tree.surfaces, ((v.change c).surfaces x).isSome = true
  sync : c.newSubsurface = true → (v.change c).Names c.env
  commit : c.committed.isSome = true →
    (if c.newSubsurface then (v.change c).sync cfg c.env else v.change c).Names c.env

/-- The same of a step; a surface that is destroyed is there. -/
def Possible (cfg : Config) (v : OverflowSession) : OverflowAction → Prop
  | .commit parts toplevel env =>
    Run.Along (fun v c => some (v.part cfg c)) (PossiblePart cfg) v parts ∧
      (toplevel = true → (parts.foldl (part cfg) v).Names env)
  | .unmap | .presentDestroyed _ => True
  | .destroySurface surface => (v.surfaces surface).isSome = true
  | .reposition _ env => v.Names env

/-! ## The toplevel in the registry -/

theorem server_window (v : OverflowSession) (w : Nat) :
    v.server.window w = if w = v.win.id then some v.win else none := by
  by_cases h : w = v.win.id <;> simp [server, SubpresentServer.window, h, eq_comm]

theorem server_hasNode (v : OverflowSession) : v.server.hasNode = v.win.hasNode := by
  funext x
  simp [server, SubpresentServer.hasNode]

/-- The names that are given are the registry's. -/
theorem Names.named (h : v.Names env) : v.server.named env = env := by
  funext x
  have hx := h x
  unfold SubpresentServer.named server
  rcases henv : env x with ⟨keep, memory, _ | p⟩
  · rfl
  · rw [henv] at hx
    rw [hx p rfl]
    rfl

/-! ## Handlers -/

/-- Nothing is committed, and the registry goes from one state of the clients to the next. -/
theorem reachable_change {u : SubpresentServer} {c : ClientChange} (h : u.Possible c) :
    Run.Reachable (SubpresentServer.step cfg) u (u.change c) :=
  .of_step (a := .commit c [] none fun _ => ⟨false, false, none⟩) (if_pos h)

/-- The surfaces among these that were not there are created. -/
theorem reachable_newSurfaces (u : SubpresentServer) (xs : List Nat) :
    Run.Reachable (SubpresentServer.step cfg) u
      { u with surfaces := fun x => (u.surfaces x).or (if x ∈ xs then some ⟨false, ⟨0, 0⟩, none⟩ else none) } := by
  -- one step per surface that is not there
  induction xs generalizing u with
  | nil => simpa using Run.Reachable.refl u
  | cons y ys ih =>
    cases hy : u.surfaces y with
    | some st =>
      convert ih u using 2
      funext x
      by_cases hx : x = y <;> simp [hx, hy]
    | none =>
      refine (Run.Reachable.of_step (a := .newSurface y) (if_pos (by rw [hy]; rfl))).trans ?_
      convert ih _ using 2
      funext x
      by_cases hx : x = y <;> simp [hx, hy]

/-- The surfaces are there that a change gives a state, whether they were before or not. -/
def created (v : OverflowSession) (states : List (Nat × SurfaceState)) : SubpresentServer :=
  { v.server with
    surfaces := fun x => (v.surfaces x).or
      (if x ∈ states.map Prod.fst then some ⟨false, ⟨0, 0⟩, none⟩ else none) }

theorem created_surfaces (v : OverflowSession) (states : List (Nat × SurfaceState)) (x : Nat) :
    ((v.created states).surfaces x).map (fun st => (states.lookup x).getD st) =
      (states.lookup x).or (v.surfaces x) := by
  unfold created
  -- a surface is created exactly if it is listed
  cases hl : states.lookup x with
  | none =>
    have hnot : x ∉ states.map Prod.fst := by
      intro hx
      obtain ⟨p, hp, rfl⟩ := List.mem_map.mp hx
      have hne := List.lookup_eq_none_iff.mp hl p hp
      simp at hne
    simp [if_neg hnot]
  | some st =>
    obtain ⟨l₁, l₂, hsplit, -⟩ := List.lookup_eq_some_iff.mp hl
    have hx : x ∈ states.map Prod.fst := by simp [hsplit]
    cases v.surfaces x <;> simp [if_pos hx]

/-- Then a change of the registry's is a change of the session's. -/
theorem change_created (v : OverflowSession) (states : List (Nat × SurfaceState)) (tree : SubsurfaceTree)
    (place : PopupWindow) :
    (v.created states).change ⟨states, [(v.win.id, tree, place)]⟩ =
      server ⟨{ v.win with tree := tree, place := place }, fun x => (states.lookup x).or (v.surfaces x),
        v.subs.renode v.win.hasNode tree.surfaces.contains⟩ := by
  have hbefore : (v.created states).hasNode = v.win.hasNode := server_hasNode v
  unfold SubpresentServer.change
  rw [hbefore]
  simp only [created_surfaces]
  simp only [created, server, List.map_cons, List.map_nil, List.lookup_cons, beq_self_eq_true, SubpresentServer.mk.injEq, true_and]
  exact congrArg (v.subs.renode v.win.hasNode) (server_hasNode ⟨{ v.win with tree := tree, place := place }, _, _⟩)

/-- The clients' part of a change, and the toplevel's output. -/
theorem reachable_changed {c : TreeChange}
    (htree : ∀ x ∈ c.tree.surfaces, ((v.change c).surfaces x).isSome = true) :
    Run.Reachable (SubpresentServer.step cfg) v.server (v.change c).server := by
  -- the surfaces of the new tree are there
  have hpossible : (v.created c.surfaces).Possible ⟨c.surfaces, [(v.win.id, c.tree, c.place)]⟩ := by
    intro t ht x hx
    rw [List.mem_singleton.mp ht] at hx
    have hx := htree x hx
    change ((c.surfaces.lookup x).or (v.surfaces x)).isSome = true at hx
    rwa [← created_surfaces, Option.isSome_map] at hx
  refine (reachable_newSurfaces v.server (c.surfaces.map Prod.fst)).trans ?_
  refine (reachable_change hpossible).trans ?_
  rw [change_created]
  cases hmap : c.map with
  | none =>
    have hsame : v.change c = ⟨{ v.win with tree := c.tree, place := c.place },
        fun x => (c.surfaces.lookup x).or (v.surfaces x),
        v.subs.renode v.win.hasNode c.tree.surfaces.contains⟩ := by
      simp [change, hmap]
      rfl
    rw [hsame]
    exact .refl _
  | some output =>
    refine .of_step (a := .map v.win.id output) ?_
    simp only [SubpresentServer.step, server_window, if_true, Option.map_some]
    simp [server, change, hmap]
    rfl

/-- Surfaces get another state, and nothing else becomes of the clients. -/
theorem change_states (h : v.subs.Covered v.win.hasNode) (states : List (Nat × SurfaceState)) :
    v.server.change ⟨states, []⟩ =
      server ⟨v.win, fun x => (v.surfaces x).map fun st => (states.lookup x).getD st, v.subs⟩ := by
  have hsame : v.server.subs.renode v.server.hasNode v.server.hasNode = v.server.subs := by
    rw [server_hasNode]
    exact Subpresents.renode_self h
  unfold SubpresentServer.change
  simp only [List.lookup_nil, List.map_id']
  exact congrArg (SubpresentServer.mk v.server.windows _) hsame

theorem change_nothing (h : v.Tidy) : v.server.change ⟨[], []⟩ = v.server := by
  rw [change_states h.covered]
  simp [server]

theorem reachable_sync (henv : v.Names env) :
    Run.Reachable (SubpresentServer.step cfg) v.server (v.sync cfg env).server := by
  refine .of_step (a := .newSubsurface v.win.id env) ?_
  simp only [SubpresentServer.step, server_window, if_true, Option.map_some, henv.named]
  rfl

theorem reachable_commitSurface (h : v.Tidy) (henv : v.Names env) (surface : Nat) :
    Run.Reachable (SubpresentServer.step cfg) v.server (v.commitSurface cfg env surface).server := by
  refine .of_step (a := .commit ⟨[], []⟩ [surface] none env) ?_
  have hpossible : v.server.Possible ⟨[], []⟩ := fun _ ht => absurd ht List.not_mem_nil
  have hwindow : v.server.window = fun w => if w = v.win.id then some v.win else none := funext (server_window v)
  simp only [SubpresentServer.step, if_pos hpossible, change_nothing h, henv.named, hwindow]
  rfl

/-- The clients' part first, then the handlers of the program. -/
theorem reachable_part (h : v.Tidy) {c : TreeChange} (hpossible : PossiblePart cfg v c) :
    Run.Reachable (SubpresentServer.step cfg) v.server (v.part cfg c).server := by
  obtain ⟨htree, hsync, hcommit⟩ := hpossible
  have hchanged : Run.Reachable (SubpresentServer.step cfg) v.server
        (if c.newSubsurface then (v.change c).sync cfg c.env else v.change c).server ∧
      (if c.newSubsurface then (v.change c).sync cfg c.env else v.change c).Tidy := by
    split
    · rename_i hnew
      exact ⟨(reachable_changed htree).trans (reachable_sync (hsync hnew)), (h.change c).sync c.env⟩
    · exact ⟨reachable_changed htree, h.change c⟩
  unfold part
  cases hc : c.committed with
  | none => exact hchanged.1
  | some surface =>
    exact hchanged.1.trans (reachable_commitSurface hchanged.2 (hcommit (by rw [hc]; rfl)) surface)

theorem reachable_parts (h : v.Tidy) {parts : List TreeChange}
    (hpossible : Run.Along (fun v c => some (v.part cfg c)) (PossiblePart cfg) v parts) :
    Run.Reachable (SubpresentServer.step cfg) v.server (parts.foldl (part cfg) v).server := by
  induction parts generalizing v with
  | nil => exact .refl _
  | cons c parts ih =>
    obtain ⟨hc, hrest⟩ := (Run.along_cons rfl).mp hpossible
    exact (reachable_part h hc).trans (ih (h.part c) hrest)

/-- `surface_commit` of the toplevel looks for what overflows if there is an output. -/
theorem reachable_surfaceCommit (h : v.Tidy) (henv : v.Names env) :
    Run.Reachable (SubpresentServer.step cfg) v.server (if v.win.output then v.sync cfg env else v).server := by
  refine .of_step (a := .commit ⟨[], []⟩ [] (some v.win.id) env) ?_
  have hpossible : v.server.Possible ⟨[], []⟩ := fun _ ht => absurd ht List.not_mem_nil
  simp only [SubpresentServer.step, if_pos hpossible, change_nothing h, henv.named, Option.bind_some, server_window,
    if_true, List.foldl_nil]
  split <;> rfl

theorem lookup_unmapped (surfaces : Nat → Option SurfaceState) (xs : List Nat) (x : Nat) :
    (xs.filterMap fun y => (surfaces y).map fun st => (y, { st with mapped := false })).lookup x =
      if x ∈ xs then (surfaces x).map fun st => { st with mapped := false } else none := by
  induction xs with
  | nil => rfl
  | cons y ys ih =>
    rw [List.filterMap_cons]
    cases hs : surfaces y with
    | none =>
      -- a surface that is not there has no state to lose
      rw [Option.map_none]
      dsimp only
      rw [ih]
      by_cases hx : x = y <;> simp [hx, hs]
    | some st =>
      rw [Option.map_some]
      dsimp only
      rw [List.lookup_cons]
      by_cases hx : x = y
      · simp [hx, hs]
      · have hne : (x == y) = false := by simpa using hx
        simp [hne, hx, ih]

/-- The toplevel is unmapped, and its subsurfaces with it. -/
theorem reachable_unmap (h : v.Tidy) :
    Run.Reachable (SubpresentServer.step cfg) v.server (server ⟨{ v.win with output := false },
      (fun x => (v.surfaces x).map fun st => if v.win.hasNode x then { st with mapped := false } else st),
      v.subs.destroyOf v.win⟩) := by
  let w : OverflowSession := ⟨{ v.win with output := false }, v.surfaces, v.subs.destroyOf v.win⟩
  have hunmap : (SubpresentServer.step cfg) v.server (.unmap v.win.id) = some w.server := by
    simp only [SubpresentServer.step, server_window, if_true, Option.map_some]
    simp [server, w]
  have hcovered : w.subs.Covered w.win.hasNode := h.covered.destroyWhere h.kept fun _ => true
  refine (Run.Reachable.of_step hunmap).trans ?_
  let states := v.win.tree.surfaces.filterMap fun x =>
    (v.surfaces x).map fun st => (x, { st with mapped := false })
  have hpossible : w.server.Possible ⟨states, []⟩ := fun _ ht => absurd ht List.not_mem_nil
  -- each surface of the tree is unmapped
  have hstates : (fun x => (w.surfaces x).map fun st => (states.lookup x).getD st) = fun x =>
      (v.surfaces x).map fun st => if v.win.hasNode x then { st with mapped := false } else st := by
    funext x
    show (v.surfaces x).map _ = _
    rw [lookup_unmapped]
    cases hx : v.surfaces x with
    | none => rfl
    | some st => by_cases hmem : x ∈ v.win.tree.surfaces <;> simp [hmem, SubWindow.hasNode]
  have hchange : Run.Reachable (SubpresentServer.step cfg) _ _ := reachable_change hpossible
  rw [change_states hcovered, hstates] at hchange
  exact hchange

/-- If a surface has an entry, it is the toplevel's. -/
theorem handleSurfaceDestroy_eq (h : v.Tidy) (surface : Nat) :
    v.server.handleSurfaceDestroy surface = v.subs.destroyWhere v.win (·.surface = surface) := by
  unfold SubpresentServer.handleSurfaceDestroy
  cases hfind : v.server.subs.find surface with
  | none =>
    refine (Subpresents.destroyWhere_eq_self fun e he => ?_).symm
    simpa using List.find?_eq_none.mp hfind e he
  | some sp =>
    have hmem := (Subpresents.find_some hfind).1
    dsimp only
    rw [(h.kept.entry sp hmem).2.1, server_window, if_pos rfl]
    rfl

/-- A subsurface is destroyed, and its entry with it. -/
theorem reachable_destroySurface (h : v.Tidy) {surface : Nat} (hroot : v.win.tree.surface ≠ surface)
    (hthere : (v.surfaces surface).isSome = true) :
    Run.Reachable (SubpresentServer.step cfg) v.server (server ⟨{ v.win with tree := v.win.tree.prune surface },
      (fun x => if x = surface then none else v.surfaces x),
      (v.subs.destroyWhere v.win (·.surface = surface)).renode v.win.hasNode
        (v.win.tree.prune surface).surfaces.contains⟩) := by
  let w : OverflowSession := ⟨{ v.win with tree := v.win.tree.prune surface },
    fun x => if x = surface then none else v.surfaces x, v.subs.destroyWhere v.win (·.surface = surface)⟩
  have hsurfaces : Function.update v.surfaces surface none = w.surfaces := by
    funext x
    by_cases hx : x = surface <;> simp [w, hx]
  -- the handler is the session's, for the one toplevel
  have hw : (⟨v.server.windows.map fun win => { win with tree := win.tree.prune surface },
      Function.update v.server.surfaces surface none, v.server.handleSurfaceDestroy surface⟩ : SubpresentServer) =
      w.server := by
    rw [handleSurfaceDestroy_eq h]
    exact congrArg (fun surfaces => SubpresentServer.mk w.server.windows surfaces w.subs) hsurfaces
  refine .of_step (a := .destroySurface surface) ?_
  have hcan : (v.server.surfaces surface).isSome ∧ ∀ win ∈ v.server.windows, win.tree.surface ≠ surface := by
    refine ⟨hthere, fun win hwin => ?_⟩
    rw [List.mem_singleton.mp hwin]
    exact hroot
  simp only [SubpresentServer.step, if_pos hcan, hw, server_hasNode]
  rw [handleSurfaceDestroy_eq h]
  exact congrArg (fun surfaces => some (SubpresentServer.mk w.server.windows surfaces _)) hsurfaces

/-- Whose node it is does not matter where all entries are the toplevel's. -/
theorem reachable_presentDestroyed (h : v.Tidy) (p : Nat) :
    Run.Reachable (SubpresentServer.step cfg) v.server
      { v with subs := v.subs.presentDestroyed (fun sp => v.win.hasNode sp.surface) p }.server := by
  -- every entry's parent is the one toplevel
  have hany : ∀ x, (v.subs.entries.any fun e => e.xpresentDestroy = some p && e.surface = x &&
      (v.server.window e.parent).any (·.hasNode e.surface)) =
      v.subs.entries.any fun e => e.xpresentDestroy = some p && e.surface = x && v.win.hasNode e.surface := by
    intro x
    rw [Bool.eq_iff_iff, List.any_eq_true, List.any_eq_true]
    refine exists_congr fun e => and_congr_right fun he => ?_
    rw [(h.kept.entry e he).2.1, server_window, if_pos rfl]
    rfl
  have hsubs : v.server.subs.presentDestroyed (fun sp => (v.server.window sp.parent).any (·.hasNode sp.surface)) p =
      v.subs.presentDestroyed (fun sp => v.win.hasNode sp.surface) p := by
    show Subpresents.mk _ _ _ = Subpresents.mk _ _ _
    congr 1
    funext x
    exact congrArg (v.subs.disabled x && !·) (hany x)
  refine .of_step (a := .presentDestroyed p) ?_
  rw [SubpresentServer.step, hsubs]
  rfl

theorem reachable_reposition (h : v.Tidy) (hinv : v.server.Inv) (place : PopupWindow) (henv : v.Names env) :
    Run.Reachable (SubpresentServer.step cfg) v.server (server ⟨{ v.win with place := place }, v.surfaces,
      v.subs.reposition cfg v.surfaces env { v.win with place := place }⟩) := by
  let w : OverflowSession := { v with win := { v.win with place := place } }
  -- the tree moves first, and then the subpresents are placed
  have hpossible : v.server.Possible ⟨[], [(v.win.id, v.win.tree, place)]⟩ := by
    intro t ht x hx
    rw [List.mem_singleton.mp ht] at hx
    exact hinv.trees v.win List.mem_cons_self x hx
  have hcreated : v.created [] = v.server := by simp [created, server]
  have hplaced : v.server.change ⟨[], [(v.win.id, v.win.tree, place)]⟩ = w.server := by
    rw [← hcreated, change_created]
    exact congrArg (fun subs => server ⟨w.win, v.surfaces, subs⟩) (Subpresents.renode_self h.covered)
  have hnames : w.Names env := henv
  have hchange : Run.Reachable (SubpresentServer.step cfg) _ _ := reachable_change hpossible
  rw [hplaced] at hchange
  refine hchange.trans (.of_step (a := .reposition w.win.id env) ?_)
  simp only [SubpresentServer.step, server_window, if_true, Option.map_some, hnames.named]
  rfl

/-- **A step of one toplevel is a run of the registry of all.** -/
theorem reachable_of_step (h : v.Tidy) (hinv : v.server.Inv) {a : OverflowAction} (hpossible : v.Possible cfg a)
    (hstep : v.step cfg a = some v') : Run.Reachable (SubpresentServer.step cfg) v.server v'.server := by
  cases a with
  -- the parts one after the other, and then the toplevel's own sync
  | commit parts toplevel env =>
    obtain ⟨hparts, henv⟩ := hpossible
    have hreach := reachable_parts h hparts
    unfold step at hstep
    dsimp only at hstep
    cases toplevel with
    | true =>
      cases hstep
      exact hreach.trans (reachable_surfaceCommit (h.parts cfg parts) (henv rfl))
    | false =>
      simp only [Bool.false_eq_true, if_false, Option.ite_none_right_eq_some, Option.some.injEq] at hstep
      obtain ⟨-, rfl⟩ := hstep
      exact hreach
  | unmap =>
    cases hstep
    exact reachable_unmap h
  | destroySurface surface =>
    simp only [step, Option.ite_none_left_eq_some, Option.some.injEq] at hstep
    obtain ⟨hroot, rfl⟩ := hstep
    exact reachable_destroySurface h hroot hpossible
  | presentDestroyed p =>
    cases hstep
    exact reachable_presentDestroyed h p
  | reposition place env =>
    cases hstep
    exact reachable_reposition h hinv place hpossible

/-! ## Whole sessions -/

/-- Whatever overflows and whatever is shown, the registry stays the toplevel's. -/
theorem Tidy.step (h : v.Tidy) {a : OverflowAction} (hstep : v.step cfg a = some v') : v'.Tidy := by
  have hlinked : ∀ sp ∈ v.subs.entries, sp.Linked := fun sp hsp => (h.kept.entry sp hsp).2.2
  cases a with
  | commit parts toplevel env =>
    have hparts := h.parts cfg parts
    cases toplevel with
    | true =>
      cases hstep
      split
      · exact hparts.sync env
      · exact hparts
    | false =>
      simp only [OverflowSession.step, Bool.false_eq_true, if_false, Option.ite_none_right_eq_some,
        Option.some.injEq] at hstep
      obtain ⟨-, rfl⟩ := hstep
      exact hparts
  -- every entry is of this toplevel, and goes
  | unmap =>
    cases hstep
    refine ⟨h.kept.filter rfl, h.covered.destroyWhere h.kept _, fun _ => ?_⟩
    refine List.filter_eq_nil_iff.mpr fun sp hsp => ?_
    simp [(h.kept.entry sp hsp).2.1]
  | destroySurface surface =>
    simp only [OverflowSession.step, Option.ite_none_left_eq_some, Option.some.injEq] at hstep
    obtain ⟨-, rfl⟩ := hstep
    refine ⟨Subpresents.Kept.renode (h.kept.filter rfl) _ _, (h.covered.destroyWhere h.kept _).renode _, fun hout => ?_⟩
    have hnil := h.bare hout
    simp [Subpresents.renode, Subpresents.destroyWhere, hnil]
  | presentDestroyed p =>
    cases hstep
    refine ⟨Subpresents.Kept.presentDestroyed h.kept _ p, h.covered.presentDestroyed _ p, fun hout => ?_⟩
    simp [Subpresents.presentDestroyed, h.bare hout]
  | reposition place env =>
    cases hstep
    refine ⟨Subpresents.Kept.reposition h.kept, ?_, fun hout => ?_⟩
    · have hcovered : v.subs.Covered (SubWindow.hasNode { v.win with place := place }) := h.covered
      exact hcovered.reposition hlinked cfg v.surfaces env
    · simp [Subpresents.reposition, h.bare hout]

theorem tidy_init (root : Nat) (place : PopupWindow) : (init root place).Tidy where
  kept := ⟨List.nodup_nil, fun _ hmem => absurd hmem List.not_mem_nil⟩
  covered := fun _ hx => by cases hx
  bare := fun _ => rfl

/-- The toplevel's surface is created, and then the toplevel. -/
theorem reachable_init (cfg : Config) (root : Nat) (place : PopupWindow) :
    Run.Reachable (SubpresentServer.step cfg) .init (init root place).server := by
  have hsurfaces : (init root place).surfaces = fun x => (SubpresentServer.init.surfaces x).or
      (if x ∈ [root] then some ⟨false, ⟨0, 0⟩, none⟩ else none) := by
    funext x
    by_cases hx : x = root <;> simp [init, SubpresentServer.init, hx]
  refine (reachable_newSurfaces .init [root]).trans (.of_step (a := .newToplevel 0 root place) ?_)
  rw [← hsurfaces]
  exact if_pos ⟨rfl, by simp [init]⟩

/-- **What one toplevel does, the registry of all can do.** -/
theorem reachable_of_run (cfg : Config) (root : Nat) (place : PopupWindow) (as : List OverflowAction)
    (v : OverflowSession) (hpossible : Run.Along (step cfg) (Possible cfg) (init root place) as)
    (hrun : Run.run (step cfg) (init root place) as = some v) :
    Run.Reachable (SubpresentServer.step cfg) .init v.server := by
  have hstep : ∀ (v : OverflowSession) a v', v.Tidy ∧ Run.Reachable (SubpresentServer.step cfg) .init v.server →
      v.Possible cfg a →
      OverflowSession.step cfg v a = some v' → v'.Tidy ∧ Run.Reachable (SubpresentServer.step cfg) .init v'.server := by
    rintro v a v' ⟨htidy, hreach⟩ ha hv
    have hinv : v.server.Inv := hreach.invariant (fun _ _ _ h hs => h.step hs) SubpresentServer.inv_init
    exact ⟨htidy.step hv, hreach.trans (reachable_of_step htidy hinv ha hv)⟩
  exact (Run.run_invariant_of_along hstep ⟨tidy_init root place, reachable_init cfg root place⟩ hpossible hrun).2

/-- So its registry is in order, whether what overflows is shown or not. -/
theorem session_wellFormed (cfg : Config) (root : Nat) (place : PopupWindow) (as : List OverflowAction)
    (v : OverflowSession) (hpossible : Run.Along (step cfg) (Possible cfg) (init root place) as)
    (hrun : Run.run (step cfg) (init root place) as = some v) : v.server.WellFormed := by
  have hreach := reachable_of_run cfg root place as v hpossible hrun
  have hinv : v.server.Inv := hreach.invariant (fun _ _ _ h hs => h.step hs) SubpresentServer.inv_init
  exact hinv.wellFormed

/-- The names of present windows where there are none. -/
def firstNames : Nat → SubpresentEnv := fun x => ⟨true, true, some x⟩

/-- Two surfaces in one commit: the toplevel's, and a subsurface that overflows. -/
def menuOpens : OverflowAction :=
  .commit
    [⟨[(0, ⟨true, ⟨640, 480⟩, some ⟨640, 480⟩⟩)], .mk 0 ⟨0, 0⟩ [] [], editorPlace, some true, false, some 0,
        firstNames⟩,
      ⟨[(1, ⟨true, ⟨200, 300⟩, some ⟨200, 300⟩⟩)], .mk 0 ⟨0, 0⟩ [] [.mk 1 ⟨-20, 10⟩ [] []], editorPlace, none, false,
        some 1, firstNames⟩]
    true firstNames

/-- An editor opens with a menu that hangs out of it; the first present window of the registry is the menu's. -/
example : ∃ v, Run.run (step ⟨1, true⟩) (init 0 editorPlace) [menuOpens] = some v ∧ v.Presented 1 ∧
    v.server.WellFormed := by
  have hany : (Run.run (step ⟨1, true⟩) (init 0 editorPlace) [menuOpens]).any
      (fun v => decide (v.Presented 1)) = true := by decide +kernel
  obtain ⟨v, hrun, hpresented⟩ := (Option.any_eq_true ..).mp hany
  refine ⟨v, hrun, of_decide_eq_true hpresented, session_wellFormed ⟨1, true⟩ 0 editorPlace _ v ?_ hrun⟩
  have hnames : ∀ {w : OverflowSession}, w.subs.presents = [] → w.Names firstNames := by
    intro w hw x p hp
    cases hp
    simp [Subpresents.newName, hw]
  refine (Run.along_cons rfl).mpr ⟨⟨(Run.along_cons rfl).mpr ⟨⟨by decide +kernel, nofun, fun _ => hnames rfl⟩,
    (Run.along_cons rfl).mpr ⟨⟨by decide +kernel, fun _ => hnames rfl, fun _ => hnames rfl⟩, trivial⟩⟩,
    fun _ => hnames rfl⟩, trivial⟩

end OverflowSession

end Wlx
