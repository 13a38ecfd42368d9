import WlX11.Lib.Run
import WlX11.Subpresent

/-!
# WlX11 — the registry of subpresents

All toplevels share one list of subpresents. Entries are made and moved between toplevels while a
surface tree is walked, and removed when a surface is destroyed, when a toplevel is unmapped or
destroyed, and when a sync no longer needs them; a present window can go away under its entry.

Present windows have no names in the program: one that is created gets a name here that none of those
there are has, so that a window that is gone is told from one that is not.

* **`WellFormed`** — one entry for each surface, none with a surface, a toplevel or a present window that
  is gone, each linked to its own present window.
* **`wellFormed_of_run`** — it is so after every run.
-/

namespace Wlx

/-- A name beyond those of all present windows. -/
def Subpresents.newName (s : Subpresents) : Nat := s.presents.foldr (fun p n => max (p + 1) n) 0

/-- All toplevels and surfaces there are, and the registry. -/
structure SubpresentServer where
  windows : List SubWindow
  surfaces : Nat → Option SurfaceState
  subs : Subpresents

/-- What clients do between two handlers of the program. -/
structure ClientChange where
  /-- surfaces that get a new state -/
  surfaces : List (Nat × SurfaceState)
  /-- toplevels that get another tree, or another place -/
  windows : List (Nat × SubsurfaceTree × PopupWindow)

inductive RegistryAction where
  | newSurface (surface : Nat)
  | newToplevel (w root : Nat) (place : PopupWindow)
  /-- `xdg_toplevel_map`; the output can be created, or not -/
  | map (w : Nat) (output : Bool)
  /-- commits of some surfaces, in this order; if `toplevel` is among the toplevels, then
  `surface_commit` runs for it at the end -/
  | commit (change : ClientChange) (committed : List Nat) (toplevel : Option Nat)
      (env : Nat → SubpresentEnv)
  /-- `window_new_subsurface` -/
  | newSubsurface (w : Nat) (env : Nat → SubpresentEnv)
  /-- `wlx_window_reposition_subpresents` -/
  | reposition (w : Nat) (env : Nat → SubpresentEnv)
  | destroySurface (surface : Nat)
  /-- a present window is destroyed -/
  | presentDestroyed (p : Nat)
  /-- `xdg_toplevel_unmap` -/
  | unmap (w : Nat)
  /-- `xdg_toplevel_destroy` -/
  | destroy (w : Nat)

namespace SubpresentServer

def init : SubpresentServer := ⟨[], fun _ => none, ⟨[], fun _ => false, []⟩⟩

def window (v : SubpresentServer) (w : Nat) : Option SubWindow := v.windows.find? (·.id = w)

/-- A surface has a buffer node in the scene of one of the toplevels. -/
def hasNode (v : SubpresentServer) (surface : Nat) : Bool := v.windows.any (·.hasNode surface)

/-- The environment, with names for the present windows that are created. -/
def named (v : SubpresentServer) (env : Nat → SubpresentEnv) (surface : Nat) : SubpresentEnv :=
  { env surface with xpresent := (env surface).xpresent.map fun _ => v.subs.newName + surface }

/-- The surfaces of the trees the change brings are all there. -/
def Possible (v : SubpresentServer) (change : ClientChange) : Prop :=
  ∀ t ∈ change.windows, ∀ x ∈ t.2.1.surfaces, (v.surfaces x).isSome = true

instance (v : SubpresentServer) (change : ClientChange) : Decidable (v.Possible change) :=
  inferInstanceAs (Decidable (∀ t ∈ _, ∀ x ∈ _, _))

def change (v : SubpresentServer) (c : ClientChange) : SubpresentServer :=
  let v' : SubpresentServer :=
    { v with
      surfaces := fun x => (v.surfaces x).map fun st => (c.surfaces.lookup x).getD st
      windows := v.windows.map fun win =>
        match c.windows.lookup win.id with
        | none => win
        | some (tree, place) => { win with tree := tree, place := place } }
  { v' with subs := v.subs.renode v.hasNode v'.hasNode }

/-- `subpresent_handle_surface_destroy`. -/
def handleSurfaceDestroy (v : SubpresentServer) (surface : Nat) : Subpresents :=
  match v.subs.find surface with
  | none => v.subs
  | some sp =>
    match v.window sp.parent with
    | none =>
      { v.subs with
        entries := v.subs.entries.filter fun e => !(e.surface = surface)
        presents := v.subs.presents.filter fun x =>
          !(v.subs.entries.any fun e => e.surface = surface && e.xpresent = some x) }
    | some win => v.subs.destroyWhere win (·.surface = surface)

def step (cfg : Config) (v : SubpresentServer) : RegistryAction → Option SubpresentServer
  | .newSurface surface =>
    if (v.surfaces surface).isNone then
      some { v with surfaces := Function.update v.surfaces surface (some ⟨false, ⟨0, 0⟩, none⟩) }
    else none
  | .newToplevel w root place =>
    if (v.window w).isNone ∧ (v.surfaces root).isSome then
      some { v with windows := ⟨w, false, place, .mk root ⟨0, 0⟩ [] []⟩ :: v.windows }
    else none
  | .map w output => (v.window w).map fun _ =>
    { v with
      windows := v.windows.map fun win => if win.id = w then { win with output := win.output || output }
        else win }
  | .commit c committed toplevel env =>
    if v.Possible c then
      let env := v.named env
      let v := v.change c
      let subs := committed.foldl (Subpresents.commitSurface cfg v.window v.surfaces env) v.subs
      some
        { v with
          subs := match toplevel.bind v.window with
            | none => subs
            | some win => if win.output then subs.sync cfg v.surfaces env win else subs }
    else none
  | .newSubsurface w env => (v.window w).map fun win =>
    { v with subs := v.subs.sync cfg v.surfaces (v.named env) win }
  | .reposition w env => (v.window w).map fun win =>
    { v with subs := v.subs.reposition cfg v.surfaces (v.named env) win }
  | .destroySurface surface =>
    if (v.surfaces surface).isSome ∧ ∀ win ∈ v.windows, win.tree.surface ≠ surface then
      let v' : SubpresentServer :=
        { surfaces := Function.update v.surfaces surface none
          windows := v.windows.map fun win => { win with tree := win.tree.prune surface }
          subs := v.handleSurfaceDestroy surface }
      some { v' with subs := v'.subs.renode v.hasNode v'.hasNode }
    else none
  | .presentDestroyed p => some
    { v with
      subs := v.subs.presentDestroyed
        (fun sp => (v.window sp.parent).any (·.hasNode sp.surface)) p }
  | .unmap w => (v.window w).map fun win =>
    { v with
      subs := v.subs.destroyOf win
      windows := v.windows.map fun win => if win.id = w then { win with output := false } else win }
  | .destroy w => (v.window w).map fun win =>
    { v with subs := v.subs.destroyOf win, windows := v.windows.filter (·.id ≠ w) }

/-- At most one entry for a surface; no entry whose surface, toplevel or present window is gone, or whose
toplevel has no output; each linked to the signals of the present window it has, and only to these. -/
structure WellFormed (v : SubpresentServer) : Prop where
  unique : (v.subs.entries.map (·.surface)).Nodup
  alive : ∀ sp ∈ v.subs.entries, (v.surfaces sp.surface).isSome = true
  present : ∀ sp ∈ v.subs.entries, ∀ p ∈ sp.xpresent, p ∈ v.subs.presents
  parent : ∀ sp ∈ v.subs.entries, ∃ win ∈ v.windows, win.id = sp.parent ∧ win.output = true
  linked : ∀ sp ∈ v.subs.entries, sp.Linked

end SubpresentServer

/-! ## What the handlers do to the list -/

/-- After `subpresent_create_xpresent` the entry has a window and listens to it. -/
theorem Subpresent.createXpresent_spec {created : Option Nat} {sp sp' : Subpresent}
    (h : sp.createXpresent created = some sp') (hlinked : sp.Linked) :
    sp'.surface = sp.surface ∧ sp'.parent = sp.parent ∧ sp'.xpresent.isSome = true ∧ sp'.Linked := by
  unfold Subpresent.createXpresent at h
  cases hx : sp.xpresent with
  | some p =>
    simp only [hx, Option.some.injEq] at h
    rw [← h]
    exact ⟨rfl, rfl, by rw [hx]; rfl, hlinked⟩
  | none =>
    obtain ⟨hframe, hdestroy⟩ := hlinked
    rw [hx] at hframe hdestroy
    simp only [hx, Option.map_eq_some_iff] at h
    obtain ⟨p, -, rfl⟩ := h
    simp [Subpresent.attachXpresentListeners, Subpresent.Linked, hframe, hdestroy]

/-- A placed subpresent has a present window and is otherwise the one it was. -/
theorem Subpresent.positionAndPresent_spec {cfg : Config} {place : PopupWindow} {surf : SurfaceState}
    {created : Option Nat} {sp sp' : Subpresent}
    (h : sp.positionAndPresent cfg place surf created = some sp') (hlinked : sp.Linked) :
    sp'.surface = sp.surface ∧ sp'.parent = sp.parent ∧ sp'.xpresent.isSome = true ∧ sp'.Linked := by
  unfold Subpresent.positionAndPresent at h
  split at h
  · obtain ⟨box, -, h⟩ := Option.bind_eq_some_iff.mp h
    obtain ⟨sp₁, hcreate, rfl⟩ := Option.map_eq_some_iff.mp h
    obtain ⟨hsurface, hparent, hx, hframe, hdestroy⟩ := Subpresent.createXpresent_spec hcreate hlinked
    exact ⟨hsurface, hparent, hx, hframe, hdestroy⟩
  · cases h

/-- The window a placed subpresent has is the one it had, or the one that was created. -/
theorem Subpresent.positionAndPresent_xpresent {cfg : Config} {place : PopupWindow} {surf : SurfaceState}
    {created : Option Nat} {sp sp' : Subpresent}
    (h : sp.positionAndPresent cfg place surf created = some sp') :
    sp'.surface = sp.surface ∧
      (sp'.xpresent = sp.xpresent ∨ sp.xpresent = none ∧ sp'.xpresent = created) := by
  unfold Subpresent.positionAndPresent at h
  split at h
  · obtain ⟨box, -, h⟩ := Option.bind_eq_some_iff.mp h
    obtain ⟨sp₁, hcreate, rfl⟩ := Option.map_eq_some_iff.mp h
    unfold Subpresent.createXpresent at hcreate
    cases hx : sp.xpresent with
    | some p =>
      simp only [hx, Option.some.injEq] at hcreate
      rw [← hcreate]
      exact ⟨rfl, .inl hx⟩
    -- the window that is created for it, if it could be
    | none =>
      simp only [hx, Option.map_eq_some_iff] at hcreate
      obtain ⟨p, rfl, rfl⟩ := hcreate
      exact ⟨rfl, .inr ⟨rfl, rfl⟩⟩
  · cases h

namespace Subpresents

variable {alive hosts : Nat → Prop} {s : Subpresents} {sp : Subpresent} {win : SubWindow}

/-- The registry is in order, as far as surfaces that are `alive` and toplevels that can be `hosts`
go. -/
structure Kept (alive hosts : Nat → Prop) (s : Subpresents) : Prop where
  unique : (s.entries.map (·.surface)).Nodup
  entry : ∀ sp ∈ s.entries, alive sp.surface ∧ hosts sp.parent ∧ sp.Linked

/-- More surfaces and hosts are allowed. -/
theorem Kept.mono {alive' hosts' : Nat → Prop} (h : s.Kept alive hosts)
    (hentry : ∀ sp ∈ s.entries, alive sp.surface → hosts sp.parent →
      alive' sp.surface ∧ hosts' sp.parent) : s.Kept alive' hosts' where
  unique := h.unique
  entry := by
    intro sp hsp
    obtain ⟨ha, hh, hl⟩ := h.entry sp hsp
    obtain ⟨ha', hh'⟩ := hentry sp hsp ha hh
    exact ⟨ha', hh', hl⟩

/-- Entries may be changed in place, or dropped. -/
theorem Kept.of_map {s' : Subpresents} (h : s.Kept alive hosts) {f : Subpresent → Subpresent}
    (hs' : s'.entries = s.entries.map f)
    (hf : ∀ sp ∈ s.entries, (f sp).surface = sp.surface ∧
      (hosts sp.parent → sp.Linked → hosts (f sp).parent ∧ (f sp).Linked)) : s'.Kept alive hosts where
  -- the surfaces stay, and what hangs on an entry is kept by `f`
  unique := by
    have hsame : (s.entries.map f).map (·.surface) = s.entries.map (·.surface) := by
      rw [List.map_map]
      exact List.map_congr_left fun sp hsp => (hf sp hsp).1
    rw [hs', hsame]
    exact h.unique
  entry := by
    intro sp' hsp'
    rw [hs', List.mem_map] at hsp'
    obtain ⟨sp, hsp, rfl⟩ := hsp'
    obtain ⟨ha, hh, hl⟩ := h.entry sp hsp
    obtain ⟨hsurf, hkeep⟩ := hf sp hsp
    obtain ⟨hh', hl'⟩ := hkeep hh hl
    exact ⟨by rw [hsurf]; exact ha, hh', hl'⟩

/-- Entries may go. -/
theorem Kept.filter {s' : Subpresents} (h : s.Kept alive hosts) {p : Subpresent → Bool}
    (hs' : s'.entries = s.entries.filter p) : s'.Kept alive hosts where
  unique := by
    rw [hs']
    exact (List.filter_sublist.map _).nodup h.unique
  entry := by
    intro sp hsp
    rw [hs'] at hsp
    exact h.entry sp (List.mem_filter.mp hsp).1

/-- An entry may be replaced by one that is as well linked. -/
theorem Kept.set (h : s.Kept alive hosts) (hhost : hosts sp.parent) (hlinked : sp.Linked) :
    (s.set sp).Kept alive hosts := by
  refine h.of_map rfl fun e _ => ?_
  split
  · rename_i heq
    exact ⟨heq.symm, fun _ _ => ⟨hhost, hlinked⟩⟩
  · exact ⟨rfl, fun hh hl => ⟨hh, hl⟩⟩

@[simp] theorem setSceneEnabled_entries (surface : Nat) (on : Bool) :
    (s.setSceneEnabled win surface on).entries = s.entries := by
  unfold setSceneEnabled
  split <;> rfl

/-- The windows the backend has are another matter. -/
theorem Kept.withPresents (h : s.Kept alive hosts) (presents : List Nat) :
    Kept alive hosts { s with presents := presents } := ⟨h.unique, h.entry⟩

@[simp] theorem setSceneEnabled_presents (surface : Nat) (on : Bool) :
    (s.setSceneEnabled win surface on).presents = s.presents := by
  unfold setSceneEnabled
  split <;> rfl

/-- The scene is another matter. -/
theorem Kept.setSceneEnabled (h : s.Kept alive hosts) (surface : Nat) (on : Bool) :
    (s.setSceneEnabled win surface on).Kept alive hosts :=
  ⟨by rw [setSceneEnabled_entries]; exact h.unique, by rw [setSceneEnabled_entries]; exact h.entry⟩

/-- An entry that is placed is replaced by itself with a window. -/
theorem Kept.positionAndPresent (h : s.Kept alive hosts) {cfg : Config} {surf : SurfaceState}
    {created : Option Nat} (hhost : hosts sp.parent) (hlinked : sp.Linked) :
    (s.positionAndPresent cfg win surf created sp).Kept alive hosts := by
  unfold Subpresents.positionAndPresent
  split
  · exact h
  · rename_i sp' hsp'
    obtain ⟨-, hparent, -, hlinked'⟩ := Subpresent.positionAndPresent_spec hsp' hlinked
    exact ((h.set (by rw [hparent]; exact hhost) hlinked').withPresents _).setSceneEnabled _ _

/-- What is found for a surface is its entry. -/
theorem find_some {surface : Nat} (h : s.find surface = some sp) :
    sp ∈ s.entries ∧ sp.surface = surface := by
  refine ⟨List.mem_of_find?_eq_some h, ?_⟩
  simpa using List.find?_some h

/-- The entry of the surface, or a new one without a window. -/
theorem Kept.getOrCreate (h : s.Kept alive hosts) {surface : Nat} {offset : Point} {memory : Bool}
    {s' : Subpresents} (halive : alive surface) (hhost : hosts win.id)
    (hget : s.getOrCreate win surface offset memory = some (s', sp)) :
    s'.Kept alive hosts ∧ hosts sp.parent ∧ sp.Linked := by
  unfold Subpresents.getOrCreate at hget
  split at hget
  · rename_i sp₀ hfind
    obtain ⟨hmem, -⟩ := find_some hfind
    obtain ⟨-, -, hlinked⟩ := h.entry sp₀ hmem
    simp only [Option.some.injEq, Prod.mk.injEq] at hget
    obtain ⟨rfl, rfl⟩ := hget
    exact ⟨h.set hhost hlinked, hhost, hlinked⟩
  · rename_i hfind
    split at hget
    · simp only [Option.some.injEq, Prod.mk.injEq] at hget
      obtain ⟨rfl, rfl⟩ := hget
      refine ⟨⟨?_, ?_⟩, hhost, rfl, rfl⟩
      -- the surface had no entry, so that it has one now
      · rw [List.map_cons, List.nodup_cons]
        refine ⟨?_, h.unique⟩
        intro hmem
        obtain ⟨sp', hsp', heq⟩ := List.mem_map.mp hmem
        have hnone := List.find?_eq_none.mp hfind sp' hsp'
        simp at hnone
        exact hnone heq
      · intro sp' hsp'
        rcases List.mem_cons.mp hsp' with rfl | hsp'
        · exact ⟨halive, hhost, rfl, rfl⟩
        · exact h.entry sp' hsp'
    · cases hget

/-- One surface of the walk. -/
theorem Kept.syncIterator {acc : Subpresents × List Nat} (h : acc.1.Kept alive hosts) {cfg : Config}
    {surfaces : Nat → Option SurfaceState} {env : Nat → SubpresentEnv} {x : Nat × Point}
    (halive : alive x.1) (hhost : hosts win.id) :
    (syncIterator cfg surfaces env win acc x).1.Kept alive hosts := by
  rcases syncIterator_cases cfg surfaces env win acc x with heq | ⟨s', sp, hget, hplaced⟩
  · rw [heq]
    exact h
  · obtain ⟨h', hhost', hlinked⟩ := h.getOrCreate halive hhost hget
    rcases hplaced with heq | ⟨surf, heq⟩
    · rw [heq]
      exact h'
    · rw [heq]
      exact h'.positionAndPresent hhost' hlinked

/-- The walk over the tree moves entries only to its own toplevel. -/
theorem Kept.walk (h : s.Kept alive hosts) {cfg : Config} {surfaces : Nat → Option SurfaceState}
    {env : Nat → SubpresentEnv} (halive : ∀ x ∈ win.tree.surfaces, alive x) (hhost : hosts win.id) :
    ((overflowing surfaces win).foldl (Subpresents.syncIterator cfg surfaces env win)
      (s, [])).1.Kept alive hosts := by
  refine List.foldlRecOn (motive := fun acc : Subpresents × List Nat => acc.1.Kept alive hosts) _ _ h
    fun acc hacc x hx => hacc.syncIterator (halive _ ?_) hhost
  exact SubsurfaceTree.mem_surfaces_of_forEachSurface _ _ (List.mem_filter.mp hx).1

/-- A toplevel that is synced has an output, or loses its entries. -/
theorem Kept.sync (h : s.Kept alive hosts) {cfg : Config} {surfaces : Nat → Option SurfaceState}
    {env : Nat → SubpresentEnv} (halive : ∀ x ∈ win.tree.surfaces, alive x)
    (hhost : win.output = true → hosts win.id) : (s.sync cfg surfaces env win).Kept alive hosts := by
  unfold Subpresents.sync
  split
  · rename_i hout
    exact (h.walk halive (hhost hout)).filter rfl
  · exact h.filter rfl

/-- A commit places the entry of its surface, if it has one. -/
theorem Kept.commitSurface (h : s.Kept alive hosts) {cfg : Config} {window : Nat → Option SubWindow}
    {surfaces : Nat → Option SurfaceState} {env : Nat → SubpresentEnv} (surface : Nat) :
    (s.commitSurface cfg window surfaces env surface).Kept alive hosts := by
  have hsame : ∀ {t : Subpresents} {disabled : Nat → Bool}, t.Kept alive hosts →
      Kept alive hosts { t with disabled := disabled } := fun ht => ⟨ht.unique, ht.entry⟩
  unfold Subpresents.commitSurface
  dsimp only
  -- without an entry only a node is enabled or disabled
  cases hfind : s.find surface with
  | none => exact hsame h
  | some sp =>
    obtain ⟨-, hhost, hlinked⟩ := h.entry sp (find_some hfind).1
    dsimp only
    split
    · split
      · exact hsame (h.positionAndPresent hhost hlinked)
      · exact hsame h
    · split
      · exact (hsame h).positionAndPresent hhost hlinked
      · exact hsame h

/-- All entries are placed again. -/
theorem Kept.reposition (h : s.Kept alive hosts) {cfg : Config}
    {surfaces : Nat → Option SurfaceState} {env : Nat → SubpresentEnv} :
    (s.reposition cfg surfaces env win).Kept alive hosts := by
  refine List.foldlRecOn (motive := Kept alive hosts) _ _ h fun t ht sp hsp => ?_
  obtain ⟨-, hhost, hlinked⟩ := h.entry sp hsp
  split
  · cases surfaces sp.surface with
    | none => exact ht
    | some surf => exact ht.positionAndPresent hhost hlinked
  · exact ht

/-- New nodes change no link. -/
theorem Kept.renode (h : s.Kept alive hosts) (before after : Nat → Bool) :
    (s.renode before after).Kept alive hosts := by
  refine h.of_map rfl fun sp _ => ?_
  split
  · exact ⟨rfl, fun hh hl => ⟨hh, hl⟩⟩
  · exact ⟨rfl, fun hh hl => ⟨hh, hl⟩⟩

/-- An entry whose window is destroyed is unlinked from it. -/
theorem Kept.presentDestroyed (h : s.Kept alive hosts) (hasNode : Subpresent → Bool) (p : Nat) :
    (s.presentDestroyed hasNode p).Kept alive hosts := by
  refine h.of_map rfl fun sp _ => ?_
  split
  · exact ⟨rfl, fun hh _ => ⟨hh, rfl, rfl⟩⟩
  · exact ⟨rfl, fun hh hl => ⟨hh, hl⟩⟩

/-! ## The present windows of the entries -/

/-- Surface `x` is shown in present window `p`. -/
def ShownIn (s : Subpresents) (x p : Nat) : Prop := ∃ e ∈ s.entries, e.surface = x ∧ e.xpresent = some p

/-- The present windows shown in are there, no two surfaces share one, and those that were not there
before the handler (below `n`) are named after their surfaces. -/
structure Held (n : Nat) (s : Subpresents) : Prop where
  live : ∀ x p, s.ShownIn x p → p ∈ s.presents
  apart : ∀ x y p, s.ShownIn x p → s.ShownIn y p → x = y
  named : ∀ x p, s.ShownIn x p → p < n ∨ p = n + x

section Held

variable {n : Nat} {s' : Subpresents}

/-- What shows nothing new and keeps the windows shown in. -/
theorem Held.of_shownIn (h : s.Held n)
    (hshown : ∀ x p, s'.ShownIn x p → s.ShownIn x p ∧ p ∈ s'.presents) : s'.Held n where
  live := fun x p hx => (hshown x p hx).2
  apart := fun x y p hx hy => h.apart x y p (hshown x p hx).1 (hshown y p hy).1
  named := fun x p hx => h.named x p (hshown x p hx).1

/-- Entries may change in anything but surface and window. -/
theorem Held.of_map (h : s.Held n) {f : Subpresent → Subpresent} (hs' : s'.entries = s.entries.map f)
    (hpresents : s'.presents = s.presents)
    (hf : ∀ e ∈ s.entries, (f e).surface = e.surface ∧ (f e).xpresent = e.xpresent) : s'.Held n := by
  refine h.of_shownIn fun x p hx => ?_
  obtain ⟨e', he', rfl, hp⟩ := hx
  rw [hs'] at he'
  obtain ⟨e, he, rfl⟩ := List.mem_map.mp he'
  obtain ⟨hsurface, hxp⟩ := hf e he
  have hshown : s.ShownIn (f e).surface p := ⟨e, he, hsurface.symm, hxp.symm.trans hp⟩
  exact ⟨hshown, by rw [hpresents]; exact h.live _ _ hshown⟩

/-- What a placement shows: what was shown, or its own surface in its window, which is new if it had
none. -/
theorem shownIn_positionAndPresent {cfg : Config} {surf : SurfaceState} {created : Option Nat} {x p : Nat}
    (h : (s.positionAndPresent cfg win surf created sp).ShownIn x p) :
    s.ShownIn x p ∨ x = sp.surface ∧ (sp.xpresent = some p ∨ sp.xpresent = none ∧ created = some p ∧
      p ∈ (s.positionAndPresent cfg win surf created sp).presents) := by
  unfold Subpresents.positionAndPresent at h ⊢
  cases hplaced : sp.positionAndPresent cfg win.place surf created with
  | none =>
    rw [hplaced] at h
    exact .inl h
  | some sp' =>
    rw [hplaced] at h
    obtain ⟨hsurface, hxp⟩ := Subpresent.positionAndPresent_xpresent hplaced
    obtain ⟨e, he, rfl, hp⟩ := h
    rw [setSceneEnabled_entries] at he
    rcases mem_set he with rfl | ⟨he, -⟩
    · refine .inr ⟨hsurface, ?_⟩
      rcases hxp with hxp | ⟨hnone, hxp⟩
      · exact .inl (hxp ▸ hp)
      -- a window that was made for it is a new present
      · rw [setSceneEnabled_presents, hnone]
        exact .inr ⟨rfl, hxp ▸ hp, List.mem_append_left _ (by rw [hp]; exact List.mem_singleton_self p)⟩
    · exact .inl ⟨e, he, rfl, hp⟩

/-- A placement destroys no window. -/
theorem mem_presents_positionAndPresent {cfg : Config} {surf : SurfaceState} {created : Option Nat}
    {p : Nat} (h : p ∈ s.presents) : p ∈ (s.positionAndPresent cfg win surf created sp).presents := by
  unfold Subpresents.positionAndPresent
  split
  · exact h
  · rw [setSceneEnabled_presents]
    split
    · exact h
    · exact List.mem_append_right _ h

/-- A window that is created has a name no other surface's has. -/
theorem Held.positionAndPresent (h : s.Held n) {cfg : Config} {surf : SurfaceState}
    {created : Option Nat} (hsp : ∀ p, sp.xpresent = some p → s.ShownIn sp.surface p)
    (hcreated : ∀ p, created = some p → p = n + sp.surface) :
    (s.positionAndPresent cfg win surf created sp).Held n := by
  -- what is shown now: what was, or the surface in the window that is created
  have hshown : ∀ x p, (s.positionAndPresent cfg win surf created sp).ShownIn x p →
      s.ShownIn x p ∨ (x = sp.surface ∧ p = n + x ∧
        p ∈ (s.positionAndPresent cfg win surf created sp).presents) := by
    intro x p hx
    rcases shownIn_positionAndPresent hx with hx | ⟨rfl, hp | ⟨-, hp, hmem⟩⟩
    · exact .inl hx
    · exact .inl (hsp p hp)
    · exact .inr ⟨rfl, hcreated p hp, hmem⟩
  refine ⟨fun x p hx => ?_, fun x y p hx hy => ?_, fun x p hx => ?_⟩
  · rcases hshown x p hx with hx | ⟨-, -, hmem⟩
    · exact mem_presents_positionAndPresent (h.live x p hx)
    · exact hmem
  · rcases hshown x p hx with hx | ⟨-, hpx, -⟩ <;> rcases hshown y p hy with hy | ⟨-, hpy, -⟩
    · exact h.apart x y p hx hy
    · have := h.named x p hx
      omega
    · have := h.named y p hy
      omega
    · omega
  · rcases hshown x p hx with hx | ⟨-, hp, -⟩
    · exact h.named x p hx
    · exact .inr hp

/-- A new entry is shown nowhere. -/
theorem Held.getOrCreate (h : s.Held n) {surface : Nat} {offset : Point} {memory : Bool}
    (hget : s.getOrCreate win surface offset memory = some (s', sp)) :
    s'.Held n ∧ ∀ p, sp.xpresent = some p → s'.ShownIn sp.surface p := by
  unfold Subpresents.getOrCreate at hget
  cases hfind : s.find surface with
  -- found: the entry is attached anew, and shown where it was
  | some sp₀ =>
    obtain ⟨hmem, -⟩ := find_some hfind
    simp only [hfind, Option.some.injEq, Prod.mk.injEq] at hget
    obtain ⟨rfl, rfl⟩ := hget
    refine ⟨?_, fun p hp => ⟨_, List.mem_map.mpr ⟨sp₀, hmem, if_pos rfl⟩, rfl, hp⟩⟩
    refine h.of_shownIn fun x p hx => ?_
    obtain ⟨e, he, rfl, hp⟩ := hx
    have hshown : s.ShownIn e.surface p := by
      rcases mem_set he with rfl | ⟨he, -⟩
      · exact ⟨sp₀, hmem, rfl, hp⟩
      · exact ⟨e, he, rfl, hp⟩
    exact ⟨hshown, h.live _ _ hshown⟩
  -- made, if there is memory
  | none =>
    simp only [hfind] at hget
    split at hget
    · simp only [Option.some.injEq, Prod.mk.injEq] at hget
      obtain ⟨rfl, rfl⟩ := hget
      refine ⟨h.of_shownIn fun x p hx => ?_, fun p hp => nomatch hp⟩
      obtain ⟨e, he, rfl, hp⟩ := hx
      rcases List.mem_cons.mp he with rfl | he
      · cases hp
      · exact ⟨⟨e, he, rfl, hp⟩, h.live _ _ ⟨e, he, rfl, hp⟩⟩
    · cases hget

/-- The names of the windows that a handler creates. -/
def Named (n : Nat) (env : Nat → SubpresentEnv) : Prop := ∀ x p, (env x).xpresent = some p → p = n + x

/-- One surface of the walk, whose new window is named after it. -/
theorem Held.syncIterator {acc : Subpresents × List Nat} (h : acc.1.Held n) {cfg : Config}
    {surfaces : Nat → Option SurfaceState} {env : Nat → SubpresentEnv} (henv : Named n env)
    (x : Nat × Point) : (syncIterator cfg surfaces env win acc x).1.Held n := by
  rcases syncIterator_cases cfg surfaces env win acc x with heq | ⟨s', sp, hget, hplaced⟩
  · rw [heq]
    exact h
  · obtain ⟨h', hsp⟩ := h.getOrCreate hget
    obtain ⟨hsurface, -, -⟩ := getOrCreate_entries hget
    rcases hplaced with heq | ⟨surf, heq⟩
    · rw [heq]
      exact h'
    · rw [heq]
      exact h'.positionAndPresent hsp fun p hp => by rw [hsurface]; exact henv x.1 p hp

/-- Entries go with their windows, in which no other entry is shown. -/
theorem Held.filter (h : s.Held n) (hunique : (s.entries.map (·.surface)).Nodup)
    {gone : Subpresent → Bool} (hs' : s'.entries = s.entries.filter fun e => !gone e)
    (hpresents : s'.presents = s.presents.filter fun q =>
      !(s.entries.any fun e => gone e && e.xpresent = some q)) : s'.Held n := by
  refine h.of_shownIn fun x q hx => ?_
  obtain ⟨e, he, rfl, hq⟩ := hx
  rw [hs', List.mem_filter] at he
  obtain ⟨he, hkept⟩ := he
  have hshown : s.ShownIn e.surface q := ⟨e, he, rfl, hq⟩
  refine ⟨hshown, ?_⟩
  rw [hpresents, List.mem_filter, Bool.not_eq_true', List.any_eq_false]
  refine ⟨h.live _ _ hshown, fun e' he' hgone => ?_⟩
  rw [Bool.and_eq_true, decide_eq_true_eq] at hgone
  -- an entry that goes with this window is this one
  have hsame : e' = e :=
    List.inj_on_of_nodup_map hunique he' he (h.apart _ _ q ⟨e', he', rfl, hgone.2⟩ hshown)
  rw [hsame] at hgone
  rw [hgone.1] at hkept
  cases hkept

/-- The walk creates windows, and then entries go with theirs. -/
theorem Held.sync (h : s.Held n) (hkept : s.Kept alive hosts) {cfg : Config}
    {surfaces : Nat → Option SurfaceState} {env : Nat → SubpresentEnv} (henv : Named n env)
    (halive : ∀ x ∈ win.tree.surfaces, alive x) (hhost : win.output = true → hosts win.id) :
    (s.sync cfg surfaces env win).Held n := by
  unfold Subpresents.sync
  split
  · rename_i hout
    have hwalk : ((overflowing surfaces win).foldl (Subpresents.syncIterator cfg surfaces env win)
        (s, [])).1.Held n :=
      List.foldlRecOn (motive := fun acc : Subpresents × List Nat => acc.1.Held n) _ _ h
        fun acc hacc x _ => hacc.syncIterator henv x
    exact hwalk.filter (hkept.walk halive (hhost hout)).unique rfl rfl
  · exact h.filter hkept.unique rfl rfl

/-- A commit may give its surface a window. -/
theorem Held.commitSurface (h : s.Held n) {cfg : Config} {window : Nat → Option SubWindow}
    {surfaces : Nat → Option SurfaceState} {env : Nat → SubpresentEnv} (henv : Named n env)
    (surface : Nat) : (s.commitSurface cfg window surfaces env surface).Held n := by
  have hsame : ∀ {t : Subpresents} {disabled : Nat → Bool}, t.Held n →
      Held n { t with disabled := disabled } := fun ht => ⟨ht.live, ht.apart, ht.named⟩
  unfold Subpresents.commitSurface
  dsimp only
  cases hfind : s.find surface with
  | none => exact hsame h
  | some sp =>
    obtain ⟨hmem, hsurface⟩ := find_some hfind
    have hsp : ∀ p, sp.xpresent = some p → s.ShownIn sp.surface p := fun p hp => ⟨sp, hmem, rfl, hp⟩
    have hcreated : ∀ p, (env surface).xpresent = some p → p = n + sp.surface := by
      rw [hsurface]
      exact henv surface
    dsimp only
    split
    -- the node hears of the commit after the subpresent, or before it
    · split
      · exact hsame (h.positionAndPresent hsp hcreated)
      · exact hsame h
    · split
      · exact (hsame h).positionAndPresent hsp hcreated
      · exact hsame h

/-- Only subpresents that have a window are placed, and they keep it. -/
theorem Held.reposition (h : s.Held n) {cfg : Config} {surfaces : Nat → Option SurfaceState}
    {env : Nat → SubpresentEnv} : (s.reposition cfg surfaces env win).Held n := by
  -- placing an entry that has a window makes no other one
  have hfold : (∀ p ∈ s.presents, p ∈ (s.reposition cfg surfaces env win).presents) ∧
      ∀ x p, (s.reposition cfg surfaces env win).ShownIn x p → s.ShownIn x p := by
    refine List.foldlRecOn (motive := fun t : Subpresents => (∀ p ∈ s.presents, p ∈ t.presents) ∧
      ∀ x p, t.ShownIn x p → s.ShownIn x p) _ _ ⟨fun _ hp => hp, fun _ _ hx => hx⟩ fun t ht sp hsp => ?_
    split
    · rename_i hplaced
      cases surfaces sp.surface with
      | none => exact ht
      | some surf =>
        refine ⟨fun p hp => mem_presents_positionAndPresent (ht.1 p hp), fun x p hx => ?_⟩
        rcases shownIn_positionAndPresent hx with hx | ⟨rfl, hp | ⟨hnone, -⟩⟩
        · exact ht.2 x p hx
        · exact ⟨sp, hsp, rfl, hp⟩
        · rw [hnone] at hplaced
          cases hplaced.2
    · exact ht
  exact h.of_shownIn fun x p hx => ⟨hfold.2 x p hx, hfold.1 p (h.live x p (hfold.2 x p hx))⟩

/-- New nodes change no window. -/
theorem Held.renode (h : s.Held n) (before after : Nat → Bool) : (s.renode before after).Held n := by
  refine h.of_map rfl rfl fun e _ => ?_
  split
  · exact ⟨rfl, rfl⟩
  · exact ⟨rfl, rfl⟩

/-- Every entry that is linked to the window drops it before it is gone. -/
theorem Held.presentDestroyed (h : s.Held n) (hlinked : ∀ e ∈ s.entries, e.Linked)
    (hasNode : Subpresent → Bool) (p : Nat) : (s.presentDestroyed hasNode p).Held n := by
  refine h.of_shownIn fun x q hx => ?_
  obtain ⟨e', he', rfl, hq⟩ := hx
  obtain ⟨e, he, rfl⟩ := List.mem_map.mp he'
  split at hq
  · cases hq
  · rename_i hother
    have hshown : s.ShownIn e.surface q := ⟨e, he, rfl, hq⟩
    rw [if_neg hother]
    refine ⟨hshown, List.mem_filter.mpr ⟨h.live _ _ hshown, ?_⟩⟩
    rw [(hlinked e he).2, hq] at hother
    simpa using hother

/-- The next name is above all that are taken. -/
theorem lt_newName {p : Nat} (h : p ∈ s.presents) : p < s.newName := by
  unfold newName
  generalize s.presents = presents at h
  induction presents with
  | nil => cases h
  | cons q qs ih =>
    rw [List.foldr_cons]
    rcases List.mem_cons.mp h with rfl | h
    · omega
    · have := ih h
      omega

/-- After the handler the windows it has created are like the others. -/
theorem Held.settle (h : s.Held n) : s.Held s.newName :=
  ⟨h.live, h.apart, fun x p hx => .inl (lt_newName (h.live x p hx))⟩

end Held

end Subpresents

/-! ## What the system reaches -/

namespace SubpresentServer

variable {cfg : Config} {v v' : SubpresentServer}

def Alive (v : SubpresentServer) (surface : Nat) : Prop := (v.surfaces surface).isSome = true

/-- The toplevel has an output. -/
def Hosts (v : SubpresentServer) (w : Nat) : Prop := ∃ win ∈ v.windows, win.id = w ∧ win.output = true

/-- The registry is in order, its present windows are there, and the trees hold surfaces that are
there. -/
structure Inv (v : SubpresentServer) : Prop where
  subs : v.subs.Kept v.Alive v.Hosts
  held : v.subs.Held v.subs.newName
  trees : ∀ win ∈ v.windows, ∀ x ∈ win.tree.surfaces, v.Alive x

/-- The invariant is what a reader of the list relies on, and more. -/
theorem Inv.wellFormed (h : v.Inv) : v.WellFormed where
  unique := h.subs.unique
  alive := fun sp hsp => (h.subs.entry sp hsp).1
  present := fun sp hsp p hp => h.held.live sp.surface p ⟨sp, hsp, rfl, hp⟩
  parent := fun sp hsp => (h.subs.entry sp hsp).2.1
  linked := fun sp hsp => (h.subs.entry sp hsp).2.2

/-- Whatever the X server gives, a window that is created is named after its surface. -/
theorem named_named (v : SubpresentServer) (env : Nat → SubpresentEnv) :
    Subpresents.Named v.subs.newName (v.named env) := by
  intro x p hp
  obtain ⟨q, -, rfl⟩ := Option.map_eq_some_iff.mp hp
  rfl

/-- What is found under an id is that toplevel. -/
theorem window_some {w : Nat} {win : SubWindow} (h : v.window w = some win) :
    win ∈ v.windows ∧ win.id = w := by
  refine ⟨List.mem_of_find?_eq_some h, ?_⟩
  simpa using List.find?_some h

/-- What clients do frees nothing. -/
theorem Inv.change (h : v.Inv) {c : ClientChange} (hc : v.Possible c) : (v.change c).Inv := by
  have halive : ∀ x, (v.change c).Alive x ↔ v.Alive x := by
    intro x
    simp [Alive, SubpresentServer.change]
  refine ⟨?_, h.held.renode _ _, ?_⟩
  · refine (h.subs.mono ?_).renode _ _
    rintro sp - ha ⟨win, hmem, hid, hout⟩
    refine ⟨(halive _).mpr ha, _, List.mem_map_of_mem hmem, ?_⟩
    split
    · exact ⟨hid, hout⟩
    · exact ⟨hid, hout⟩
  · intro win' hwin' x hx
    obtain ⟨win, hmem, rfl⟩ := List.mem_map.mp hwin'
    rw [halive]
    -- a window's tree is the old one or the one it was given
    cases hl : c.windows.lookup win.id with
    | none =>
      rw [hl] at hx
      exact h.trees win hmem x hx
    | some t =>
      rw [hl] at hx
      obtain ⟨tree, place⟩ := t
      obtain ⟨l₁, l₂, hsplit, -⟩ := List.lookup_eq_some_iff.mp hl
      have hin : (win.id, tree, place) ∈ c.windows := by
        rw [hsplit]
        exact List.mem_append_right _ List.mem_cons_self
      exact hc _ hin x hx

/-- A surface is destroyed with its entry. -/
theorem Inv.destroySurface (h : v.Inv) (surface : Nat) :
    (v.handleSurfaceDestroy surface).Kept (fun x => x ≠ surface ∧ v.Alive x) v.Hosts := by
  have hgone : ∀ {s : Subpresents}, s.Kept v.Alive v.Hosts →
      (∀ sp ∈ s.entries, sp.surface ≠ surface) →
      s.Kept (fun x => x ≠ surface ∧ v.Alive x) v.Hosts := by
    intro s hs hne
    exact hs.mono fun sp hsp ha hh => ⟨⟨hne sp hsp, ha⟩, hh⟩
  unfold handleSurfaceDestroy
  cases hfind : v.subs.find surface with
  | none =>
    refine hgone h.subs fun sp hsp heq => ?_
    have hnone := List.find?_eq_none.mp hfind sp hsp
    simp [heq] at hnone
  | some sp =>
    dsimp only
    cases hwin : v.window sp.parent with
    | none =>
      refine hgone (h.subs.filter rfl) fun sp' hsp' => ?_
      simpa using (List.mem_filter.mp hsp').2
    | some win =>
      refine hgone (h.subs.filter rfl) fun sp' hsp' heq => ?_
      obtain ⟨hmem, hsel⟩ := List.mem_filter.mp hsp'
      obtain ⟨hmem₀, heq₀⟩ := Subpresents.find_some hfind
      -- there is only one entry for the surface
      have hsame : sp' = sp := List.inj_on_of_nodup_map h.subs.unique hmem hmem₀ (heq.trans heq₀.symm)
      rw [hsame, (window_some hwin).2] at hsel
      simp [heq₀] at hsel

/-- Whatever toplevel its entry has, or had, its present window goes with it. -/
theorem Inv.held_destroySurface (h : v.Inv) (surface : Nat) :
    (v.handleSurfaceDestroy surface).Held v.subs.newName := by
  unfold handleSurfaceDestroy
  cases v.subs.find surface with
  | none => exact h.held
  | some sp =>
    dsimp only
    cases v.window sp.parent with
    | none => exact h.held.filter h.subs.unique rfl rfl
    | some win => exact h.held.filter h.subs.unique rfl rfl

/-- The entries of a toplevel that goes are gone before it does. -/
theorem Inv.destroyOf (h : v.Inv) {w : Nat} {win : SubWindow} (hwin : v.window w = some win) :
    (v.subs.destroyOf win).Kept v.Alive (fun i => i ≠ w ∧ v.Hosts i) := by
  refine Subpresents.Kept.mono (h.subs.filter rfl) fun sp hsp ha hh => ⟨ha, ?_, hh⟩
  have hsel := (List.mem_filter.mp hsp).2
  rw [(window_some hwin).2] at hsel
  simpa using hsel

/-- What is done to the toplevels' outputs leaves their trees what they are. -/
theorem Inv.trees_map (h : v.Inv) {f : SubWindow → SubWindow} (hf : ∀ win, (f win).tree = win.tree) :
    ∀ win ∈ v.windows.map f, ∀ x ∈ win.tree.surfaces, v.Alive x := by
  intro win' hwin' x hx
  obtain ⟨win, hmem, rfl⟩ := List.mem_map.mp hwin'
  rw [hf] at hx
  exact h.trees win hmem x hx

/-- A toplevel that keeps its name and its output still hosts. -/
theorem hosts_map {windows : List SubWindow} {f : SubWindow → SubWindow} {i : Nat}
    (hf : ∀ win : SubWindow, win.id = i → win.output = true → (f win).id = i ∧ (f win).output = true)
    (h : ∃ win ∈ windows, win.id = i ∧ win.output = true) :
    ∃ win ∈ windows.map f, win.id = i ∧ win.output = true := by
  obtain ⟨win, hmem, hid, hout⟩ := h
  exact ⟨f win, List.mem_map_of_mem hmem, hf win hid hout⟩

/-- Each handler keeps the registry in order. One case per event. -/
theorem Inv.step (h : v.Inv) {a : RegistryAction} (hstep : v.step cfg a = some v') : v'.Inv := by
  cases a with
  | newSurface surface =>
    simp only [SubpresentServer.step, Option.ite_none_right_eq_some, Option.some.injEq] at hstep
    obtain ⟨-, rfl⟩ := hstep
    have halive : ∀ x, v.Alive x →
        (Function.update v.surfaces surface (some ⟨false, ⟨0, 0⟩, none⟩) x).isSome = true := by
      intro x hx
      by_cases hxs : x = surface
      · simp [hxs]
      · simpa [hxs, Alive] using hx
    exact ⟨h.subs.mono fun sp _ ha hh => ⟨halive _ ha, hh⟩, h.held,
      fun win hwin x hx => halive x (h.trees win hwin x hx)⟩
  | newToplevel w root place =>
    simp only [SubpresentServer.step, Option.ite_none_right_eq_some, Option.some.injEq] at hstep
    obtain ⟨⟨-, hroot⟩, rfl⟩ := hstep
    refine ⟨?_, h.held, ?_⟩
    · refine h.subs.mono fun sp _ ha hh => ⟨ha, ?_⟩
      obtain ⟨win, hmem, hwin⟩ := hh
      exact ⟨win, List.mem_cons_of_mem _ hmem, hwin⟩
    · intro win hwin x hx
      rcases List.mem_cons.mp hwin with rfl | hwin
      · simp only [SubsurfaceTree.surfaces, SubsurfaceTree.surfacesOf, List.append_nil,
          List.mem_singleton] at hx
        rw [hx]
        exact hroot
      · exact h.trees win hwin x hx
  | map w output =>
    obtain ⟨win, -, rfl⟩ := Option.map_eq_some_iff.mp hstep
    refine ⟨?_, h.held, ?_⟩
    · refine h.subs.mono fun sp _ ha hh => ⟨ha, hosts_map (fun win hid hout => ?_) hh⟩
      split
      · exact ⟨hid, by rw [hout]; rfl⟩
      · exact ⟨hid, hout⟩
    · apply h.trees_map
      intro win
      split <;> rfl
  | commit c committed toplevel env =>
    simp only [SubpresentServer.step, Option.ite_none_right_eq_some, Option.some.injEq] at hstep
    obtain ⟨hc, rfl⟩ := hstep
    have hv := h.change hc
    have henv := v.named_named env
    have hcommits : (committed.foldl (Subpresents.commitSurface cfg (v.change c).window
        (v.change c).surfaces (v.named env)) (v.change c).subs).Kept (v.change c).Alive
          (v.change c).Hosts :=
      List.foldlRecOn (motive := Subpresents.Kept (v.change c).Alive (v.change c).Hosts) _ _ hv.subs
        fun t ht x _ => ht.commitSurface x
    have hheld : (committed.foldl (Subpresents.commitSurface cfg (v.change c).window
        (v.change c).surfaces (v.named env)) (v.change c).subs).Held v.subs.newName :=
      List.foldlRecOn (motive := Subpresents.Held v.subs.newName) _ _ hv.held
        fun t ht x _ => ht.commitSurface henv x
    cases hwin : toplevel.bind (v.change c).window with
    | none => exact ⟨hcommits, hheld.settle, hv.trees⟩
    | some win =>
      obtain ⟨w, -, hwin⟩ := Option.bind_eq_some_iff.mp hwin
      dsimp only
      split
      · have htree := hv.trees win (window_some hwin).1
        have hhost : win.output = true → (v.change c).Hosts win.id :=
          fun hout => ⟨win, (window_some hwin).1, rfl, hout⟩
        exact ⟨hcommits.sync htree hhost, (hheld.sync hcommits henv htree hhost).settle, hv.trees⟩
      · exact ⟨hcommits, hheld.settle, hv.trees⟩
  | newSubsurface w env =>
    obtain ⟨win, hwin, rfl⟩ := Option.map_eq_some_iff.mp hstep
    have htree := h.trees win (window_some hwin).1
    have hhost : win.output = true → v.Hosts win.id :=
      fun hout => ⟨win, (window_some hwin).1, rfl, hout⟩
    exact ⟨h.subs.sync htree hhost, (h.held.sync h.subs (v.named_named env) htree hhost).settle, h.trees⟩
  | reposition w env =>
    obtain ⟨win, hwin, rfl⟩ := Option.map_eq_some_iff.mp hstep
    exact ⟨h.subs.reposition, h.held.reposition.settle, h.trees⟩
  | destroySurface surface =>
    simp only [SubpresentServer.step, Option.ite_none_right_eq_some, Option.some.injEq] at hstep
    obtain ⟨⟨-, hroot⟩, rfl⟩ := hstep
    have halive : ∀ x, x ≠ surface → v.Alive x →
        (Function.update v.surfaces surface none x).isSome = true := by
      intro x hne hx
      rw [Function.update_of_ne hne]
      exact hx
    refine ⟨?_, ((h.held_destroySurface surface).renode _ _).settle, ?_⟩
    · refine ((h.destroySurface surface).mono fun sp _ ha hh => ⟨halive _ ha.1 ha.2, ?_⟩).renode _ _
      exact hosts_map (f := fun win => { win with tree := win.tree.prune surface })
        (fun win hid hout => ⟨hid, hout⟩) hh
    · intro win' hwin' x hx
      obtain ⟨win, hmem, rfl⟩ := List.mem_map.mp hwin'
      obtain ⟨hx, hne⟩ := SubsurfaceTree.mem_surfaces_prune win.tree (hroot win hmem) hx
      exact halive x hne (h.trees win hmem x hx)
  | presentDestroyed p =>
    cases hstep
    have hlinked : ∀ e ∈ v.subs.entries, e.Linked := fun e he => (h.subs.entry e he).2.2
    exact ⟨h.subs.presentDestroyed _ p, (h.held.presentDestroyed hlinked _ p).settle, h.trees⟩
  | unmap w =>
    obtain ⟨win, hwin, rfl⟩ := Option.map_eq_some_iff.mp hstep
    refine ⟨?_, (h.held.filter h.subs.unique rfl rfl).settle, ?_⟩
    · refine (h.destroyOf hwin).mono fun sp _ ha hh => ⟨ha, hosts_map (fun win' hid hout => ?_) hh.2⟩
      -- it is another toplevel's output that goes
      rw [if_neg (by rw [hid]; exact hh.1)]
      exact ⟨hid, hout⟩
    · apply h.trees_map
      intro win'
      split <;> rfl
  | destroy w =>
    obtain ⟨win, hwin, rfl⟩ := Option.map_eq_some_iff.mp hstep
    refine ⟨?_, (h.held.filter h.subs.unique rfl rfl).settle, ?_⟩
    · refine (h.destroyOf hwin).mono fun sp _ ha hh => ⟨ha, ?_⟩
      obtain ⟨hne, win', hmem, hid, hout⟩ := hh
      exact ⟨win', List.mem_filter.mpr ⟨hmem, by simpa [hid] using hne⟩, hid, hout⟩
    · exact fun win' hwin' => h.trees win' (List.mem_filter.mp hwin').1

/-- At the start there are no entries. -/
theorem inv_init : init.Inv where
  subs := ⟨List.nodup_nil, fun _ hmem => absurd hmem List.not_mem_nil⟩
  held := ⟨fun _ _ ⟨_, hmem, _⟩ => absurd hmem List.not_mem_nil,
    fun _ _ _ ⟨_, hmem, _⟩ => absurd hmem List.not_mem_nil,
    fun _ _ ⟨_, hmem, _⟩ => absurd hmem List.not_mem_nil⟩
  trees := fun _ hmem => absurd hmem List.not_mem_nil

/-- **The registry of subpresents.** Whatever surfaces and toplevels do, in whatever order: after each
handler there is at most one entry for a surface, no entry has outlived its surface or its toplevel,
every entry's toplevel has an output, and the present window of an entry, if it has one, is there and is
the one whose signals the entry is linked to. -/
theorem wellFormed_of_run (cfg : Config) (as : List RegistryAction) (v : SubpresentServer)
    (hrun : Run.run (SubpresentServer.step cfg) init as = some v) : v.WellFormed := by
  exact (Run.run_invariant (fun _ _ _ h hstep => Inv.step h hstep) inv_init hrun).wellFormed

/-- A toplevel opens a menu that hangs out of it. -/
def menuRun : List RegistryAction :=
  [.newSurface 0, .newToplevel 0 0 ⟨some ⟨100, 100⟩, ⟨0, 0, 640, 480⟩⟩,
    .commit ⟨[(0, ⟨true, ⟨640, 480⟩, some ⟨640, 480⟩⟩)], []⟩ [0] none fun _ => ⟨true, true, some 7⟩,
    .map 0 true, .newSurface 1,
    .commit ⟨[(1, ⟨true, ⟨200, 300⟩, some ⟨200, 300⟩⟩)],
      [(0, .mk 0 ⟨0, 0⟩ [] [.mk 1 ⟨-20, 10⟩ [] []], ⟨some ⟨100, 100⟩, ⟨0, 0, 640, 480⟩⟩)]⟩
      [1, 0] (some 0)
      fun _ => ⟨true, true, some 7⟩]

theorem menuRun_wellFormed : ∃ v, Run.run (SubpresentServer.step ⟨1, true⟩) init menuRun = some v ∧
    v.subs.entries.map (fun sp => (sp.surface, sp.xpresent)) = [(1, some 1)] ∧ v.WellFormed :=
  ⟨_, rfl, rfl, wellFormed_of_run ⟨1, true⟩ menuRun _ rfl⟩

end SubpresentServer

end Wlx
