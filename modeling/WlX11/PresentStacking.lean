import WlX11.Lib.Foremost
import WlX11.Lib.Run
import WlX11.PointerLookup

/-!
# WlX11 — present windows that overlap

The X server stacks the present windows of popups and subpresents; each is raised once, when it is
mapped. `surface_under_root_pointer` does not ask for that order: it goes through the popups, and then
through the subpresents, each time from the one that was made last.

* **`PresentStack`** — the popups and subpresents there are, and their windows in stacking order.
* **`PresentStack.HitsTopmost`** — where windows overlap, the pointer's target is the topmost window's.
* **`PresentStack.snapshot_target`** — the target is that of `surface_under_root_pointer`.
* **`PresentStack.hitsTopmost_iff`** — along every run, exactly if wherever the two orders disagree under
  the pointer, a third popup or subpresent is before the one or over the other.
-/

namespace Wlx

/-- A present window: `struct wlr_x11_present_window` and its X window, a child of the root. -/
structure PresentWindow where
  id : Nat
  box : Box
  mapped : Bool
deriving DecidableEq

/-- The present windows in the stacking order of the X server, the topmost first. -/
structure RootStack where
  windows : List PresentWindow
  /-- what `xcb_generate_id` gives next -/
  fresh : Nat
deriving DecidableEq

namespace RootStack

/-- `wlr_x11_present_window_create`; the server puts a new window on top of its siblings. -/
def create (x : RootStack) : RootStack := ⟨⟨x.fresh, ⟨0, 0, 1, 1⟩, false⟩ :: x.windows, x.fresh + 1⟩

/-- `wlr_x11_present_window_configure`, for sides of 1 and more. -/
def configure (id : Nat) (box : Box) (x : RootStack) : RootStack :=
  { x with windows := x.windows.map fun w => if w.id = id then { w with box := box } else w }

/-- `wlr_x11_present_window_map`: "Keep above siblings so nested menus stack correctly". -/
def map (id : Nat) (x : RootStack) : RootStack :=
  match x.windows.find? (·.id = id) with
  | none => x
  | some w =>
    if w.mapped then x
    else { x with windows := { w with mapped := true } :: x.windows.filter (·.id ≠ id) }

/-- `wlr_x11_present_window_destroy`. -/
def destroy (id : Nat) (x : RootStack) : RootStack :=
  { x with windows := x.windows.filter (·.id ≠ id) }

/-- The window is mapped, and the pixel in it. -/
def shows (p : Point) (w : PresentWindow) : Bool := w.mapped && w.box.covers p

/-- The topmost window at a pixel of the root. -/
def windowAt (p : Point) (x : RootStack) : Option PresentWindow := x.windows.find? (shows p)

end RootStack

inductive PresentKind where
  | popup | subpresent
deriving DecidableEq

/-- `struct wlx_popup` and `struct wlx_subpresent`, as far as the present window goes. -/
structure PresentEntry where
  id : Nat
  kind : PresentKind
  /-- the surface is mapped -/
  mapped : Bool
  xpresent : Option Nat
  /-- `root_x` to `root_h`, if `root_box_valid` -/
  rootBox : Option Box
deriving DecidableEq

/-- What placing one comes to. -/
structure PlacedAt where
  /-- `popup_compute_root_placement`, `subpresent_compute_root` -/
  place : Option Box
  /-- `wlr_x11_present_window_create` succeeds -/
  created : Bool
  /-- the size of the buffer, where the window takes that over -/
  resized : Option Size
  /-- where the popup is in its parent's window -/
  fallback : Option Box

namespace PresentEntry

/-- The window is configured, mapped and, if the buffer has another size, configured again. -/
def present (id : Nat) (box : Box) (resized : Option Size) (x : RootStack) (e : PresentEntry) :
    PresentEntry × RootStack :=
  let size := resized.getD box.size
  let shown := ⟨box.x, box.y, size.width, size.height⟩
  ({ e with xpresent := some id, rootBox := some shown },
    (((x.configure id box).map id).configure id shown))

/-- `popup_update_root_box`. -/
def popupUpdateRootBox (x : RootStack) (fallback : Option Box) (e : PresentEntry) : PresentEntry :=
  match e.xpresent with
  | some id =>
    { e with rootBox := ((x.windows.find? (·.id = id)).map (·.box)).filter fun box =>
        0 < box.width && 0 < box.height }
  | none => { e with rootBox := fallback }

/-- The root box is computed if it is not valid. -/
def withRootBox (x : RootStack) (fallback : Nat → Option Box) (e : PresentEntry) : PresentEntry :=
  if e.rootBox.isSome then e else e.popupUpdateRootBox x (fallback e.id)

/-- `popup_position_and_map`. -/
def popupPositionAndMap (x : RootStack) (placed : PlacedAt) (e : PresentEntry) : PresentEntry × RootStack :=
  match placed.place with
  | none => (e, x)
  | some box => match e.xpresent with
    | some id => e.present id box placed.resized x
    | none =>
      if placed.created then e.present x.fresh box placed.resized x.create
      else (e.popupUpdateRootBox x placed.fallback, x)

/-- `subpresent_position_and_present`. -/
def subpresentPositionAndPresent (x : RootStack) (placed : PlacedAt) (e : PresentEntry) :
    PresentEntry × RootStack :=
  if e.mapped then
    match placed.place with
    | none => (e, x)
    | some box => match e.xpresent with
      | some id => e.present id box placed.resized x
      | none => if placed.created then e.present x.fresh box placed.resized x.create else (e, x)
  else (e, x)

/-- `wlx_reposition_popups_for_window`, of one popup. -/
def repositionPopup (x : RootStack) (place : Option Box) (e : PresentEntry) : PresentEntry × RootStack :=
  match place with
  | none => (e, x)
  | some box =>
    if e.mapped then
      ({ e with rootBox := some box }, match e.xpresent with
        | some id => x.configure id box
        | none => x)
    else (e, x)

/-- The present window is destroyed: `popup_destroy_xpresent`, or from outside. A subpresent keeps its
root box. -/
def destroyXpresent (x : RootStack) (e : PresentEntry) : PresentEntry × RootStack :=
  ({ e with xpresent := none, rootBox := if e.kind = .popup then none else e.rootBox },
    match e.xpresent with
    | some id => x.destroy id
    | none => x)

end PresentEntry

structure PresentStack where
  /-- `server->popups` and `server->subpresents`, each newest first -/
  entries : List PresentEntry
  root : RootStack
  fresh : Nat
deriving DecidableEq

inductive StackAction where
  /-- `setup_popup` -/
  | newPopup
  /-- `popup_map` -/
  | popupMap (id : Nat) (placed : PlacedAt)
  /-- `popup_commit` -/
  | popupCommit (id : Nat) (placed : PlacedAt)
  | repositionPopup (id : Nat) (place : Option Box)
  /-- `popup_unmap` -/
  | popupUnmap (id : Nat)
  /-- `popup_destroy`, `subpresent_destroy` -/
  | destroy (id : Nat)
  /-- the present window goes, its popup or subpresent stays: `destroy_present_windows_for_toplevel`,
  or the destroy signal -/
  | windowDestroyed (id : Nat)
  /-- `subpresent_get_or_create` of a subsurface that overflows, and its first present -/
  | newSubpresent (placed : PlacedAt)
  /-- `subpresent_position_and_present`, from a commit, a sync or a reposition -/
  | subpresentPresent (id : Nat) (placed : PlacedAt)
  /-- the client maps or unmaps the subsurface -/
  | subsurface (id : Nat) (mapped : Bool)
  /-- an event of the pointer at `p` -/
  | pointer (p : Point) (fallback : Nat → Option Box)

namespace PresentStack

def init : PresentStack := ⟨[], ⟨[], 0⟩, 0⟩

/-- An entry and the windows after one of the functions above. -/
def set (v : PresentStack) (r : PresentEntry × RootStack) : PresentStack :=
  { v with entries := v.entries.map (fun e => if e.id = r.1.id then r.1 else e), root := r.2 }

/-- The popup or the subpresent with this id. -/
def entry (v : PresentStack) (kind : PresentKind) (id : Nat) : Option PresentEntry :=
  v.entries.find? fun e => e.kind = kind ∧ e.id = id

/-- `popup_at_root_pointer`: the popup that is found, and the entries with the root boxes it keeps. -/
def popupAtRootPointer (x : RootStack) (fallback : Nat → Option Box) (p : Point) :
    List PresentEntry → Option PresentEntry × List PresentEntry
  | [] => (none, [])
  | e :: es =>
    if e.kind = .popup ∧ e.mapped = true then
      let e := e.withRootBox x fallback
      if e.rootBox.any (·.covers p) then (some e, e :: es)
      else
        let r := popupAtRootPointer x fallback p es
        (r.1, e :: r.2)
    else
      let r := popupAtRootPointer x fallback p es
      (r.1, e :: r.2)

/-- A subpresent with a mapped present window, and the pixel in its root box. -/
def subpresentCovers (x : RootStack) (p : Point) (e : PresentEntry) : Bool :=
  e.kind = .subpresent ∧ e.xpresent.any (fun id => (x.windows.find? (·.id = id)).any (·.mapped)) = true ∧
    e.rootBox.any (·.covers p) = true

/-- `subpresent_at_root_pointer`. -/
def subpresentAtRootPointer (x : RootStack) (p : Point) (es : List PresentEntry) : Option PresentEntry :=
  es.find? (subpresentCovers x p)

/-- `surface_under_root_pointer`, as far as present windows go: the popups first. -/
def target (v : PresentStack) (fallback : Nat → Option Box) (p : Point) : Option PresentEntry :=
  (popupAtRootPointer v.root fallback p v.entries).1.or (subpresentAtRootPointer v.root p v.entries)

def step (v : PresentStack) : StackAction → Option PresentStack
  | .newPopup =>
    some { v with entries := ⟨v.fresh, .popup, false, none, none⟩ :: v.entries, fresh := v.fresh + 1 }
  | .popupMap id placed => (v.entry .popup id).map fun e =>
    v.set ({ e with mapped := true }.popupPositionAndMap v.root placed)
  | .popupCommit id placed => (v.entry .popup id).map fun e =>
    if e.mapped then v.set (e.popupPositionAndMap v.root placed) else v
  | .repositionPopup id place => (v.entry .popup id).map fun e => v.set (e.repositionPopup v.root place)
  | .popupUnmap id => (v.entry .popup id).map fun e =>
    v.set ({ e with mapped := false }.destroyXpresent v.root)
  | .destroy id => (v.entries.find? (·.id = id)).map fun e =>
    let v := v.set (e.destroyXpresent v.root)
    { v with entries := v.entries.filter (·.id ≠ id) }
  | .windowDestroyed id => (v.entries.find? (·.id = id)).map fun e => v.set (e.destroyXpresent v.root)
  | .newSubpresent placed =>
    let e : PresentEntry := ⟨v.fresh, .subpresent, true, none, none⟩
    let v := { v with entries := e :: v.entries, fresh := v.fresh + 1 }
    some (v.set (e.subpresentPositionAndPresent v.root placed))
  | .subpresentPresent id placed => (v.entry .subpresent id).map fun e =>
    v.set (e.subpresentPositionAndPresent v.root placed)
  | .subsurface id mapped => (v.entry .subpresent id).map fun e => v.set ({ e with mapped := mapped }, v.root)
  | .pointer p fallback =>
    some { v with entries := (popupAtRootPointer v.root fallback p v.entries).2 }

/-- Two of the windows cover the pixel. -/
def Contested (v : PresentStack) (p : Point) : Prop :=
  ∃ w ∈ v.root.windows, ∃ w' ∈ v.root.windows, w ≠ w' ∧ RootStack.shows p w = true ∧
    RootStack.shows p w' = true

/-- Where windows overlap, an event of the pointer goes to what the topmost of them belongs to. -/
def HitsTopmost (v : PresentStack) : StackAction → Prop
  | .pointer p fallback => v.Contested p →
    ∃ e w, v.target fallback p = some e ∧ v.root.windowAt p = some w ∧ e.xpresent = some w.id
  | _ => True

/-- The search comes to `e` before it comes to `e'`: popups first, and of one kind the newer one. -/
def Precedes (e e' : PresentEntry) : Prop :=
  (e.kind = .popup ∧ e'.kind = .subpresent) ∨ (e.kind = e'.kind ∧ e'.id < e.id)

/-- The window of `e` has been mapped, and that after the one of `e'`, if that has one. -/
def MappedAfter (e e' : PresentEntry) : Prop :=
  ∃ id ∈ e.xpresent, ∀ id' ∈ e'.xpresent, id' < id

/-- There is a window of `e` at the pixel. -/
def ShownAt (v : PresentStack) (p : Point) (e : PresentEntry) : Prop :=
  e ∈ v.entries ∧ ∃ w ∈ v.root.windows, e.xpresent = some w.id ∧ RootStack.shows p w = true

/-- The pixel is in a window of `e`, or `e` is a popup on a mapped surface that has none, and the pixel
in what is taken for its root box. -/
def CountsAt (v : PresentStack) (fallback : Nat → Option Box) (p : Point) (e : PresentEntry) : Prop :=
  v.ShownAt p e ∨
    (e ∈ v.entries ∧ e.kind = .popup ∧ e.mapped = true ∧ e.xpresent = none ∧
      ∃ box ∈ e.rootBox.or (fallback e.id), box.covers p = true)

/-- Where windows overlap under the pointer, and one thing is searched before another that has been
mapped after it, a third one there is searched before the first or has been mapped after the second. -/
def Ordered (v : PresentStack) : StackAction → Prop
  | .pointer p fallback => v.Contested p → ∀ e e', v.CountsAt fallback p e → v.ShownAt p e' →
    Precedes e e' → ¬ MappedAfter e e' →
      ∃ e'', (v.CountsAt fallback p e'' ∧ Precedes e'' e) ∨ (v.ShownAt p e'' ∧ MappedAfter e'' e')
  | _ => True

/-! ## The windows -/

section Windows

variable {x : RootStack} {id : Nat} {box : Box} {w : PresentWindow}

/-- The ids of the windows go down the stack, and are used up. -/
structure Ranked (x : RootStack) : Prop where
  windows : x.windows.Pairwise fun w w' => w'.id < w.id
  old : ∀ w ∈ x.windows, w.id < x.fresh

theorem Ranked.inj (h : Ranked x) {w w' : PresentWindow} (hw : w ∈ x.windows) (hw' : w' ∈ x.windows)
    (hid : w.id = w'.id) : w = w' :=
  eq_of_descending h.windows hw hw' hid

/-- So the server finds a window by its id. -/
theorem Ranked.find? (h : Ranked x) (hw : w ∈ x.windows) :
    x.windows.find? (fun w' => decide (w'.id = w.id)) = some w := by
  cases hfind : x.windows.find? (fun w' => decide (w'.id = w.id)) with
  | none => exact absurd (decide_eq_true rfl) (List.find?_eq_none.mp hfind w hw)
  -- ids are unique, so the first one found is the one
  | some w' =>
    have hid := List.find?_some hfind
    have hid : w'.id = w.id := of_decide_eq_true hid
    rw [h.inj (List.mem_of_find?_eq_some hfind) hw hid]

/-- A configure changes the box of one window and no other. -/
theorem mem_configure_iff (w : PresentWindow) : w ∈ (x.configure id box).windows ↔
    (w ∈ x.windows ∧ w.id ≠ id) ∨ ∃ w' ∈ x.windows, w'.id = id ∧ w = { w' with box := box } := by
  unfold RootStack.configure
  rw [List.mem_map]
  constructor
  · rintro ⟨w', hw', rfl⟩
    by_cases hid : w'.id = id
    · rw [if_pos hid]
      exact .inr ⟨w', hw', hid, rfl⟩
    · rw [if_neg hid]
      exact .inl ⟨hw', hid⟩
  · rintro (⟨hw, hid⟩ | ⟨w', hw', hid, rfl⟩)
    · exact ⟨w, hw, if_neg hid⟩
    · exact ⟨w', hw', if_pos hid⟩

/-- It keeps ids and order. -/
theorem Ranked.configure (h : Ranked x) : Ranked (x.configure id box) where
  windows := by
    refine List.pairwise_map.mpr (h.windows.imp fun hlt => ?_)
    split <;> split <;> exact hlt
  old := fun w hw => by
    rcases (mem_configure_iff w).mp hw with ⟨hw, -⟩ | ⟨w', hw', -, rfl⟩
    · exact h.old w hw
    · exact h.old w' hw'

theorem Ranked.destroy (h : Ranked x) : Ranked (x.destroy id) where
  windows := h.windows.filter _
  old := fun w hw => h.old w (List.mem_of_mem_filter hw)

/-- A window that is mapped is not raised again. -/
theorem map_of_mapped (h : ∀ w ∈ x.windows, w.mapped = true) : x.map id = x := by
  unfold RootStack.map
  cases hfind : x.windows.find? (fun w => decide (w.id = id)) with
  | none => rfl
  | some w => exact if_pos (h w (List.mem_of_find?_eq_some hfind))

/-- A new window comes to be on top. -/
theorem create_map (h : Ranked x) (box' : Box) :
    (((x.create.configure x.fresh box).map x.fresh).configure x.fresh box') =
      ⟨⟨x.fresh, box', true⟩ :: x.windows, x.fresh + 1⟩ := by
  -- its name is new, so nothing else is moved or raised
  have hne : ∀ w ∈ x.windows, w.id ≠ x.fresh := fun w hw => Nat.ne_of_lt (h.old w hw)
  have hsame : ∀ b : Box, x.windows.map (fun w => if w.id = x.fresh then { w with box := b } else w) =
      x.windows := by
    intro b
    exact (List.map_congr_left fun w hw => if_neg (hne w hw)).trans (List.map_id _)
  have hcreate : x.create.configure x.fresh box =
      ⟨⟨x.fresh, box, false⟩ :: x.windows, x.fresh + 1⟩ := by
    unfold RootStack.create RootStack.configure
    rw [List.map_cons, if_pos rfl, hsame box]
  have hmap : (x.create.configure x.fresh box).map x.fresh =
      ⟨⟨x.fresh, box, true⟩ :: x.windows, x.fresh + 1⟩ := by
    rw [hcreate]
    unfold RootStack.map
    simp only [List.find?_cons_of_pos, decide_true, Bool.false_eq_true, if_false, ne_eq,
      not_true_eq_false, decide_false, List.filter_cons_of_neg, not_false_eq_true,
      RootStack.mk.injEq, List.cons.injEq, true_and, and_true]
    exact List.filter_eq_self.mpr fun w hw => decide_eq_true (hne w hw)
  rw [hmap]
  unfold RootStack.configure
  rw [List.map_cons, if_pos rfl, hsame box']

end Windows

/-! ## What holds in every state -/

section Invariant

variable {v v' : PresentStack} {e e' : PresentEntry} {r : PresentEntry × RootStack} {id : Nat}

/-- Entries and windows stand in the order they were made in. A window is mapped and belongs to one
entry, which has its box for its root box. -/
structure Stacked (v : PresentStack) : Prop where
  entries : v.entries.Pairwise fun e e' => e'.id < e.id
  old : ∀ e ∈ v.entries, e.id < v.fresh
  ranked : Ranked v.root
  owned : ∀ w ∈ v.root.windows, w.mapped = true ∧ ∃ e ∈ v.entries, e.xpresent = some w.id
  shown : ∀ e ∈ v.entries, ∀ id ∈ e.xpresent, (e.kind = .popup → e.mapped = true) ∧
    ∃ w ∈ v.root.windows, w.id = id ∧ e.rootBox = some w.box
  sole : ∀ e ∈ v.entries, ∀ e' ∈ v.entries, ∀ id ∈ e.xpresent, id ∈ e'.xpresent → e = e'

/-- At the start there is nothing to stack. -/
theorem Stacked.init : Stacked init where
  entries := .nil
  old := fun _ he => by cases he
  ranked := ⟨.nil, fun _ hw => by cases hw⟩
  owned := fun _ hw => by cases hw
  shown := fun _ he => by cases he
  sole := fun _ he => by cases he

/-- Two entries with one id are one entry. -/
theorem Stacked.inj (h : v.Stacked) (he : e ∈ v.entries) (he' : e' ∈ v.entries) (hid : e.id = e'.id) :
    e = e' :=
  eq_of_descending h.entries he he' hid

/-- What a function does to one entry and its window: the other windows stay. -/
structure Updates (v : PresentStack) (e : PresentEntry) (r : PresentEntry × RootStack) : Prop where
  id : r.1.id = e.id
  kind : r.1.kind = e.kind
  ranked : Ranked r.2
  others : ∀ w ∈ v.root.windows, e.xpresent ≠ some w.id → w ∈ r.2.windows
  owned : ∀ w ∈ r.2.windows, w.mapped = true ∧
    (r.1.xpresent = some w.id ∨ (w ∈ v.root.windows ∧ e.xpresent ≠ some w.id))
  shown : ∀ id ∈ r.1.xpresent, (r.1.kind = .popup → r.1.mapped = true) ∧
    ∃ w ∈ r.2.windows, w.id = id ∧ r.1.rootBox = some w.box
  own : ∀ id ∈ r.1.xpresent, e.xpresent = some id ∨ v.root.fresh ≤ id

/-- A handler replaces the entry it was called for. -/
theorem mem_set_iff (h : v.Stacked) (he : e ∈ v.entries) (hid : r.1.id = e.id) (e' : PresentEntry) :
    e' ∈ (v.set r).entries ↔ e' = r.1 ∨ (e' ∈ v.entries ∧ e' ≠ e) := by
  unfold set
  rw [List.mem_map]
  constructor
  · rintro ⟨e₀, he₀, rfl⟩
    by_cases heq : e₀.id = r.1.id
    · rw [if_pos heq]
      exact .inl rfl
    · rw [if_neg heq]
      -- an id is of one entry
      refine .inr ⟨he₀, ?_⟩
      rintro rfl
      exact heq hid.symm
  · rintro (rfl | ⟨he', hne⟩)
    · exact ⟨e, he, if_pos hid.symm⟩
    · refine ⟨e', he', if_neg fun heq => hne ?_⟩
      exact h.inj he' he (heq.trans hid)

/-- **One entry changes, with its window.** -/
theorem Stacked.set (h : v.Stacked) (he : e ∈ v.entries) (hr : Updates v e r) : (v.set r).Stacked where
  entries := by
    refine List.pairwise_map.mpr (h.entries.imp_of_mem fun {e₁ e₂} h₁ h₂ hlt => ?_)
    have hkeep : ∀ e₀, (if e₀.id = r.1.id then r.1 else e₀).id = e₀.id := by
      intro e₀
      split
      · rename_i heq
        exact heq.symm
      · rfl
    rw [hkeep, hkeep]
    exact hlt
  old := fun e' he' => by
    rcases (mem_set_iff h he hr.id e').mp he' with rfl | ⟨he', -⟩
    · exact hr.id ▸ h.old e he
    · exact h.old e' he'
  ranked := hr.ranked
  owned := fun w hw => by
    obtain ⟨hmapped, hown⟩ := hr.owned w hw
    refine ⟨hmapped, ?_⟩
    rcases hown with hown | ⟨hold, hne⟩
    · exact ⟨r.1, (mem_set_iff h he hr.id _).mpr (.inl rfl), hown⟩
    · obtain ⟨-, e', he', hxpresent⟩ := h.owned w hold
      refine ⟨e', (mem_set_iff h he hr.id _).mpr (.inr ⟨he', ?_⟩), hxpresent⟩
      rintro rfl
      exact hne hxpresent
  shown := fun e' he' id hid => by
    rcases (mem_set_iff h he hr.id e').mp he' with rfl | ⟨he', hne⟩
    · exact hr.shown id hid
    · obtain ⟨hmapped, w, hw, rfl, hbox⟩ := h.shown e' he' id hid
      refine ⟨hmapped, w, hr.others w hw fun heq => hne ?_, rfl, hbox⟩
      exact h.sole e' he' e he w.id hid heq
  sole := by
    -- a window that `r.1` has is one that `e` had, or new
    have hother : ∀ e' ∈ v.entries, e' ≠ e → ∀ id ∈ r.1.xpresent, id ∉ e'.xpresent := by
      intro e' he' hne id hid hid'
      rcases hr.own id hid with hown | hfresh
      · exact hne (h.sole e' he' e he id hid' hown)
      · obtain ⟨-, w, hw, rfl, -⟩ := h.shown e' he' id hid'
        exact absurd (h.ranked.old w hw) (Nat.not_lt.mpr hfresh)
    intro e₁ he₁ e₂ he₂ id h₁ h₂
    rcases (mem_set_iff h he hr.id e₁).mp he₁ with rfl | ⟨he₁, hne₁⟩ <;>
      rcases (mem_set_iff h he hr.id e₂).mp he₂ with rfl | ⟨he₂, hne₂⟩
    · rfl
    · exact absurd h₂ (hother e₂ he₂ hne₂ id h₁)
    · exact absurd h₁ (hother e₁ he₁ hne₁ id h₂)
    · exact h.sole e₁ he₁ e₂ he₂ id h₁ h₂

/-- The window stays as it is. -/
theorem Stacked.updates_self (h : v.Stacked) (he : e ∈ v.entries) {mapped : Bool} {rootBox : Option Box}
    (hmapped : ∀ id ∈ e.xpresent, e.kind = .popup → mapped = true)
    (hbox : ∀ id ∈ e.xpresent, rootBox = e.rootBox) :
    Updates v e ({ e with mapped := mapped, rootBox := rootBox }, v.root) where
  id := rfl
  kind := rfl
  ranked := h.ranked
  others := fun _ hw _ => hw
  owned := fun w hw => by
    obtain ⟨hwmapped, e', he', hxpresent⟩ := h.owned w hw
    refine ⟨hwmapped, ?_⟩
    -- the window is this entry's or another's
    by_cases hown : e.xpresent = some w.id
    · exact .inl hown
    · exact .inr ⟨hw, hown⟩
  shown := fun id hid => by
    obtain ⟨-, w, hw, hwid, hroot⟩ := h.shown e he id hid
    exact ⟨hmapped id hid, w, hw, hwid, (hbox id hid).trans hroot⟩
  own := fun _ hid => .inl hid

/-- The window is put somewhere else, in its place of the stack. -/
theorem Stacked.updates_configure (h : v.Stacked) (he : e ∈ v.entries) (hid : e.xpresent = some id)
    {mapped : Bool} (hmapped : e.kind = .popup → mapped = true) (box : Box) :
    Updates v e ({ e with mapped := mapped, rootBox := some box }, v.root.configure id box) where
  id := rfl
  kind := rfl
  ranked := h.ranked.configure
  others := fun w hw hne => (mem_configure_iff w).mpr (.inl ⟨hw, fun heq => hne (heq ▸ hid)⟩)
  owned := fun w hw => by
    -- another window, or the one that is moved
    rcases (mem_configure_iff w).mp hw with ⟨hw, hne⟩ | ⟨w', hw', rfl, rfl⟩
    · refine ⟨(h.owned w hw).1, .inr ⟨hw, fun heq => hne ?_⟩⟩
      exact Option.some.inj (heq.symm.trans hid)
    · exact ⟨(h.owned w' hw').1, .inl hid⟩
  shown := fun id' hid' => by
    obtain rfl : id = id' := Option.some.inj (hid.symm.trans hid')
    obtain ⟨-, w, hw, hwid, -⟩ := h.shown e he id hid
    exact ⟨hmapped, _, (mem_configure_iff _).mpr (.inr ⟨w, hw, hwid, rfl⟩), hwid, rfl⟩
  own := fun _ hid' => .inl hid'

/-- A handler that returns early has done nothing. -/
theorem Stacked.updates_refl (h : v.Stacked) (he : e ∈ v.entries) : Updates v e (e, v.root) :=
  h.updates_self he (fun id hid hpopup => (h.shown e he id hid).1 hpopup) fun _ _ => rfl

/-- An entry without a window is free to change. -/
theorem Stacked.updates_of_xpresent_eq_none (h : v.Stacked) (he : e ∈ v.entries) (hnone : e.xpresent = none)
    (mapped : Bool) (box : Option Box) :
    Updates v e ({ e with mapped := mapped, xpresent := none, rootBox := box }, v.root) := by
  have hnot : ∀ id, id ∉ e.xpresent := fun id hid => by
    rw [hnone] at hid
    cases hid
  have hup : Updates v e ({ e with mapped := mapped, rootBox := box }, v.root) :=
    h.updates_self he (fun id hid => absurd hid (hnot id)) fun id hid => absurd hid (hnot id)
  rw [hnone] at hup
  exact hup

/-- A new window comes on top. -/
theorem Stacked.updates_create (h : v.Stacked) (hnone : e.xpresent = none) {mapped : Bool}
    (hmapped : e.kind = .popup → mapped = true) (box : Box) :
    Updates v e ({ e with mapped := mapped, xpresent := some v.root.fresh, rootBox := some box },
      ⟨⟨v.root.fresh, box, true⟩ :: v.root.windows, v.root.fresh + 1⟩) where
  id := rfl
  kind := rfl
  ranked :=
    { windows := List.pairwise_cons.mpr ⟨h.ranked.old, h.ranked.windows⟩
      old := fun w hw => by
        rcases List.mem_cons.mp hw with rfl | hw
        · exact Nat.lt_succ_self _
        · exact Nat.lt_succ_of_lt (h.ranked.old w hw) }
  others := fun _ hw _ => List.mem_cons_of_mem _ hw
  -- the new window is the entry's, and no other has changed hands
  owned := fun w hw => by
    rcases List.mem_cons.mp hw with rfl | hw
    · exact ⟨rfl, .inl rfl⟩
    · refine ⟨(h.owned w hw).1, .inr ⟨hw, ?_⟩⟩
      rw [hnone]
      exact (Option.some_ne_none _).symm
  shown := fun id hid => by
    obtain rfl := Option.some.inj hid
    exact ⟨hmapped, _, List.mem_cons_self, rfl, rfl⟩
  own := fun id hid => by
    obtain rfl := Option.some.inj hid
    exact .inr le_rfl

/-- The window goes. -/
theorem Stacked.updates_destroyXpresent (h : v.Stacked) (mapped : Bool) :
    Updates v e ({ e with mapped := mapped }.destroyXpresent v.root) := by
  unfold PresentEntry.destroyXpresent
  cases hxpresent : e.xpresent with
  | none =>
    refine ⟨rfl, rfl, h.ranked, fun _ hw _ => hw, fun w hw => ⟨(h.owned w hw).1, .inr ⟨hw, ?_⟩⟩, ?_, ?_⟩
    · rw [hxpresent]
      exact (Option.some_ne_none _).symm
    · exact fun id hid => by cases hid
    · exact fun id hid => by cases hid
  -- the windows of the others stay, in their order
  | some id =>
    refine ⟨rfl, rfl, h.ranked.destroy, fun w hw hne => ?_, fun w hw => ?_, ?_, ?_⟩
    · refine List.mem_filter.mpr ⟨hw, decide_eq_true fun heq => hne ?_⟩
      rw [hxpresent, heq]
    · obtain ⟨hw, hne⟩ := List.mem_filter.mp hw
      refine ⟨(h.owned w hw).1, .inr ⟨hw, fun heq => of_decide_eq_true hne ?_⟩⟩
      exact Option.some.inj (heq.symm.trans hxpresent)
    · exact fun id hid => by cases hid
    · exact fun id hid => by cases hid

/-- Configured, mapped and configured again. -/
theorem Stacked.updates_present (h : v.Stacked) (he : e ∈ v.entries) {mapped : Bool}
    (hmapped : e.kind = .popup → mapped = true) (hid : e.xpresent = some id) (box : Box)
    (resized : Option Size) :
    Updates v e ({ e with mapped := mapped }.present id box resized v.root) := by
  -- mapped already, so that only the last box counts
  have hroot : ∀ b b' : Box, ((v.root.configure id b).map id).configure id b' = v.root.configure id b' := by
    intro b b'
    rw [map_of_mapped]
    · unfold RootStack.configure
      rw [List.map_map]
      congr 1
      refine List.map_congr_left fun w _ => ?_
      by_cases hw : w.id = id
      · simp [hw]
      · simp [hw]
    · intro w hw
      rcases (mem_configure_iff w).mp hw with ⟨hw, -⟩ | ⟨w', hw', -, rfl⟩
      · exact (h.owned w hw).1
      · exact (h.owned w' hw').1
  have hup := h.updates_configure he hid hmapped
    ⟨box.x, box.y, (resized.getD box.size).width, (resized.getD box.size).height⟩
  unfold PresentEntry.present
  dsimp only
  rw [hroot, ← hid]
  exact hup

/-- The first present creates a window on top of the stack. -/
theorem Stacked.updates_present_create (h : v.Stacked) {mapped : Bool}
    (hmapped : e.kind = .popup → mapped = true) (hnone : e.xpresent = none) (box : Box)
    (resized : Option Size) :
    Updates v e ({ e with mapped := mapped }.present v.root.fresh box resized v.root.create) := by
  unfold PresentEntry.present
  dsimp only
  rw [create_map h.ranked]
  exact h.updates_create hnone hmapped _

/-- A popup is moved, or gets its first window, and is mapped. -/
theorem Stacked.updates_popupPositionAndMap (h : v.Stacked) (he : e ∈ v.entries) (placed : PlacedAt) :
    Updates v e ({ e with mapped := true }.popupPositionAndMap v.root placed) := by
  unfold PresentEntry.popupPositionAndMap
  cases placed.place with
  | none => exact h.updates_self he (fun _ _ _ => rfl) fun _ _ => rfl
  | some box =>
    cases hxpresent : e.xpresent with
    | some id => exact h.updates_present he (fun _ => rfl) hxpresent box placed.resized
    | none =>
      dsimp only
      split
      · exact h.updates_present_create (fun _ => rfl) hxpresent box placed.resized
      · exact h.updates_of_xpresent_eq_none he hxpresent true placed.fallback

/-- A subpresent without a window gets one; with a window, it is moved. -/
theorem Stacked.updates_subpresentPositionAndPresent (h : v.Stacked) (he : e ∈ v.entries)
    (hkind : e.kind = .subpresent) (placed : PlacedAt) :
    Updates v e (e.subpresentPositionAndPresent v.root placed) := by
  have hself := h.updates_refl he
  have hmapped : e.kind = .popup → e.mapped = true := fun hpopup => by
    rw [hkind] at hpopup
    cases hpopup
  unfold PresentEntry.subpresentPositionAndPresent
  split
  · cases placed.place with
    | none => exact hself
    | some box =>
      cases hxpresent : e.xpresent with
      | some id => exact h.updates_present he hmapped hxpresent box placed.resized
      | none =>
        dsimp only
        split
        -- the X server has given it a window
        · exact h.updates_present_create hmapped hxpresent box placed.resized
        · exact hself
  · exact hself

/-- A reposition moves the window and the root box together. -/
theorem Stacked.updates_repositionPopup (h : v.Stacked) (he : e ∈ v.entries) (place : Option Box) :
    Updates v e (e.repositionPopup v.root place) := by
  have hself := h.updates_refl he
  unfold PresentEntry.repositionPopup
  cases place with
  | none => exact hself
  | some box =>
    dsimp only
    split
    · rename_i hmapped
      cases hxpresent : e.xpresent with
      | some id =>
        -- moved, and not mapped anew: the stacking is the same
        have hup := h.updates_configure he hxpresent (fun _ => hmapped) box
        rw [hxpresent] at hup
        exact hup
      | none => exact h.updates_of_xpresent_eq_none he hxpresent e.mapped (some box)
    · exact hself

/-- A new entry has no window. -/
theorem Stacked.add (h : v.Stacked) (kind : PresentKind) (mapped : Bool) :
    Stacked { v with entries := ⟨v.fresh, kind, mapped, none, none⟩ :: v.entries, fresh := v.fresh + 1 } where
  entries := List.pairwise_cons.mpr ⟨h.old, h.entries⟩
  old := fun e he => by
    rcases List.mem_cons.mp he with rfl | he
    -- its id is the newest
    · exact Nat.lt_succ_self _
    · exact Nat.lt_succ_of_lt (h.old e he)
  ranked := h.ranked
  owned := fun w hw => by
    obtain ⟨hmapped, e, he, hxpresent⟩ := h.owned w hw
    exact ⟨hmapped, e, List.mem_cons_of_mem _ he, hxpresent⟩
  shown := fun e he id hid => by
    rcases List.mem_cons.mp he with rfl | he
    · cases hid
    · exact h.shown e he id hid
  sole := fun e he e' he' id hid hid' => by
    rcases List.mem_cons.mp he with rfl | he
    · cases hid
    · rcases List.mem_cons.mp he' with rfl | he'
      · cases hid'
      · exact h.sole e he e' he' id hid hid'

/-- An entry without a window is removed. -/
theorem Stacked.remove (h : v.Stacked) (hnone : ∀ e ∈ v.entries, e.id = id → e.xpresent = none) :
    Stacked { v with entries := v.entries.filter (·.id ≠ id) } where
  entries := h.entries.filter _
  old := fun e he => h.old e (List.mem_of_mem_filter he)
  ranked := h.ranked
  owned := fun w hw => by
    obtain ⟨hmapped, e, he, hxpresent⟩ := h.owned w hw
    refine ⟨hmapped, e, List.mem_filter.mpr ⟨he, decide_eq_true fun heq => ?_⟩, hxpresent⟩
    rw [hnone e he heq] at hxpresent
    cases hxpresent
  shown := fun e he => h.shown e (List.mem_of_mem_filter he)
  sole := fun e he e' he' => h.sole e (List.mem_of_mem_filter he) e' (List.mem_of_mem_filter he')

/-- The same entry, with the same root box if it has a window. -/
structure Keeps (e e' : PresentEntry) : Prop where
  id : e'.id = e.id
  kind : e'.kind = e.kind
  mapped : e'.mapped = e.mapped
  xpresent : e'.xpresent = e.xpresent
  rootBox : e.xpresent ≠ none → e'.rootBox = e.rootBox

theorem Keeps.refl (e : PresentEntry) : Keeps e e := ⟨rfl, rfl, rfl, rfl, fun _ => rfl⟩

/-- What the pointer looks up is remembered only where there was nothing to remember. -/
theorem keeps_withRootBox (h : e.xpresent ≠ none → e.rootBox.isSome = true) (x : RootStack)
    (fallback : Nat → Option Box) : Keeps e (e.withRootBox x fallback) := by
  unfold PresentEntry.withRootBox
  split
  · exact .refl e
  · rename_i hbox
    have hnone : e.xpresent = none := not_not.mp fun hne => hbox (h hne)
    unfold PresentEntry.popupUpdateRootBox
    rw [hnone]
    exact ⟨rfl, rfl, rfl, hnone.symm ▸ rfl, fun hne => absurd hnone hne⟩

/-- A search keeps the entries as they are, but for root boxes of popups without a window. -/
structure KeptEntries (es es' : List PresentEntry) : Prop where
  ids : es'.map (·.id) = es.map (·.id)
  from_old : ∀ e' ∈ es', ∃ e ∈ es, Keeps e e'
  to_new : ∀ e ∈ es, ∃ e' ∈ es', Keeps e e'

/-- Kept entries are kept one by one. -/
theorem KeptEntries.cons {es es' : List PresentEntry} (he : Keeps e e') (h : KeptEntries es es') :
    KeptEntries (e :: es) (e' :: es') where
  ids := by rw [List.map_cons, List.map_cons, he.id, h.ids]
  from_old := fun e₁ he₁ => by
    rcases List.mem_cons.mp he₁ with rfl | he₁
    · exact ⟨e, List.mem_cons_self, he⟩
    · obtain ⟨e₂, he₂, hkeeps⟩ := h.from_old e₁ he₁
      exact ⟨e₂, List.mem_cons_of_mem _ he₂, hkeeps⟩
  to_new := fun e₁ he₁ => by
    rcases List.mem_cons.mp he₁ with rfl | he₁
    · exact ⟨e', List.mem_cons_self, he⟩
    · obtain ⟨e₂, he₂, hkeeps⟩ := h.to_new e₁ he₁
      exact ⟨e₂, List.mem_cons_of_mem _ he₂, hkeeps⟩

theorem KeptEntries.refl (es : List PresentEntry) : KeptEntries es es :=
  ⟨rfl, fun e he => ⟨e, he, .refl e⟩, fun e he => ⟨e, he, .refl e⟩⟩

/-- The lookup stops at a popup, and has filled in root boxes up to there. -/
theorem popupAtRootPointer_kept {x : RootStack} {fallback : Nat → Option Box} {p : Point}
    {es : List PresentEntry} (h : ∀ e ∈ es, e.xpresent ≠ none → e.rootBox.isSome = true) :
    KeptEntries es (popupAtRootPointer x fallback p es).2 := by
  induction es with
  | nil => exact .refl []
  | cons e es ih =>
    have ih := ih fun e he => h e (List.mem_cons_of_mem _ he)
    have he := keeps_withRootBox (h e List.mem_cons_self) x fallback
    unfold popupAtRootPointer
    split
    · dsimp only
      split
      · exact .cons he (.refl es)
      · exact .cons he ih
    · exact .cons (.refl e) ih

/-- Root boxes that are filled in touch no window. -/
theorem Stacked.kept (h : v.Stacked) {es : List PresentEntry} (hes : KeptEntries v.entries es) :
    Stacked { v with entries := es } := by
  have hentries : es.Pairwise fun e e' => e'.id < e.id := by
    have hids : (es.map (·.id)).Pairwise fun i j => j < i := by
      rw [hes.ids]
      exact List.pairwise_map.mpr h.entries
    exact List.pairwise_map.mp hids
  refine ⟨hentries, fun e' he' => ?_, h.ranked, fun w hw => ?_, fun e' he' id hid => ?_, ?_⟩
  · obtain ⟨e, he, hkeeps⟩ := hes.from_old e' he'
    exact hkeeps.id ▸ h.old e he
  · obtain ⟨hmapped, e, he, hxpresent⟩ := h.owned w hw
    obtain ⟨e', he', hkeeps⟩ := hes.to_new e he
    exact ⟨hmapped, e', he', hkeeps.xpresent.trans hxpresent⟩
  · obtain ⟨e, he, hkeeps⟩ := hes.from_old e' he'
    have hid : e.xpresent = some id := hkeeps.xpresent.symm.trans hid
    obtain ⟨hmapped, w, hw, hwid, hbox⟩ := h.shown e he id hid
    refine ⟨fun hpopup => hkeeps.mapped.trans (hmapped (hkeeps.kind.symm.trans hpopup)), w, hw, hwid, ?_⟩
    exact (hkeeps.rootBox (by rw [hid]; exact Option.some_ne_none id)).trans hbox
  -- no window is shared
  · intro e₁' he₁' e₂' he₂' id hid₁ hid₂
    obtain ⟨e₁, he₁, hkeeps₁⟩ := hes.from_old e₁' he₁'
    obtain ⟨e₂, he₂, hkeeps₂⟩ := hes.from_old e₂' he₂'
    have heq := h.sole e₁ he₁ e₂ he₂ id (hkeeps₁.xpresent.symm.trans hid₁)
      (hkeeps₂.xpresent.symm.trans hid₂)
    refine eq_of_descending hentries he₁' he₂' ?_
    rw [hkeeps₁.id, hkeeps₂.id, heq]

/-- With a window comes a root box. -/
theorem Stacked.rootBox_isSome (h : v.Stacked) (he : e ∈ v.entries) (hne : e.xpresent ≠ none) :
    e.rootBox.isSome = true := by
  obtain ⟨id, hid⟩ := Option.ne_none_iff_exists'.mp hne
  obtain ⟨-, w, -, -, hbox⟩ := h.shown e he id hid
  rw [hbox]
  rfl

/-- What is found under an id has it, and is of the kind looked for. -/
theorem entry_some {kind : PresentKind} (h : v.entry kind id = some e) :
    e ∈ v.entries ∧ e.kind = kind ∧ e.id = id := by
  have htest := List.find?_some h
  exact ⟨List.mem_of_find?_eq_some h, of_decide_eq_true htest⟩

/-- Each handler keeps the stack and the lists together. One case per event. -/
theorem Stacked.step (h : v.Stacked) {a : StackAction} (hstep : v.step a = some v') : v'.Stacked := by
  cases a with
  | newPopup =>
    -- an entry without a window
    obtain rfl := Option.some.inj hstep
    exact h.add .popup false
  | popupMap id placed =>
    obtain ⟨e, hentry, rfl⟩ := Option.map_eq_some_iff.mp hstep
    have he := (entry_some hentry).1
    exact h.set he (h.updates_popupPositionAndMap he placed)
  | popupCommit id placed =>
    obtain ⟨e, hentry, rfl⟩ := Option.map_eq_some_iff.mp hstep
    have he := (entry_some hentry).1
    split
    · rename_i hmapped
      have hup := h.updates_popupPositionAndMap he placed
      rw [← hmapped] at hup
      exact h.set he hup
    · exact h
  | repositionPopup id place =>
    obtain ⟨e, hentry, rfl⟩ := Option.map_eq_some_iff.mp hstep
    have he := (entry_some hentry).1
    exact h.set he (h.updates_repositionPopup he place)
  | popupUnmap id =>
    obtain ⟨e, hentry, rfl⟩ := Option.map_eq_some_iff.mp hstep
    exact h.set (entry_some hentry).1 (h.updates_destroyXpresent false)
  -- the window goes first, and then the entry that had it
  | destroy id =>
    obtain ⟨e, hentry, rfl⟩ := Option.map_eq_some_iff.mp hstep
    have he := List.mem_of_find?_eq_some hentry
    have hid := List.find?_some hentry
    have hid : e.id = id := of_decide_eq_true hid
    have hup := h.updates_destroyXpresent (e := e) e.mapped
    refine (h.set he hup).remove fun e' he' heq => ?_
    rcases (mem_set_iff h he hup.id e').mp he' with rfl | ⟨he', hne⟩
    · rfl
    · exact absurd (h.inj he' he (heq.trans hid.symm)) hne
  | windowDestroyed id =>
    obtain ⟨e, hentry, rfl⟩ := Option.map_eq_some_iff.mp hstep
    exact h.set (List.mem_of_find?_eq_some hentry) (h.updates_destroyXpresent e.mapped)
  -- a subpresent is presented as soon as it is there
  | newSubpresent placed =>
    obtain rfl := Option.some.inj hstep
    have hadd := h.add .subpresent true
    exact hadd.set List.mem_cons_self
      (hadd.updates_subpresentPositionAndPresent List.mem_cons_self rfl placed)
  | subpresentPresent id placed =>
    obtain ⟨e, hentry, rfl⟩ := Option.map_eq_some_iff.mp hstep
    obtain ⟨he, hkind, -⟩ := entry_some hentry
    exact h.set he (h.updates_subpresentPositionAndPresent he hkind placed)
  | subsurface id mapped =>
    obtain ⟨e, hentry, rfl⟩ := Option.map_eq_some_iff.mp hstep
    obtain ⟨he, hkind, -⟩ := entry_some hentry
    refine h.set he (h.updates_self he (fun id hid hpopup => ?_) fun _ _ => rfl)
    rw [hkind] at hpopup
    cases hpopup
  | pointer p fallback =>
    obtain rfl := Option.some.inj hstep
    exact h.kept (popupAtRootPointer_kept fun e he => h.rootBox_isSome he)

end Invariant

/-! ## What the pointer finds -/

section Target

variable {v : PresentStack} {e e' : PresentEntry} {fallback : Nat → Option Box} {p : Point} {id : Nat}

/-- A popup on a mapped surface, and the pixel in its root box. -/
def popupCovers (x : RootStack) (fallback : Nat → Option Box) (p : Point) (e : PresentEntry) : Bool :=
  decide (e.kind = .popup ∧ e.mapped = true) && (e.withRootBox x fallback).rootBox.any (·.covers p)

/-- The loop takes the first popup that covers the pixel, as if all root boxes were known. -/
theorem popupAtRootPointer_eq (x : RootStack) (es : List PresentEntry) :
    (popupAtRootPointer x fallback p es).1 =
      (es.find? (popupCovers x fallback p)).map (·.withRootBox x fallback) := by
  induction es with
  | nil => rfl
  | cons e es ih =>
    unfold popupAtRootPointer
    rw [List.find?_cons]
    unfold popupCovers
    -- the loop passes over subpresents and unmapped popups
    by_cases hpopup : e.kind = .popup ∧ e.mapped = true
    · rw [if_pos hpopup, decide_eq_true hpopup, Bool.true_and]
      dsimp only
      cases (e.withRootBox x fallback).rootBox.any (·.covers p) with
      | true => rfl
      | false => exact ih
    · rw [if_neg hpopup, decide_eq_false hpopup, Bool.false_and]
      exact ih

/-- A root box that is known is not computed again. -/
theorem Stacked.withRootBox_of_some (h : v.Stacked) (he : e ∈ v.entries) (hid : e.xpresent = some id) :
    e.withRootBox v.root fallback = e :=
  if_pos (h.rootBox_isSome he (by rw [hid]; exact Option.some_ne_none id))

/-- What has a window is shown where its root box is. -/
theorem Stacked.shownAt_iff (h : v.Stacked) (he : e ∈ v.entries) (hid : e.xpresent = some id) :
    v.ShownAt p e ↔ e.rootBox.any (·.covers p) = true := by
  obtain ⟨-, w, hw, rfl, hbox⟩ := h.shown e he id hid
  have hcovers : RootStack.shows p w = w.box.covers p := by
    unfold RootStack.shows
    rw [(h.owned w hw).1, Bool.true_and]
  rw [hbox, Option.any_some, ← hcovers]
  constructor
  · rintro ⟨-, w', hw', hid', hshows⟩
    obtain rfl := h.ranked.inj hw' hw (Option.some.inj (hid'.symm.trans hid))
    exact hshows
  · exact fun hshows => ⟨he, w, hw, hid, hshows⟩

/-- Without a window nothing is shown. -/
theorem not_shownAt (hnone : e.xpresent = none) : ¬ v.ShownAt p e := by
  rintro ⟨-, w, -, hid, -⟩
  rw [hnone] at hid
  cases hid

/-- A missing root box is computed from the parent's. -/
theorem withRootBox_rootBox (hnone : e.xpresent = none) (x : RootStack) :
    (e.withRootBox x fallback).rootBox = e.rootBox.or (fallback e.id) := by
  unfold PresentEntry.withRootBox PresentEntry.popupUpdateRootBox
  rw [hnone]
  cases hbox : e.rootBox with
  | none => rfl
  | some box => exact hbox

/-- For a subpresent the pixel test is whether it is shown there. -/
theorem Stacked.subpresentCovers_iff (h : v.Stacked) (he : e ∈ v.entries) (hkind : e.kind = .subpresent) :
    subpresentCovers v.root p e = true ↔ v.ShownAt p e := by
  unfold subpresentCovers
  rw [decide_eq_true_iff, and_iff_right hkind]
  cases hid : e.xpresent with
  | none => exact iff_of_false (fun h => by cases h.1) (not_shownAt hid)
  | some id =>
    rw [h.shownAt_iff he hid]
    obtain ⟨-, w, hw, rfl, -⟩ := h.shown e he id hid
    rw [Option.any_some, h.ranked.find? hw, Option.any_some, (h.owned w hw).1]
    exact and_iff_right rfl

/-- A popup counts also by a box it was given before it has a window. -/
theorem Stacked.popupCovers_iff (h : v.Stacked) (he : e ∈ v.entries) (hkind : e.kind = .popup) :
    popupCovers v.root fallback p e = true ↔ v.CountsAt fallback p e := by
  unfold popupCovers CountsAt
  rw [Bool.and_eq_true, decide_eq_true_iff, and_iff_right hkind]
  cases hid : e.xpresent with
  | none =>
    rw [withRootBox_rootBox hid, Option.any_eq_true, or_iff_right (not_shownAt hid)]
    exact ⟨fun h => ⟨he, hkind, h.1, rfl, h.2⟩, fun h => ⟨h.2.2.1, h.2.2.2.2⟩⟩
  | some id =>
    rw [h.withRootBox_of_some he hid, h.shownAt_iff he hid, or_iff_left fun h => by cases h.2.2.2.1]
    exact and_iff_right ((h.shown e he id hid).1 hkind)

/-- A subpresent has no such box. -/
theorem countsAt_of_subpresent (hkind : e.kind = .subpresent) :
    v.CountsAt fallback p e ↔ v.ShownAt p e :=
  or_iff_left fun h => by
    rw [hkind] at h
    cases h.2.1

theorem CountsAt.mem (h : v.CountsAt fallback p e) : e ∈ v.entries :=
  h.elim (·.1) (·.1)

/-- The lists are searched in one order. -/
theorem precedes_asymm (e e' : PresentEntry) (h : Precedes e e') : ¬ Precedes e' e := by
  rintro (⟨hpopup, hsub⟩ | ⟨hkind, hlt⟩)
  · rcases h with ⟨hpopup', -⟩ | ⟨hkind, -⟩
    · rw [hpopup'] at hsub
      cases hsub
    · rw [hkind, hpopup] at hsub
      cases hsub
  · rcases h with ⟨hpopup, hsub⟩ | ⟨-, hlt'⟩
    · rw [hsub, hpopup] at hkind
      cases hkind
    · exact Nat.lt_asymm hlt hlt'

/-- Of two windows one is higher. -/
theorem mappedAfter_asymm (e e' : PresentEntry) (h : MappedAfter e e') : ¬ MappedAfter e' e := by
  rintro ⟨id', hid', hafter'⟩
  obtain ⟨id, hid, hafter⟩ := h
  exact Nat.lt_asymm (hafter id' hid') (hafter' id hid)

/-- **The search comes to its target first.** -/
theorem Stacked.foremost_target (h : v.Stacked) (htarget : v.target fallback p = some e) :
    ∃ e₀, e.xpresent = e₀.xpresent ∧ Foremost Precedes (v.CountsAt fallback p) e₀ := by
  unfold target at htarget
  rw [popupAtRootPointer_eq, Option.or_eq_some_iff] at htarget
  -- the popups are searched first
  rcases htarget with hpopup | ⟨hnone, hsub⟩
  · obtain ⟨e₀, hfind, rfl⟩ := Option.map_eq_some_iff.mp hpopup
    obtain ⟨⟨he₀, hcovers⟩, hbefore⟩ := foremost_of_find? h.entries hfind
    have hkind : e₀.kind = .popup := by
      have hboth := (Bool.and_eq_true_iff.mp hcovers).1
      exact (of_decide_eq_true hboth).1
    refine ⟨e₀, (keeps_withRootBox (h.rootBox_isSome he₀) v.root fallback).xpresent,
      (h.popupCovers_iff he₀ hkind).mp hcovers, fun b hb hne => ?_⟩
    cases hkind' : b.kind with
    | popup =>
      have hlt := hbefore b ⟨hb.mem, (h.popupCovers_iff hb.mem hkind').mpr hb⟩ hne
      exact .inr ⟨hkind.trans hkind'.symm, hlt⟩
    | subpresent => exact .inl ⟨hkind, hkind'⟩
  · obtain ⟨⟨he, hcovers⟩, hbefore⟩ := foremost_of_find? h.entries hsub
    have hkind : e.kind = .subpresent := (of_decide_eq_true hcovers).1
    refine ⟨e, rfl, .inl ((h.subpresentCovers_iff he hkind).mp hcovers), fun b hb hne => ?_⟩
    cases hkind' : b.kind with
    | popup =>
      have hfalse := List.find?_eq_none.mp (Option.map_eq_none_iff.mp hnone) b hb.mem
      exact absurd ((h.popupCovers_iff hb.mem hkind').mpr hb) hfalse
    | subpresent =>
      have hshown := (countsAt_of_subpresent hkind').mp hb
      have hlt := hbefore b ⟨hb.mem, (h.subpresentCovers_iff hb.mem hkind').mpr hshown⟩ hne
      exact .inr ⟨hkind.trans hkind'.symm, hlt⟩

/-- If anything counts at the pixel, the loop finds something. -/
theorem Stacked.target_isSome (h : v.Stacked) (he : v.CountsAt fallback p e) :
    ∃ e', v.target fallback p = some e' := by
  refine Option.isSome_iff_exists.mp ?_
  unfold target subpresentAtRootPointer
  rw [popupAtRootPointer_eq, Option.isSome_or, Option.isSome_map, Bool.or_eq_true, List.find?_isSome,
    List.find?_isSome]
  cases hkind : e.kind with
  | popup => exact .inl ⟨e, he.mem, (h.popupCovers_iff he.mem hkind).mpr he⟩
  | subpresent =>
    have hshown := (countsAt_of_subpresent hkind).mp he
    exact .inr ⟨e, he.mem, (h.subpresentCovers_iff he.mem hkind).mpr hshown⟩

/-- **The topmost window has been mapped last.** -/
theorem Stacked.foremost_windowAt (h : v.Stacked) {w : PresentWindow} (hw : v.root.windowAt p = some w) :
    ∃ e, e.xpresent = some w.id ∧ Foremost MappedAfter (v.ShownAt p) e := by
  obtain ⟨⟨hmem, hshows⟩, hbefore⟩ := foremost_of_find? h.ranked.windows hw
  obtain ⟨-, e, he, hid⟩ := h.owned w hmem
  refine ⟨e, hid, ⟨he, w, hmem, hid, hshows⟩, fun b hb hne => ⟨w.id, hid, fun id' hid' => ?_⟩⟩
  obtain ⟨hb, w', hw', hwid, hshows'⟩ := hb
  obtain rfl := Option.some.inj (hwid.symm.trans hid')
  refine hbefore w' ⟨hw', hshows'⟩ ?_
  rintro rfl
  exact hne (h.sole b hb e he w'.id hwid hid)

/-- The pointer is given the topmost window at a pixel exactly if, among those that count there, the one found
first was also mapped last. -/
theorem Stacked.hitsTopmost_iff_ordered (h : v.Stacked) (a : StackAction) : v.HitsTopmost a ↔ v.Ordered a := by
  cases a with
  | pointer p fallback =>
    refine imp_congr_right fun hcontested => ?_
    obtain ⟨w₀, hw₀, -, -, -, hshows, -⟩ := hcontested
    obtain ⟨w, hw⟩ : ∃ w, v.root.windowAt p = some w :=
      Option.isSome_iff_exists.mp (List.find?_isSome.mpr ⟨w₀, hw₀, hshows⟩)
    obtain ⟨e', hid, htop⟩ := h.foremost_windowAt hw
    obtain ⟨e, htarget⟩ : ∃ e, v.target fallback p = some e := h.target_isSome (.inl htop.meets)
    obtain ⟨e₀, hxpresent, hfirst⟩ := h.foremost_target htarget
    -- to hit the topmost window is to find the entry it belongs to
    have hiff : (∃ e w, v.target fallback p = some e ∧ v.root.windowAt p = some w ∧
        e.xpresent = some w.id) ↔ e₀ = e' := by
      rw [htarget, hw]
      constructor
      · rintro ⟨e₁, w₁, he₁, hw₁, hid₁⟩
        obtain rfl := Option.some.inj he₁
        obtain rfl := Option.some.inj hw₁
        exact h.sole e₀ hfirst.meets.mem e' htop.meets.1 w.id (hxpresent.symm.trans hid₁) hid
      · rintro rfl
        exact ⟨e, w, rfl, rfl, hxpresent.trans hid⟩
    -- an entry without a window was mapped after none
    have hshown : ∀ a b, v.CountsAt fallback p a → MappedAfter a b → v.ShownAt p a := by
      rintro a b (ha | ⟨-, -, -, hnone, -⟩) ⟨id, hid, -⟩
      · exact ha
      · rw [hnone] at hid
        cases hid
    rw [hiff]
    exact foremost_eq_iff precedes_asymm mappedAfter_asymm (fun b hb => .inl hb) hshown hfirst htop
  | newPopup => exact Iff.rfl
  | popupMap id placed => exact Iff.rfl
  | popupCommit id placed => exact Iff.rfl
  | repositionPopup id place => exact Iff.rfl
  | popupUnmap id => exact Iff.rfl
  | destroy id => exact Iff.rfl
  | windowDestroyed id => exact Iff.rfl
  | newSubpresent placed => exact Iff.rfl
  | subpresentPresent id placed => exact Iff.rfl
  | subsurface id mapped => exact Iff.rfl

/-- The popup as the pointer's snapshot has it; `look` is what else there is to it. -/
def asPopup (look : Nat → PointerPopup) (e : PresentEntry) : PointerPopup :=
  { look e.id with mapped := e.mapped, rootBox := e.rootBox }

/-- The subpresent as the pointer's snapshot has it. -/
def asSubpresent (x : RootStack) (surface : Nat → SurfaceRef) (e : PresentEntry) : PointerSubpresent :=
  ⟨surface e.id, e.rootBox, e.xpresent.any fun id => (x.windows.find? (·.id = id)).any (·.mapped)⟩

/-- The snapshot with these popups and subpresents. -/
def snapshot (v : PresentStack) (fallback : Nat → Option Box) (look : Nat → PointerPopup)
    (surface : Nat → SurfaceRef) (s : HostSnapshot) : HostSnapshot :=
  { s with
    popups := (v.entries.filter (·.kind = .popup)).map fun e => asPopup look (e.withRootBox v.root fallback)
    subpresents := (v.entries.filter (·.kind = .subpresent)).map (asSubpresent v.root surface) }

theorem withRootBox_mapped (x : RootStack) : (e.withRootBox x fallback).mapped = e.mapped := by
  unfold PresentEntry.withRootBox PresentEntry.popupUpdateRootBox
  split
  · rfl
  · split <;> rfl

/-- A search for a result, among some, is one for what has a result. -/
theorem findSome?_filter_eq {α β : Type} {k q : α → Bool} {f g : α → Option β} {as : List α}
    (hyes : ∀ a ∈ as, q a = true → k a = true ∧ f a = g a ∧ (g a).isSome = true)
    (hno : ∀ a ∈ as, q a = false → k a = true → f a = none) :
    (as.filter k).findSome? f = (as.find? q).bind g := by
  induction as with
  | nil => rfl
  | cons a as ih =>
    have ih := ih (fun b hb => hyes b (List.mem_cons_of_mem a hb))
      fun b hb => hno b (List.mem_cons_of_mem a hb)
    rw [List.find?_cons]
    cases hq : q a with
    | true =>
      obtain ⟨hk, hf, hsome⟩ := hyes a List.mem_cons_self hq
      obtain ⟨b, hb⟩ := Option.isSome_iff_exists.mp hsome
      rw [List.filter_cons_of_pos hk, List.findSome?_cons, hf, hb]
      exact hb.symm
    | false =>
      -- one that is kept and gives nothing is passed over
      cases hk : k a with
      | true =>
        rw [List.filter_cons_of_pos hk, List.findSome?_cons, hno a List.mem_cons_self hq hk]
        exact ih
      | false =>
        rw [List.filter_cons_of_neg (by rw [hk]; exact Bool.false_ne_true)]
        exact ih

theorem withRootBox_kind (x : RootStack) : (e.withRootBox x fallback).kind = e.kind := by
  unfold PresentEntry.withRootBox PresentEntry.popupUpdateRootBox
  split
  · rfl
  · split <;> rfl

/-- `popup_at_root_pointer` of the snapshot. -/
theorem snapshot_popupAtRootPointer (v : PresentStack) (look : Nat → PointerPopup)
    (surface : Nat → SurfaceRef) (s : HostSnapshot) :
    (v.snapshot fallback look surface s).popupAtRootPointer =
      (popupAtRootPointer v.root fallback s.pointer v.entries).1.bind fun e =>
        e.rootBox.map (.popup (asPopup look e)) := by
  unfold HostSnapshot.popupAtRootPointer snapshot
  rw [popupAtRootPointer_eq, Option.bind_map, List.findSome?_map]
  refine findSome?_filter_eq (fun e _ hcovers => ?_) fun e _ hcovers hkind => ?_
  · obtain ⟨hpopup, hbox⟩ := Bool.and_eq_true_iff.mp hcovers
    obtain ⟨hkind, hmapped⟩ := of_decide_eq_true hpopup
    obtain ⟨box, hbox, hin⟩ := (Option.any_eq_true _ _).mp hbox
    have hbox : (e.withRootBox v.root fallback).rootBox = some box := hbox
    refine ⟨decide_eq_true hkind, ?_, ?_⟩
    · simp only [Function.comp, asPopup, withRootBox_mapped, hmapped, hbox, if_true,
        Option.filter_some, hin]
    · simp only [Function.comp, hbox, Option.map_some, Option.isSome_some]
  -- unmapped, or elsewhere
  · unfold popupCovers at hcovers
    simp only [Function.comp, asPopup, withRootBox_mapped]
    cases hmapped : e.mapped with
    | false => rfl
    | true =>
      rw [decide_eq_true ⟨of_decide_eq_true hkind, hmapped⟩, Bool.true_and] at hcovers
      cases hbox : (e.withRootBox v.root fallback).rootBox with
      | none => rfl
      | some box =>
        rw [hbox, Option.any_some] at hcovers
        simp only [if_true, Option.filter_some, hcovers, Bool.false_eq_true, if_false, Option.map_none]

/-- `subpresent_at_root_pointer` of the snapshot. -/
theorem snapshot_subpresentAtRootPointer (v : PresentStack) (look : Nat → PointerPopup)
    (surface : Nat → SurfaceRef) (s : HostSnapshot) :
    (v.snapshot fallback look surface s).subpresentAtRootPointer =
      (subpresentAtRootPointer v.root s.pointer v.entries).bind fun e =>
        e.rootBox.map (.subpresent (asSubpresent v.root surface e)) := by
  unfold HostSnapshot.subpresentAtRootPointer snapshot subpresentAtRootPointer
  rw [List.findSome?_map]
  refine findSome?_filter_eq (fun e _ hcovers => ?_) fun e _ hcovers hkind => ?_
  · obtain ⟨hkind, hmapped, hbox⟩ := of_decide_eq_true hcovers
    obtain ⟨box, hbox, hin⟩ := (Option.any_eq_true _ _).mp hbox
    have hbox : e.rootBox = some box := hbox
    refine ⟨decide_eq_true hkind, ?_, ?_⟩
    · simp only [Function.comp, asSubpresent, hmapped, hbox, if_true, Option.filter_some, hin]
    · simp only [hbox, Option.map_some, Option.isSome_some]
  · have hnot := of_decide_eq_false hcovers
    simp only [Function.comp, asSubpresent]
    refine ite_eq_right_iff.mpr fun hmapped => ?_
    cases hbox : e.rootBox with
    | none => rfl
    | some box =>
      -- an entry the snapshot leaves out would not have been hit
      have hout : box.covers s.pointer = false := by
        refine Bool.eq_false_iff.mpr fun hin => hnot ⟨of_decide_eq_true hkind, hmapped, ?_⟩
        rw [hbox]
        exact hin
      simp only [Option.filter_some, hout, Bool.false_eq_true, if_false, Option.map_none]

/-- What is found, as a target of the pointer. -/
def asTarget (x : RootStack) (look : Nat → PointerPopup) (surface : Nat → SurfaceRef) (e : PresentEntry) :
    Option PointerTarget :=
  match e.kind with
  | .popup => e.rootBox.map (.popup (asPopup look e))
  | .subpresent => e.rootBox.map (.subpresent (asSubpresent x surface e))

/-- **The search is the one of `surface_under_root_pointer`**, before that comes to toplevels. -/
theorem snapshot_target (v : PresentStack) (look : Nat → PointerPopup) (surface : Nat → SurfaceRef)
    (s : HostSnapshot) :
    (v.snapshot fallback look surface s).popupAtRootPointer.or
        (v.snapshot fallback look surface s).subpresentAtRootPointer =
      (v.target fallback s.pointer).bind (asTarget v.root look surface) := by
  rw [snapshot_popupAtRootPointer, snapshot_subpresentAtRootPointer]
  unfold target
  cases hpopup : (popupAtRootPointer v.root fallback s.pointer v.entries).1 with
  | some e =>
    rw [popupAtRootPointer_eq] at hpopup
    obtain ⟨e₀, hfind, rfl⟩ := Option.map_eq_some_iff.mp hpopup
    have hcovers := List.find?_some hfind
    obtain ⟨hkind, hbox⟩ := Bool.and_eq_true_iff.mp hcovers
    have hkind : (e₀.withRootBox v.root fallback).kind = .popup :=
      (withRootBox_kind v.root).trans (of_decide_eq_true hkind).1
    obtain ⟨box, hbox, -⟩ := (Option.any_eq_true _ _).mp hbox
    have hbox : (e₀.withRootBox v.root fallback).rootBox = some box := hbox
    simp only [Option.bind_some, Option.some_or, asTarget, hkind, hbox, Option.map_some]
  -- no popup: the subpresents are searched
  | none =>
    rw [Option.bind_none, Option.none_or, Option.none_or]
    refine Option.bind_congr fun e he => ?_
    have hcovers := List.find?_some he
    have hkind : e.kind = .subpresent := (of_decide_eq_true hcovers).1
    simp only [asTarget, hkind]

end Target

/-- **What is on top.** Along every run of popups and subpresents that come, go and are mapped again, an
event of the pointer where present windows overlap goes to what the topmost of them belongs to, if and
only if, wherever one thing there is searched before another that has been mapped after it, a third one
there is searched before the first or has been mapped after the second. -/
theorem hitsTopmost_iff (as : List StackAction) :
    Run.Along step HitsTopmost init as ↔ Run.Along step Ordered init as :=
  Run.along_congr (I := Stacked) (fun _ _ _ h hstep => h.step hstep)
    (fun _ a h => h.hitsTopmost_iff_ordered a) .init

/-- A menu is open when a subsurface of its toplevel begins to stick out under it. -/
def coveredMenuRun : List StackAction :=
  let placed : PlacedAt := ⟨some ⟨100, 100, 200, 300⟩, true, none, none⟩
  [.newPopup, .popupMap 0 placed, .newSubpresent placed, .pointer ⟨150, 150⟩ fun _ => none]

/-- Where that run has come to when the pointer moves. -/
def coveredMenu : PresentStack :=
  let box : Box := ⟨100, 100, 200, 300⟩
  ⟨[⟨1, .subpresent, true, some 1, some box⟩, ⟨0, .popup, true, some 0, some box⟩],
    ⟨[⟨1, box, true⟩, ⟨0, box, true⟩], 2⟩, 2⟩

/-- The subsurface's window is on top, and the pointer goes to the menu. -/
theorem coveredMenuRun_misses : ¬ ∀ as, Run.Along step HitsTopmost init as := by
  intro h
  obtain ⟨-, -, -, hhits, -⟩ := h coveredMenuRun
  have hhits : coveredMenu.HitsTopmost (.pointer ⟨150, 150⟩ fun _ => none) := hhits
  obtain ⟨e, w, htarget, hw, hid⟩ := hhits
    ⟨⟨1, ⟨100, 100, 200, 300⟩, true⟩, by decide, ⟨0, ⟨100, 100, 200, 300⟩, true⟩, by decide, by decide,
      by decide, by decide⟩
  obtain rfl : PresentEntry.mk 0 .popup true (some 0) (some ⟨100, 100, 200, 300⟩) = e :=
    Option.some.inj htarget
  obtain rfl : PresentWindow.mk 1 ⟨100, 100, 200, 300⟩ true = w := Option.some.inj hw
  cases hid

end PresentStack

end Wlx
