import Mathlib.Data.List.Count
import Mathlib.Data.List.Nodup
import WlX11.ButtonHold

/-!
# WlX11 — the pointer grab of the menus

While a popup with a present window is mapped the program wants an X pointer grab, and notes in
`popup_pointer_grabbed` whether it has one. The X server keeps the grab on one window, and drops it
with that window.

* **`GrabSession`** — the pointer's session, and beside it what the X server has: the popup on whose
  window the grab is, and the buttons that are held. **`GrabSession.step_pointer`**: the session runs
  as without these.
* **`GrabSession.GrabKept`** — the flag is set only while a grab is held on a mapped popup; and while a
  popup wants it and no button is held the grab is held, or was refused.
* **`GrabSession.grabKept_iff`** — it stays so along a run exactly if the window that has the grab goes
  last.
-/

namespace Wlx

open PointerSession (coreButton)

/-- Its window is on the screen. -/
def MenuPopup.shown (p : MenuPopup) : Bool := p.xpresent && p.mapped

structure GrabSession where
  pointer : PointerSession
  /-- the popup whose present window has the X pointer grab -/
  grabWindow : Option Nat
  /-- the grab is wanted, and the last `XGrabPointer` was refused -/
  refused : Bool
  /-- the buttons that are down -/
  heldButtons : List Nat

namespace GrabSession

def init : GrabSession := ⟨.init, none, false, []⟩

/-- A popup whose window wants the grab: the first that `wlx_popup_update_pointer_grab` finds. -/
def grabTarget (v : GrabSession) : Option Nat :=
  (v.pointer.popups.find? (·.shown)).map (·.surface)

/-- The X server drops a grab with its window. -/
def dropGrab (v : GrabSession) (surface : Nat) : Option Nat :=
  if v.grabWindow = some surface then none else v.grabWindow

section Handlers

variable (clientOf : Nat → Nat)

/-- `wlx_popup_update_pointer_grab`, and the X server. -/
def updatePointerGrab (v : GrabSession) (env : PointerEnv) : GrabSession :=
  { v with
    pointer := v.pointer.updatePointerGrab clientOf env
    grabWindow := match v.grabTarget with
      | none => if v.pointer.grabbed then none else v.grabWindow
      | some target =>
        if v.pointer.grabbed ∨ v.pointer.seat.held ∨ ¬env.grants then v.grabWindow else some target
    refused := match v.grabTarget with
      | none => false
      | some _ =>
        if v.pointer.grabbed then v.refused else if v.pointer.seat.held then false else !env.grants }

def takePendingGrab (v : GrabSession) (env : PointerEnv) : GrabSession :=
  if v.pointer.pending ∧ ¬v.pointer.seat.held then v.updatePointerGrab clientOf env else v

/-- `server_cursor_button`, for a release. -/
def cursorRelease (v : GrabSession) (button : Nat) (accepted : Bool) (env : PointerEnv) :
    GrabSession :=
  let v : GrabSession :=
    { v with
      pointer := { v.pointer with seat := v.pointer.seat.release accepted button }
      heldButtons := v.heldButtons.erase button }
  let v := v.takePendingGrab clientOf env
  { v with pointer := { v.pointer.enterUnderCursor clientOf env.under with moving := false } }

/-- `handle_core_pointer_during_grab`, for a release. -/
def coreRelease (v : GrabSession) (detail : Nat) (accepted : Bool) (env : PointerEnv) : GrabSession :=
  match coreButton detail with
  | none => v
  | some button =>
    let v : GrabSession := { v with heldButtons := v.heldButtons.erase button }
    if v.pointer.grabbed then
      let v : GrabSession :=
        { v with
          pointer := PointerSession.enterUnderCursor clientOf
            { v.pointer with seat := v.pointer.seat.release accepted button } env.under }
      v.takePendingGrab clientOf env
    else v

/-- `popup_position_and_map`. -/
def positionAndMap (v : GrabSession) (surface : Nat) (placed : Bool) (env : PointerEnv) :
    GrabSession :=
  if placed then
    updatePointerGrab clientOf
      { v with pointer := v.pointer.setPopup surface ({ · with xpresent := true }) } env
  else v

/-- `popup_map`. -/
def popupMap (v : GrabSession) (surface : Nat) (placed : Bool) (env : PointerEnv) : GrabSession :=
  let v : GrabSession := { v with pointer := v.pointer.setPopup surface ({ · with mapped := true }) }
  let v := v.positionAndMap clientOf surface placed env
  if v.pointer.seat.held then v
  else { v with pointer := v.pointer.enterUnderCursor clientOf env.under }

/-- `popup_unmap`: the present window goes, and perhaps the grab with it. -/
def popupUnmap (v : GrabSession) (surface : Nat) (env : PointerEnv) : GrabSession :=
  let pointer := v.pointer.setPopup surface fun p => { p with mapped := false, xpresent := false }
  let v : GrabSession :=
    { v with
      pointer := { pointer with seat := pointer.seat.clearFocusOn surface }
      grabWindow := v.dropGrab surface }
  let v := v.updatePointerGrab clientOf env
  { v with pointer := v.pointer.enterUnderCursor clientOf env.under }

/-- `reset_xdg_popup` and `popup_destroy`. -/
def popupFree (v : GrabSession) (surface : Nat) (env : PointerEnv) : GrabSession :=
  let pointer := { v.pointer with seat := v.pointer.seat.resetXdgPopup surface }
  let v : GrabSession :=
    { v with
      pointer := pointer.setPopup surface ({ · with xpresent := false })
      grabWindow := v.dropGrab surface }
  let v := v.updatePointerGrab clientOf env
  { v with pointer := { v.pointer with popups := v.pointer.popups.filter (·.surface ≠ surface) } }

/-- `destroy_xdg_popup`, which unmaps the popup first. -/
def popupDestroy (v : GrabSession) (surface : Nat) (env : PointerEnv) : GrabSession :=
  popupFree clientOf
    (if v.pointer.popupMapped surface then v.popupUnmap clientOf surface env else v) surface env

def handle (v : GrabSession) : PointerAction → Option GrabSession
  | .press button env =>
    some { v with
      pointer := v.pointer.cursorPress clientOf button env, heldButtons := button :: v.heldButtons }
  | .release button accepted env => some (v.cursorRelease clientOf button accepted env)
  | .corePress detail env =>
    some { v with
      pointer := v.pointer.corePress clientOf detail env
      heldButtons := (coreButton detail).toList ++ v.heldButtons }
  | .coreRelease detail accepted env => some (v.coreRelease clientOf detail accepted env)
  | .popupMap surface placed env =>
    if v.pointer.popups.any fun p => p.surface = surface && !p.mapped then
      some (v.popupMap clientOf surface placed env)
    else none
  | .popupCommit surface placed env =>
    if v.pointer.popupMapped surface then some (v.positionAndMap clientOf surface placed env) else none
  | .popupUnmap surface env =>
    if v.pointer.popupMapped surface then some (v.popupUnmap clientOf surface env) else none
  | .popupDestroy surface env => some (v.popupDestroy clientOf surface env)
  | .xpresentDestroyed surface =>
    some { v with
      pointer := v.pointer.setPopup surface ({ · with xpresent := false })
      grabWindow := v.dropGrab surface }
  | a => (v.pointer.handle clientOf a).map fun pointer => { v with pointer := pointer }

def step (v : GrabSession) (a : PointerAction) : Option GrabSession :=
  handle clientOf { v with pointer := v.pointer.fresh } a

end Handlers

/-- A popup is there that wants the grab. -/
def Wanted (v : GrabSession) : Prop := ∃ p ∈ v.pointer.popups, p.shown = true

instance (v : GrabSession) : Decidable v.Wanted :=
  inferInstanceAs (Decidable (∃ p ∈ v.pointer.popups, _))

/-- The flag is set only if the grab is held on the window of a mapped popup; and if one wants it while
no button is held, the grab is held or was refused. -/
def GrabKept (v : GrabSession) : Prop :=
  (v.pointer.grabbed = true →
      ∃ p ∈ v.pointer.popups, p.mapped = true ∧ v.grabWindow = some p.surface) ∧
    (v.Wanted → v.heldButtons = [] → v.grabWindow ≠ none ∨ v.refused = true)

instance (v : GrabSession) : Decidable v.GrabKept :=
  inferInstanceAs (Decidable ((_ → ∃ p ∈ v.pointer.popups, _) ∧ (_ → _)))

def StaysGrabKept (clientOf : Nat → Nat) (v : GrabSession) (a : PointerAction) : Prop :=
  ∀ v', v.step clientOf a = some v' → v'.GrabKept

/-- Another popup's window is on the screen. -/
def OtherShown (v : GrabSession) (surface : Nat) : Prop :=
  ∃ p ∈ v.pointer.popups, p.shown = true ∧ p.surface ≠ surface

instance (v : GrabSession) (surface : Nat) : Decidable (v.OtherShown surface) :=
  inferInstanceAs (Decidable (∃ p ∈ v.pointer.popups, _))

/-- The window that has the grab is the last one on the screen when it goes, and goes with its popup. -/
def GoesLast (v : GrabSession) : PointerAction → Prop
  | .popupUnmap surface _ | .popupDestroy surface _ =>
    v.grabWindow = some surface → ¬v.OtherShown surface
  | .xpresentDestroyed surface => v.grabWindow ≠ some surface
  | _ => True

instance (v : GrabSession) : (a : PointerAction) → Decidable (v.GoesLast a)
  | .popupUnmap .. | .popupDestroy .. => inferInstanceAs (Decidable (_ → _))
  | .xpresentDestroyed _ => inferInstanceAs (Decidable (_ ≠ _))
  | .motion _ | .press .. | .release .. | .corePress .. | .coreRelease .. | .focusIn .. | .focusOut _
  | .newPopup _ | .popupGrab .. | .popupMap .. | .popupCommit .. | .surfaceDestroyed _ | .startDrag ..
  | .dragSourceDestroyed | .bindSeat _ | .unbindSeat _ | .move _ => .isTrue trivial

/-- The program hears of the release: core events of buttons count only while the flag is set. -/
def Heard (v : GrabSession) : PointerAction → Prop
  | .coreRelease detail _ _ => coreButton detail ≠ none → v.pointer.grabbed = true
  | _ => True

instance (v : GrabSession) : (a : PointerAction) → Decidable (v.Heard a)
  | .coreRelease .. => inferInstanceAs (Decidable (_ → _))
  | .motion _ | .press .. | .release .. | .corePress .. | .focusIn .. | .focusOut _ | .newPopup _
  | .popupGrab .. | .popupMap .. | .popupCommit .. | .popupUnmap .. | .popupDestroy ..
  | .xpresentDestroyed _ | .surfaceDestroyed _ | .startDrag .. | .dragSourceDestroyed | .bindSeat _
  | .unbindSeat _ | .move _ => .isTrue trivial

/-! ## The session inside -/

section Pointer

variable {clientOf : Nat → Nat} (v : GrabSession)

/-- The grab's record stands beside the session it is about, and each handler below runs the same session. -/
theorem takePendingGrab_pointer (env : PointerEnv) :
    (v.takePendingGrab clientOf env).pointer = v.pointer.takePendingGrab clientOf env := by
  unfold takePendingGrab PointerSession.takePendingGrab
  split <;> rfl

theorem positionAndMap_pointer (surface : Nat) (placed : Bool) (env : PointerEnv) :
    (v.positionAndMap clientOf surface placed env).pointer =
      v.pointer.positionAndMap clientOf surface placed env := by
  unfold positionAndMap PointerSession.positionAndMap
  split <;> rfl

theorem cursorRelease_pointer (button : Nat) (accepted : Bool) (env : PointerEnv) :
    (v.cursorRelease clientOf button accepted env).pointer =
      v.pointer.cursorRelease clientOf button accepted env := by
  unfold cursorRelease PointerSession.cursorRelease
  dsimp only
  rw [takePendingGrab_pointer]

theorem coreRelease_pointer (detail : Nat) (accepted : Bool) (env : PointerEnv) :
    (v.coreRelease clientOf detail accepted env).pointer =
      v.pointer.coreRelease clientOf detail accepted env := by
  unfold coreRelease PointerSession.coreRelease
  cases coreButton detail with
  | none => rfl
  | some button =>
    dsimp only
    split
    · rw [takePendingGrab_pointer]
    · rfl

theorem popupMap_pointer (surface : Nat) (placed : Bool) (env : PointerEnv) :
    (v.popupMap clientOf surface placed env).pointer =
      v.pointer.popupMap clientOf surface placed env := by
  unfold popupMap PointerSession.popupMap
  dsimp only
  rw [← positionAndMap_pointer ⟨v.pointer.setPopup surface ({ · with mapped := true }), v.grabWindow,
    v.refused, v.heldButtons⟩]
  split <;> rfl

theorem popupDestroy_pointer (surface : Nat) (env : PointerEnv) :
    (v.popupDestroy clientOf surface env).pointer =
      v.pointer.popupDestroy clientOf surface env := by
  unfold popupDestroy popupFree PointerSession.popupDestroy
  dsimp only
  split <;> rfl

end Pointer

/-- **The grab beside the session.** What the X server has does not change what the program does. -/
theorem step_pointer (clientOf : Nat → Nat) (v : GrabSession) (a : PointerAction) :
    (v.step clientOf a).map (·.pointer) = v.pointer.step clientOf a := by
  unfold step PointerSession.step
  generalize v.pointer.fresh = pointer
  -- one case per handler, each by its own lemma if it has one
  cases a with
  | press button env => rfl
  | corePress detail env => rfl
  | popupUnmap surface env =>
    show (if _ then _ else _ : Option GrabSession).map _ = if _ then _ else _
    split <;> rfl
  | xpresentDestroyed surface => rfl
  | release button accepted env => exact congrArg some (cursorRelease_pointer ..)
  | coreRelease detail accepted env => exact congrArg some (coreRelease_pointer ..)
  | popupDestroy surface env => exact congrArg some (popupDestroy_pointer ..)
  | popupMap surface placed env =>
    show (if _ then _ else _ : Option GrabSession).map _ = if _ then _ else _
    split
    · exact congrArg some (popupMap_pointer ..)
    · rfl
  | popupCommit surface placed env =>
    show (if _ then _ else _ : Option GrabSession).map _ = if _ then _ else _
    split
    · exact congrArg some (positionAndMap_pointer ..)
    · rfl
  | motion under => rfl
  | focusIn surface coords under => rfl
  | focusOut under => rfl
  | newPopup surface =>
    show ((if _ then _ else _ : Option PointerSession).map _).map _ = if _ then _ else _
    split <;> rfl
  | popupGrab client surface =>
    show ((if _ then _ else _ : Option PointerSession).map _).map _ = if _ then _ else _
    split <;> rfl
  | surfaceDestroyed surface => rfl
  | startDrag origin client source serial => rfl
  | dragSourceDestroyed =>
    show ((if _ then _ else _ : Option PointerSession).map _).map _ = if _ then _ else _
    split <;> rfl
  | bindSeat client => rfl
  | unbindSeat client => rfl
  | move on => rfl

end GrabSession

/-! ## The seat counts held buttons -/

/-- Each button the seat counts is one that is held, as often as it counts it. -/
def Seat.Counts (s : Seat) (heldButtons : List Nat) : Prop :=
  (s.buttons.map (·.button)).Nodup ∧
    ∀ e ∈ s.buttons, 1 ≤ e.nPressed ∧ e.nPressed ≤ heldButtons.count e.button

namespace Seat.Counts

variable {s s' : Seat} {heldButtons : List Nat}

/-- What the seat holds is held on the pointer. -/
theorem ne_nil (h : s.Counts heldButtons) (hheld : s.held = true) : heldButtons ≠ [] := by
  rintro rfl
  cases hbuttons : s.buttons with
  | nil => simp [Seat.held, hbuttons] at hheld
  | cons e es =>
    obtain ⟨hone, hcount⟩ := h.2 e (by rw [hbuttons]; exact List.mem_cons_self)
    rw [List.count_nil] at hcount
    omega

/-- Only the list of buttons counts, and it may be cleared. -/
theorem of_buttons (h : s.Counts heldButtons) (hbuttons : s'.buttons = s.buttons ∨ s'.buttons = []) :
    s'.Counts heldButtons := by
  unfold Seat.Counts
  rcases hbuttons with hsame | hnone
  · rw [hsame]
    exact h
  · rw [hnone]
    exact ⟨List.nodup_nil, nofun⟩

/-- A change of the counts that keeps the buttons. -/
theorem map_count {f : SeatButton → SeatButton} (h : (s.buttons.map (·.button)).Nodup)
    (hf : ∀ e, (f e).button = e.button) : ((s.buttons.map f).map (·.button)).Nodup := by
  rw [List.map_map]
  have hsame : (fun e : SeatButton => e.button) ∘ f = (·.button) := funext hf
  rw [hsame]
  exact h

/-- One more is held, which the seat does not hear of. -/
theorem cons (h : s.Counts heldButtons) (button : Nat) : s.Counts (button :: heldButtons) := by
  refine ⟨h.1, fun e he => ?_⟩
  obtain ⟨hone, hcount⟩ := h.2 e he
  have hcons : heldButtons.count e.button ≤ (button :: heldButtons).count e.button :=
    List.count_le_count_cons
  omega

/-- A press is counted on the button's entry, or makes one. -/
theorem press (h : s.Counts heldButtons) (mapped : Nat → Bool) (button : Nat) :
    (s.press mapped button).Counts (button :: heldButtons) := by
  have hmore := (h.cons button).2
  have hfirst : (if s.buttons.isEmpty then { s with grabButton := button } else s).buttons =
      s.buttons := by
    split <;> rfl
  unfold Seat.press
  dsimp only
  -- the noted button plays no part in the counts
  generalize (if s.buttons.isEmpty then { s with grabButton := button } else s) = t at hfirst ⊢
  rw [hfirst]
  split
  · -- one that is held already is counted once more
    refine ⟨map_count h.1 fun e => ?_, fun e' he' => ?_⟩
    · split <;> rfl
    · obtain ⟨e, he, rfl⟩ := List.mem_map.mp he'
      obtain ⟨hone, hcount⟩ := h.2 e he
      split
      · rename_i hbutton
        show 1 ≤ e.nPressed + 1 ∧ e.nPressed + 1 ≤ (button :: heldButtons).count e.button
        rw [hbutton, List.count_cons_self]
        rw [hbutton] at hcount
        omega
      · exact hmore e he
  · rename_i hnew
    split
    · rw [Seat.Counts, hfirst]
      exact ⟨h.1, hmore⟩
    · obtain ⟨-, -, hbuttons, -, -⟩ := Seat.grabPress_spec mapped
        { t with buttons := s.buttons ++ [⟨button, 1, t.focused⟩] } button
      rw [Seat.Counts, hbuttons]
      constructor
      · rw [List.map_append, List.nodup_append]
        refine ⟨h.1, List.pairwise_singleton _ _, fun b hb b' hb' => ?_⟩
        obtain ⟨e, he, rfl⟩ := List.mem_map.mp hb
        obtain rfl := List.mem_singleton.mp hb'
        rintro hsame
        exact hnew (List.any_eq_true.mpr ⟨e, he, by simpa using hsame⟩)
      · intro e he
        rcases List.mem_append.mp he with he | he
        · exact hmore e he
        · obtain rfl := List.mem_singleton.mp he
          show 1 ≤ 1 ∧ 1 ≤ (button :: heldButtons).count button
          rw [List.count_cons_self]
          omega

/-- A release takes one press off the entry, or takes the entry away. -/
theorem release (h : s.Counts heldButtons) (accepted : Bool) (button : Nat) :
    (s.release accepted button).Counts (heldButtons.erase button) := by
  have hother : ∀ e ∈ s.buttons, e.button ≠ button → 1 ≤ e.nPressed ∧
      e.nPressed ≤ (heldButtons.erase button).count e.button := by
    intro e he hne
    rw [List.count_erase_of_ne hne]
    exact h.2 e he
  unfold Seat.release
  cases hfind : s.buttons.find? (·.button = button) with
  -- a release of a button that the seat does not hold
  | none =>
    refine ⟨h.1, fun e he => hother e he ?_⟩
    simpa using List.find?_eq_none.mp hfind e he
  | some found =>
    have hfound : found ∈ s.buttons := List.mem_of_find?_eq_some hfind
    have hbutton : found.button = button := by simpa using List.find?_some hfind
    dsimp only
    split
    · rename_i hmany
      refine ⟨map_count h.1 fun e => ?_, fun e' he' => ?_⟩
      · split <;> rfl
      · obtain ⟨e, he, rfl⟩ := List.mem_map.mp he'
        split
        · rename_i hsame
          -- there is only one entry for a button
          obtain rfl := List.inj_on_of_nodup_map h.1 he hfound (hsame.trans hbutton.symm)
          obtain ⟨-, hcount⟩ := h.2 e he
          show 1 ≤ e.nPressed - 1 ∧ e.nPressed - 1 ≤ (heldButtons.erase button).count e.button
          rw [hsame, List.count_erase_self]
          rw [hsame] at hcount
          omega
        · rename_i hne
          exact hother e he hne
    · obtain ⟨-, hbuttons, -⟩ := Seat.grabRelease_spec accepted
        { s with buttons := s.buttons.filter (·.button ≠ button) } found
      rw [Seat.Counts, hbuttons]
      refine ⟨(List.filter_sublist.map _).nodup h.1, fun e he => ?_⟩
      obtain ⟨he, hne⟩ := List.mem_filter.mp he
      exact hother e he (by simpa using hne)

end Seat.Counts

namespace GrabSession

variable {clientOf : Nat → Nat} {v v' : GrabSession}

/-! ## What `wlx_popup_update_pointer_grab` does -/

/-- There is a popup to give the grab to exactly if a grab is wanted. -/
theorem grabTarget_eq_none_iff : v.grabTarget = none ↔ ¬v.Wanted := by
  unfold grabTarget Wanted
  rw [Option.map_eq_none_iff, List.find?_eq_none]
  push Not
  rfl

/-- To enter a surface leaves the buttons, or clears them for another client. -/
theorem enterUnderCursor_buttons (clientOf : Nat → Nat) (p : PointerSession) (under : Option Nat) :
    (p.enterUnderCursor clientOf under).seat.buttons = p.seat.buttons ∨
      (p.enterUnderCursor clientOf under).seat.buttons = [] := by
  unfold PointerSession.enterUnderCursor
  dsimp only
  cases under with
  | none =>
    dsimp only
    split <;> exact Or.inl rfl
  | some surface =>
    dsimp only
    split
    · exact Or.inl rfl
    -- only another client's surface clears them
    · rw [Seat.notifyEnter_buttons]
      split
      · exact Or.inl rfl
      · exact Or.inr rfl

/-- **The five ways of `wlx_popup_update_pointer_grab`**: no popup wants the grab; it is held already;
it has to wait for a button; it is granted; it is refused. -/
theorem updatePointerGrab_cases (clientOf : Nat → Nat) (v : GrabSession) (env : PointerEnv) :
    let v' := v.updatePointerGrab clientOf env
    (v'.pointer.popups = v.pointer.popups ∧ v'.heldButtons = v.heldButtons ∧
      (v'.pointer.seat.buttons = v.pointer.seat.buttons ∨ v'.pointer.seat.buttons = [])) ∧
    (¬v.Wanted ∧ v'.pointer.grabbed = false ∧
        v'.grabWindow = (if v.pointer.grabbed then none else v.grabWindow) ∨
      v.Wanted ∧ v.pointer.grabbed = true ∧ v'.pointer.grabbed = true ∧
        v'.grabWindow = v.grabWindow ∧ v'.refused = v.refused ∨
      v.Wanted ∧ v.pointer.seat.held = true ∧ v.pointer.grabbed = false ∧
        v'.pointer.grabbed = false ∧ v'.pointer.pending = true ∧ v'.grabWindow = v.grabWindow ∨
      v.Wanted ∧ v.pointer.grabbed = false ∧ v'.pointer.grabbed = true ∧
        (∃ p ∈ v.pointer.popups, v'.grabWindow = some p.surface ∧ p.shown = true) ∨
      v.Wanted ∧ v.pointer.grabbed = false ∧ v'.pointer.grabbed = false ∧
        v'.grabWindow = v.grabWindow ∧ v'.refused = true) := by
  have hany : (v.pointer.popups.any fun p => p.xpresent && p.mapped) = true ↔ v.Wanted :=
    List.any_eq_true
  unfold updatePointerGrab PointerSession.updatePointerGrab
  dsimp only
  by_cases hwanted : v.Wanted
  · obtain ⟨target, htarget⟩ := Option.ne_none_iff_exists'.mp (mt grabTarget_eq_none_iff.mp
      (not_not.mpr hwanted))
    rw [if_pos (hany.mpr hwanted), htarget]
    -- held already, then a button, then the server's answer
    cases hgrabbed : v.pointer.grabbed with
    | true => simp [hgrabbed, hwanted]
    | false =>
      cases hheld : v.pointer.seat.held with
      | true => simp [hwanted]
      | false =>
        cases hgrants : env.grants with
        | false => simp [hwanted]
        | true =>
          obtain ⟨p, hp, rfl⟩ := Option.map_eq_some_iff.mp htarget
          have hmem := List.mem_of_find?_eq_some hp
          have hshown := List.find?_some hp
          have hbuttons := enterUnderCursor_buttons clientOf
            { v.pointer with grabbed := true, pending := false } env.under
          simp only [Bool.false_eq_true, if_false, if_true, not_true, or_self]
          exact ⟨⟨rfl, trivial, hbuttons⟩,
            Or.inr (Or.inr (Or.inr (Or.inl ⟨hwanted, trivial, rfl, p, hmem, rfl, hshown⟩)))⟩
  · rw [if_neg (mt hany.mp hwanted), grabTarget_eq_none_iff.mpr hwanted]
    simp [hwanted]

/-! ## What holds in every state -/

/-- What the handlers rely on when they call `wlx_popup_update_pointer_grab`: a present window is
there with its popup's surface, the grab is on such a window and flagged, and the seat counts held
buttons. -/
structure Ready (v : GrabSession) : Prop where
  surfaces : (v.pointer.popups.map (·.surface)).Nodup
  present : ∀ p ∈ v.pointer.popups, p.xpresent = true → p.mapped = true
  holds : ∀ surface ∈ v.grabWindow, ∃ p ∈ v.pointer.popups, p.surface = surface ∧ p.shown = true
  flagged : v.grabWindow ≠ none → v.pointer.grabbed = true
  counts : v.pointer.seat.Counts v.heldButtons

/-- In every state: a grab that is wanted and neither held nor refused is pending. -/
structure Sound (v : GrabSession) : Prop extends Ready v where
  pending : v.Wanted → v.pointer.grabbed = false → v.refused = false → v.pointer.pending = true

/-- No popup is shown at the start, and no button held. -/
theorem Sound.init : init.Sound where
  surfaces := List.nodup_nil
  present := nofun
  holds := nofun
  flagged := fun h => absurd rfl h
  counts := ⟨List.nodup_nil, nofun⟩
  pending := by rintro ⟨p, hp, -⟩; cases hp

/-- The flag is right if it is set only while the grab is held. -/
theorem Ready.kept_iff_wanted (h : v.Ready) :
    v.GrabKept ↔ (v.pointer.grabbed = true → v.grabWindow ≠ none) ∧
      (v.Wanted → v.heldButtons = [] → v.grabWindow ≠ none ∨ v.refused = true) := by
  refine and_congr_left fun _ => ⟨fun hflag hgrabbed => ?_, fun hflag hgrabbed => ?_⟩
  · obtain ⟨p, -, -, hwindow⟩ := hflag hgrabbed
    rw [hwindow]
    exact Option.some_ne_none _
  · obtain ⟨surface, hsurface⟩ := Option.ne_none_iff_exists'.mp (hflag hgrabbed)
    obtain ⟨p, hp, rfl, hshown⟩ := h.holds surface hsurface
    unfold MenuPopup.shown at hshown
    exact ⟨p, hp, (Bool.and_eq_true_iff.mp hshown).2, hsurface⟩

/-- A popup wants the grab, and the flag is set, but there is none. -/
def Lost (v : GrabSession) : Prop := v.Wanted ∧ v.pointer.grabbed = true ∧ v.grabWindow = none

/-- Without the flag no window has the grab. -/
theorem Ready.grabWindow_eq_none (h : v.Ready) (hgrabbed : v.pointer.grabbed = false) :
    v.grabWindow = none := by
  by_contra hsome
  rw [h.flagged hsome] at hgrabbed
  cases hgrabbed

/-- A grab that is not there is not lost, -/
theorem not_lost_of_not_grabbed (hgrabbed : v.pointer.grabbed = false) : ¬v.Lost := by
  rintro ⟨-, hset, -⟩
  rw [hgrabbed] at hset
  cases hset

/-- and neither is one that a window has. -/
theorem not_lost_of_grabWindow (hsome : v.grabWindow ≠ none) : ¬v.Lost := fun hlost => hsome hlost.2.2

variable (clientOf) in
/-- After `wlx_popup_update_pointer_grab` the grab is with no window, or with one that is shown. -/
theorem Ready.updatePointerGrab_ready (h : v.Ready) (env : PointerEnv) :
    (v.updatePointerGrab clientOf env).Ready := by
  obtain ⟨⟨hpopups, hheld, hbuttons⟩, hcases⟩ := updatePointerGrab_cases clientOf v env
  generalize v.updatePointerGrab clientOf env = v' at hpopups hheld hbuttons hcases ⊢
  -- what the five outcomes have in common
  have hwindow : v'.grabWindow = none ∨
      v'.pointer.grabbed = true ∧ ∀ surface ∈ v'.grabWindow, ∃ p ∈ v.pointer.popups,
        p.surface = surface ∧ p.shown = true := by
    rcases hcases with ⟨-, -, hwindow⟩ | ⟨-, -, hgrabbed', hwindow, -⟩ | ⟨-, -, hgrabbed, -, -, hwindow⟩ |
      ⟨-, -, hgrabbed', p, hp, hwindow, hshown⟩ | ⟨-, hgrabbed, -, hwindow, -⟩
    · -- what was held is let go
      rw [hwindow]
      split
      · exact Or.inl rfl
      · rename_i hgrabbed
        exact Or.inl (h.grabWindow_eq_none (by simpa using hgrabbed))
    · rw [hwindow]
      exact Or.inr ⟨hgrabbed', h.holds⟩
    · exact Or.inl (hwindow.trans (h.grabWindow_eq_none hgrabbed))
    · refine Or.inr ⟨hgrabbed', fun surface hsurface => ?_⟩
      rw [hwindow] at hsurface
      exact ⟨p, hp, Option.some.inj hsurface, hshown⟩
    · exact Or.inl (hwindow.trans (h.grabWindow_eq_none hgrabbed))
  refine ⟨?_, ?_, ?_, ?_, ?_⟩
  · rw [hpopups]
    exact h.surfaces
  · rw [hpopups]
    exact h.present
  · rw [hpopups]
    rcases hwindow with hnone | ⟨-, hholds⟩
    · rw [hnone]
      nofun
    · exact hholds
  · rcases hwindow with hnone | ⟨hgrabbed', -⟩
    · exact fun hne => absurd hnone hne
    · exact fun _ => hgrabbed'
  · rw [hheld]
    exact h.counts.of_buttons hbuttons

variable (clientOf) in
/-- After `wlx_popup_update_pointer_grab` all is well, unless the grab was lost before, which it does
not see. -/
theorem Ready.updatePointerGrab (h : v.Ready) (env : PointerEnv) :
    let v' := v.updatePointerGrab clientOf env
    v'.Sound ∧ (v'.GrabKept ↔ ¬v.Lost) ∧ (v'.Lost ↔ v.Lost) := by
  dsimp only
  have hready' := h.updatePointerGrab_ready clientOf env
  obtain ⟨⟨hpopups, hheld, -⟩, hcases⟩ := updatePointerGrab_cases clientOf v env
  generalize v.updatePointerGrab clientOf env = v' at hready' hpopups hheld hcases ⊢
  have hwanted : v'.Wanted ↔ v.Wanted := by unfold Wanted; rw [hpopups]
  -- the grab is kept exactly if the flag agrees with the window that has it
  have hkept' := hready'.kept_iff_wanted
  rcases hcases with ⟨hnot, hgrabbed', -⟩ | ⟨hwant, hgrabbed, hgrabbed', hwindow, -⟩ |
    ⟨-, hbutton, hgrabbed, hgrabbed', hpending, -⟩ | ⟨-, hgrabbed, hgrabbed', p, -, hwindow, -⟩ |
    ⟨-, hgrabbed, hgrabbed', -, hrefused⟩
  · -- no popup wants it
    have hlost : ¬v.Lost := fun hlost => hnot hlost.1
    have hkept : v'.GrabKept := by
      rw [hkept', hgrabbed']
      exact ⟨nofun, fun hwant => absurd (hwanted.mp hwant) hnot⟩
    exact ⟨⟨hready', fun hwant => absurd (hwanted.mp hwant) hnot⟩, iff_of_true hkept hlost,
      iff_of_false (not_lost_of_not_grabbed hgrabbed') hlost⟩
  · -- the flag is set: nothing happens
    have hlost : v'.Lost ↔ v.Lost := by
      unfold Lost
      rw [hwanted, hgrabbed, hgrabbed', hwindow]
    have hkept : v'.GrabKept ↔ ¬v.Lost := by
      rw [hkept', hwindow]
      constructor
      · exact fun hkept hlost => hkept.1 hgrabbed' hlost.2.2
      · intro hlost
        have hsome : v.grabWindow ≠ none := fun hnone => hlost ⟨hwant, hgrabbed, hnone⟩
        exact ⟨fun _ => hsome, fun _ _ => Or.inl hsome⟩
    refine ⟨⟨hready', fun _ hclear => ?_⟩, hkept, hlost⟩
    rw [hgrabbed'] at hclear
    cases hclear
  · -- it has to wait for a button, which is held
    have hlost := not_lost_of_not_grabbed hgrabbed
    have hkept : v'.GrabKept := by
      rw [hkept', hgrabbed', hheld]
      exact ⟨nofun, fun _ hnil => absurd hnil (h.counts.ne_nil hbutton)⟩
    exact ⟨⟨hready', fun _ _ _ => hpending⟩, iff_of_true hkept hlost,
      iff_of_false (not_lost_of_not_grabbed hgrabbed') hlost⟩
  · -- it is granted
    have hlost := not_lost_of_not_grabbed hgrabbed
    have hsome : v'.grabWindow ≠ none := by
      rw [hwindow]
      exact Option.some_ne_none _
    have hkept : v'.GrabKept := hkept'.mpr ⟨fun _ => hsome, fun _ _ => Or.inl hsome⟩
    refine ⟨⟨hready', fun _ hclear => ?_⟩, iff_of_true hkept hlost,
      iff_of_false (not_lost_of_grabWindow hsome) hlost⟩
    rw [hgrabbed'] at hclear
    cases hclear
  · -- it is refused
    have hlost := not_lost_of_not_grabbed hgrabbed
    have hkept : v'.GrabKept := by
      rw [hkept', hgrabbed']
      exact ⟨nofun, fun _ _ => Or.inr hrefused⟩
    refine ⟨⟨hready', fun _ _ hclear => ?_⟩, iff_of_true hkept hlost,
      iff_of_false (not_lost_of_not_grabbed hgrabbed') hlost⟩
    rw [hrefused] at hclear
    cases hclear

/-! ## The popups -/

/-- A handler that leaves the popups and the flags alone. -/
theorem Sound.frame (h : v.Sound) (hpopups : v'.pointer.popups = v.pointer.popups)
    (hgrabbed : v'.pointer.grabbed = v.pointer.grabbed)
    (hpending : v'.pointer.pending = v.pointer.pending) (hwindow : v'.grabWindow = v.grabWindow)
    (hrefused : v'.refused = v.refused) (hcounts : v'.pointer.seat.Counts v'.heldButtons) :
    v'.Sound := by
  have hwanted : v'.Wanted ↔ v.Wanted := by unfold Wanted; rw [hpopups]
  refine ⟨⟨?_, ?_, ?_, ?_, hcounts⟩, ?_⟩
  · rw [hpopups]; exact h.surfaces
  · rw [hpopups]; exact h.present
  · rw [hpopups, hwindow]; exact h.holds
  · rw [hwindow, hgrabbed]; exact h.flagged
  · rw [hwanted, hgrabbed, hrefused, hpending]; exact h.pending

/-- What is about neither popups nor grab keeps it. -/
theorem GrabKept.frame (h : v.GrabKept) (hpopups : v'.pointer.popups = v.pointer.popups)
    (hgrabbed : v'.pointer.grabbed = v.pointer.grabbed) (hwindow : v'.grabWindow = v.grabWindow)
    (hrefused : v'.refused = v.refused) (hheld : v'.heldButtons = [] → v.heldButtons = []) :
    v'.GrabKept := by
  unfold GrabKept Wanted
  rw [hpopups, hgrabbed, hwindow, hrefused]
  exact ⟨h.1, fun hwant hnil => h.2 hwant (hheld hnil)⟩

variable (clientOf) in
/-- A pending grab that is taken when the last button is let go. -/
theorem Sound.takePendingGrab (h : v.Sound) (hflag : v.pointer.grabbed = true → v.grabWindow ≠ none)
    (env : PointerEnv) :
    (v.takePendingGrab clientOf env).Sound ∧ (v.takePendingGrab clientOf env).GrabKept := by
  unfold GrabSession.takePendingGrab
  split
  · obtain ⟨hsound, hkept, -⟩ := h.updatePointerGrab clientOf env
    exact ⟨hsound, hkept.mpr fun hlost => hflag hlost.2.1 hlost.2.2⟩
  · rename_i hnot
    refine ⟨h, h.kept_iff_wanted.mpr ⟨hflag, fun hwant hnil => ?_⟩⟩
    have hfree : ¬v.pointer.seat.held = true := fun hheld => h.counts.ne_nil hheld hnil
    -- nothing is pending, so it is held or was refused
    cases hgrabbed : v.pointer.grabbed with
    | true => exact Or.inl (hflag hgrabbed)
    | false =>
      cases hrefused : v.refused with
      | true => exact Or.inr rfl
      | false => exact absurd ⟨h.pending hwant hgrabbed hrefused, hfree⟩ hnot

section SetPopup

variable {surface : Nat} {f : MenuPopup → MenuPopup} {w : Option Nat}

theorem mem_setPopup {pointer : PointerSession} {p' : MenuPopup} :
    p' ∈ (pointer.setPopup surface f).popups ↔
      ∃ p ∈ pointer.popups, (if p.surface = surface then f p else p) = p' :=
  List.mem_map

/-- A change of one popup, by which the X server may drop the grab. -/
theorem Ready.setPopup (h : v.Ready) (hsurface : ∀ p, (f p).surface = p.surface)
    (hpresent : ∀ p ∈ v.pointer.popups, p.surface = surface → (f p).xpresent = true →
      (f p).mapped = true)
    (hwindow : ∀ x ∈ w, v.grabWindow = some x ∧
      (x = surface → ∀ p : MenuPopup, p.shown = true → (f p).shown = true)) :
    Ready { v with pointer := v.pointer.setPopup surface f, grabWindow := w } where
  surfaces := by
    have hmap : (v.pointer.setPopup surface f).popups.map (·.surface) =
        v.pointer.popups.map (·.surface) := by
      show (v.pointer.popups.map _).map _ = _
      rw [List.map_map]
      refine List.map_congr_left fun p _ => ?_
      show (if p.surface = surface then f p else p).surface = p.surface
      split
      · exact hsurface p
      · rfl
    show ((v.pointer.setPopup surface f).popups.map (·.surface)).Nodup
    rw [hmap]
    exact h.surfaces
  present := by
    intro p' hp' hx
    obtain ⟨p, hp, rfl⟩ := mem_setPopup.mp hp'
    by_cases hsame : p.surface = surface
    · rw [if_pos hsame] at hx ⊢
      exact hpresent p hp hsame hx
    · rw [if_neg hsame] at hx ⊢
      exact h.present p hp hx
  -- the window that keeps the grab is one that had it
  holds := by
    intro x hx
    obtain ⟨hholder, hshown⟩ := hwindow x hx
    obtain ⟨p, hp, rfl, hpshown⟩ := h.holds x hholder
    refine ⟨_, mem_setPopup.mpr ⟨p, hp, rfl⟩, ?_, ?_⟩
    · split
      · exact hsurface p
      · rfl
    · split
      · rename_i hsame
        exact hshown hsame p hpshown
      · exact hpshown
  flagged := by
    intro hne
    obtain ⟨x, hx⟩ := Option.ne_none_iff_exists'.mp hne
    refine h.flagged ?_
    rw [(hwindow x hx).1]
    exact Option.some_ne_none x
  counts := h.counts

/-- When a popup's window goes, the others are left. -/
theorem wanted_hide_iff (hhide : ∀ p, (f p).shown = false) :
    Wanted { v with pointer := v.pointer.setPopup surface f, grabWindow := w } ↔
      v.OtherShown surface := by
  constructor
  · rintro ⟨p', hp', hshown⟩
    obtain ⟨p, hp, rfl⟩ := mem_setPopup.mp hp'
    split at hshown
    · rw [hhide] at hshown
      cases hshown
    · rename_i hne
      exact ⟨p, hp, hshown, hne⟩
  · rintro ⟨p, hp, hshown, hne⟩
    refine ⟨p, mem_setPopup.mpr ⟨p, hp, if_neg hne⟩, hshown⟩

end SetPopup

/-! ## The handlers -/

/-- Another window keeps the grab when this one goes. -/
theorem dropGrab_eq_some {surface x : Nat} (hx : v.dropGrab surface = some x) :
    v.grabWindow = some x ∧ x ≠ surface := by
  unfold dropGrab at hx
  split at hx
  · cases hx
  · rename_i hne
    exact ⟨hx, fun hsame => hne (hsame ▸ hx)⟩

variable (clientOf) in
/-- To enter what is under the pointer is no matter of the grab. -/
theorem enterUnderCursor_sound (h : v.Sound) (under : Option Nat) :
    Sound { v with pointer := v.pointer.enterUnderCursor clientOf under } :=
  h.frame rfl rfl rfl rfl rfl (h.counts.of_buttons (enterUnderCursor_buttons clientOf v.pointer under))

variable (clientOf) in
/-- `popup_position_and_map`, for a popup that is mapped. -/
theorem Sound.positionAndMap (h : v.Sound) (hkept : v.GrabKept) {surface : Nat}
    (hmapped : ∀ p ∈ v.pointer.popups, p.surface = surface → p.mapped = true) (placed : Bool)
    (env : PointerEnv) :
    (v.positionAndMap clientOf surface placed env).Sound ∧
      (v.positionAndMap clientOf surface placed env).GrabKept := by
  unfold GrabSession.positionAndMap
  split
  -- a mapped popup gets an X window, which may want the grab now
  · have hready : Ready { v with
        pointer := v.pointer.setPopup surface ({ · with xpresent := true })
        grabWindow := v.grabWindow } := by
      refine h.setPopup (fun _ => rfl) (fun p hp hsame _ => hmapped p hp hsame) fun x hx => ⟨hx, ?_⟩
      intro _ p hshown
      unfold MenuPopup.shown at hshown ⊢
      rw [(Bool.and_eq_true_iff.mp hshown).2]
      rfl
    obtain ⟨hsound, hkept', -⟩ := hready.updatePointerGrab clientOf env
    refine ⟨hsound, hkept'.mpr fun hlost => ?_⟩
    exact (h.kept_iff_wanted.mp hkept).1 hlost.2.1 hlost.2.2
  · exact ⟨h, hkept⟩

/-- A map shows a popup, and the grab is looked for right then. -/
theorem Sound.popupMap (h : v.Sound) (hkept : v.GrabKept) (surface : Nat) (placed : Bool)
    (env : PointerEnv) :
    (v.popupMap clientOf surface placed env).Sound ∧
      (v.popupMap clientOf surface placed env).GrabKept := by
  -- to be mapped changes nothing yet: there is no present window
  have hready : Ready { v with
      pointer := v.pointer.setPopup surface ({ · with mapped := true })
      grabWindow := v.grabWindow } := by
    refine h.setPopup (fun _ => rfl) (fun _ _ _ _ => rfl) fun x hx => ⟨hx, ?_⟩
    intro _ p hshown
    unfold MenuPopup.shown at hshown ⊢
    rw [(Bool.and_eq_true_iff.mp hshown).1]
    rfl
  have hwanted : Wanted { v with
      pointer := v.pointer.setPopup surface ({ · with mapped := true }) } → v.Wanted := by
    rintro ⟨p', hp', hshown⟩
    obtain ⟨p, hp, rfl⟩ := mem_setPopup.mp hp'
    refine ⟨p, hp, ?_⟩
    by_cases hsame : p.surface = surface
    · rw [if_pos hsame] at hshown
      have hx : p.xpresent = true := (Bool.and_eq_true_iff.mp hshown).1
      exact Bool.and_eq_true_iff.mpr ⟨hx, h.present p hp hx⟩
    · rw [if_neg hsame] at hshown
      exact hshown
  have hsound : Sound { v with pointer := v.pointer.setPopup surface ({ · with mapped := true }) } :=
    ⟨hready, fun hwant => h.pending (hwanted hwant)⟩
  obtain ⟨hflag, hheld⟩ := h.kept_iff_wanted.mp hkept
  have hkept' : GrabKept { v with
      pointer := v.pointer.setPopup surface ({ · with mapped := true }) } :=
    hready.kept_iff_wanted.mpr ⟨hflag, fun hwant => hheld (hwanted hwant)⟩
  -- the popup that is shown now is the one whose surface was mapped
  have hmapped : ∀ p' ∈ (v.pointer.setPopup surface ({ · with mapped := true })).popups,
      p'.surface = surface → p'.mapped = true := by
    intro p' hp' hsurface
    obtain ⟨p, -, rfl⟩ := mem_setPopup.mp hp'
    by_cases hsame : p.surface = surface
    · rw [if_pos hsame]
    · rw [if_neg hsame] at hsurface
      exact absurd hsurface hsame
  obtain ⟨hsound', hkept''⟩ := hsound.positionAndMap clientOf hkept' hmapped placed env
  unfold GrabSession.popupMap
  dsimp only
  split
  · exact ⟨hsound', hkept''⟩
  · exact ⟨enterUnderCursor_sound clientOf hsound' env.under, hkept''.frame rfl rfl rfl rfl id⟩

/-- A popup that goes takes the grab with it if its window has it. -/
theorem lost_hide_iff (h : v.Ready) (hflag : v.pointer.grabbed = true → v.grabWindow ≠ none)
    (surface : Nat) {f : MenuPopup → MenuPopup} (hhide : ∀ p, (f p).shown = false) :
    ¬Lost { v with pointer := v.pointer.setPopup surface f, grabWindow := v.dropGrab surface } ↔
      (v.grabWindow = some surface → ¬v.OtherShown surface) := by
  have hwanted : Wanted { v with
      pointer := v.pointer.setPopup surface f, grabWindow := v.dropGrab surface } ↔
      v.OtherShown surface := wanted_hide_iff hhide
  constructor
  · intro hlost hholder hother
    refine hlost ⟨hwanted.mpr hother, h.flagged ?_, if_pos hholder⟩
    rw [hholder]
    exact Option.some_ne_none surface
  -- the grab is gone now, and it was there before: this popup had it
  · rintro hlast ⟨hwant, hgrabbed, hnone⟩
    have hnone' : v.dropGrab surface = none := hnone
    unfold dropGrab at hnone'
    split at hnone'
    · rename_i hholder
      exact hlast hholder (hwanted.mp hwant)
    · exact hflag hgrabbed hnone'

/-- What `popup_unmap` makes of the popups and the grab before it looks for another one. -/
theorem Ready.hide (h : v.Ready) (surface : Nat) {f : MenuPopup → MenuPopup}
    (hsurface : ∀ p, (f p).surface = p.surface) (hx : ∀ p, (f p).xpresent = false) :
    Ready { v with pointer := v.pointer.setPopup surface f, grabWindow := v.dropGrab surface } := by
  refine h.setPopup hsurface (fun p _ _ hpresent => ?_) fun x hdropped => ?_
  · rw [hx] at hpresent
    cases hpresent
  · obtain ⟨hholder, hne⟩ := dropGrab_eq_some hdropped
    exact ⟨hholder, fun hsame => absurd hsame hne⟩

/-- Of the seat only the held buttons matter here. -/
theorem Ready.seat (h : v.Ready) (seat : Seat) (hbuttons : seat.buttons = v.pointer.seat.buttons) :
    Ready { v with pointer := { v.pointer with seat := seat } } :=
  ⟨h.surfaces, h.present, h.holds, h.flagged, h.counts.of_buttons (Or.inl hbuttons)⟩

/-- No popup of the surface has a present window on the screen. -/
def Hidden (v : GrabSession) (surface : Nat) : Prop :=
  ∀ p ∈ v.pointer.popups, p.surface = surface → p.shown = false

/-- A popup that is shown is not the hidden one. -/
theorem Hidden.ne (h : v.Hidden surface) {p : MenuPopup} (hp : p ∈ v.pointer.popups)
    (hshown : p.shown = true) : p.surface ≠ surface := by
  intro hsame
  rw [h p hp hsame] at hshown
  cases hshown

/-- With one popup hidden, another is shown if any is. -/
theorem Hidden.otherShown_iff (h : v.Hidden surface) : v.OtherShown surface ↔ v.Wanted := by
  constructor
  · rintro ⟨p, hp, hshown, -⟩
    exact ⟨p, hp, hshown⟩
  · rintro ⟨p, hp, hshown⟩
    exact ⟨p, hp, hshown, h.ne hp hshown⟩

/-- A hidden popup does not have the grab. -/
theorem Ready.grabWindow_ne (h : v.Ready) (hhidden : v.Hidden surface) :
    v.grabWindow ≠ some surface := by
  intro hholder
  obtain ⟨p, hp, hsame, hshown⟩ := h.holds surface hholder
  exact hhidden.ne hp hshown hsame

variable (clientOf) in
/-- `popup_unmap`: the grab is kept unless it goes while another popup wants it. -/
theorem Sound.popupUnmap (h : v.Sound) (hkept : v.GrabKept) (surface : Nat) (env : PointerEnv) :
    let v' := v.popupUnmap clientOf surface env
    v'.Sound ∧ (v'.GrabKept ↔ (v.grabWindow = some surface → ¬v.OtherShown surface)) ∧
      (v'.GrabKept ↔ ¬v'.Lost) ∧ v'.Hidden surface := by
  -- the popup is hidden first, and then the grab is looked at again
  have hready := (h.hide surface (f := fun p => { p with mapped := false, xpresent := false })
    (fun _ => rfl) (fun _ => rfl)).seat (v.pointer.seat.clearFocusOn surface) (by
      unfold Seat.clearFocusOn
      split <;> rfl)
  obtain ⟨hsound, hkept', hlost⟩ := hready.updatePointerGrab clientOf env
  obtain ⟨⟨hpopups, -, -⟩, -⟩ := updatePointerGrab_cases clientOf _ env
  have hframe := hkept'.trans
    (lost_hide_iff h.toReady (h.kept_iff_wanted.mp hkept).1 surface fun _ => rfl)
  refine ⟨enterUnderCursor_sound clientOf hsound env.under, hframe, ?_, fun p' hp' hsurface => ?_⟩
  · exact hkept'.trans (not_congr hlost).symm
  · have hp := hpopups ▸ hp'
    obtain ⟨p, -, rfl⟩ := mem_setPopup.mp hp
    by_cases hsame : p.surface = surface
    · rw [if_pos hsame]
      rfl
    · rw [if_neg hsame] at hsurface
      exact absurd hsurface hsame

/-- The `wlx_popup` of a window that is not on the screen is freed. -/
theorem Sound.remove (h : v.Sound) {surface : Nat} (hhidden : v.Hidden surface) :
    let v' : GrabSession := { v with
      pointer := { v.pointer with popups := v.pointer.popups.filter (·.surface ≠ surface) } }
    v'.Sound ∧ (v'.GrabKept ↔ v.GrabKept) := by
  dsimp only
  have hmem : ∀ p, p ∈ v.pointer.popups.filter (·.surface ≠ surface) ↔
      p ∈ v.pointer.popups ∧ p.surface ≠ surface := by
    intro p
    rw [List.mem_filter, decide_eq_true_eq]
  -- what is not shown wants nothing
  have hwanted : Wanted { v with
      pointer := { v.pointer with popups := v.pointer.popups.filter (·.surface ≠ surface) } } ↔
      v.Wanted := by
    constructor
    · rintro ⟨p, hp, hshown⟩
      exact ⟨p, ((hmem p).mp hp).1, hshown⟩
    · rintro ⟨p, hp, hshown⟩
      exact ⟨p, (hmem p).mpr ⟨hp, hhidden.ne hp hshown⟩, hshown⟩
  have hready : Ready { v with
      pointer := { v.pointer with popups := v.pointer.popups.filter (·.surface ≠ surface) } } := by
    refine ⟨(List.filter_sublist.map _).nodup h.surfaces, ?_, ?_, h.flagged, h.counts⟩
    · exact fun p hp => h.present p ((hmem p).mp hp).1
    · intro x hx
      obtain ⟨p, hp, rfl, hshown⟩ := h.holds x hx
      exact ⟨p, (hmem p).mpr ⟨hp, hhidden.ne hp hshown⟩, rfl, hshown⟩
  refine ⟨⟨hready, fun hwant => h.pending (hwanted.mp hwant)⟩, ?_⟩
  rw [hready.kept_iff_wanted, h.kept_iff_wanted, hwanted]

/-- A commit is for a popup that is mapped. -/
theorem popupMapped_eq_true_iff {pointer : PointerSession} {surface : Nat} :
    pointer.popupMapped surface = true ↔
      ∃ p ∈ pointer.popups, p.surface = surface ∧ p.mapped = true := by
  unfold PointerSession.popupMapped
  simp [List.any_eq_true]

variable (clientOf) in
/-- To free a popup whose window has gone changes nothing about the grab. -/
theorem Sound.popupFree (h : v.Sound) {surface : Nat} (hhidden : v.Hidden surface)
    (env : PointerEnv) :
    (v.popupFree clientOf surface env).Sound ∧
      ((v.popupFree clientOf surface env).GrabKept ↔ ¬v.Lost) := by
  obtain ⟨v₁, hv₁⟩ : ∃ v₁ : GrabSession, v₁ = { v with
      pointer := PointerSession.setPopup
        { v.pointer with seat := v.pointer.seat.resetXdgPopup surface } surface
        ({ · with xpresent := false })
      grabWindow := v.dropGrab surface } := ⟨_, rfl⟩
  have hready : v₁.Ready := by
    rw [hv₁]
    refine (h.toReady.seat (v.pointer.seat.resetXdgPopup surface) ?_).hide surface
      (f := ({ · with xpresent := false })) (fun _ => rfl) fun _ => rfl
    unfold Seat.resetXdgPopup
    split <;> rfl
  have hdrop : v.dropGrab surface = v.grabWindow := if_neg (h.grabWindow_ne hhidden)
  have hwanted : v₁.Wanted ↔ v.Wanted := by
    rw [hv₁]
    exact (wanted_hide_iff (v := { v with pointer := { v.pointer with
      seat := v.pointer.seat.resetXdgPopup surface } }) fun _ => rfl).trans hhidden.otherShown_iff
  -- the hidden popup's window did not have the grab
  have hlost : v₁.Lost ↔ v.Lost := by
    unfold Lost
    rw [hwanted, hv₁]
    show _ ∧ _ ∧ v.dropGrab surface = none ↔ _
    rw [hdrop]
    rfl
  obtain ⟨hsound, hkept, -⟩ := hready.updatePointerGrab clientOf env
  obtain ⟨⟨hpopups, -, -⟩, -⟩ := updatePointerGrab_cases clientOf v₁ env
  -- the popup is still hidden when it is freed
  have hhidden' : (v₁.updatePointerGrab clientOf env).Hidden surface := by
    intro p' hp' hsurface
    rw [hpopups, hv₁] at hp'
    obtain ⟨p, -, rfl⟩ := mem_setPopup.mp hp'
    by_cases hsame : p.surface = surface
    · rw [if_pos hsame]
      rfl
    · rw [if_neg hsame] at hsurface
      exact absurd hsurface hsame
  obtain ⟨hsound', hkept'⟩ := hsound.remove hhidden'
  unfold GrabSession.popupFree
  dsimp only
  rw [← hv₁]
  exact ⟨hsound', hkept'.trans (hkept.trans (not_congr hlost))⟩

/-- `destroy_xdg_popup`: as if the popup had been unmapped. -/
theorem Sound.popupDestroy (h : v.Sound) (hkept : v.GrabKept) (surface : Nat) (env : PointerEnv) :
    (v.popupDestroy clientOf surface env).Sound ∧
      ((v.popupDestroy clientOf surface env).GrabKept ↔
        (v.grabWindow = some surface → ¬v.OtherShown surface)) := by
  unfold GrabSession.popupDestroy
  split
  · obtain ⟨hsound, hunmapped, hlost, hhidden⟩ :=
      h.popupUnmap clientOf hkept surface env
    obtain ⟨hsound', hkept'⟩ := hsound.popupFree clientOf hhidden env
    exact ⟨hsound', hkept'.trans (hlost.symm.trans hunmapped)⟩
  · rename_i hmapped
    have hhidden : v.Hidden surface := by
      intro p hp hsame
      by_contra hshown
      rw [Bool.not_eq_false] at hshown
      exact hmapped (popupMapped_eq_true_iff.mpr
        ⟨p, hp, hsame, (Bool.and_eq_true_iff.mp hshown).2⟩)
    obtain ⟨hsound', hkept'⟩ := h.popupFree clientOf hhidden env
    -- it does not have the grab
    refine ⟨hsound', iff_of_true (hkept'.mpr fun hlost => ?_) fun hholder =>
      absurd hholder (h.grabWindow_ne hhidden)⟩
    exact (h.kept_iff_wanted.mp hkept).1 hlost.2.1 hlost.2.2

/-- A present window that is destroyed alone: nothing looks at the grab. -/
theorem Sound.xpresentDestroyed (h : v.Sound) (hkept : v.GrabKept) (surface : Nat) :
    let v' : GrabSession := { v with
      pointer := v.pointer.setPopup surface ({ · with xpresent := false })
      grabWindow := v.dropGrab surface }
    v'.Sound ∧ (v'.GrabKept ↔ v.grabWindow ≠ some surface) := by
  dsimp only
  have hready := h.hide surface (f := ({ · with xpresent := false })) (fun _ => rfl) fun _ => rfl
  have hwanted : Wanted { v with
      pointer := v.pointer.setPopup surface ({ · with xpresent := false })
      grabWindow := v.dropGrab surface } → v.Wanted := by
    intro hwant
    obtain ⟨p, hp, hshown, -⟩ := (wanted_hide_iff fun _ => rfl).mp hwant
    exact ⟨p, hp, hshown⟩
  refine ⟨⟨hready, fun hwant => h.pending (hwanted hwant)⟩, ?_⟩
  obtain ⟨hflag, hheld⟩ := h.kept_iff_wanted.mp hkept
  rw [hready.kept_iff_wanted]
  constructor
  -- with the grab gone the flag would stand for nothing
  · rintro ⟨hflag', -⟩ hholder
    refine hflag' (h.flagged ?_) (if_pos hholder)
    rw [hholder]
    exact Option.some_ne_none surface
  · intro hholder
    have hdrop : v.dropGrab surface = v.grabWindow := if_neg hholder
    show (_ → v.dropGrab surface ≠ none) ∧ (_ → _ → v.dropGrab surface ≠ none ∨ _)
    rw [hdrop]
    exact ⟨hflag, fun hwant => hheld (hwanted hwant)⟩

/-- A new popup has no window and changes nothing about the grab. -/
theorem Sound.newPopup (h : v.Sound) (hkept : v.GrabKept) {surface : Nat}
    (hnew : ¬(v.pointer.popups.any (·.surface = surface)) = true) :
    let v' : GrabSession := { v with
      pointer := { v.pointer with popups := ⟨surface, false, false⟩ :: v.pointer.popups } }
    v'.Sound ∧ v'.GrabKept := by
  dsimp only
  have hwanted : Wanted { v with pointer := { v.pointer with
      popups := ⟨surface, false, false⟩ :: v.pointer.popups } } → v.Wanted := by
    rintro ⟨p, hp, hshown⟩
    rcases List.mem_cons.mp hp with rfl | hp
    · cases hshown
    · exact ⟨p, hp, hshown⟩
  -- its surface is a new one, by the lookup that found none
  have hready : Ready { v with pointer := { v.pointer with
      popups := ⟨surface, false, false⟩ :: v.pointer.popups } } := by
    refine ⟨List.nodup_cons.mpr ⟨fun hmem => ?_, h.surfaces⟩, ?_, ?_, h.flagged, h.counts⟩
    · obtain ⟨p, hp, hsame⟩ := List.mem_map.mp hmem
      exact hnew (List.any_eq_true.mpr ⟨p, hp, by simpa using hsame⟩)
    · intro p hp hx
      rcases List.mem_cons.mp hp with rfl | hp
      · cases hx
      · exact h.present p hp hx
    · intro x hx
      obtain ⟨p, hp, hsame⟩ := h.holds x hx
      exact ⟨p, List.mem_cons_of_mem _ hp, hsame⟩
  obtain ⟨hflag, hheld⟩ := h.kept_iff_wanted.mp hkept
  exact ⟨⟨hready, fun hwant => h.pending (hwanted hwant)⟩,
    hready.kept_iff_wanted.mpr ⟨hflag, fun hwant => hheld (hwanted hwant)⟩⟩

/-! ## Each step -/

/-- Motion leaves popups and grab alone, and the buttons up to a change of client. -/
theorem processCursorMotion_frame (clientOf : Nat → Nat) (p : PointerSession) (under : Option Nat) :
    (p.processCursorMotion clientOf under).popups = p.popups ∧
      (p.processCursorMotion clientOf under).grabbed = p.grabbed ∧
      (p.processCursorMotion clientOf under).pending = p.pending ∧
      ((p.processCursorMotion clientOf under).seat.buttons = p.seat.buttons ∨
        (p.processCursorMotion clientOf under).seat.buttons = []) := by
  have hmotion : ∀ s : Seat, s.notifyMotion.buttons = s.buttons := by
    intro s
    unfold Seat.notifyMotion
    split <;> rfl
  unfold PointerSession.processCursorMotion
  split
  · exact ⟨rfl, rfl, rfl, Or.inl rfl⟩
  · refine ⟨rfl, rfl, rfl, ?_⟩
    dsimp only
    split
    · split
      · exact Or.inl (hmotion _)
      · exact Or.inl rfl
    · split
      · split
        · exact Or.inl (hmotion _)
        · exact Or.inl rfl
      · split
        · exact Or.inl rfl
        -- another surface is entered
        · rw [hmotion, Seat.notifyEnter_buttons]
          split
          · exact Or.inl rfl
          · exact Or.inr rfl

/-- A release takes up the grab that was put off. -/
theorem release_step (h : v.Sound) (hkept : v.GrabKept) (button : Nat) (accepted : Bool)
    (env : PointerEnv) :
    (v.cursorRelease clientOf button accepted env).Sound ∧
      (v.cursorRelease clientOf button accepted env).GrabKept := by
  have hreleased : Sound { v with
      pointer := { v.pointer with seat := v.pointer.seat.release accepted button }
      heldButtons := v.heldButtons.erase button } :=
    h.frame rfl rfl rfl rfl rfl (h.counts.release accepted button)
  obtain ⟨hsound, hkept'⟩ := hreleased.takePendingGrab clientOf
    (h.kept_iff_wanted.mp hkept).1 env
  have hentered := enterUnderCursor_sound clientOf hsound env.under
  exact ⟨hentered.frame rfl rfl rfl rfl rfl hentered.counts, hkept'.frame rfl rfl rfl rfl id⟩

/-- On the core path that needs the release to be heard: the server hears it only while it has the grab. -/
theorem coreRelease_step (h : v.Sound) (hkept : v.GrabKept) {detail : Nat}
    (hheard : coreButton detail ≠ none → v.pointer.grabbed = true) (accepted : Bool)
    (env : PointerEnv) :
    (v.coreRelease clientOf detail accepted env).Sound ∧
      (v.coreRelease clientOf detail accepted env).GrabKept := by
  unfold GrabSession.coreRelease
  cases hbutton : coreButton detail with
  | none => exact ⟨h, hkept⟩
  | some button =>
    have hgrabbed : v.pointer.grabbed = true := hheard (by rw [hbutton]; exact Option.some_ne_none _)
    -- heard: the button is no longer held, and a grab that waited for it is taken
    dsimp only
    rw [if_pos hgrabbed]
    have hreleased : Sound { v with
        pointer := { v.pointer with seat := v.pointer.seat.release accepted button }
        heldButtons := v.heldButtons.erase button } :=
      h.frame rfl rfl rfl rfl rfl (h.counts.release accepted button)
    exact (enterUnderCursor_sound clientOf hreleased env.under).takePendingGrab clientOf
      (h.kept_iff_wanted.mp hkept).1 env

/-- A press on the core path is counted, and shows no popup. -/
theorem corePress_step (h : v.Sound) (hkept : v.GrabKept) (detail : Nat) (env : PointerEnv) :
    let v' : GrabSession := { v with
      pointer := v.pointer.corePress clientOf detail env
      heldButtons := (coreButton detail).toList ++ v.heldButtons }
    v'.Sound ∧ v'.GrabKept := by
  dsimp only
  unfold PointerSession.corePress
  -- the core path knows three buttons
  cases coreButton detail with
  | none => exact ⟨h, hkept⟩
  | some button =>
    have hheld : button :: v.heldButtons = [] → v.heldButtons = [] := nofun
    dsimp only
    split
    · have hentered := h.counts.of_buttons (enterUnderCursor_buttons clientOf v.pointer env.under)
      exact ⟨h.frame rfl rfl rfl rfl rfl (hentered.press _ button), hkept.frame rfl rfl rfl rfl hheld⟩
    · exact ⟨h.frame rfl rfl rfl rfl rfl (h.counts.cons button), hkept.frame rfl rfl rfl rfl hheld⟩

/-- A handler that has nothing to do with popups or buttons. -/
theorem other_step (h : v.Sound) (hkept : v.GrabKept) {pointer : PointerSession}
    (hpopups : pointer.popups = v.pointer.popups) (hgrabbed : pointer.grabbed = v.pointer.grabbed)
    (hpending : pointer.pending = v.pointer.pending)
    (hbuttons : pointer.seat.buttons = v.pointer.seat.buttons ∨ pointer.seat.buttons = []) :
    Sound { v with pointer := pointer } ∧ GrabKept { v with pointer := pointer } :=
  ⟨h.frame hpopups hgrabbed hpending rfl rfl (h.counts.of_buttons hbuttons),
    hkept.frame hpopups hgrabbed rfl rfl id⟩

/-- Each handler keeps the account of the grab. One that hides a popup loses the grab exactly if the popup had
it and was not the last. -/
theorem handle_step (h : v.Sound) (hkept : v.GrabKept) {a : PointerAction} (hheard : v.Heard a)
    (hstep : v.handle clientOf a = some v') : v'.Sound ∧ (v'.GrabKept ↔ v.GoesLast a) := by
  -- most handlers keep the grab whatever the state
  have hfine : ∀ {u : GrabSession}, u = v' → u.Sound ∧ u.GrabKept →
      v'.Sound ∧ (v'.GrabKept ↔ True) := by
    rintro u rfl ⟨hsound, hkept'⟩
    exact ⟨hsound, iff_true_intro hkept'⟩
  cases a with
  | press button env =>
    have hentered := h.counts.of_buttons (enterUnderCursor_buttons clientOf v.pointer env.under)
    refine hfine (Option.some.inj hstep)
      ⟨h.frame rfl rfl rfl rfl rfl (hentered.press _ button), hkept.frame rfl rfl rfl rfl ?_⟩
    exact fun hnil => absurd hnil (List.cons_ne_nil _ _)
  | release button accepted env =>
    exact hfine (Option.some.inj hstep) (release_step h hkept button accepted env)
  | corePress detail env => exact hfine (Option.some.inj hstep) (corePress_step h hkept detail env)
  | coreRelease detail accepted env =>
    exact hfine (Option.some.inj hstep) (coreRelease_step h hkept hheard accepted env)
  | newPopup surface =>
    obtain ⟨pointer, hhandle, rfl⟩ := Option.map_eq_some_iff.mp hstep
    obtain ⟨hnew, hpointer⟩ := Option.ite_none_left_eq_some.mp hhandle
    obtain rfl := Option.some.inj hpointer
    exact hfine rfl (h.newPopup hkept hnew)
  | popupMap surface placed env =>
    obtain ⟨-, hmap⟩ := Option.ite_none_right_eq_some.mp hstep
    exact hfine (Option.some.inj hmap) (h.popupMap hkept surface placed env)
  | popupCommit surface placed env =>
    obtain ⟨hmapped, hmap⟩ := Option.ite_none_right_eq_some.mp hstep
    obtain ⟨p, hp, hsurface, hpmapped⟩ := popupMapped_eq_true_iff.mp hmapped
    refine hfine (Option.some.inj hmap) (h.positionAndMap clientOf hkept (fun p' hp' hsame => ?_) placed env)
    rw [List.inj_on_of_nodup_map h.surfaces hp' hp (hsame.trans hsurface.symm)]
    exact hpmapped
  | popupUnmap surface env =>
    obtain ⟨-, hunmap⟩ := Option.ite_none_right_eq_some.mp hstep
    obtain rfl := Option.some.inj hunmap
    obtain ⟨hsound, hkept', -⟩ := h.popupUnmap clientOf hkept surface env
    exact ⟨hsound, hkept'⟩
  | popupDestroy surface env =>
    obtain rfl := Option.some.inj hstep
    exact h.popupDestroy hkept surface env
  | xpresentDestroyed surface =>
    obtain rfl := Option.some.inj hstep
    exact h.xpresentDestroyed hkept surface
  | motion under =>
    obtain ⟨hpopups, hgrabbed, hpending, hbuttons⟩ :=
      processCursorMotion_frame clientOf v.pointer under
    exact hfine (Option.some.inj hstep) (other_step h hkept hpopups hgrabbed hpending hbuttons)
  | focusIn surface coords under =>
    have hother : Sound { v with pointer := v.pointer.focusIn clientOf surface coords } ∧
        GrabKept { v with pointer := v.pointer.focusIn clientOf surface coords } := by
      unfold PointerSession.focusIn
      split
      · refine other_step h hkept rfl rfl rfl ?_
        dsimp only
        rw [Seat.notifyEnter_buttons]
        split
        · exact Or.inl rfl
        · exact Or.inr rfl
      · exact ⟨h, hkept⟩
    exact hfine (Option.some.inj hstep) hother
  | popupGrab client surface =>
    obtain ⟨pointer, hhandle, rfl⟩ := Option.map_eq_some_iff.mp hstep
    obtain ⟨-, hpointer⟩ := Option.ite_none_left_eq_some.mp hhandle
    obtain rfl := Option.some.inj hpointer
    exact hfine rfl (other_step h hkept rfl rfl rfl (Or.inl rfl))
  | startDrag origin client source serial =>
    refine hfine (Option.some.inj hstep) (other_step h hkept rfl rfl rfl (Or.inl ?_))
    show (v.pointer.seat.startDrag origin client source serial).buttons = _
    unfold Seat.startDrag
    split <;> rfl
  | dragSourceDestroyed =>
    obtain ⟨pointer, hhandle, rfl⟩ := Option.map_eq_some_iff.mp hstep
    obtain ⟨-, hpointer⟩ := Option.ite_none_right_eq_some.mp hhandle
    obtain rfl := Option.some.inj hpointer
    exact hfine rfl (other_step h hkept rfl rfl rfl (Or.inl rfl))
  | focusOut _ | surfaceDestroyed _ | bindSeat _ | unbindSeat _ | move _ =>
    exact hfine (Option.some.inj hstep) (other_step h hkept rfl rfl rfl (Or.inl rfl))

/-- To forget the calls that were made is no matter of the grab. -/
theorem Sound.fresh (h : v.Sound) : Sound { v with pointer := v.pointer.fresh } :=
  h.frame rfl rfl rfl rfl rfl h.counts

/-- **The grab of the menus.** Along a run of popups that come, are mapped, unmapped and go in any
order and of buttons on either path, in which the program hears of each release, the flag stands for a
grab that is held, and a wanted grab is held or refused once no button is, exactly if the window that
has the grab never goes while another popup is shown, nor without its popup. -/
theorem grabKept_iff {as : List PointerAction} (hheard : Run.Along (step clientOf) Heard init as)
    (hrun : Run.run (step clientOf) init as = some v) :
    Run.Along (step clientOf) (StaysGrabKept clientOf) init as ↔
      Run.Along (step clientOf) GoesLast init as := by
  have hinit : init.GrabKept := Sound.init.kept_iff_wanted.mpr ⟨nofun, fun hwant => by
    obtain ⟨p, hp, -⟩ := hwant
    cases hp⟩
  refine Run.along_iff_along (I := fun v => v.Sound ∧ v.GrabKept) ?_ ?_ ⟨Sound.init, hinit⟩ hheard hrun
  · rintro v a v' ⟨hsound, hkept⟩ hheard hstays hstep
    exact ⟨(handle_step hsound.fresh hkept hheard hstep).1, hstays v' hstep⟩
  · rintro v a v' ⟨hsound, hkept⟩ hheard hstep
    unfold StaysGrabKept
    rw [Run.forall_step_iff hstep]
    exact (handle_step hsound.fresh hkept hheard hstep).2

/-- A menu is opened, and then its submenu, which closes first. -/
def submenuRun : List PointerAction :=
  [.newPopup 1, .popupMap 1 true ⟨some 1, true⟩, .newPopup 2, .popupMap 2 true ⟨some 2, true⟩,
    .corePress 1 ⟨some 2, true⟩, .coreRelease 1 false ⟨some 2, true⟩, .popupUnmap 2 ⟨some 1, true⟩,
    .popupDestroy 2 ⟨some 1, true⟩, .popupDestroy 1 ⟨none, true⟩]

theorem submenuRun_kept :
    Run.Along (step fun _ => 0) (StaysGrabKept fun _ => 0) init submenuRun := by
  have hsome : (Run.run (step fun _ => 0) init submenuRun).isSome = true := by decide +kernel
  obtain ⟨v, hv⟩ := Option.isSome_iff_exists.mp hsome
  exact (grabKept_iff (by decide +kernel) hv).mpr (by decide +kernel)

/-- Menu and submenu are opened while the button is held: the grab, which had to wait for it, is taken
on the window of the newer one. -/
def heldMenuRun : List PointerAction :=
  [.press 272 ⟨some 0, true⟩, .newPopup 1, .popupMap 1 true ⟨some 1, true⟩, .newPopup 2,
    .popupMap 2 true ⟨some 2, true⟩, .release 272 false ⟨some 2, true⟩]

/-- The submenu closes and takes the grab along; the menu has none, and the flag is still set. -/
theorem heldMenu_lost : ¬ ∀ (clientOf : Nat → Nat) (as : List PointerAction) (v : GrabSession),
    Run.run (step clientOf) init as = some v → v.GrabKept := by
  intro h
  have hany : (Run.run (step fun _ => 0) init (heldMenuRun ++ [.popupUnmap 2 ⟨some 1, true⟩])).any
      (fun v => !decide v.GrabKept) = true := by
    decide +kernel
  obtain ⟨v, hv, hnot⟩ := (Option.any_eq_true ..).mp hany
  rw [Bool.not_eq_true', decide_eq_false_iff_not] at hnot
  exact hnot (h _ _ v hv)

end GrabSession

end Wlx
