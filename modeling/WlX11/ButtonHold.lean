import WlX11.PointerFocus

/-!
# WlX11 — held buttons keep the focus

"Never `wlr_seat_pointer_notify_enter` when `button_count > 0` if the focused surface would change":
the seat would forget the buttons. Motions and mapped popups keep to it. Where the focus has been
cleared under a held button, the next button or an unmapped popup does not, and a `FocusIn` never asks.

* **`SeatCall.Orderly`** — no such call, no reset of held buttons, no release on another surface than
  the press.
* **`PointerSession.Unbroken`** — the condition on an event.
* **`PointerSession.orderly_iff_unbroken`** — the calls of a run are orderly exactly if its events meet
  it.
-/

namespace Wlx

/-- Outside a drag, a held button keeps the focus and is not forgotten; a release goes where the press
went, or nowhere. -/
def SeatCall.Orderly : SeatCall → Prop
  | .notifyEnter surface focused held dragging => held = true → dragging = false → focused = some surface
  | .resetButtons held dragging => held = true → dragging = true
  | .sendRelease surface pressedOn => surface ≠ none → surface = pressedOn
  | .dragMotion _ => True

namespace Seat

def Clean (s : Seat) : Prop := ∀ c ∈ s.calls, c.Orderly

/-- An enter of this surface changes nothing for a button that is held. -/
def Keeps (clientOf : Nat → Nat) (s : Seat) (surface : Nat) : Prop :=
  s.held = true → s.dragging = false →
    s.focused = some surface ∧ (s.grab = .popup → clientOf surface = s.popupGrab.client)

/-- What is under the pointer can be entered, if it is: under a held button some surface has the
focus, and the one that has it belongs to the client of the popups. -/
def Steady (clientOf : Nat → Nat) (s : Seat) (under : Option Nat) : Prop :=
  s.held = true → s.dragging = false → ∀ x ∈ under,
    s.focused.isSome = true ∧
      (s.focused = some x → s.grab = .popup → clientOf x = s.popupGrab.client)

/-- The button was pressed on the focused surface, if there is one. -/
def Paired (s : Seat) : Prop := ∀ e ∈ s.buttons, s.focused = none ∨ e.pressedOn = s.focused

end Seat

namespace PointerSession

/-- No enter on this event's way breaks a click. -/
def Unbroken (clientOf : Nat → Nat) (v : PointerSession) : PointerAction → Prop
  | .press _ env => v.seat.Steady clientOf env.under
  | .release button accepted env => (v.seat.release accepted button).Steady clientOf env.under
  | .corePress detail env =>
    v.grabbed = true → (coreButton detail).isSome = true → v.seat.Steady clientOf env.under
  | .coreRelease detail accepted env =>
    v.grabbed = true → ∀ button ∈ coreButton detail,
      (v.seat.release accepted button).Steady clientOf env.under
  | .focusIn surface coords _ => coords = true → v.seat.Keeps clientOf surface
  | .popupUnmap surface env => (v.seat.clearFocusOn surface).Steady clientOf env.under
  | .popupDestroy surface env =>
    v.popupMapped surface = true → (v.seat.clearFocusOn surface).Steady clientOf env.under
  | _ => True

section Decidable

variable (clientOf : Nat → Nat) (v : PointerSession)

instance (s : Seat) (surface : Nat) : Decidable (s.Keeps clientOf surface) :=
  inferInstanceAs (Decidable (_ → _ → _ ∧ (_ → _)))

instance (s : Seat) (under : Option Nat) : Decidable (s.Steady clientOf under) :=
  inferInstanceAs (Decidable (_ → _ → ∀ x ∈ under, _ ∧ (_ → _ → _)))

instance : (a : PointerAction) → Decidable (v.Unbroken clientOf a)
  | .press _ env => inferInstanceAs (Decidable (v.seat.Steady clientOf env.under))
  | .release button accepted env =>
    inferInstanceAs (Decidable ((v.seat.release accepted button).Steady clientOf env.under))
  | .corePress .. => inferInstanceAs (Decidable (_ → _ → Seat.Steady ..))
  | .coreRelease detail .. => inferInstanceAs (Decidable (_ → ∀ button ∈ coreButton detail, Seat.Steady ..))
  | .focusIn .. => inferInstanceAs (Decidable (_ → Seat.Keeps ..))
  | .popupUnmap .. => inferInstanceAs (Decidable (Seat.Steady ..))
  | .popupDestroy .. => inferInstanceAs (Decidable (_ → Seat.Steady ..))
  | .motion _ | .focusOut _ | .newPopup _ | .popupGrab .. | .popupMap .. | .popupCommit ..
  | .xpresentDestroyed _ | .surfaceDestroyed _ | .startDrag .. | .dragSourceDestroyed | .bindSeat _
  | .unbindSeat _ | .move _ => isTrue trivial

end Decidable

end PointerSession

namespace Seat

variable {clientOf : Nat → Nat} {s : Seat}

theorem clean_note {c : SeatCall} : (s.note c).Clean ↔ s.Clean ∧ c.Orderly := by
  simp [Clean, note, or_imp, forall_and]

/-- A surface that has the focus keeps it when it is entered, if the popups are its client's. -/
theorem grabEnter_focused_eq_iff {x : Nat} (hfocused : s.focused = some x) :
    (s.grabEnter clientOf x).focused = s.focused ↔
      (s.grab = .popup → clientOf x = s.popupGrab.client) := by
  rw [grabEnter_focused, hfocused]
  cases s.grab <;> simp

/-- An enter is orderly exactly if it changes nothing for a held button. -/
theorem clean_notifyEnter {x : Nat} :
    (s.notifyEnter clientOf x).Clean ↔ s.Clean ∧ s.Keeps clientOf x := by
  unfold Clean
  rw [notifyEnter_calls, List.forall_mem_append, List.forall_mem_cons]
  apply and_congr_right
  intro _
  -- only a button that is held, with no drag, can be broken
  by_cases hhold : s.held = true ∧ s.dragging = false
  · obtain ⟨hheld, hdragging⟩ := hhold
    by_cases hfocused : s.focused = some x
    · -- it has the focus: is it reset?
      rw [if_congr (grabEnter_focused_eq_iff hfocused) rfl rfl]
      simp only [SeatCall.Orderly, Keeps, hheld, hdragging, hfocused]
      split
      · rename_i hclient
        simpa using hclient
      · rename_i hclient
        simp [hclient]
    · simp [SeatCall.Orderly, Keeps, hheld, hdragging, hfocused]
  · have hnot : s.held = true → s.dragging = true := by
      intro hheld
      by_contra hdragging
      exact hhold ⟨hheld, Bool.not_eq_true _ ▸ hdragging⟩
    constructor
    · exact fun _ hheld hdragging => absurd ⟨hheld, hdragging⟩ hhold
    · intro _
      refine ⟨fun hheld hdragging => absurd ⟨hheld, hdragging⟩ hhold, ?_⟩
      split
      · exact nofun
      · simpa [SeatCall.Orderly] using hnot

/-- To enter another surface forgets what was held; to enter the same one changes nothing. -/
theorem Paired.notifyEnter (h : s.Paired) (x : Nat) : (s.notifyEnter clientOf x).Paired := by
  unfold Seat.notifyEnter
  dsimp only
  split
  -- the buttons are cleared
  · intro e he
    cases he
  · rename_i hsame
    rw [ne_eq, not_not] at hsame
    intro e he
    rw [grabEnter_buttons] at he
    rw [hsame]
    exact h e he

/-- A motion is orderly. -/
theorem Clean.notifyMotion (h : s.Clean) : s.notifyMotion.Clean := by
  unfold Seat.notifyMotion
  split
  · exact clean_note.mpr ⟨h, trivial⟩
  · exact h

/-- It touches no button. -/
theorem Paired.notifyMotion (h : s.Paired) : s.notifyMotion.Paired := by
  unfold Seat.notifyMotion
  split <;> exact h

/-- A button is pressed on the surface that has the focus. -/
theorem Paired.press (h : s.Paired) (mapped : Nat → Bool) (button : Nat) :
    (s.press mapped button).Paired := by
  obtain ⟨-, hfocused, -, -, hbuttons⟩ := press_spec mapped s button
  intro e he
  rw [hfocused]
  rcases hbuttons e he with hon | ⟨e₀, he₀, hon⟩
  · exact Or.inr hon
  · rw [hon]
    exact h e₀ he₀

/-- No grab moves the focus when a button is released; if the release is sent, it is to the focused
surface. -/
theorem grabRelease_spec (accepted : Bool) (s : Seat) (e : SeatButton) :
    (s.grabRelease accepted e).focused = s.focused ∧ (s.grabRelease accepted e).buttons = s.buttons ∧
      ∀ c ∈ (s.grabRelease accepted e).calls, c ∈ s.calls ∨ c = .sendRelease s.focused e.pressedOn := by
  unfold grabRelease
  split
  · refine ⟨rfl, rfl, fun c hc => ?_⟩
    simpa [note] using hc
  · split
    · refine ⟨rfl, rfl, fun c hc => ?_⟩
      simpa [note] using hc
    · exact ⟨rfl, rfl, fun c hc => Or.inl hc⟩
  · exact ⟨rfl, rfl, fun c hc => Or.inl hc⟩
  · repeat' split
    all_goals exact ⟨rfl, rfl, fun c hc => Or.inl hc⟩

/-- A release keeps the focus and the other buttons, and is sent to the focus, with the surface the button was
pressed on. -/
theorem release_spec (accepted : Bool) (s : Seat) (button : Nat) :
    (s.release accepted button).focused = s.focused ∧
      (∀ e ∈ (s.release accepted button).buttons, ∃ e₀ ∈ s.buttons, e.pressedOn = e₀.pressedOn) ∧
      ∀ c ∈ (s.release accepted button).calls,
        c ∈ s.calls ∨ ∃ e ∈ s.buttons, c = .sendRelease s.focused e.pressedOn := by
  unfold release
  cases hfind : s.buttons.find? (·.button = button) with
  | none => exact ⟨rfl, fun e he => ⟨e, he, rfl⟩, fun c hc => Or.inl hc⟩
  | some e =>
    dsimp only
    split
    · refine ⟨rfl, ?_, fun c hc => Or.inl hc⟩
      intro e' he'
      obtain ⟨e₀, he₀, rfl⟩ := List.mem_map.mp he'
      refine ⟨e₀, he₀, ?_⟩
      split <;> rfl
    -- the last press of the button: the release goes through the grab
    · obtain ⟨hfocused, hbuttons, hcalls⟩ := grabRelease_spec accepted
        { s with buttons := s.buttons.filter (·.button ≠ button) } e
      refine ⟨hfocused, ?_, ?_⟩
      · intro e' he'
        rw [hbuttons] at he'
        exact ⟨e', (List.mem_filter.mp he').1, rfl⟩
      · intro c hc
        rcases hcalls c hc with hc | rfl
        · exact Or.inl hc
        · exact Or.inr ⟨e, List.mem_of_find?_eq_some hfind, rfl⟩

/-- A release takes a button away and moves no focus. -/
theorem Paired.release (h : s.Paired) (accepted : Bool) (button : Nat) :
    (s.release accepted button).Paired := by
  obtain ⟨hfocused, hbuttons, -⟩ := release_spec accepted s button
  intro e he
  obtain ⟨e₀, he₀, hon⟩ := hbuttons e he
  rw [hfocused, hon]
  exact h e₀ he₀

/-- A release goes to the surface the button was pressed on, if to any. -/
theorem Clean.release (h : s.Clean) (hpaired : s.Paired) (accepted : Bool) (button : Nat) :
    (s.release accepted button).Clean := by
  obtain ⟨-, -, hcalls⟩ := release_spec accepted s button
  intro c hc
  rcases hcalls c hc with hc | ⟨e, he, rfl⟩
  · exact h c hc
  · intro hsent
    -- the button was pressed on the focus, or that surface is gone
    rcases hpaired e he with hnone | hon
    · exact absurd hnone hsent
    · exact hon.symm

/-- To clear the focus sends no button. -/
theorem Clean.clearFocusOn (h : s.Clean) (surface : Nat) : (s.clearFocusOn surface).Clean := by
  unfold Seat.clearFocusOn
  split <;> exact h

/-- A popup grab that ends sends none either. -/
theorem clean_resetXdgPopup (surface : Nat) : (s.resetXdgPopup surface).Clean ↔ s.Clean := by
  unfold resetXdgPopup
  split <;> exact Iff.rfl

theorem Paired.resetXdgPopup (h : s.Paired) (surface : Nat) : (s.resetXdgPopup surface).Paired := by
  unfold Seat.resetXdgPopup
  split <;> exact h

/-- A button that was pressed on a surface that is gone is on no surface. -/
theorem Paired.surfaceDestroyed (h : s.Paired) (surface : Nat) : (s.surfaceDestroyed surface).Paired := by
  unfold Seat.surfaceDestroyed
  intro e he
  dsimp only
  split
  · exact Or.inl rfl
  · exact h e he

/-- A drag takes the focus away. -/
theorem Paired.startDrag (h : s.Paired) (origin client : Nat) (source : Option Bool) (serial : Bool) :
    (s.startDrag origin client source serial).Paired := by
  unfold Seat.startDrag
  split
  · exact fun _ _ => Or.inl rfl
  · exact h

/-- Every call of the seat keeps each held button with the focus it was pressed on. -/
theorem kept_paired : Seat.Kept clientOf Paired where
  clearFocus _ _ := fun _ _ => Or.inl rfl
  notifyEnter _ x h := h.notifyEnter x
  notifyMotion _ h := h.notifyMotion
  press mapped _ button h := h.press mapped button
  release accepted _ button h := h.release accepted button
  startPopupGrab _ _ _ h := h
  resetXdgPopup _ surface h := h.resetXdgPopup surface
  surfaceDestroyed _ surface h := h.surfaceDestroyed surface
  startDrag _ origin client source serial h := h.startDrag origin client source serial
  endDrag _ h := h
  bind _ _ h := h
  unbind _ _ h := h

end Seat

namespace PointerSession

variable {clientOf : Nat → Nat} {v v' : PointerSession}

/-- What is entered under the pointer is entered in order exactly if it does not break a held button. -/
theorem clean_enterUnderCursor {under : Option Nat} :
    (v.enterUnderCursor clientOf under).seat.Clean ↔ v.seat.Clean ∧ v.seat.Steady clientOf under := by
  unfold enterUnderCursor
  dsimp only
  cases under with
  | none =>
    have hsteady : v.seat.Steady clientOf none := by
      intro _ _ x hx
      cases hx
    simp only [hsteady, and_true]
    split <;> exact Iff.rfl
  | some x =>
    have hsteady : v.seat.Steady clientOf (some x) ↔ (v.seat.held = true → v.seat.dragging = false →
        v.seat.focused.isSome = true ∧
          (v.seat.focused = some x → v.seat.grab = .popup → clientOf x = v.seat.popupGrab.client)) := by
      simp [Seat.Steady]
    rw [hsteady]
    dsimp only
    split
    · rename_i hskip
      obtain ⟨-, hsome, hne⟩ := hskip
      simp [hsome, hne]
    · -- the surface is entered: it has the focus, or nothing has
      rename_i henter
      rw [Seat.clean_notifyEnter]
      apply and_congr_right
      intro _
      unfold Seat.Keeps
      refine imp_congr_right fun hheld => imp_congr_right fun _ => ?_
      by_cases hfocused : v.seat.focused = some x
      · simp [hfocused]
      · have hnone : v.seat.focused = none := by
          by_contra hsome
          exact henter ⟨hheld, Option.isSome_iff_ne_none.mpr hsome, hfocused⟩
        simp [hnone]

/-- With no button held, anything can be entered. -/
theorem steady_of_free {s : Seat} (h : s.held = false) (under : Option Nat) : s.Steady clientOf under := by
  intro hheld
  rw [h] at hheld
  cases hheld

/-- With no button held there is none to break. -/
theorem free_enterUnderCursor (h : v.seat.held = false) (under : Option Nat) :
    (v.enterUnderCursor clientOf under).seat.held = false := by
  have hbuttons : v.seat.buttons = [] := by simpa [Seat.held] using h
  -- an enter adds no button
  have hnil : (v.enterUnderCursor clientOf under).seat.buttons = [] := by
    unfold enterUnderCursor
    dsimp only
    split
    · split <;> exact hbuttons
    · split
      · exact hbuttons
      · unfold Seat.notifyEnter
        dsimp only
        split
        · rfl
        · rw [Seat.grabEnter_buttons]
          exact hbuttons
  simp [Seat.held, hnil]

/-- Motions enter a surface only if no button is held. -/
theorem clean_processCursorMotion (h : v.seat.Clean) (under : Option Nat) :
    (v.processCursorMotion clientOf under).seat.Clean := by
  unfold processCursorMotion
  split
  · exact h
  · dsimp only
    split
    · split
      · exact h.notifyMotion
      · exact h
    · split
      · split
        · exact h.notifyMotion
        · exact h
      -- no button is held, so the enter breaks none
      · rename_i hfree
        split
        · exact h
        · refine (Seat.clean_notifyEnter.mpr ⟨h, ?_⟩).notifyMotion
          exact fun hheld => absurd hheld hfree

/-- The menu grab is not taken while a button is held. -/
theorem updatePointerGrab_seat (clientOf : Nat → Nat) (v : PointerSession) (env : PointerEnv) :
    (v.updatePointerGrab clientOf env).seat = v.seat ∨
      v.seat.held = false ∧
        (v.updatePointerGrab clientOf env).seat = (v.enterUnderCursor clientOf env.under).seat := by
  unfold updatePointerGrab
  split
  · split
    · exact Or.inl rfl
    · split
      · exact Or.inl rfl
      · rename_i hfree
        split
        · exact Or.inr ⟨Bool.not_eq_true _ ▸ hfree, rfl⟩
        · exact Or.inl rfl
  · exact Or.inl rfl

/-- The grab of the X pointer is not the seat's, and sends nothing. -/
theorem clean_updatePointerGrab (env : PointerEnv) :
    (v.updatePointerGrab clientOf env).seat.Clean ↔ v.seat.Clean := by
  rcases updatePointerGrab_seat clientOf v env with hseat | ⟨hfree, hseat⟩
  · rw [hseat]
  · rw [hseat, clean_enterUnderCursor]
    exact and_iff_left (steady_of_free hfree env.under)

/-- Nor does it change what may be entered. -/
theorem steady_updatePointerGrab (env : PointerEnv) (under : Option Nat) :
    (v.updatePointerGrab clientOf env).seat.Steady clientOf under ↔ v.seat.Steady clientOf under := by
  rcases updatePointerGrab_seat clientOf v env with hseat | ⟨hfree, hseat⟩
  · rw [hseat]
  · rw [hseat]
    exact iff_of_true (steady_of_free (free_enterUnderCursor hfree env.under) under)
      (steady_of_free hfree under)

/-- The same for a grab that had been put off, -/
theorem clean_takePendingGrab (env : PointerEnv) :
    (v.takePendingGrab clientOf env).seat.Clean ↔ v.seat.Clean := by
  unfold takePendingGrab
  split
  · exact clean_updatePointerGrab env
  · exact Iff.rfl

/-- which changes nothing for the surface under the pointer. -/
theorem steady_takePendingGrab (env : PointerEnv) (under : Option Nat) :
    (v.takePendingGrab clientOf env).seat.Steady clientOf under ↔ v.seat.Steady clientOf under := by
  unfold takePendingGrab
  split
  · exact steady_updatePointerGrab env under
  · exact Iff.rfl

/-- A press is orderly exactly if the enter before it is, -/
theorem clean_cursorPress {button : Nat} {env : PointerEnv} :
    (v.cursorPress clientOf button env).seat.Clean ↔
      v.seat.Clean ∧ v.seat.Steady clientOf env.under := by
  rw [← clean_enterUnderCursor]
  unfold cursorPress Seat.Clean
  dsimp only
  rw [(Seat.press_spec _ _ _).1]

/-- and a release exactly if the enter after it is. -/
theorem clean_cursorRelease (h : v.seat.Clean) (hpaired : v.seat.Paired) {button : Nat} {accepted : Bool}
    {env : PointerEnv} :
    (v.cursorRelease clientOf button accepted env).seat.Clean ↔
      (v.seat.release accepted button).Steady clientOf env.under := by
  unfold cursorRelease
  dsimp only
  rw [clean_enterUnderCursor, clean_takePendingGrab, steady_takePendingGrab]
  exact and_iff_right (h.release hpaired accepted button)

/-- On the core path presses count only while the server has the grab. -/
theorem clean_corePress (h : v.seat.Clean) {detail : Nat} {env : PointerEnv} :
    (v.corePress clientOf detail env).seat.Clean ↔
      (v.grabbed = true → (coreButton detail).isSome = true → v.seat.Steady clientOf env.under) := by
  unfold corePress
  cases coreButton detail with
  | none => simp [h]
  | some button =>
    dsimp only
    split
    · rename_i hgrabbed
      rw [clean_cursorPress]
      simp [h, hgrabbed]
    · rename_i hgrabbed
      simp [h, hgrabbed]

/-- So do releases. -/
theorem clean_coreRelease (h : v.seat.Clean) (hpaired : v.seat.Paired) {detail : Nat} {accepted : Bool}
    {env : PointerEnv} :
    (v.coreRelease clientOf detail accepted env).seat.Clean ↔
      (v.grabbed = true → ∀ button ∈ coreButton detail,
        (v.seat.release accepted button).Steady clientOf env.under) := by
  unfold coreRelease
  cases coreButton detail with
  | none => simp [h]
  | some button =>
    dsimp only
    split
    -- in a grab the release is heard, and outside it is not
    · rename_i hgrabbed
      rw [clean_takePendingGrab, clean_enterUnderCursor]
      simp [h.release hpaired accepted button, hgrabbed]
    · rename_i hgrabbed
      simp [h, hgrabbed]

/-- To show a popup enters nothing by itself. -/
theorem clean_positionAndMap (surface : Nat) (placed : Bool) (env : PointerEnv) :
    (v.positionAndMap clientOf surface placed env).seat.Clean ↔ v.seat.Clean := by
  unfold positionAndMap
  split
  · rw [clean_updatePointerGrab]
    rfl
  · exact Iff.rfl

/-- A popup that is mapped leaves the focus to a button that is held. -/
theorem clean_popupMap (h : v.seat.Clean) (surface : Nat) (placed : Bool) (env : PointerEnv) :
    (v.popupMap clientOf surface placed env).seat.Clean := by
  have hplaced : ((v.setPopup surface ({ · with mapped := true })).positionAndMap clientOf surface placed
      env).seat.Clean := (clean_positionAndMap surface placed env).mpr h
  unfold popupMap
  dsimp only
  split
  · exact hplaced
  · rename_i hfree
    exact clean_enterUnderCursor.mpr ⟨hplaced, steady_of_free (Bool.not_eq_true _ ▸ hfree) env.under⟩

/-- When a popup goes, what is under the pointer is entered, after the focus was cleared from it. -/
theorem clean_popupUnmap (h : v.seat.Clean) {surface : Nat} {env : PointerEnv} :
    (v.popupUnmap clientOf surface env).seat.Clean ↔
      (v.seat.clearFocusOn surface).Steady clientOf env.under := by
  unfold popupUnmap
  dsimp only
  rw [clean_enterUnderCursor, clean_updatePointerGrab, steady_updatePointerGrab]
  exact and_iff_right (h.clearFocusOn surface)

/-- A popup that is destroyed while mapped is unmapped first. -/
theorem clean_popupDestroy (h : v.seat.Clean) {surface : Nat} {env : PointerEnv} :
    (v.popupDestroy clientOf surface env).seat.Clean ↔ (v.popupMapped surface = true →
      (v.seat.clearFocusOn surface).Steady clientOf env.under) := by
  unfold popupDestroy
  dsimp only
  rw [clean_updatePointerGrab]
  refine (Seat.clean_resetXdgPopup surface).trans ?_
  by_cases hmapped : v.popupMapped surface = true
  · rw [if_pos hmapped, clean_popupUnmap h]
    exact (imp_iff_right hmapped).symm
  · rw [if_neg hmapped]
    exact iff_of_true h fun hm => absurd hm hmapped

/-- **One event.** Its calls are orderly exactly if it meets the condition. -/
theorem clean_handle (hclean : v.seat.Clean) (hpaired : v.seat.Paired) {a : PointerAction}
    (hstep : v.handle clientOf a = some v') : v'.seat.Clean ↔ v.Unbroken clientOf a := by
  -- an event meets its condition or has none: one case per event
  cases a with
  | motion under =>
    cases hstep
    exact iff_of_true (clean_processCursorMotion hclean under) trivial
  | press button env =>
    cases hstep
    exact clean_cursorPress.trans (and_iff_right hclean)
  | release button accepted env =>
    cases hstep
    exact clean_cursorRelease hclean hpaired
  | corePress detail env =>
    cases hstep
    exact clean_corePress hclean
  | coreRelease detail accepted env =>
    cases hstep
    exact clean_coreRelease hclean hpaired
  | focusIn surface coords under =>
    cases hstep
    unfold focusIn Unbroken
    split
    · rename_i hcoords
      rw [Seat.clean_notifyEnter]
      simp [hclean, hcoords]
    · rename_i hcoords
      simp [hclean, hcoords]
  | focusOut under =>
    cases hstep
    exact iff_of_true hclean trivial
  | newPopup surface =>
    simp only [handle, Option.ite_none_left_eq_some, Option.some.injEq] at hstep
    obtain ⟨-, rfl⟩ := hstep
    exact iff_of_true hclean trivial
  | popupGrab client surface =>
    simp only [handle, Option.ite_none_left_eq_some, Option.some.injEq] at hstep
    obtain ⟨-, rfl⟩ := hstep
    exact iff_of_true hclean trivial
  | popupMap surface placed env =>
    simp only [handle, Option.ite_none_right_eq_some, Option.some.injEq] at hstep
    obtain ⟨-, rfl⟩ := hstep
    exact iff_of_true (clean_popupMap hclean surface placed env) trivial
  | popupCommit surface placed env =>
    simp only [handle, Option.ite_none_right_eq_some, Option.some.injEq] at hstep
    obtain ⟨-, rfl⟩ := hstep
    exact iff_of_true ((clean_positionAndMap surface placed env).mpr hclean) trivial
  | popupUnmap surface env =>
    simp only [handle, Option.ite_none_right_eq_some, Option.some.injEq] at hstep
    obtain ⟨-, rfl⟩ := hstep
    exact clean_popupUnmap hclean
  | popupDestroy surface env =>
    cases hstep
    exact clean_popupDestroy hclean
  | xpresentDestroyed surface =>
    cases hstep
    exact iff_of_true hclean trivial
  | surfaceDestroyed surface =>
    cases hstep
    exact iff_of_true hclean trivial
  | startDrag origin client source serial =>
    cases hstep
    refine iff_of_true ?_ trivial
    unfold Seat.startDrag
    dsimp only
    split <;> exact hclean
  | dragSourceDestroyed =>
    simp only [handle, Option.ite_none_right_eq_some, Option.some.injEq] at hstep
    obtain ⟨-, rfl⟩ := hstep
    exact iff_of_true hclean trivial
  | bindSeat client =>
    cases hstep
    exact iff_of_true hclean trivial
  | unbindSeat client =>
    cases hstep
    exact iff_of_true hclean trivial
  | move on =>
    cases hstep
    exact iff_of_true hclean trivial

/-- The calls that were made before do not matter for what may be entered after a release. -/
theorem steady_release_fresh (s : Seat) (accepted : Bool) (button : Nat) (under : Option Nat) :
    (Seat.release accepted { s with calls := [] } button).Steady clientOf under ↔
      (s.release accepted button).Steady clientOf under := by
  -- both sides take the same branch of every test, so they are compared branch by branch
  have hite : ∀ (b : Bool) (t₁ t₂ e₁ e₂ : Seat),
      (t₁.Steady clientOf under ↔ t₂.Steady clientOf under) →
      (e₁.Steady clientOf under ↔ e₂.Steady clientOf under) →
      ((if b then t₁ else e₁).Steady clientOf under ↔ (if b then t₂ else e₂).Steady clientOf under) := by
    intro b t₁ t₂ e₁ e₂ ht he
    cases b
    · exact he
    · exact ht
  unfold Seat.release
  dsimp only
  cases s.buttons.find? (·.button = button) with
  | none => exact Iff.rfl
  | some e =>
    dsimp only
    split
    · exact Iff.rfl
    · unfold Seat.grabRelease
      dsimp only
      split
      · exact Iff.rfl
      · split <;> exact Iff.rfl
      · exact Iff.rfl
      · split
        · exact Iff.rfl
        · exact hite _ _ _ _ _ Iff.rfl Iff.rfl

/-- Whether an enter is orderly does not depend on the calls before it. -/
theorem steady_clearFocusOn_fresh (s : Seat) (surface : Nat) (under : Option Nat) :
    (Seat.clearFocusOn { s with calls := [] } surface).Steady clientOf under ↔
      (s.clearFocusOn surface).Steady clientOf under := by
  unfold Seat.clearFocusOn
  dsimp only
  split <;> exact Iff.rfl

/-- Neither does an event's. -/
theorem unbroken_fresh {a : PointerAction} : v.fresh.Unbroken clientOf a ↔ v.Unbroken clientOf a := by
  cases a with
  | release button accepted env => exact steady_release_fresh v.seat accepted button env.under
  | coreRelease detail accepted env =>
    refine imp_congr_right fun _ => forall₂_congr fun button _ => ?_
    exact steady_release_fresh v.seat accepted button env.under
  | popupUnmap surface env => exact steady_clearFocusOn_fresh v.seat surface env.under
  | popupDestroy surface env =>
    exact imp_congr_right fun _ => steady_clearFocusOn_fresh v.seat surface env.under
  | _ => exact Iff.rfl

/-- **Held buttons.** The handlers of a run never enter another surface than the focused one while a
button is held outside a drag, never reset held buttons and send no release elsewhere than the press,
exactly if each event meets the condition. -/
theorem orderly_iff_unbroken (clientOf : Nat → Nat) (as : List PointerAction) (v : PointerSession)
    (hrun : Run.run (step clientOf) init as = some v) :
    Run.Along (step clientOf) (fun v a => ∀ v', v.step clientOf a = some v' → v'.seat.Clean) init as ↔
      Run.Along (step clientOf) (Unbroken clientOf) init as := by
  have hinit : init.seat.Paired := nofun
  refine Run.along_iff_of_step (I := fun v => v.seat.Paired) ?_ ?_ hinit hrun
  · intro v a v' h _ hstep
    exact kept_handle Seat.kept_paired (v := v.fresh) h hstep
  · intro v a v' h hstep
    rw [Run.forall_step_iff hstep, ← unbroken_fresh]
    exact clean_handle (v := v.fresh) nofun h hstep

/-- A press on a toplevel; the pointer leaves it before the button is released. -/
def clickRun : List PointerAction :=
  [.motion (some 0), .press 272 ⟨some 0, true⟩, .motion none, .motion (some 1),
    .release 272 false ⟨some 1, true⟩]

/-- A click, from the press to the release. -/
theorem clickRun_orderly :
    (Run.run (step fun _ => 0) init clickRun).isSome = true ∧
      Run.Along (step fun _ => 0) (fun v a => ∀ v', v.step (fun _ => 0) a = some v' → v'.seat.Clean)
        init clickRun :=
  ⟨rfl, (orderly_iff_unbroken (fun _ => 0) clickRun _ rfl).mpr (by decide +kernel)⟩

/-- A menu is open, and closes when one of its items is pressed. -/
def menuPressRun : List PointerAction :=
  [.motion (some 0), .newPopup 1, .popupMap 1 true ⟨some 1, true⟩, .corePress 1 ⟨some 1, true⟩,
    .popupUnmap 1 ⟨some 0, true⟩]

/-- **A menu that closes on the press.** Its toplevel is entered while the button is held, and the seat
forgets the button. -/
theorem menuPress_reset : ¬ ∀ (clientOf : Nat → Nat) (as : List PointerAction) (v : PointerSession),
    Run.run (step clientOf) init as = some v → v.seat.Clean := by
  intro hall
  have hclean := hall (fun _ => 0) menuPressRun _ rfl
  have horderly := hclean (.notifyEnter 0 none true false) (by decide)
  exact absurd (horderly rfl rfl) (by decide)

end PointerSession

end Wlx
