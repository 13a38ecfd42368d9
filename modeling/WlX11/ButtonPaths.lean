import WlX11.Dnd
import WlX11.MoveResize
import WlX11.PointerFocus

/-!
# WlX11 — the two ways of a button

A button reaches the program as an XI2 event, by `server_cursor_button`, or while a menu holds the
pointer grab as a core event, by `handle_core_pointer_during_grab`, which is to "drive the seat the same
way". The seat is driven the same way. What else comes of a release is in the XI2 handler only: it ends
an interactive move or resize, and drops what is dragged to another client of the host.

* **`ButtonState`** — what a button can change.
* **`samePath_iff`** — both handlers lead to the same state exactly for presses, and for releases that
  find no interactive drag and leave no outbound one.
-/

namespace Wlx

/-- What a button can change. -/
structure ButtonState where
  pointer : PointerSession
  drag : InteractiveDrag
  bridge : Bridge
  /-- the `wl_pointer.frame`s that have been sent -/
  frames : Nat

/-- One event of a button. -/
inductive ButtonEvent where
  | press
  /-- `accepted` tells whether what is dragged over has accepted the drag, `owned` whether the
  clipboard window owns XdndSelection -/
  | release (accepted owned : Bool)

namespace ButtonState

open PointerSession (coreButton)

/-- The drag of the seat goes with the release: its `destroy` runs `drag_destroy`. -/
def releasedBridge (s : ButtonState) (button : Nat) (accepted owned : Bool) : Bridge :=
  if s.pointer.seat.drag.isSome && (s.pointer.seat.release accepted button).drag.isNone then
    s.bridge.dragDestroy owned
  else s.bridge

/-- `server_cursor_button`, and the `server_cursor_frame` that the backend has follow it. -/
def serverCursorButton (clientOf : Nat → Nat) (button : Nat) (env : PointerEnv) (s : ButtonState) :
    ButtonEvent → ButtonState
  | .press =>
    { s with pointer := s.pointer.cursorPress clientOf button env, frames := s.frames + 1 }
  | .release accepted owned =>
    { pointer := s.pointer.cursorRelease clientOf button accepted env
      drag := s.drag.endDrags
      bridge := (s.releasedBridge button accepted owned).dndOutOnButtonRelease owned
      frames := s.frames + 1 }

/-- `handle_core_pointer_during_grab`, which is called while the popups' grab is held. -/
def handleCorePointerDuringGrab (clientOf : Nat → Nat) (detail : Nat) (env : PointerEnv)
    (s : ButtonState) : ButtonEvent → ButtonState
  | .press => match coreButton detail with
    | none => s
    | some _ =>
      { s with pointer := s.pointer.corePress clientOf detail env, frames := s.frames + 1 }
  | .release accepted owned => match coreButton detail with
    | none => s
    | some button =>
      { pointer := s.pointer.coreRelease clientOf detail accepted env
        drag := s.drag
        bridge := s.releasedBridge button accepted owned
        frames := s.frames + 1 }

/-- While the grab is held: none is waited for, and `moving` stands for the two drag fields. -/
structure Grabbing (s : ButtonState) : Prop where
  grabbed : s.pointer.grabbed = true
  settled : s.pointer.pending = false
  moving : s.pointer.moving = decide s.drag.Running

end ButtonState

/-- The release of this button ends the seat's drag: it is not sent to a target that has accepted, or it
is the last button's. -/
def Seat.EndsDrag (s : Seat) (accepted : Bool) (button : Nat) : Prop :=
  s.grab = .drag ∧ ∃ d ∈ s.drag, ∃ e ∈ s.buttons.find? (·.button = button), e.nPressed ≤ 1 ∧
    ((s.grabButton = e.button ∧ d.source = some true ∧ ¬(d.focusClient = true ∧ accepted = true)) ∨
      ∀ e' ∈ s.buttons, e'.button = button)

instance (s : Seat) (accepted : Bool) (button : Nat) : Decidable (s.EndsDrag accepted button) :=
  inferInstanceAs (Decidable (s.grab = .drag ∧ ∃ d ∈ s.drag,
    ∃ e ∈ s.buttons.find? (·.button = button), e.nPressed ≤ 1 ∧
    ((s.grabButton = e.button ∧ d.source = some true ∧ ¬(d.focusClient = true ∧ accepted = true)) ∨
      ∀ e' ∈ s.buttons, e'.button = button)))

namespace ButtonState

/-- No interactive drag runs; and no outbound drag is active, unless it ends with the seat's drag and
its target has not accepted it. -/
def Plain (s : ButtonState) (button : Nat) : ButtonEvent → Prop
  | .press => True
  | .release accepted _ =>
    ¬s.drag.Running ∧
      (s.bridge.dndOut.active = true → s.pointer.seat.EndsDrag accepted button ∧
        ¬(s.bridge.dndOut.target.isSome = true ∧ s.bridge.dndOut.accepted = true))

instance (s : ButtonState) (button : Nat) : (e : ButtonEvent) → Decidable (s.Plain button e)
  | .press => .isTrue trivial
  | .release .. => inferInstanceAs (Decidable (_ ∧ (_ → _)))

end ButtonState

/-! ## The seat's drag -/

namespace Seat

/-- Only its own grab ends a drag: at the release of the button it began with, unless it is dropped on a
target that has accepted, or at that of the last one. -/
theorem grabRelease_drag (accepted : Bool) (s : Seat) (e : SeatButton) :
    (s.grabRelease accepted e).drag =
      if s.grab = .drag ∧ ∃ d ∈ s.drag,
          (s.grabButton = e.button ∧ d.source = some true ∧ ¬(d.focusClient = true ∧ accepted = true)) ∨
            s.held = false then none
      else s.drag := by
  unfold grabRelease
  cases hgrab : s.grab with
  | default =>
    symm
    exact if_neg fun h => by cases h.1
  -- a popup's grab may end, the drag does not
  | popup =>
    trans s.drag
    · dsimp only
      split <;> rfl
    · symm
      exact if_neg fun h => by cases h.1
  | drag =>
    cases hdrag : s.drag with
    | none => simpa using hdrag
    | some d =>
      simp only [Option.mem_def, Option.some.injEq, exists_eq_left', true_and]
      -- the button it began with, on no target that accepts it
      by_cases hdrop : s.grabButton = e.button ∧ d.source = some true ∧
          ¬(d.focusClient = true ∧ accepted = true)
      · rw [if_pos hdrop, if_pos (.inl hdrop)]
        rfl
      · rw [if_neg hdrop]
        cases hheld : s.held with
        | false => rw [if_neg Bool.false_ne_true, if_pos (.inr rfl)]; rfl
        | true =>
          rw [if_pos rfl, if_neg]
          · exact hdrag
          · rintro (hdrop' | hfree)
            · exact hdrop hdrop'
            · cases hfree

/-- **When a release ends the drag.** -/
theorem release_drag (accepted : Bool) (s : Seat) (button : Nat) :
    (s.release accepted button).drag = if s.EndsDrag accepted button then none else s.drag := by
  have hends : s.EndsDrag accepted button ↔ s.grab = .drag ∧ ∃ d ∈ s.drag,
      ∃ e ∈ s.buttons.find? (·.button = button), e.nPressed ≤ 1 ∧
        ((s.grabButton = e.button ∧ d.source = some true ∧ ¬(d.focusClient = true ∧ accepted = true)) ∨
          ∀ e' ∈ s.buttons, e'.button = button) := Iff.rfl
  unfold release
  cases hfind : s.buttons.find? (·.button = button) with
  -- a button that was not down
  | none =>
    rw [if_neg]
    rw [hends, hfind]
    rintro ⟨-, d, -, e, he, -⟩
    cases he
  | some e =>
    simp only [hfind, Option.mem_def, Option.some.injEq, exists_eq_left'] at hends
    dsimp only
    -- the button is down more than once, and stays down
    by_cases hmore : 1 < e.nPressed
    · rw [if_pos hmore, if_neg]
      rw [hends]
      rintro ⟨-, d, -, honce, -⟩
      exact absurd hmore (Nat.not_lt.mpr honce)
    · have hlast : ({ s with buttons := s.buttons.filter (·.button ≠ button) } : Seat).held = false ↔
          ∀ e' ∈ s.buttons, e'.button = button := by
        simp [held]
      simp only [Nat.not_lt.mp hmore, true_and, ← hlast] at hends
      rw [if_neg hmore, grabRelease_drag]
      exact if_congr hends.symm rfl rfl

/-- A release ends the seat's drag exactly if it is the last one and the drag's own. -/
theorem release_endsDrag_iff (accepted : Bool) (s : Seat) (button : Nat) :
    (s.drag.isSome && (s.release accepted button).drag.isNone) = true ↔ s.EndsDrag accepted button := by
  rw [release_drag]
  by_cases hends : s.EndsDrag accepted button
  · obtain ⟨d, hdrag, -⟩ := hends.2
    rw [if_pos hends, show s.drag = some d from hdrag]
    exact iff_of_true rfl hends
  · rw [if_neg hends]
    cases s.drag <;> simp [hends]

end Seat

/-- To end no drag changes nothing. -/
theorem InteractiveDrag.endDrags_eq_self_iff {d : InteractiveDrag} : d.endDrags = d ↔ ¬d.Running := by
  obtain ⟨moveWin, moveOffset, resizeWin, resizeEdges⟩ := d
  simp [endDrags, Running, eq_comm]

/-! ## The pending grab -/

namespace PointerSession

variable {clientOf : Nat → Nat} {v v' : PointerSession}

/-- A grab that is held is not waited for. -/
def Settled (v : PointerSession) : Prop := v.grabbed = true → v.pending = false

/-- Looking for the grab leaves none put off for a button. -/
theorem updatePointerGrab_settled (h : v.Settled) (env : PointerEnv) :
    (v.updatePointerGrab clientOf env).Settled := by
  unfold updatePointerGrab
  split
  · split
    · exact h
    · rename_i hgrabbed
      split
      · exact fun hgrabbed' => absurd hgrabbed' hgrabbed
      · split <;> exact fun _ => rfl
  · exact fun _ => rfl

/-- Neither does taking the one that was. -/
theorem takePendingGrab_settled (h : v.Settled) (env : PointerEnv) :
    (v.takePendingGrab clientOf env).Settled := by
  unfold takePendingGrab
  split
  · exact updatePointerGrab_settled h env
  · exact h

/-- A popup that is shown asks for the grab, -/
theorem positionAndMap_settled (h : v.Settled) (surface : Nat) (placed : Bool) (env : PointerEnv) :
    (v.positionAndMap clientOf surface placed env).Settled := by
  unfold positionAndMap
  split
  · exact updatePointerGrab_settled (v := v.setPopup surface _) h env
  · exact h

/-- and one that goes asks for another, -/
theorem popupUnmap_settled (h : v.Settled) (surface : Nat) (env : PointerEnv) :
    (v.popupUnmap clientOf surface env).Settled :=
  updatePointerGrab_settled
    (v := { v.setPopup surface _ with seat := (v.setPopup surface _).seat.clearFocusOn surface }) h env

/-- whether or not it was mapped. -/
theorem popupDestroy_settled (h : v.Settled) (surface : Nat) (env : PointerEnv) :
    (v.popupDestroy clientOf surface env).Settled := by
  have hunmapped : (if v.popupMapped surface then v.popupUnmap clientOf surface env else v).Settled := by
    split
    · exact popupUnmap_settled h surface env
    · exact h
  unfold popupDestroy
  exact updatePointerGrab_settled (v := setPopup { (if v.popupMapped surface then _ else v) with
    seat := _ } surface _) hunmapped env

/-- **No event leaves a grab both held and waited for.** -/
theorem Settled.step (h : v.Settled) {a : PointerAction} (hstep : v.step clientOf a = some v') :
    v'.Settled := by
  have h : v.fresh.Settled := h
  unfold PointerSession.step at hstep
  generalize v.fresh = v at h hstep
  cases a with
  | motion under =>
    cases hstep
    unfold processCursorMotion
    split <;> exact h
  | press button env =>
    cases hstep
    exact h
  | release button accepted env =>
    cases hstep
    exact takePendingGrab_settled (v := { v with seat := v.seat.release accepted button }) h env
  | corePress detail env =>
    cases hstep
    unfold corePress
    split
    · exact h
    · split <;> exact h
  | coreRelease detail accepted env =>
    cases hstep
    unfold coreRelease
    split
    · exact h
    · split
      · exact takePendingGrab_settled (v := enterUnderCursor clientOf
          { v with seat := v.seat.release accepted _ } env.under) h env
      · exact h
  | focusIn surface coords under =>
    cases hstep
    unfold focusIn
    split <;> exact h
  | focusOut under =>
    cases hstep
    exact h
  | newPopup surface | popupGrab client surface =>
    obtain ⟨-, ⟨⟩⟩ := Option.ite_none_left_eq_some.mp hstep
    exact h
  | popupMap surface placed env =>
    obtain ⟨-, ⟨⟩⟩ := Option.ite_none_right_eq_some.mp hstep
    have hplaced : ((v.setPopup surface ({ · with mapped := true })).positionAndMap clientOf surface
        placed env).Settled :=
      positionAndMap_settled (v := v.setPopup surface _) h surface placed env
    unfold popupMap
    dsimp only
    split <;> exact hplaced
  | popupCommit surface placed env =>
    obtain ⟨-, ⟨⟩⟩ := Option.ite_none_right_eq_some.mp hstep
    exact positionAndMap_settled h surface placed env
  | popupUnmap surface env =>
    obtain ⟨-, ⟨⟩⟩ := Option.ite_none_right_eq_some.mp hstep
    exact popupUnmap_settled h surface env
  | popupDestroy surface env =>
    cases hstep
    exact popupDestroy_settled h surface env
  | xpresentDestroyed surface =>
    cases hstep
    exact h
  | surfaceDestroyed surface =>
    cases hstep
    exact h
  | startDrag origin client source serial =>
    cases hstep
    exact h
  | dragSourceDestroyed =>
    obtain ⟨-, ⟨⟩⟩ := Option.ite_none_right_eq_some.mp hstep
    exact h
  | bindSeat client =>
    cases hstep
    exact h
  | unbindSeat client =>
    cases hstep
    exact h
  | move on =>
    cases hstep
    exact h

/-- In every state of a session. -/
theorem settled_of_reachable (h : Run.Reachable (step clientOf) init v) : v.Settled := by
  obtain ⟨as, hrun⟩ := h
  exact Run.run_invariant (I := Settled) (fun v a v' h hstep => h.step hstep) (fun _ => rfl) hrun

end PointerSession

namespace ButtonState

open PointerSession (coreButton)

variable {clientOf : Nat → Nat} {s : ButtonState} {detail button : Nat} {env : PointerEnv}

/-- While the grab is held, there is no grab to take. -/
theorem takePendingGrab_of_settled {v : PointerSession} (h : v.pending = false) (env : PointerEnv) :
    v.takePendingGrab clientOf env = v := by
  unfold PointerSession.takePendingGrab
  rw [if_neg (by simp [h])]

/-- A release, on either path. -/
theorem cursorRelease_eq_core (h : s.Grabbing) (hbutton : coreButton detail = some button)
    (accepted : Bool) :
    s.pointer.cursorRelease clientOf button accepted env =
      { s.pointer.coreRelease clientOf detail accepted env with moving := false } := by
  unfold PointerSession.cursorRelease PointerSession.coreRelease
  rw [hbutton]
  dsimp only
  rw [if_pos h.grabbed, takePendingGrab_of_settled, takePendingGrab_of_settled]
  · exact h.settled
  · exact h.settled

/-- With the grab held, a press is the same on both paths. -/
theorem corePress_eq_cursor (h : s.Grabbing) (hbutton : coreButton detail = some button) :
    s.pointer.corePress clientOf detail env = s.pointer.cursorPress clientOf button env := by
  unfold PointerSession.corePress
  rw [hbutton]
  exact if_pos h.grabbed

/-- Whether something is moved, a release on the core path does not change. -/
theorem coreRelease_moving (h : s.Grabbing) (hbutton : coreButton detail = some button)
    (accepted : Bool) :
    (s.pointer.coreRelease clientOf detail accepted env).moving = s.pointer.moving := by
  unfold PointerSession.coreRelease
  rw [hbutton]
  dsimp only
  rw [if_pos h.grabbed, takePendingGrab_of_settled]
  · rfl
  · exact h.settled

end ButtonState

namespace Bridge

variable {b : Bridge}

/-- A finished session is not active. -/
theorem dndOutFinish_active (owned : Bool) (b : Bridge) : (b.dndOutFinish owned).dndOut.active = false := by
  unfold dndOutFinish
  dsimp only
  split <;> rfl

/-- A release is nothing to the outbound session exactly if there is none. -/
theorem dndOutOnButtonRelease_eq_self_iff (owned : Bool) (b : Bridge) :
    b.dndOutOnButtonRelease owned = b ↔ b.dndOut.active = false := by
  unfold dndOutOnButtonRelease
  by_cases hactive : b.dndOut.active = false
  · rw [if_pos hactive]
    exact iff_of_true rfl hactive
  · rw [if_neg hactive]
    refine iff_of_false ?_ hactive
    have hfinish : b.dndOutFinish owned ≠ b := fun heq => hactive (heq ▸ b.dndOutFinish_active owned)
    cases b.dndOut.target with
    | none => exact hfinish
    | some target =>
      dsimp only
      split
      · -- the drop has been sent
        intro heq
        have hlength := congrArg (·.out.length) heq
        simp [dndSendClientMessage, send] at hlength
      · exact hfinish

/-- The end of the seat's drag ends an active session, except one that may still be dropped. -/
theorem dragDestroy_active_eq_false_iff (owned : Bool) (b : Bridge) :
    (b.dragDestroy owned).dndOut.active = false ↔
      (b.dndOut.active = true → ¬(b.dndOut.target.isSome = true ∧ b.dndOut.accepted = true)) := by
  unfold dragDestroy
  dsimp only
  split
  · rename_i hwaits
    simp only [Bool.and_eq_true] at hwaits
    simp [hwaits.1.1, hwaits.1.2, hwaits.2]
  · rename_i hends
    refine iff_of_true (dndOutFinish_active owned _) fun hactive hwaits => hends ?_
    rw [hactive, hwaits.1, hwaits.2]
    rfl

end Bridge

namespace ButtonState

open PointerSession (coreButton)

variable {clientOf : Nat → Nat} {s : ButtonState} {detail button : Nat} {env : PointerEnv}

/-- So a release ends it exactly under the same condition. -/
theorem releasedBridge_active_eq_false_iff (accepted owned : Bool) :
    (s.releasedBridge button accepted owned).dndOut.active = false ↔
      (s.bridge.dndOut.active = true → s.pointer.seat.EndsDrag accepted button ∧
        ¬(s.bridge.dndOut.target.isSome = true ∧ s.bridge.dndOut.accepted = true)) := by
  have hends := s.pointer.seat.release_endsDrag_iff accepted button
  unfold releasedBridge
  split
  · rename_i h
    rw [Bridge.dragDestroy_active_eq_false_iff]
    exact forall_congr' fun _ => (and_iff_right (hends.mp h)).symm
  · rename_i h
    rw [← Bool.not_eq_true]
    exact forall_congr' fun _ => iff_of_false id fun hboth => h (hends.mpr hboth.1)

/-- **The two paths.** Handled as a core event while the popups' grab is held, a press or release of the
left, middle or right button has the same effect as on the XI2 path if and only if it is a press, or no
interactive move or resize runs and no outbound drag is active, unless that ends with the seat's drag
and its target has not accepted it. -/
theorem samePath_iff (h : s.Grabbing) (hbutton : coreButton detail = some button) (e : ButtonEvent) :
    s.handleCorePointerDuringGrab clientOf detail env e = s.serverCursorButton clientOf button env e ↔
      s.Plain button e := by
  unfold handleCorePointerDuringGrab serverCursorButton Plain
  rw [hbutton]
  cases e with
  | press =>
    refine iff_of_true ?_ trivial
    dsimp only
    rw [corePress_eq_cursor h hbutton]
  | release accepted owned =>
    dsimp only
    rw [cursorRelease_eq_core h hbutton, ← releasedBridge_active_eq_false_iff,
      ← Bridge.dndOutOnButtonRelease_eq_self_iff owned, ButtonState.mk.injEq]
    -- a core release ends no move, so one must not be under way
    have hmoving : (s.pointer.coreRelease clientOf detail accepted env).moving = s.pointer.moving :=
      coreRelease_moving h hbutton accepted
    constructor
    · rintro ⟨-, hdrag, hbridge, -⟩
      exact ⟨InteractiveDrag.endDrags_eq_self_iff.mp hdrag.symm, hbridge.symm⟩
    · rintro ⟨hidle, hbridge⟩
      refine ⟨?_, (InteractiveDrag.endDrags_eq_self_iff.mpr hidle).symm, hbridge.symm, rfl⟩
      have hfalse := hmoving.trans (h.moving.trans (decide_eq_false hidle))
      rw [← hfalse]

/-- A menu holds the grab, and the left button, which has been pressed on it, is let go. -/
def menuClick (drag : InteractiveDrag) : ButtonState where
  pointer :=
    { seat := { Seat.init with focused := some 7, buttons := [⟨272, 1, some 7⟩], grabButton := 272 }
      popups := [⟨7, true, true⟩], grabbed := true, pending := false, moving := decide drag.Running }
  drag := drag
  bridge := .fresh 5
  frames := 0

/-- A menu is open and has the grab, -/
theorem menuClick_grabbing (drag : InteractiveDrag) : (menuClick drag).Grabbing := ⟨rfl, rfl, rfl⟩

/-- so that a click in it is the same on both paths. -/
theorem menuClick_same :
    (menuClick .idle).handleCorePointerDuringGrab id 1 ⟨some 7, true⟩ (.release false false) =
      (menuClick .idle).serverCursorButton id 272 ⟨some 7, true⟩ (.release false false) :=
  (samePath_iff (menuClick_grabbing .idle) rfl (.release false false)).mpr (by decide)

/-- A menu is open while its toplevel is moved: let go on the core path, the button does not end it. -/
theorem menuClick_moves : ¬ ∀ (clientOf : Nat → Nat) (s : ButtonState) (detail button : Nat)
    (env : PointerEnv) (e : ButtonEvent), s.Grabbing → coreButton detail = some button →
      s.handleCorePointerDuringGrab clientOf detail env e =
        s.serverCursorButton clientOf button env e := by
  intro h
  have hsame := h id (menuClick { InteractiveDrag.idle with moveWin := some 0 }) 1 272 ⟨some 7, true⟩
    (.release false false) (menuClick_grabbing _) rfl
  exact absurd (congrArg (·.drag.moveWin) hsame) (by decide)

end ButtonState

end Wlx
