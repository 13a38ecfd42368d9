import WlX11.Lib.Run
import WlX11.Seat

/-!
# WlX11 — the pointer's way to the seat

Motions and buttons reach the program as XI2 events, or as core events while a menu holds the pointer
grab; each handler looks for the surface under the root pointer and tells the seat. Popups and the
host's `FocusIn` move the pointer focus too.

* **`PointerSession`** — the seat, the popups and what the program notes about them.
* **`PointerSession.step`** — one event; the calls it made stay in `seat.calls` until the next.
-/

namespace Wlx

/-- `struct wlx_popup`. -/
structure MenuPopup where
  surface : Nat
  mapped : Bool
  /-- it has a present window -/
  xpresent : Bool
deriving DecidableEq

/-- What the X server answers while a handler runs. -/
structure PointerEnv where
  /-- the surface that `surface_under_root_pointer` finds -/
  under : Option Nat
  /-- an `XGrabPointer` succeeds -/
  grants : Bool
deriving DecidableEq

/-- `struct wlx_server`, as far as the pointer goes. -/
structure PointerSession where
  seat : Seat
  /-- `popups`, newest first -/
  popups : List MenuPopup
  /-- `popup_pointer_grabbed` -/
  grabbed : Bool
  /-- `popup_pointer_grab_pending` -/
  pending : Bool
  /-- `move_win` or `resize_win` is set -/
  moving : Bool
deriving DecidableEq

inductive PointerAction where
  /-- a motion, on either path -/
  | motion (under : Option Nat)
  /-- `server_cursor_button`; `accepted` tells whether what is dragged over has accepted the drag -/
  | press (button : Nat) (env : PointerEnv)
  | release (button : Nat) (accepted : Bool) (env : PointerEnv)
  /-- a core `ButtonPress` or `ButtonRelease` -/
  | corePress (detail : Nat) (env : PointerEnv)
  | coreRelease (detail : Nat) (accepted : Bool) (env : PointerEnv)
  /-- a `FocusIn` that is not skipped, on the toplevel with this surface; `coords` tells whether
  `pointer_coords_on_window` gives some -/
  | focusIn (surface : Nat) (coords : Bool) (under : Option Nat)
  | focusOut (under : Option Nat)
  | newPopup (surface : Nat)
  /-- `xdg_popup.grab` -/
  | popupGrab (client surface : Nat)
  /-- `placed` tells whether `popup_position_and_map` gets to its end -/
  | popupMap (surface : Nat) (placed : Bool) (env : PointerEnv)
  | popupCommit (surface : Nat) (placed : Bool) (env : PointerEnv)
  | popupUnmap (surface : Nat) (env : PointerEnv)
  | popupDestroy (surface : Nat) (env : PointerEnv)
  /-- the present window of a popup is destroyed, by the host or with its toplevel -/
  | xpresentDestroyed (surface : Nat)
  | surfaceDestroyed (surface : Nat)
  | startDrag (origin client : Nat) (source : Option Bool) (serial : Bool)
  /-- the client destroys the source of the drag -/
  | dragSourceDestroyed
  | bindSeat (client : Nat)
  | unbindSeat (client : Nat)
  /-- an interactive move or resize begins, or its toplevel goes -/
  | move (on : Bool)
deriving DecidableEq

namespace PointerSession

def init : PointerSession := ⟨Seat.init, [], false, false, false⟩

/-- The calls that have been made are forgotten. -/
def fresh (v : PointerSession) : PointerSession := { v with seat := { v.seat with calls := [] } }

/-- The surface of a popup is mapped. -/
def popupMapped (v : PointerSession) (surface : Nat) : Bool :=
  v.popups.any fun p => p.surface = surface && p.mapped

def setPopup (v : PointerSession) (surface : Nat) (f : MenuPopup → MenuPopup) : PointerSession :=
  { v with popups := v.popups.map fun p => if p.surface = surface then f p else p }

/-- The buttons that `handle_core_pointer_during_grab` knows: `BTN_LEFT`, `BTN_MIDDLE`, `BTN_RIGHT`. -/
def coreButton : Nat → Option Nat
  | 1 => some 272
  | 2 => some 274
  | 3 => some 273
  | _ => none

section Handlers

variable (clientOf : Nat → Nat)

/-- `pointer_enter_surface_under_cursor`. -/
def enterUnderCursor (v : PointerSession) (under : Option Nat) : PointerSession :=
  { v with
    seat := match under with
      | none => if v.seat.focused.isSome then v.seat.clearFocus else v.seat
      | some surface =>
        -- "Do not notify_enter while a button is held if it would change the focused surface"
        if v.seat.held ∧ v.seat.focused.isSome ∧ v.seat.focused ≠ some surface then v.seat
        else v.seat.notifyEnter clientOf surface }

/-- `process_cursor_motion`. -/
def processCursorMotion (v : PointerSession) (under : Option Nat) : PointerSession :=
  if v.moving then v
  else
    { v with
      seat :=
        if under = v.seat.focused then if under.isSome then v.seat.notifyMotion else v.seat
        else if v.seat.held then if v.seat.focused.isSome then v.seat.notifyMotion else v.seat
        else match under with
          | none => v.seat.clearFocus
          | some surface => (v.seat.notifyEnter clientOf surface).notifyMotion }

/-- `wlx_popup_update_pointer_grab`. -/
def updatePointerGrab (v : PointerSession) (env : PointerEnv) : PointerSession :=
  if v.popups.any fun p => p.xpresent && p.mapped then
    if v.grabbed then v
    else if v.seat.held then { v with pending := true }
    else if env.grants then
      { v with grabbed := true, pending := false }.enterUnderCursor clientOf env.under
    else { v with pending := false }
  else { v with grabbed := false, pending := false }

/-- The opening click is over: "acquire the menu grab now". -/
def takePendingGrab (v : PointerSession) (env : PointerEnv) : PointerSession :=
  if v.pending ∧ ¬v.seat.held then v.updatePointerGrab clientOf env else v

/-- `server_cursor_button`, for a press; the core path does the same. -/
def cursorPress (v : PointerSession) (button : Nat) (env : PointerEnv) : PointerSession :=
  let v := v.enterUnderCursor clientOf env.under
  { v with seat := v.seat.press v.popupMapped button }

/-- `server_cursor_button`, for a release. -/
def cursorRelease (v : PointerSession) (button : Nat) (accepted : Bool) (env : PointerEnv) :
    PointerSession :=
  let v := { v with seat := v.seat.release accepted button }
  let v := (v.takePendingGrab clientOf env).enterUnderCursor clientOf env.under
  { v with moving := false }

/-- `handle_core_pointer_during_grab`, for a press. Without the grab, and for other buttons, nothing
comes of a core event. -/
def corePress (v : PointerSession) (detail : Nat) (env : PointerEnv) : PointerSession :=
  match coreButton detail with
  | none => v
  | some button => if v.grabbed then v.cursorPress clientOf button env else v

/-- `handle_core_pointer_during_grab`, for a release. -/
def coreRelease (v : PointerSession) (detail : Nat) (accepted : Bool) (env : PointerEnv) :
    PointerSession :=
  match coreButton detail with
  | none => v
  | some button =>
    if v.grabbed then
      let v := { v with seat := v.seat.release accepted button }
      (v.enterUnderCursor clientOf env.under).takePendingGrab clientOf env
    else v

/-- `popup_position_and_map`. -/
def positionAndMap (v : PointerSession) (surface : Nat) (placed : Bool) (env : PointerEnv) :
    PointerSession :=
  if placed then
    (v.setPopup surface ({ · with xpresent := true })).updatePointerGrab clientOf env
  else v

/-- `popup_map`. -/
def popupMap (v : PointerSession) (surface : Nat) (placed : Bool) (env : PointerEnv) :
    PointerSession :=
  let v := (v.setPopup surface ({ · with mapped := true })).positionAndMap clientOf surface placed env
  -- "If the opening button is still held, do not enter yet"
  if v.seat.held then v else v.enterUnderCursor clientOf env.under

/-- `popup_unmap`. -/
def popupUnmap (v : PointerSession) (surface : Nat) (env : PointerEnv) : PointerSession :=
  let v := v.setPopup surface fun p => { p with mapped := false, xpresent := false }
  let v := { v with seat := v.seat.clearFocusOn surface }
  (v.updatePointerGrab clientOf env).enterUnderCursor clientOf env.under

/-- `destroy_xdg_popup`, with `popup_unmap` and `popup_destroy`. -/
def popupDestroy (v : PointerSession) (surface : Nat) (env : PointerEnv) : PointerSession :=
  let v := if v.popupMapped surface then v.popupUnmap clientOf surface env else v
  let v := { v with seat := v.seat.resetXdgPopup surface }
  let v := (v.setPopup surface ({ · with xpresent := false })).updatePointerGrab clientOf env
  { v with popups := v.popups.filter (·.surface ≠ surface) }

/-- The `FocusIn` branch of `handle_xcb_readable`. -/
def focusIn (v : PointerSession) (surface : Nat) (coords : Bool) : PointerSession :=
  if coords then { v with seat := v.seat.notifyEnter clientOf surface } else v

def handle (v : PointerSession) : PointerAction → Option PointerSession
  | .motion under => some (v.processCursorMotion clientOf under)
  | .press button env => some (v.cursorPress clientOf button env)
  | .release button accepted env => some (v.cursorRelease clientOf button accepted env)
  | .corePress detail env => some (v.corePress clientOf detail env)
  | .coreRelease detail accepted env => some (v.coreRelease clientOf detail accepted env)
  | .focusIn surface coords _ => some (v.focusIn clientOf surface coords)
  | .focusOut _ => some v
  | .newPopup surface =>
    if v.popups.any (·.surface = surface) then none
    else some { v with popups := ⟨surface, false, false⟩ :: v.popups }
  | .popupGrab client surface =>
    -- a grab of a mapped popup is a protocol error, and there is one for each popup
    if v.popupMapped surface ∨ v.seat.popupGrab.popups.contains surface then none
    else some { v with seat := v.seat.startPopupGrab client surface }
  | .popupMap surface placed env =>
    if v.popups.any fun p => p.surface = surface && !p.mapped then
      some (v.popupMap clientOf surface placed env)
    else none
  | .popupCommit surface placed env =>
    if v.popupMapped surface then some (v.positionAndMap clientOf surface placed env) else none
  | .popupUnmap surface env =>
    if v.popupMapped surface then some (v.popupUnmap clientOf surface env) else none
  | .popupDestroy surface env => some (v.popupDestroy clientOf surface env)
  | .xpresentDestroyed surface => some (v.setPopup surface ({ · with xpresent := false }))
  | .surfaceDestroyed surface => some { v with seat := v.seat.surfaceDestroyed surface }
  | .startDrag origin client source serial =>
    some { v with seat := v.seat.startDrag origin client source serial }
  | .dragSourceDestroyed =>
    if v.seat.drag.any (·.source.isSome) then some { v with seat := v.seat.endDrag } else none
  | .bindSeat client => some { v with seat := { v.seat with clients := client :: v.seat.clients } }
  | .unbindSeat client => some { v with seat := v.seat.unbind clientOf client }
  | .move on => some { v with moving := on }

def step (v : PointerSession) (a : PointerAction) : Option PointerSession := v.fresh.handle clientOf a

end Handlers

end PointerSession

/-! ## What every handler keeps -/

/-- A property of the seat that nothing the handlers do to it breaks. -/
structure Seat.Kept (clientOf : Nat → Nat) (I : Seat → Prop) : Prop where
  clearFocus : ∀ s, I s → I s.clearFocus
  notifyEnter : ∀ s x, I s → I (s.notifyEnter clientOf x)
  notifyMotion : ∀ s, I s → I s.notifyMotion
  press : ∀ mapped s button, I s → I (s.press mapped button)
  release : ∀ accepted s button, I s → I (s.release accepted button)
  startPopupGrab : ∀ s client surface, I s → I (s.startPopupGrab client surface)
  resetXdgPopup : ∀ s surface, I s → I (s.resetXdgPopup surface)
  surfaceDestroyed : ∀ s surface, I s → I (s.surfaceDestroyed surface)
  startDrag : ∀ s origin client source serial, I s → I (s.startDrag origin client source serial)
  endDrag : ∀ s, I s → I s.endDrag
  bind : ∀ s client, I s → I { s with clients := client :: s.clients }
  unbind : ∀ s client, I s → I (s.unbind clientOf client)

namespace PointerSession

variable {clientOf : Nat → Nat} {I : Seat → Prop} {v v' : PointerSession}

section Kept

variable (hI : Seat.Kept clientOf I)
include hI

theorem kept_enterUnderCursor (h : I v.seat) (under : Option Nat) :
    I (v.enterUnderCursor clientOf under).seat := by
  unfold enterUnderCursor
  dsimp only
  cases under with
  | none =>
    dsimp only
    split
    · exact hI.clearFocus _ h
    · exact h
  | some x =>
    dsimp only
    split
    · exact h
    · exact hI.notifyEnter _ x h

theorem kept_processCursorMotion (h : I v.seat) (under : Option Nat) :
    I (v.processCursorMotion clientOf under).seat := by
  unfold processCursorMotion
  split
  · exact h
  · dsimp only
    split
    · split
      · exact hI.notifyMotion _ h
      · exact h
    · split
      · split
        · exact hI.notifyMotion _ h
        · exact h
      · split
        · exact hI.clearFocus _ h
        · exact hI.notifyMotion _ (hI.notifyEnter _ _ h)

theorem kept_updatePointerGrab (h : I v.seat) (env : PointerEnv) :
    I (v.updatePointerGrab clientOf env).seat := by
  unfold updatePointerGrab
  split
  · split
    · exact h
    · split
      · exact h
      · split
        · exact kept_enterUnderCursor hI (v := { v with grabbed := true, pending := false }) h env.under
        · exact h
  · exact h

theorem kept_takePendingGrab (h : I v.seat) (env : PointerEnv) :
    I (v.takePendingGrab clientOf env).seat := by
  unfold takePendingGrab
  split
  · exact kept_updatePointerGrab hI h env
  · exact h

theorem kept_cursorPress (h : I v.seat) (button : Nat) (env : PointerEnv) :
    I (v.cursorPress clientOf button env).seat :=
  hI.press _ _ button (kept_enterUnderCursor hI h env.under)

theorem kept_positionAndMap (h : I v.seat) (surface : Nat) (placed : Bool) (env : PointerEnv) :
    I (v.positionAndMap clientOf surface placed env).seat := by
  unfold positionAndMap
  split
  · exact kept_updatePointerGrab hI (v := v.setPopup surface _) h env
  · exact h

theorem kept_popupUnmap (h : I v.seat) (surface : Nat) (env : PointerEnv) :
    I (v.popupUnmap clientOf surface env).seat := by
  have hcleared : I (v.seat.clearFocusOn surface) := by
    unfold Seat.clearFocusOn
    split
    · exact hI.clearFocus _ h
    · exact h
  unfold popupUnmap
  exact kept_enterUnderCursor hI (kept_updatePointerGrab hI hcleared env) env.under

/-- **What the seat's own functions keep, every handler keeps.** -/
theorem kept_handle (h : I v.seat) {a : PointerAction} (hstep : v.handle clientOf a = some v') :
    I v'.seat := by
  cases a with
  | motion under =>
    cases hstep
    exact kept_processCursorMotion hI h under
  | press button env =>
    cases hstep
    exact kept_cursorPress hI h button env
  | release button accepted env =>
    cases hstep
    have hreleased := hI.release accepted _ button h
    exact kept_enterUnderCursor hI (kept_takePendingGrab hI hreleased env) env.under
  | corePress detail env =>
    cases hstep
    unfold corePress
    cases coreButton detail with
    | none => exact h
    | some button =>
      dsimp only
      split
      · exact kept_cursorPress hI h button env
      · exact h
  | coreRelease detail accepted env =>
    cases hstep
    unfold coreRelease
    cases coreButton detail with
    | none => exact h
    | some button =>
      have hreleased := hI.release accepted _ button h
      dsimp only
      split
      · exact kept_takePendingGrab hI (kept_enterUnderCursor hI hreleased env.under) env
      · exact h
  | focusIn surface coords under =>
    cases hstep
    unfold focusIn
    split
    · exact hI.notifyEnter _ surface h
    · exact h
  | focusOut under =>
    cases hstep
    exact h
  | newPopup surface =>
    simp only [handle, Option.ite_none_left_eq_some, Option.some.injEq] at hstep
    obtain ⟨-, rfl⟩ := hstep
    exact h
  | popupGrab client surface =>
    simp only [handle, Option.ite_none_left_eq_some, Option.some.injEq] at hstep
    obtain ⟨-, rfl⟩ := hstep
    exact hI.startPopupGrab _ client surface h
  | popupMap surface placed env =>
    simp only [handle, Option.ite_none_right_eq_some, Option.some.injEq] at hstep
    obtain ⟨-, rfl⟩ := hstep
    have hplaced := kept_positionAndMap hI (v := v.setPopup surface ({ · with mapped := true })) h
      surface placed env
    unfold popupMap
    dsimp only
    split
    · exact hplaced
    · exact kept_enterUnderCursor hI hplaced env.under
  | popupCommit surface placed env =>
    simp only [handle, Option.ite_none_right_eq_some, Option.some.injEq] at hstep
    obtain ⟨-, rfl⟩ := hstep
    exact kept_positionAndMap hI h surface placed env
  | popupUnmap surface env =>
    simp only [handle, Option.ite_none_right_eq_some, Option.some.injEq] at hstep
    obtain ⟨-, rfl⟩ := hstep
    exact kept_popupUnmap hI h surface env
  | popupDestroy surface env =>
    cases hstep
    unfold popupDestroy
    dsimp only
    refine kept_updatePointerGrab hI (hI.resetXdgPopup _ surface ?_) env
    split
    · exact kept_popupUnmap hI h surface env
    · exact h
  | xpresentDestroyed surface =>
    cases hstep
    exact h
  | surfaceDestroyed surface =>
    cases hstep
    exact hI.surfaceDestroyed _ surface h
  | startDrag origin client source serial =>
    cases hstep
    exact hI.startDrag _ origin client source serial h
  | dragSourceDestroyed =>
    simp only [handle, Option.ite_none_right_eq_some, Option.some.injEq] at hstep
    obtain ⟨-, rfl⟩ := hstep
    exact hI.endDrag _ h
  | bindSeat client =>
    cases hstep
    exact hI.bind _ client h
  | unbindSeat client =>
    cases hstep
    exact hI.unbind _ client h
  | move on =>
    cases hstep
    exact h

end Kept

end PointerSession

end Wlx
