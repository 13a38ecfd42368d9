import Mathlib.Data.Nat.Basic
import Mathlib.Data.List.Basic

/-!
# WlX11 — the seat's pointer

The pointer of wlroots' seat: the surface that has the focus, the buttons that are held, and the grab
that all notifications go through. A grab is the seat's own, that of an `xdg_popup` or that of a
`wl_data_device` drag. What a caller notifies the seat of is noted in `calls`.

* **`Seat.notifyEnter`**, **`Seat.notifyMotion`**, **`Seat.press`**, **`Seat.release`** — the
  `wlr_seat_pointer_notify_*` functions.
* **`Seat.startDrag`**, **`Seat.startPopupGrab`** — where the other two grabs begin.
-/

namespace Wlx

/-- `struct wlr_seat_pointer_button`. -/
structure SeatButton where
  button : Nat
  nPressed : Nat
  /-- the focused surface when it was pressed -/
  pressedOn : Option Nat
deriving DecidableEq

inductive PointerGrab where
  | default | popup | drag
deriving DecidableEq

/-- `struct wlr_xdg_popup_grab`; one that does not exist has no popups. -/
structure PopupGrab where
  client : Nat
  /-- the surfaces of the popups, newest first -/
  popups : List Nat
deriving DecidableEq

/-- `struct wlr_drag`. -/
structure WlrDrag where
  /-- `seat_client`, until that is destroyed -/
  client : Option Nat
  /-- `source`, and whether it has a `dnd_finish` -/
  source : Option Bool
  focus : Option Nat
  /-- the focus has a `focus_client` -/
  focusClient : Bool
deriving DecidableEq

/-- What the seat is notified of, or does to its buttons. -/
inductive SeatCall where
  /-- `wlr_seat_pointer_notify_enter`, with what had the focus, and whether a button was held and a
  drag going on -/
  | notifyEnter (surface : Nat) (focused : Option Nat) (held dragging : Bool)
  /-- `reset_buttons` -/
  | resetButtons (held dragging : Bool)
  /-- a release is sent; the button was pressed on `pressedOn` -/
  | sendRelease (surface pressedOn : Option Nat)
  /-- the grab of a drag gets a motion, while the drag has this focus -/
  | dragMotion (focus : Option Nat)
deriving DecidableEq

structure Seat where
  /-- `focused_surface` -/
  focused : Option Nat
  buttons : List SeatButton
  grabButton : Nat
  grab : PointerGrab
  popupGrab : PopupGrab
  drag : Option WlrDrag
  /-- clients that have bound the seat -/
  clients : List Nat
  calls : List SeatCall
deriving DecidableEq

namespace Seat

def init : Seat := ⟨none, [], 0, .default, ⟨0, []⟩, none, [], []⟩

/-- `button_count > 0`. -/
def held (s : Seat) : Bool := !s.buttons.isEmpty

def dragging (s : Seat) : Bool := s.drag.isSome

def note (s : Seat) (c : SeatCall) : Seat := { s with calls := s.calls ++ [c] }

/-- `wlr_seat_pointer_enter`. -/
def enter (s : Seat) (surface : Option Nat) : Seat := { s with focused := surface }

/-- `wlr_seat_pointer_clear_focus`. -/
def clearFocus (s : Seat) : Seat := s.enter none

/-- `wlr_seat_pointer_clear_focus`, if this surface has the focus. -/
def clearFocusOn (s : Seat) (surface : Nat) : Seat :=
  if s.focused = some surface then s.clearFocus else s

section Clients

variable (clientOf : Nat → Nat)

/-- The focus that `drag_set_focus` gives a drag. -/
def dragTarget (s : Seat) (d : WlrDrag) (surface : Option Nat) : Option Nat :=
  surface.filter fun x =>
    (d.source.isSome || d.client.all (clientOf x = ·)) && s.clients.contains (clientOf x)

/-- `drag_set_focus`. -/
def dragSetFocus (s : Seat) (surface : Option Nat) : Seat :=
  { s with
    drag := s.drag.map fun d =>
      if d.focus = surface then d
      else
        { d with
          focus := s.dragTarget clientOf d surface
          focusClient := (s.dragTarget clientOf d surface).isSome } }

/-- The `enter` of the grab. -/
def grabEnter (s : Seat) (surface : Nat) : Seat :=
  match s.grab with
  | .default => s.enter (some surface)
  | .popup => if clientOf surface = s.popupGrab.client then s.enter (some surface) else s.clearFocus
  | .drag => s.dragSetFocus clientOf (some surface)

/-- `wlr_seat_pointer_notify_enter`. -/
def notifyEnter (s : Seat) (surface : Nat) : Seat :=
  let s' := (s.note (.notifyEnter surface s.focused s.held s.dragging)).grabEnter clientOf surface
  if s'.focused ≠ s.focused then
    { s'.note (.resetButtons s.held s.dragging) with buttons := [] }
  else s'

end Clients

/-- `wlr_seat_pointer_notify_motion`; the other grabs send the motion to the focused surface. -/
def notifyMotion (s : Seat) : Seat :=
  match s.grab, s.drag with
  | .drag, some d => s.note (.dragMotion d.focus)
  | _, _ => s

/-- `drag_destroy`. -/
def endDrag (s : Seat) : Seat := { s with grab := .default, drag := none }

/-- The `button` of the grab, for a press. `mapped` tells which popups are. -/
def grabPress (mapped : Nat → Bool) (s : Seat) (button : Nat) : Seat :=
  match s.grab with
  | .default => s
  | .popup =>
    -- "ignore until every grabbed popup is mapped"
    if s.popupGrab.popups.any (!mapped ·) then s
    -- a duplicate press of the opening button
    else if button = s.grabButton ∧ s.buttons.any (fun e => e.button = button && 1 < e.nPressed) then s
    else if s.focused.any s.popupGrab.popups.contains then s
    -- "Click outside the popup tree: dismiss."
    else { s with grab := .default }
  | .drag => s

/-- `wlr_seat_pointer_notify_button`, for a press. -/
def press (mapped : Nat → Bool) (s : Seat) (button : Nat) : Seat :=
  let s := if s.buttons.isEmpty then { s with grabButton := button } else s
  if s.buttons.any (·.button = button) then
    { s with
      buttons := s.buttons.map fun e =>
        if e.button = button then { e with nPressed := e.nPressed + 1 } else e }
  -- `WLR_POINTER_BUTTONS_CAP`
  else if s.buttons.length = 16 then s
  else grabPress mapped { s with buttons := s.buttons ++ [⟨button, 1, s.focused⟩] } button

/-- The `button` of the grab, for a release. `accepted` tells whether the drag's target has accepted
the source and an action. -/
def grabRelease (accepted : Bool) (s : Seat) (e : SeatButton) : Seat :=
  match s.grab, s.drag with
  | .default, _ => s.note (.sendRelease s.focused e.pressedOn)
  | .popup, _ =>
    -- "Swallow button release when focus is not on a grabbed popup surface."
    if s.focused.any s.popupGrab.popups.contains then s.note (.sendRelease s.focused e.pressedOn) else s
  | .drag, none => s
  | .drag, some d =>
    if s.grabButton = e.button ∧ d.source = some true ∧ ¬(d.focusClient = true ∧ accepted = true) then
      s.endDrag
    else if s.held then s
    else s.endDrag

/-- `wlr_seat_pointer_notify_button`, for a release. -/
def release (accepted : Bool) (s : Seat) (button : Nat) : Seat :=
  match s.buttons.find? (·.button = button) with
  | none => s
  | some e =>
    if 1 < e.nPressed then
      { s with
        buttons := s.buttons.map fun e =>
          if e.button = button then { e with nPressed := e.nPressed - 1 } else e }
    else grabRelease accepted { s with buttons := s.buttons.filter (·.button ≠ button) } e

/-- `server_request_start_drag`, and `wlr_seat_start_pointer_drag` if the serial is right. -/
def startDrag (s : Seat) (origin client : Nat) (source : Option Bool) (serial : Bool) : Seat :=
  if s.drag = none ∧ s.buttons.length = 1 ∧ serial = true ∧ s.focused = some origin then
    { s.clearFocus with grab := .drag, drag := some ⟨some client, source, none, false⟩ }
  else s

/-- `xdg_popup_handle_grab`. -/
def startPopupGrab (s : Seat) (client surface : Nat) : Seat :=
  { s with grab := .popup, popupGrab := ⟨client, surface :: s.popupGrab.popups⟩ }

/-- `reset_xdg_popup`: the last popup of the grab takes it along. -/
def resetXdgPopup (s : Seat) (surface : Nat) : Seat :=
  if s.popupGrab.popups.contains surface then
    let popups := s.popupGrab.popups.filter (· ≠ surface)
    { s with
      popupGrab := { s.popupGrab with popups := popups }
      grab := if popups.isEmpty && s.grab = .popup then .default else s.grab }
  else s

/-- A surface is destroyed: `seat_pointer_handle_surface_destroy`, `drag_handle_focus_destroy`. -/
def surfaceDestroyed (s : Seat) (surface : Nat) : Seat :=
  { s with
    focused := if s.focused = some surface then none else s.focused
    drag := s.drag.map fun d =>
      if d.focus = some surface then { d with focus := none, focusClient := false } else d }

/-- `seat_client_destroy`. -/
def unbind (clientOf : Nat → Nat) (s : Seat) (client : Nat) : Seat :=
  { s with
    clients := s.clients.filter (· ≠ client)
    drag := s.drag.map fun d =>
      { d with
        client := if d.client = some client then none else d.client
        focusClient := d.focusClient && !(d.focus.any (clientOf · = client)) } }

/-! ## What an enter leaves as it is -/

section Enter

variable {clientOf : Nat → Nat}

theorem grabEnter_frame (clientOf : Nat → Nat) (s : Seat) (x : Nat) :
    (s.grabEnter clientOf x).calls = s.calls ∧ (s.grabEnter clientOf x).buttons = s.buttons ∧
      (s.grabEnter clientOf x).grab = s.grab ∧
        (s.grabEnter clientOf x).drag.isSome = s.drag.isSome := by
  unfold grabEnter
  cases hgrab : s.grab with
  | default => exact ⟨rfl, rfl, hgrab, rfl⟩
  | popup =>
    dsimp only
    split <;> exact ⟨rfl, rfl, hgrab, rfl⟩
  | drag => exact ⟨rfl, rfl, hgrab, by simp [dragSetFocus]⟩

@[simp] theorem grabEnter_calls (s : Seat) (x : Nat) : (s.grabEnter clientOf x).calls = s.calls :=
  (grabEnter_frame clientOf s x).1

@[simp] theorem grabEnter_buttons (s : Seat) (x : Nat) :
    (s.grabEnter clientOf x).buttons = s.buttons :=
  (grabEnter_frame clientOf s x).2.1

/-- The focus is moved by the grabs, but not by that of a drag. -/
theorem grabEnter_focused (s : Seat) (x : Nat) :
    (s.grabEnter clientOf x).focused =
      match s.grab with
      | .default => some x
      | .popup => if clientOf x = s.popupGrab.client then some x else none
      | .drag => s.focused := by
  unfold grabEnter
  cases s.grab with
  | default => rfl
  | popup =>
    dsimp only
    split <;> rfl
  | drag => rfl

theorem grabEnter_focused_note (clientOf : Nat → Nat) (s : Seat) (c : SeatCall) (x : Nat) :
    ((s.note c).grabEnter clientOf x).focused = (s.grabEnter clientOf x).focused := by
  rw [grabEnter_focused, grabEnter_focused]
  rfl

theorem notifyEnter_calls (s : Seat) (x : Nat) :
    (s.notifyEnter clientOf x).calls =
      s.calls ++ .notifyEnter x s.focused s.held s.dragging ::
        if (s.grabEnter clientOf x).focused = s.focused then []
        else [.resetButtons s.held s.dragging] := by
  have hfocused := grabEnter_focused_note clientOf s (.notifyEnter x s.focused s.held s.dragging) x
  unfold notifyEnter
  dsimp only
  rw [hfocused]
  by_cases hsame : (s.grabEnter clientOf x).focused = s.focused
  · rw [if_neg (not_not.mpr hsame), if_pos hsame]
    simp [note]
  · rw [if_pos hsame, if_neg hsame]
    simp [note]

theorem notifyEnter_focused (s : Seat) (x : Nat) :
    (s.notifyEnter clientOf x).focused =
      match s.grab with
      | .default => some x
      | .popup => if clientOf x = s.popupGrab.client then some x else none
      | .drag => s.focused := by
  rw [← grabEnter_focused, ← grabEnter_focused_note clientOf s (.notifyEnter x s.focused s.held s.dragging)]
  unfold notifyEnter
  dsimp only
  split <;> rfl

/-- The buttons are kept exactly if the focus is. -/
theorem notifyEnter_buttons (s : Seat) (x : Nat) :
    (s.notifyEnter clientOf x).buttons =
      if (s.notifyEnter clientOf x).focused = s.focused then s.buttons else [] := by
  unfold notifyEnter
  dsimp only
  split
  · rename_i hne
    exact (if_neg hne).symm
  · rename_i hsame
    rw [ne_eq, not_not] at hsame
    rw [if_pos hsame, grabEnter_buttons]
    rfl

theorem notifyEnter_frame (clientOf : Nat → Nat) (s : Seat) (x : Nat) :
    (s.notifyEnter clientOf x).grab = s.grab ∧
      (s.notifyEnter clientOf x).drag.isSome = s.drag.isSome := by
  obtain ⟨-, -, hgrab, hdrag⟩ :=
    grabEnter_frame clientOf (s.note (.notifyEnter x s.focused s.held s.dragging)) x
  unfold notifyEnter
  dsimp only
  split <;> exact ⟨hgrab, hdrag⟩

end Enter

/-! ## What a press does -/

/-- No grab moves the focus when a button is pressed, and only a popup's grab can end then. -/
theorem grabPress_spec (mapped : Nat → Bool) (s : Seat) (button : Nat) :
    (s.grabPress mapped button).calls = s.calls ∧ (s.grabPress mapped button).focused = s.focused ∧
      (s.grabPress mapped button).buttons = s.buttons ∧ (s.grabPress mapped button).drag = s.drag ∧
        ((s.grabPress mapped button).grab = .drag → s.grab = .drag) := by
  unfold grabPress
  -- one case per grab
  cases hgrab : s.grab with
  | default =>
    refine ⟨rfl, rfl, rfl, rfl, fun h => ?_⟩
    rw [hgrab] at h
    exact h
  | popup =>
    have hpopup : ∀ t : Seat, t = s ∨ t = { s with grab := .default } →
        t.calls = s.calls ∧ t.focused = s.focused ∧ t.buttons = s.buttons ∧ t.drag = s.drag ∧
          (t.grab = .drag → PointerGrab.popup = .drag) := by
      rintro t (rfl | rfl)
      · exact ⟨rfl, rfl, rfl, rfl, fun h => hgrab ▸ h⟩
      · exact ⟨rfl, rfl, rfl, rfl, nofun⟩
    apply hpopup
    dsimp only
    repeat' split
    · exact Or.inl rfl
    · exact Or.inl rfl
    · exact Or.inl rfl
    · exact Or.inr rfl
  | drag => exact ⟨rfl, rfl, rfl, rfl, fun _ => rfl⟩

/-- A press is noted on the focused surface. -/
theorem press_spec (mapped : Nat → Bool) (s : Seat) (button : Nat) :
    (s.press mapped button).calls = s.calls ∧ (s.press mapped button).focused = s.focused ∧
      (s.press mapped button).drag = s.drag ∧
        ((s.press mapped button).grab = .drag → s.grab = .drag) ∧
      ∀ e ∈ (s.press mapped button).buttons,
        e.pressedOn = s.focused ∨ ∃ e₀ ∈ s.buttons, e.pressedOn = e₀.pressedOn := by
  -- the first button is noted for the grab, which changes nothing else
  have hfirst : ∀ t : Seat, (if s.buttons.isEmpty then { s with grabButton := button } else s) = t →
      t.calls = s.calls ∧ t.focused = s.focused ∧ t.drag = s.drag ∧ t.grab = s.grab ∧
        t.buttons = s.buttons := by
    rintro t rfl
    split <;> exact ⟨rfl, rfl, rfl, rfl, rfl⟩
  unfold press
  dsimp only
  generalize ht : (if s.buttons.isEmpty then { s with grabButton := button } else s) = t
  obtain ⟨hcalls, hfocused, hdrag, hgrab, hbuttons⟩ := hfirst t ht
  split
  · refine ⟨hcalls, hfocused, hdrag, fun h => hgrab ▸ h, ?_⟩
    intro e he
    obtain ⟨e₀, he₀, rfl⟩ := List.mem_map.mp he
    refine Or.inr ⟨e₀, by rw [← hbuttons]; exact he₀, ?_⟩
    split <;> rfl
  · split
    · refine ⟨hcalls, hfocused, hdrag, fun h => hgrab ▸ h, ?_⟩
      intro e he
      rw [hbuttons] at he
      exact Or.inr ⟨e, he, rfl⟩
    · obtain ⟨hcalls', hfocused', hbuttons', hdrag', hgrab'⟩ := grabPress_spec mapped
        { t with buttons := t.buttons ++ [⟨button, 1, t.focused⟩] } button
      refine ⟨hcalls'.trans hcalls, hfocused'.trans hfocused, hdrag'.trans hdrag,
        fun h => hgrab ▸ hgrab' h, ?_⟩
      intro e he
      rw [hbuttons', List.mem_append, List.mem_singleton] at he
      rcases he with he | rfl
      · rw [hbuttons] at he
        exact Or.inr ⟨e, he, rfl⟩
      · exact Or.inl hfocused

theorem held_press (mapped : Nat → Bool) (s : Seat) (button : Nat) :
    (s.press mapped button).held = true := by
  unfold press
  -- the button is one of the array, finds it full, or is added
  dsimp only
  generalize (if s.buttons.isEmpty then { s with grabButton := button } else s) = t
  split
  · rename_i hany
    obtain ⟨e, he, -⟩ := List.any_eq_true.mp hany
    simp [held, List.ne_nil_of_mem he]
  · split
    · rename_i hfull
      cases hbuttons : t.buttons with
      | nil =>
        rw [hbuttons] at hfull
        cases hfull
      | cons e es => simp [held, hbuttons]
    · rw [held, (grabPress_spec _ _ _).2.2.1]
      simp

end Seat

end Wlx
