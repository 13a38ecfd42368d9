import Mathlib.Data.Finset.Basic
import WlX11.Lib.Run
import WlX11.Lib.SmallSet

/-!
# WlX11 — the keyboard

The X server tells of the keys that are pressed in any window of the program. `wlr_keyboard` keeps which are
down and what the modifiers are; the seat tells the client whose surface has the focus, through each
`wl_keyboard` it has made. A popup grab leaves the focus where it is, a drag keeps the keyboard to itself.

* **`KeyboardSeat`** — the keyboard, the seat, and what every `wl_keyboard` has received.
* **`KeyboardSeat.keyEvent`** — `handle_x11_xinput_event`; **`enter`**, **`sendKey`**, **`createKeyboard`** — the
  seat, as in `wlr_seat_keyboard.c`.
* **`KeyboardView`** — what a client makes of what it receives.
* **`KeyboardSeat.step`** — keys, focus changes, grabs and clients in any order.

There is one keyboard. Left out: serials and times, the keymap and the repeat rate, LEDs.
-/

namespace Wlx

/-- `struct wlr_keyboard_modifiers`. -/
structure Modifiers where
  depressed : UInt32
  latched : UInt32
  locked : UInt32
  group : UInt32
deriving DecidableEq

/-- `struct xkb_state`, of libxkbcommon. -/
structure Xkb (S : Type) where
  /-- `xkb_state_update_mask` -/
  updateMask : S → Modifiers → S
  /-- `xkb_state_update_key` -/
  updateKey : S → UInt32 → Bool → S
  /-- `xkb_state_serialize_mods`, `xkb_state_serialize_layout` -/
  serialize : S → Modifiers

/-- `WLR_KEYBOARD_KEYS_CAP`. -/
def keysCap : Nat := 32

/-- `struct wlr_keyboard`. -/
structure WlrKeyboard (S : Type) where
  keycodes : List UInt32
  /-- there is none without a keymap -/
  xkbState : Option S
  modifiers : Modifiers

/-- `keyboard_key_update`. -/
def WlrKeyboard.keyUpdate {S : Type} (kb : WlrKeyboard S) (keycode : UInt32) (pressed : Bool) :
    WlrKeyboard S :=
  { kb with
    keycodes := if pressed then SmallSet.add keysCap kb.keycodes keycode
      else SmallSet.remove kb.keycodes keycode }

/-- What a `wl_keyboard` sends. -/
inductive KeyboardEvent where
  | enter (surface : Nat) (keys : List UInt32)
  | leave (surface : Nat)
  | key (keycode : UInt32) (pressed : Bool)
  | modifiers (modifiers : Modifiers)
deriving DecidableEq

/-- A `wl_keyboard`. -/
structure SeatKeyboard where
  id : Nat
  received : List KeyboardEvent

/-- `struct wlr_seat_client`. -/
structure SeatClient where
  client : Nat
  /-- how many `wl_seat`s it has bound -/
  resources : Nat
  keyboards : List SeatKeyboard

inductive KeyboardGrab where
  | default
  /-- `xdg_keyboard_grab_impl` -/
  | popup
  /-- `data_device_keyboard_drag_interface` -/
  | drag
deriving DecidableEq

structure KeyboardSeat (S : Type) where
  keyboard : WlrKeyboard S
  clients : List SeatClient
  focusedClient : Option Nat
  focusedSurface : Option Nat
  grab : KeyboardGrab
  /-- `focused_window`: its surface -/
  focusedWindow : Option Nat

namespace KeyboardSeat

variable {S : Type} (xkb : Xkb S) (owner : Nat → Nat) (s : KeyboardSeat S)

/-! ## What is sent -/

/-- An event for the `wl_keyboard`s of a client that `p` picks. -/
def sendWhere (c : Nat) (p : Nat → Bool) (event : KeyboardEvent) : KeyboardSeat S :=
  { s with
    clients := s.clients.map fun k =>
      if k.client = c then
        { k with
          keyboards := k.keyboards.map fun r =>
            if p r.id then { r with received := r.received ++ [event] } else r }
      else k }

def send (c : Nat) (event : KeyboardEvent) : KeyboardSeat S := s.sendWhere c (fun _ => true) event

/-- `wlr_seat_keyboard_send_key`. -/
def sendKey (keycode : UInt32) (pressed : Bool) : KeyboardSeat S :=
  match s.focusedClient with
  | none => s
  | some c => s.send c (.key keycode pressed)

/-- `wlr_seat_keyboard_send_modifiers`. -/
def sendModifiers (modifiers : Option Modifiers) : KeyboardSeat S :=
  match s.focusedClient with
  | none => s
  | some c => s.send c (.modifiers (modifiers.getD ⟨0, 0, 0, 0⟩))

/-- `wlr_seat_client_for_wl_client`. -/
def clientFor (c : Nat) : Option Nat := (s.clients.find? fun k => k.client = c).map (·.client)

/-- "leave the previously entered surface". -/
def leave : KeyboardSeat S :=
  match s.focusedClient, s.focusedSurface with
  | some c, some surface => s.send c (.leave surface)
  | _, _ => s

/-- `wlr_seat_keyboard_enter`. -/
def enter (surface : Option Nat) (keycodes : List UInt32) (modifiers : Option Modifiers) :
    KeyboardSeat S :=
  if s.focusedSurface = surface then s
  else
    let client := surface.bind fun f => s.clientFor (owner f)
    let s := s.leave
    let s := match client, surface with
      | some c, some f => s.send c (.enter f keycodes)
      | _, _ => s
    let s := { s with focusedClient := client, focusedSurface := surface }
    if client.isSome then s.sendModifiers modifiers else s

/-- `wlr_seat_keyboard_clear_focus`. -/
def clearFocus : KeyboardSeat S := s.enter owner none [] none

/-! ## Grabs -/

/-- `wlr_seat_keyboard_notify_enter`. "keyboard focus should remain on the popup", and "nothing has keyboard
focus during drags". -/
def notifyEnter (surface : Nat) : KeyboardSeat S :=
  match s.grab with
  | .default => s.enter owner (some surface) s.keyboard.keycodes (some s.keyboard.modifiers)
  | .popup | .drag => s

/-- `wlr_seat_keyboard_notify_clear_focus`. -/
def notifyClearFocus : KeyboardSeat S :=
  match s.grab with
  | .default => s.clearFocus owner
  | .popup | .drag => s

/-- The program's `keyboard_key`: "no keyboard input during drags". -/
def keyboardKey (keycode : UInt32) (pressed : Bool) : KeyboardSeat S :=
  match s.grab with
  | .default | .popup => s.sendKey keycode pressed
  | .drag => s

/-- The program's `keyboard_modifiers`. -/
def keyboardModifiers : KeyboardSeat S :=
  match s.grab with
  | .default | .popup => s.sendModifiers (some s.keyboard.modifiers)
  | .drag => s

/-! ## Keys -/

/-- `keyboard_modifier_update`, and the signal if it changes anything. -/
def modifierUpdate : KeyboardSeat S :=
  match s.keyboard.xkbState with
  | none => s
  | some st =>
    let modifiers := xkb.serialize st
    if modifiers = s.keyboard.modifiers then s
    else { s with keyboard := { s.keyboard with modifiers := modifiers } }.keyboardModifiers

/-- `wlr_keyboard_notify_modifiers`. -/
def notifyModifiers (modifiers : Modifiers) : KeyboardSeat S :=
  match s.keyboard.xkbState with
  | none =>
    if modifiers = s.keyboard.modifiers then s
    else { s with keyboard := { s.keyboard with modifiers := modifiers } }.keyboardModifiers
  | some st =>
    { s with keyboard := { s.keyboard with
      xkbState := some (xkb.updateMask st modifiers) } }.modifierUpdate xkb

/-- `wlr_keyboard_notify_key`. -/
def notifyKey (keycode : UInt32) (pressed : Bool) : KeyboardSeat S :=
  let s := { s with keyboard := s.keyboard.keyUpdate keycode pressed }.keyboardKey keycode pressed
  match s.keyboard.xkbState with
  | none => s
  | some st =>
    { s with keyboard := { s.keyboard with
      xkbState := some (xkb.updateKey st (keycode + 8) pressed) } }.modifierUpdate xkb

/-- `handle_x11_xinput_event`, for `XCB_INPUT_KEY_PRESS` and `XCB_INPUT_KEY_RELEASE`. -/
def keyEvent (pressed isRepeat : Bool) (detail : UInt32) (modifiers : Modifiers) : KeyboardSeat S :=
  if pressed && isRepeat then s
  else (s.notifyModifiers xkb modifiers).notifyKey xkb (detail - 8) pressed

/-! ## Clients -/

/-- `seat_handle_bind`, and `seat_client_create` for a client that is new to the seat. -/
def bindSeat (c : Nat) : KeyboardSeat S :=
  match s.clientFor c with
  | some _ =>
    { s with
      clients := s.clients.map fun k => if k.client = c then { k with resources := k.resources + 1 } else k }
  | none =>
    { s with
      clients := ⟨c, 1, []⟩ :: s.clients
      focusedClient := match s.focusedSurface with
        | some f => if owner f = c then some c else s.focusedClient
        | none => s.focusedClient }

/-- `seat_client_handle_resource_destroy`, and `seat_client_destroy` after the last: the `wl_keyboard`s
receive nothing any more. -/
def releaseSeat (c : Nat) : KeyboardSeat S :=
  if s.clients.any (fun k => k.client = c && k.resources = 1) then
    { s with
      clients := s.clients.filter fun k => k.client ≠ c
      focusedClient := if s.focusedClient = some c then none else s.focusedClient }
  else
    { s with
      clients := s.clients.map fun k => if k.client = c then { k with resources := k.resources - 1 } else k }

/-- `seat_client_create_keyboard`. "Send an enter event if there is a focused client/surface stored". -/
def createKeyboard (c id : Nat) : KeyboardSeat S :=
  let s : KeyboardSeat S := { s with
    clients := s.clients.map fun k =>
      if k.client = c then { k with keyboards := ⟨id, []⟩ :: k.keyboards } else k }
  match s.focusedClient, s.focusedSurface with
  | some fc, some f =>
    if fc = c then
      (s.sendWhere c (fun i => i = id) (.enter f s.keyboard.keycodes)).sendModifiers
        (some s.keyboard.modifiers)
    else s
  | _, _ => s

/-- `keyboard_handle_resource_destroy`. -/
def destroyKeyboard (c id : Nat) : KeyboardSeat S :=
  { s with
    clients := s.clients.map fun k =>
      if k.client = c then { k with keyboards := k.keyboards.filter fun r => r.id ≠ id } else k }

/-- `seat_keyboard_handle_surface_destroy`. -/
def surfaceDestroyed (surface : Nat) : KeyboardSeat S :=
  if s.focusedSurface = some surface then s.clearFocus owner else s

/-- `set_active_window`. -/
def setActiveWindow (win : Option Nat) : KeyboardSeat S :=
  if s.focusedWindow = win then s
  else
    let s := { s with focusedWindow := win }
    match win with
    | some surface => s.notifyEnter owner surface
    | none => s.notifyClearFocus owner

/-! ## Sessions -/

inductive KeyboardAction where
  | key (pressed isRepeat : Bool) (detail : UInt32) (modifiers : Modifiers)
  | setActiveWindow (win : Option Nat)
  /-- `output_destroy` of the active window -/
  | dropActiveWindow
  | surfaceDestroyed (surface : Nat)
  | bindSeat (c : Nat)
  | releaseSeat (c : Nat)
  | createKeyboard (c id : Nat)
  | destroyKeyboard (c id : Nat)
  /-- `wlr_seat_keyboard_start_grab` -/
  | startGrab (grab : KeyboardGrab)
  /-- `wlr_seat_keyboard_end_grab` -/
  | endGrab

/-- A client's new object has an id of its own. -/
def step (s : KeyboardSeat S) : KeyboardAction → Option (KeyboardSeat S)
  | .key pressed isRepeat detail modifiers => some (s.keyEvent xkb pressed isRepeat detail modifiers)
  | .setActiveWindow win => some (s.setActiveWindow owner win)
  | .dropActiveWindow => some { s with focusedWindow := none }
  | .surfaceDestroyed surface => some (s.surfaceDestroyed owner surface)
  | .bindSeat c => some (s.bindSeat owner c)
  | .releaseSeat c => if s.clients.any (·.client = c) then some (s.releaseSeat c) else none
  | .createKeyboard c id =>
    if s.clients.any (·.client = c) ∧
        ∀ k ∈ s.clients, k.client = c → ∀ r ∈ k.keyboards, r.id ≠ id then
      some (s.createKeyboard c id)
    else none
  | .destroyKeyboard c id => some (s.destroyKeyboard c id)
  | .startGrab grab => some { s with grab := grab }
  | .endGrab => some { s with grab := .default }

/-- `server_new_input`: the keymap, if there is one, gives the first modifiers. -/
def init (xkbState : Option S) : KeyboardSeat S where
  keyboard := ⟨[], xkbState, (xkbState.map xkb.serialize).getD ⟨0, 0, 0, 0⟩⟩
  clients := []
  focusedClient := none
  focusedSurface := none
  grab := .default
  focusedWindow := none

end KeyboardSeat

/-! ## What a client makes of it -/

/-- What a `wl_keyboard` has told its client. -/
structure KeyboardView where
  /-- the surface it has entered -/
  inside : Option Nat
  keys : Finset UInt32
  modifiers : Option Modifiers
deriving DecidableEq

namespace KeyboardView

def outside : KeyboardView := ⟨none, ∅, none⟩

/-- The grammar of `wl_keyboard`: what makes no sense where it comes is none. -/
def hear (v : KeyboardView) : KeyboardEvent → Option KeyboardView
  | .enter surface keys => if v.inside = none then some ⟨some surface, keys.toFinset, none⟩ else none
  | .leave surface => if v.inside = some surface then some outside else none
  | .key keycode pressed =>
    if v.inside.isSome then
      some { v with keys := if pressed then insert keycode v.keys else v.keys.erase keycode }
    else none
  | .modifiers modifiers =>
    if v.inside.isSome then some { v with modifiers := some modifiers } else none

end KeyboardView

/-- What the client knows by a `wl_keyboard`. -/
def SeatKeyboard.view (r : SeatKeyboard) : Option KeyboardView := Run.run KeyboardView.hear .outside r.received

end Wlx
