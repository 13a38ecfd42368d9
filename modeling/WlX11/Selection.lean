import Mathlib.Data.List.Basic
import Mathlib.Logic.Function.Basic

/-!
# WlX11 — the selection bridge: its state and its X requests

What `clipboard.c` and `dnd.c` keep in `struct wlx_server`, and the requests they write to their own
X connection. Both files only run once that connection is up and the helper window
`clipboard_window` exists, so `server->xcb` is not modelled.

The connection is a buffer, `Bridge.out`: a handler appends the requests it sends, and whoever runs
the handler hands them to the X server. Replies are arguments of the handlers.

Left out: the reader's capacity (whether the buffer can take a chunk is an outcome of the read), the
time stamps (every request says `XCB_CURRENT_TIME`) and the log.
-/

namespace Wlx

/-- `xcb_window_t`; `XCB_WINDOW_NONE` is a `none`. -/
abbrev XWindow := Nat

/-- The bytes of a text, without the terminating zero. -/
abbrev Text := List UInt8

/-- `WLX_CLIPBOARD_MAX`. -/
def wlxClipboardMax : Nat := 1024 * 1024

/-- The atoms the two files intern, each a different one; `XCB_ATOM_NONE` is a `none`. -/
inductive Atom where
  | clipboard
  | primary
  | targets
  | utf8String
  | string
  | text
  | textHtml
  | textUriList
  /-- `_WLX_CLIPBOARD`, the property conversions of CLIPBOARD are stored in -/
  | wlxClipboard
  /-- `_WLX_PRIMARY` -/
  | wlxPrimary
  /-- `_WLX_DND` -/
  | wlxDnd
  | xdndSelection
  | incr
  /-- the type of a list of atoms -/
  | atom
  | other (n : Nat)
deriving DecidableEq, Repr

/-- The MIME types a Wayland source can offer, as far as the program tells them apart. -/
inductive Mime where
  | textPlainUtf8
  | textPlain
  | textHtmlUtf8
  | textHtml
  /-- `TEXT` -/
  | upperText
  /-- `STRING` -/
  | upperString
  /-- `UTF8_STRING` -/
  | utf8String
  | textUriList
  /-- any other type that starts with `text/` -/
  | otherText (n : Nat)
  | other (n : Nat)
deriving DecidableEq, Repr

/-- `strncmp(mime, "text/", 5) == 0`. -/
def Mime.startsWithText : Mime → Bool
  | .textPlainUtf8 | .textPlain | .textHtmlUtf8 | .textHtml | .textUriList | .otherText _ => true
  | .upperText | .upperString | .utf8String | .other _ => false

/-- A client's data source: what it offers, and the text it writes when asked. -/
structure Source where
  mimeTypes : List Mime
  text : Text
deriving DecidableEq, Repr

/-- The two selections the bridge keeps in sync: the `bool primary` of `clipboard.c`. -/
inductive Selection where
  | clipboard
  | primary
deriving DecidableEq, Repr

namespace Selection

/-- `primary ? server->atom_primary : server->atom_clipboard`. -/
def toAtom : Selection → Atom
  | clipboard => .clipboard
  | primary => .primary

/-- `primary ? server->atom_wlx_primary : server->atom_wlx_clipboard`. -/
def property : Selection → Atom
  | clipboard => .wlxClipboard
  | primary => .wlxPrimary

@[simp] theorem toAtom_inj {sel sel' : Selection} : sel.toAtom = sel'.toAtom ↔ sel = sel' := by
  cases sel <;> cases sel' <;> decide

@[simp] theorem property_inj {sel sel' : Selection} : sel.property = sel'.property ↔ sel = sel' := by
  cases sel <;> cases sel' <;> decide

end Selection

/-- The contents of a window property. -/
inductive PropertyValue where
  | bytes (type : Atom) (text : Text)
  | atoms (list : List Atom)
deriving DecidableEq, Repr

/-- The XDND client messages, with the fields of `data32` that carry something. -/
inductive XdndMessage where
  | enter (version : Int) (type : Atom)
  | position (x y : Int)
  | leave
  | drop
  | status (accept : Bool)
  | finished (accepted : Bool)
deriving DecidableEq, Repr

/-- The requests of the two files. -/
inductive XRequest where
  | deleteProperty (property : Atom)
  | changeProperty (window : XWindow) (property : Option Atom) (value : PropertyValue)
  /-- `requestor` is the clipboard window -/
  | convertSelection (selection target property : Atom)
  /-- the clipboard window takes the selection (`some`, with the text stored for it: a ghost), or
  gives it up -/
  | setSelectionOwner (selection : Atom) (offer : Option Text)
  /-- a `SelectionNotify` event sent to `requestor` -/
  | selectionNotify (requestor : XWindow) (selection target : Atom) (property : Option Atom)
  /-- a `ClientMessage` event sent to `window` -/
  | clientMessage (window : XWindow) (message : XdndMessage)
deriving DecidableEq, Repr

/-- `xcb_selection_request_event_t`. -/
structure SelectionRequest where
  requestor : XWindow
  selection : Atom
  target : Atom
  property : Option Atom
deriving DecidableEq, Repr

/-- `xcb_selection_notify_event_t`. -/
structure SelectionNotify where
  requestor : XWindow
  selection : Atom
  property : Option Atom
deriving DecidableEq, Repr

/-- The reply to `xcb_get_property`, cut to `WLX_CLIPBOARD_MAX` bytes by the request. -/
structure PropertyReply where
  type : Atom
  value : Text
deriving DecidableEq, Repr

/-! ## State -/

/-- Per selection: `clip_out_text`, `clip_we_own_x11`, `clip_in_text`, `clip_setting_from_x11` and
their `pri_` twins. -/
structure Channel where
  /-- the text published on the X11 selection -/
  outText : Option Text
  weOwnX11 : Bool
  /-- the text offered to Wayland -/
  inText : Option Text
  settingFromX11 : Bool
deriving DecidableEq, Repr

def Channel.fresh : Channel := ⟨none, false, none, false⟩

/-- The reader of an export, `clip_read_*`. `clip_read_source` and `clip_read_fd` are set and cleared
together. -/
structure Reader where
  reading : Bool
  buf : Text
  /-- `clip_read_is_primary` -/
  target : Selection
deriving DecidableEq, Repr

def Reader.idle : Reader := ⟨false, [], .clipboard⟩

/-- What the seat holds as the source of one selection. -/
inductive SeatSource where
  | none
  | client (source : Source)
  /-- a `wlx_text_source` (or `wlx_pri_source`), which writes `clip_in_text` -/
  | bridge
deriving DecidableEq, Repr

/-- The outbound drag, `dnd_out_*`. -/
structure DndOut where
  active : Bool
  target : Option XWindow
  version : Int
  accepted : Bool
  text : Option Text
  isUri : Bool
  /-- `dnd_out_drag` is set -/
  drag : Bool
deriving DecidableEq, Repr

def DndOut.fresh : DndOut := ⟨false, none, 0, false, none, false, false⟩

/-- The inbound drag, `dnd_in_*`. -/
structure DndIn where
  active : Bool
  source : Option XWindow
  version : Int
  ourWindow : XWindow
deriving DecidableEq, Repr

def DndIn.fresh : DndIn := ⟨false, none, 0, 0⟩

/-- The part of `struct wlx_server` the bridge works on. -/
structure Bridge where
  clipboardWindow : XWindow
  channel : Selection → Channel
  read : Reader
  /-- `server->seat`'s selection sources -/
  seat : Selection → SeatSource
  dndOut : DndOut
  dndIn : DndIn
  /-- `xwin`, `content_xwin` and `related` of every window -/
  windows : List XWindow
  /-- requests written since the connection was last served -/
  out : List XRequest

namespace Bridge

/-- The bridge `clipboard_init` starts from. -/
def fresh (clipboardWindow : XWindow) : Bridge where
  clipboardWindow := clipboardWindow
  channel := fun _ => .fresh
  read := .idle
  seat := fun _ => .none
  dndOut := .fresh
  dndIn := .fresh
  windows := []
  out := []

/-- Write a request to the connection. -/
def send (s : Bridge) (req : XRequest) : Bridge := { s with out := s.out ++ [req] }

/-- Update the fields of one selection. -/
def setChannel (s : Bridge) (sel : Selection) (c : Channel) : Bridge :=
  { s with channel := Function.update s.channel sel c }

@[simp] theorem send_channel (s : Bridge) (req : XRequest) : (s.send req).channel = s.channel := rfl
@[simp] theorem send_dndOut (s : Bridge) (req : XRequest) : (s.send req).dndOut = s.dndOut := rfl
@[simp] theorem send_out (s : Bridge) (req : XRequest) : (s.send req).out = s.out ++ [req] := rfl

end Bridge

end Wlx
