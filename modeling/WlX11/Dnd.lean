import WlX11.Clipboard

/-!
# WlX11 — drag and drop between Wayland and X11

The functions of `dnd.c`, in its order. An outbound session starts when a Wayland drag's text has
been read (`dndOutPrepared`), follows the pointer (`dndOutUpdatePosition`), and ends with a drop and
the target's `XdndFinished`, or with `dndOutFinish`.

`dnd_out_begin_from_source` reads the pipe in a loop that dispatches the event loop while it waits:
any handler can run in the middle of it. It is cut there: `dndOutBeginFromSource` is the part up to
the loop, `DragRead.spin` one turn of the loop, and `dndOutPrepared` what comes after.
-/

namespace Wlx

/-- A window on the way from the deepest one under the pointer up to the root, as `QueryTree` gives
them, with the value of its `XdndAware` property. -/
structure WindowReply where
  window : XWindow
  aware : Option Int
deriving DecidableEq, Repr

/-- What a pointer motion finds. -/
structure PointerView where
  /-- `query_root_pointer_position` -/
  position : Option (Int × Int)
  /-- `surface_at_cursor`: a surface of one of our own clients is under the pointer -/
  overSurface : Bool
  /-- the windows under the pointer, deepest first -/
  under : List WindowReply
deriving DecidableEq, Repr

/-- `xcb_client_message_event_t`: the window it was sent to, `data32[0]`, and the rest. -/
structure ClientMessage where
  window : XWindow
  format32 : Bool
  source : Option XWindow
  message : XdndMessage
deriving DecidableEq, Repr

/-- What one turn of the read loop sees: `poll`, and then `read`. -/
inductive Poll where
  | failed
  /-- nothing within 5 ms: the event loop is dispatched -/
  | timeout
  | ready (result : ReadResult)
deriving DecidableEq, Repr

/-- The locals of the read loop. -/
structure DragRead where
  buf : Text
  spins : Nat
  /-- inside the nested `wl_event_loop_dispatch` -/
  dispatching : Bool
deriving DecidableEq, Repr

/-- What a turn of the read loop leads to. -/
inductive SpinResult where
  | more (loop : DragRead)
  /-- the loop is left; what was collected is used -/
  | done (text : Text)
  /-- too long, or out of memory: the function returns -/
  | abandoned
deriving DecidableEq, Repr

namespace DragRead

def start : DragRead := ⟨[], 0, false⟩

/-- One more spin, if any of the 100 is left. -/
def next (loop : DragRead) (buf : Text) (dispatching : Bool) : SpinResult :=
  if loop.spins + 1 < 100 then .more ⟨buf, loop.spins + 1, dispatching⟩ else .done buf

/-- One turn of the loop of `dnd_out_begin_from_source`. -/
def spin (loop : DragRead) : Poll → SpinResult
  | .failed | .ready .eof | .ready .failed => .done loop.buf
  | .timeout => loop.next loop.buf true
  | .ready .again => loop.next loop.buf false
  | .ready (.data chunk grown) =>
    if wlxClipboardMax < loop.buf.length + chunk.length then .abandoned
    else if grown = false then .abandoned
    else loop.next (loop.buf ++ chunk) false

end DragRead

/-- `uri_mime`, else `text_mime`: what `dnd_out_begin_from_source` asks the source for. -/
def dragMime (mimeTypes : List Mime) : Option Mime :=
  if .textUriList ∈ mimeTypes then some .textUriList else mimeTypes.find? (·.startsWithText)

namespace Bridge

/-! ## Finding a target -/

/-- `dnd_window_is_ours`. -/
def dndWindowIsOurs (s : Bridge) (w : XWindow) : Bool :=
  w = s.clipboardWindow || s.windows.contains w

/-- `dnd_get_aware_version`: -1 without the property. -/
def dndGetAwareVersion (reply : WindowReply) : Int := reply.aware.getD (-1)

/-- `dnd_find_aware_target`: walk up to the first `XdndAware` window, unless one of ours comes
first. -/
def dndFindAwareTarget (s : Bridge) : List WindowReply → Option (XWindow × Int)
  | [] => none
  | reply :: rest =>
    if s.dndWindowIsOurs reply.window then none
    else if 0 ≤ dndGetAwareVersion reply then
      some (reply.window, min 5 (dndGetAwareVersion reply))
    else dndFindAwareTarget s rest

/-! ## The outbound session -/

/-- `dnd_send_client_message`. -/
def dndSendClientMessage (s : Bridge) (target : XWindow) (message : XdndMessage) : Bridge :=
  s.send (.clientMessage target message)

/-- `dnd_out_leave`. -/
def dndOutLeave (s : Bridge) : Bridge :=
  match s.dndOut.target with
  | none => s
  | some target =>
    let s := s.dndSendClientMessage target .leave
    { s with dndOut := { s.dndOut with target := none, accepted := false } }

/-- `dnd_out_finish`; `owned` says that the clipboard window owns XdndSelection. -/
def dndOutFinish (owned : Bool) (s : Bridge) : Bridge :=
  let s := s.dndOutLeave
  let s := { s with
    dndOut := { s.dndOut with active := false, drag := false, text := none, isUri := false } }
  if owned then s.send (.setSelectionOwner .xdndSelection none) else s

/-- Enter `target`, if it is not the current one. -/
def dndOutEnter (target : XWindow) (version : Int) (s : Bridge) : Bridge :=
  if s.dndOut.target = some target then s
  else
    let s := s.dndOutLeave
    let s := { s with
      dndOut := { s.dndOut with target := some target, version := version, accepted := false } }
    s.dndSendClientMessage target
      (.enter version (if s.dndOut.isUri then .textUriList else .utf8String))

/-- `dnd_out_update_position`. -/
def dndOutUpdatePosition (view : PointerView) (s : Bridge) : Bridge :=
  if s.dndOut.active = false ∨ s.dndOut.text = none then s
  else
    match view.position with
    | none => s
    | some (x, y) =>
      if view.overSurface then s.dndOutLeave
      else
        match s.dndFindAwareTarget view.under with
        | none => s.dndOutLeave
        | some (target, version) =>
          (s.dndOutEnter target version).dndSendClientMessage target (.position x y)

/-- `dnd_out_on_button_release`. -/
def dndOutOnButtonRelease (owned : Bool) (s : Bridge) : Bridge :=
  if s.dndOut.active = false then s
  else
    match s.dndOut.target with
    | none => s.dndOutFinish owned
    | some target =>
      if s.dndOut.accepted then s.dndSendClientMessage target .drop else s.dndOutFinish owned

/-! ## Selection requests -/

/-- The targets `dnd_handle_selection_request` lists. -/
def dndTargets : List Atom := [.targets, .utf8String, .textUriList, .string, .text]

/-- `dnd_handle_selection_request`; the flag says that it has answered. -/
def dndHandleSelectionRequest (req : SelectionRequest) (s : Bridge) : Bridge × Bool :=
  match s.dndOut.text with
  | none => (s, false)
  | some text =>
    if req.selection ≠ .xdndSelection ∨ s.dndOut.active = false then (s, false)
    else
      let notify := fun property =>
        XRequest.selectionNotify req.requestor req.selection req.target property
      if req.target = .targets then
        ((s.send (.changeProperty req.requestor req.property (.atoms dndTargets))).send
          (notify req.property), true)
      else if req.target = .utf8String ∨ req.target = .textUriList ∨ req.target = .string ∨
          req.target = .text then
        ((s.send (.changeProperty req.requestor req.property (.bytes req.target text))).send
          (notify req.property), true)
      else (s.send (notify none), true)

/-- The `SelectionRequest` branch of `handle_xcb_readable`. -/
def handleSelectionRequest (req : SelectionRequest) (s : Bridge) : Bridge :=
  let (s', answered) := s.dndHandleSelectionRequest req
  if answered then s' else s'.clipboardHandleSelectionRequest req

/-! ## Client messages -/

/-- Send to the source of an inbound drag. A message to `XCB_WINDOW_NONE` reaches nobody. -/
def dndReplyToSource (message : XdndMessage) (s : Bridge) : Bridge :=
  match s.dndIn.source with
  | none => s
  | some source => s.dndSendClientMessage source message

/-- `dnd_handle_client_message`; `owned` is for the `dnd_out_finish` an `XdndFinished` runs. -/
def dndHandleClientMessage (ev : ClientMessage) (owned : Bool) (s : Bridge) : Bridge :=
  if ev.format32 = false then s
  else
    match ev.message with
    | .status accept =>
      if s.dndOut.active then { s with dndOut := { s.dndOut with accepted := accept } } else s
    | .finished _ => if s.dndOut.active then s.dndOutFinish owned else s
    | .enter version _ =>
      { s with dndIn :=
          { active := true, source := ev.source, version := min 5 version, ourWindow := ev.window } }
    | .position _ _ => if s.dndIn.active then s.dndReplyToSource (.status true) else s
    | .leave => { s with dndIn := { s.dndIn with active := false, source := none } }
    | .drop =>
      if s.dndIn.active then
        (s.send (.deleteProperty .wlxDnd)).send
          (.convertSelection .xdndSelection .utf8String .wlxDnd)
      else s

/-- `dnd_handle_selection_notify`; `reply` is what `_WLX_DND` holds. A dropped text becomes the
Wayland clipboard. -/
def dndHandleSelectionNotify (ev : SelectionNotify) (reply : Option PropertyReply)
    (env : ImportEnv) (s : Bridge) : Bridge :=
  if ev.property = none ∨ ev.requestor ≠ s.clipboardWindow ∨ ev.selection ≠ .xdndSelection then s
  else
    -- `GetProperty` deletes what it has read
    let s := s.send (.deleteProperty .wlxDnd)
    let text := (reply.map (·.value)).getD []
    if text = [] then
      let s := s.dndReplyToSource (.finished false)
      { s with dndIn := { s.dndIn with active := false } }
    else
      let s := if env.text then s.clipboardOfferX11TextToWayland text env else s
      let s := s.dndReplyToSource (.finished true)
      { s with dndIn := { s.dndIn with active := false, source := none } }

/-- The `SelectionNotify` branch of `handle_xcb_readable`: both handlers look at the event. -/
def handleSelectionNotify (ev : SelectionNotify) (dndReply reply : Option PropertyReply)
    (env : ImportEnv) (s : Bridge) : Bridge :=
  (s.dndHandleSelectionNotify ev dndReply env).clipboardHandleSelectionNotify ev reply env

/-! ## Drags -/

/-- `dnd_out_begin_from_source` up to its loop; the flag says that the loop is entered. -/
def dndOutBeginFromSource (source : Source) (pipe : Bool) (s : Bridge) : Bridge × Bool :=
  match dragMime source.mimeTypes with
  | none => (s, false)
  | some mime =>
    ({ s with dndOut := { s.dndOut with isUri := decide (mime = .textUriList) } }, pipe)

/-- `dnd_out_begin_from_source` after its loop: a text that was read starts a session. -/
def dndOutPrepared (text : Text) (view : PointerView) (s : Bridge) : Bridge :=
  if text = [] then s
  else
    let s := { s with
      dndOut := { s.dndOut with text := some text, active := true, target := none, accepted := false } }
    (s.send (.setSelectionOwner .xdndSelection (some text))).dndOutUpdatePosition view

/-- `server_start_drag`; the flag says that the source is being read. -/
def serverStartDrag (source : Option Source) (pipe : Bool) (s : Bridge) : Bridge × Bool :=
  let s := { s with dndOut := { s.dndOut with drag := true } }
  match source with
  | none => (s, false)
  | some source => s.dndOutBeginFromSource source pipe

/-- `drag_destroy`: unless the target has accepted, and so may be about to finish, the session ends
with the drag. -/
def dragDestroy (owned : Bool) (s : Bridge) : Bridge :=
  let s := { s with dndOut := { s.dndOut with drag := false } }
  if s.dndOut.active && s.dndOut.target.isSome && s.dndOut.accepted then s
  else s.dndOutFinish owned

end Bridge

end Wlx
