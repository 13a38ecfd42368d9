import WlX11.Selection

/-!
# WlX11 — the clipboard bridge

The functions of `clipboard.c`, in its order, and the XFixes branch of `handle_xcb_readable`. Text
flows in two directions for each selection:

* Wayland to X11: `server_request_set_selection` starts an export, which reads the source's pipe in
  event loop callbacks (`clipboardReadFd`, and `clipboardReadChunk` for what each `read` returns)
  and then claims the X11 selection (`clipboardSetX11Owner`); `SelectionRequest`s are answered from
  the stored text.
* X11 to Wayland: an XFixes notification of a foreign owner makes the bridge convert the selection
  (`clipboardRequestFromX11`); the `SelectionNotify` that answers is imported.

`primary_pick_mime`, `primary_export_wayland_source` and `primary_offer_x11_text_to_wayland` repeat
their clipboard twins word for word, so the twins are one definition with the selection as argument.
-/

namespace Wlx

/-- Whether `malloc` succeeds, and whether the reply to `GetSelectionOwner` names the clipboard
window. -/
structure PublishEnv where
  alloc : Bool
  owned : Bool
deriving DecidableEq, Repr

/-- Whether `pipe` and `wl_event_loop_add_fd` succeed. -/
structure ExportEnv where
  pipe : Bool
  addFd : Bool
deriving DecidableEq, Repr

/-- Whether an import finds memory for the text, and for the source that offers it. -/
structure ImportEnv where
  text : Bool
  source : Bool
deriving DecidableEq, Repr

/-- The mask of an event loop callback: `WL_EVENT_READABLE`, `WL_EVENT_HANGUP`, `WL_EVENT_ERROR`. -/
structure Mask where
  readable : Bool
  hangup : Bool
  error : Bool
deriving DecidableEq, Repr

/-- What one `read` of the pipe returns. -/
inductive ReadResult where
  /-- `n > 0`; `grown` says that the buffer holds the chunk, if need be after a `realloc` -/
  | data (chunk : Text) (grown : Bool)
  /-- `n == 0` -/
  | eof
  /-- `EAGAIN` -/
  | again
  /-- any other error -/
  | failed
deriving DecidableEq, Repr

/-! ## Picking a MIME type -/

/-- The `prefs` of `clipboard_pick_mime` and `primary_pick_mime`. -/
def mimePrefs : List Mime :=
  [.textPlainUtf8, .textPlain, .textHtmlUtf8, .textHtml, .upperText, .upperString, .utf8String]

/-- The first preferred type in the source's order, else the first `text/` type. -/
def pickMime (mimeTypes : List Mime) : Option Mime :=
  match mimeTypes.find? (· ∈ mimePrefs) with
  | some mime => some mime
  | none => mimeTypes.find? (·.startsWithText)

/-- `clipboard_pick_mime`. -/
def clipboardPickMime (source : Source) : Option Mime := pickMime source.mimeTypes

/-- `primary_pick_mime`. -/
def primaryPickMime (source : Source) : Option Mime := pickMime source.mimeTypes

namespace Bridge

/-! ## Wayland to X11 -/

/-- `clipboard_clear_read`. -/
def clipboardClearRead (s : Bridge) : Bridge :=
  { s with read := { s.read with reading := false, buf := [] } }

/-- `clipboard_set_x11_owner`. The old text is gone even if the new one finds no memory, and then
nothing is claimed. -/
def clipboardSetX11Owner (env : PublishEnv) (text : Text) (sel : Selection) (s : Bridge) : Bridge :=
  let ch := s.channel sel
  if text ≠ [] ∧ env.alloc = false then s.setChannel sel { ch with outText := none }
  else
    (s.setChannel sel
      { ch with
        outText := if text = [] then none else some text
        weOwnX11 := env.owned }).send (.setSelectionOwner sel.toAtom (some text))

/-- "Finished: publish whatever we collected." -/
def publishCollected (env : PublishEnv) (s : Bridge) : Bridge :=
  let s := if s.read.buf ≠ [] then s.clipboardSetX11Owner env s.read.buf s.read.target else s
  s.clipboardClearRead

/-- `clipboard_read_fd` up to its loop; the flag says that the loop is entered. -/
def clipboardReadFd (mask : Mask) (env : PublishEnv) (s : Bridge) : Bridge × Bool :=
  if mask.hangup || mask.error then (s.publishCollected env, false)
  else (s, mask.readable)

/-- One turn of the loop of `clipboard_read_fd`; the flag says that there is another. -/
def clipboardReadChunk (result : ReadResult) (env : PublishEnv) (s : Bridge) : Bridge × Bool :=
  match result with
  | .again => (s, false)
  | .failed => (s.clipboardClearRead, false)
  | .eof => (s.publishCollected env, false)
  | .data chunk grown =>
    if wlxClipboardMax < s.read.buf.length + chunk.length then (s.clipboardClearRead, false)
    else if grown = false then (s.clipboardClearRead, false)
    else ({ s with read := { s.read with buf := s.read.buf ++ chunk } }, true)

/-- `clipboard_export_wayland_source` and `primary_export_wayland_source`: stop any read in progress
and read this source, if it has a text type. -/
def exportWaylandSource (sel : Selection) (mime : Option Mime) (env : ExportEnv) (s : Bridge) :
    Bridge :=
  match mime with
  | none => s
  | some _ =>
    let s := s.clipboardClearRead
    let s := { s with read := { s.read with target := sel } }
    if env.pipe && env.addFd then { s with read := { s.read with reading := true } } else s

/-- `clipboard_export_wayland_source`. -/
def clipboardExportWaylandSource (source : Source) (env : ExportEnv) (s : Bridge) : Bridge :=
  s.exportWaylandSource .clipboard (clipboardPickMime source) env

/-- `primary_export_wayland_source`. -/
def primaryExportWaylandSource (source : Source) (env : ExportEnv) (s : Bridge) : Bridge :=
  s.exportWaylandSource .primary (primaryPickMime source) env

/-! ## X11 to Wayland -/

/-- `clipboard_offer_x11_text_to_wayland` and `primary_offer_x11_text_to_wayland`. The text is stored
before there is a source to offer it. `wlr_seat_set_selection` does not ask the program back, so
`clip_setting_from_x11` is down again afterwards. -/
def offerX11TextToWayland (sel : Selection) (text : Text) (env : ImportEnv) (s : Bridge) : Bridge :=
  let s := s.setChannel sel { s.channel sel with inText := some text }
  if env.source then
    { s.setChannel sel { s.channel sel with settingFromX11 := false } with
      seat := Function.update s.seat sel .bridge }
  else s

/-- `clipboard_offer_x11_text_to_wayland`. -/
def clipboardOfferX11TextToWayland (text : Text) (env : ImportEnv) (s : Bridge) : Bridge :=
  s.offerX11TextToWayland .clipboard text env

/-- `primary_offer_x11_text_to_wayland`. -/
def primaryOfferX11TextToWayland (text : Text) (env : ImportEnv) (s : Bridge) : Bridge :=
  s.offerX11TextToWayland .primary text env

/-- `clipboard_request_from_x11`. -/
def clipboardRequestFromX11 (sel : Selection) (s : Bridge) : Bridge :=
  if (s.channel sel).weOwnX11 then s
  else
    (s.send (.deleteProperty sel.property)).send
      (.convertSelection sel.toAtom .utf8String sel.property)

/-- The selection a `SelectionNotify` is about (`primary` in `clipboard_handle_selection_notify`):
its property decides, then its selection. -/
def notifiedSelection (ev : SelectionNotify) : Selection :=
  if ev.property = some .wlxPrimary ∨ ev.selection = .primary then .primary else .clipboard

/-- `clipboard_handle_selection_notify`; `reply` is what `ev->property` holds. -/
def clipboardHandleSelectionNotify (ev : SelectionNotify) (reply : Option PropertyReply)
    (env : ImportEnv) (s : Bridge) : Bridge :=
  if ev.property = none ∨ ev.requestor ≠ s.clipboardWindow then s
  else
    let sel := notifiedSelection ev
    if ev.property ≠ some sel.property ∧ ev.property ≠ some .wlxClipboard ∧
        ev.property ≠ some .wlxPrimary then s
    else
      match reply with
      | none => s
      | some reply =>
        if reply.value = [] ∨ reply.type = .incr ∨ env.text = false then s
        else match sel with
          | .clipboard => s.clipboardOfferX11TextToWayland reply.value env
          | .primary => s.primaryOfferX11TextToWayland reply.value env

/-! ## Serving X11 -/

/-- The targets `clipboard_handle_selection_request` lists. -/
def clipboardTargets : List Atom := [.targets, .utf8String, .string, .text, .textHtml]

/-- The type a text target is served with. -/
def servedType (target : Atom) : Atom :=
  if target = .string then .string else if target = .textHtml then .textHtml else .utf8String

/-- `clipboard_handle_selection_request`. -/
def clipboardHandleSelectionRequest (req : SelectionRequest) (s : Bridge) : Bridge :=
  let notify := fun property =>
    XRequest.selectionNotify req.requestor req.selection req.target property
  let out := if req.selection = .primary then (s.channel .primary).outText
    else (s.channel .clipboard).outText
  match out with
  | none => s.send (notify none)
  | some text =>
    if req.selection ≠ .primary ∧ req.selection ≠ .clipboard then s.send (notify none)
    else if req.target = .targets then
      (s.send (.changeProperty req.requestor req.property (.atoms clipboardTargets))).send
        (notify req.property)
    else if req.target = .utf8String ∨ req.target = .string ∨ req.target = .text ∨
        req.target = .textHtml then
      (s.send (.changeProperty req.requestor req.property
        (.bytes (servedType req.target) text))).send (notify req.property)
    else s.send (notify none)

/-- `clipboard_handle_selection_clear`. -/
def clipboardHandleSelectionClear (selection : Atom) (s : Bridge) : Bridge :=
  if selection = .clipboard then
    s.setChannel .clipboard { s.channel .clipboard with weOwnX11 := false }
  else if selection = .primary then
    s.setChannel .primary { s.channel .primary with weOwnX11 := false }
  else s

/-- The branch of `handle_xcb_readable` for an XFixes notification about one of the two selections:
a new foreign owner is asked for its text. -/
def handleXfixesSelectionNotify (sel : Selection) (owner : Option XWindow) (s : Bridge) : Bridge :=
  let own := decide (owner = some s.clipboardWindow)
  let s := s.setChannel sel { s.channel sel with weOwnX11 := own }
  if !own && owner.isSome then s.clipboardRequestFromX11 sel else s

/-- `clipboard_init`, once the helper window exists: import whatever the host already has. -/
def clipboardInit (s : Bridge) : Bridge :=
  (s.clipboardRequestFromX11 .clipboard).clipboardRequestFromX11 .primary

/-! ## The seat -/

/-- `server_request_set_selection`: a client sets the selection, or clears it. -/
def serverRequestSetSelection (source : Option Source) (env : ExportEnv) (s : Bridge) : Bridge :=
  let s := { s with seat := Function.update s.seat .clipboard (source.elim .none .client) }
  match source with
  | none => s
  | some source =>
    if (s.channel .clipboard).settingFromX11 then s else s.clipboardExportWaylandSource source env

/-- `server_request_set_primary_selection`. -/
def serverRequestSetPrimarySelection (source : Option Source) (env : ExportEnv) (s : Bridge) :
    Bridge :=
  let s := { s with seat := Function.update s.seat .primary (source.elim .none .client) }
  match source with
  | none => s
  | some source =>
    if (s.channel .primary).settingFromX11 then s else s.primaryExportWaylandSource source env

/-- Both listeners, by selection. -/
def requestSetSelection (sel : Selection) (source : Option Source) (env : ExportEnv) (s : Bridge) :
    Bridge :=
  match sel with
  | .clipboard => s.serverRequestSetSelection source env
  | .primary => s.serverRequestSetPrimarySelection source env

end Bridge

end Wlx
