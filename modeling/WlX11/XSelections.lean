import WlX11.Export

/-!
# WlX11 — the bridge, the X server and its clients

The exports of `WlX11.Export`, put beside an X server with other clients. The server keeps the owner
of the two selections and the properties of the clipboard window; what it and the clients send to the
bridge queues up in order in `inbox`, while the bridge's own requests take effect at once. A
conversion the bridge asks a client for is answered at any later time.

The clients keep to the conventions: they name windows of their own, and the owner of a selection
answers with the text it owns. A client that has lost the selection answers late with the text it
owned when it was asked, or refuses.
-/

namespace Wlx

/-- The selection an atom names. -/
def Selection.ofAtom : Atom → Option Selection
  | .clipboard => some .clipboard
  | .primary => some .primary
  | _ => none

/-- The two selections are known by their atoms, -/
@[simp] theorem Selection.ofAtom_toAtom (sel : Selection) : Selection.ofAtom sel.toAtom = some sel := by
  cases sel <;> rfl

/-- and neither is that of a drag. -/
theorem Selection.toAtom_ne_xdndSelection (sel : Selection) : sel.toAtom ≠ .xdndSelection := by
  cases sel <;> decide

inductive Owner where
  | nobody
  /-- the clipboard window -/
  | bridge
  /-- a window of another client, with the text it owns -/
  | client (window : XWindow) (text : Text)
deriving DecidableEq, Repr

/-- The events the bridge reads. -/
inductive XEvent where
  | xfixesSelectionNotify (sel : Selection) (owner : Option XWindow)
  | selectionClear (sel : Selection)
  | selectionRequest (req : SelectionRequest)
  | selectionNotify (ev : SelectionNotify)
deriving DecidableEq, Repr

/-- A conversion a client has been asked for, with the text it owned then. -/
structure Conversion where
  sel : Selection
  window : XWindow
  text : Text
  property : Atom
deriving DecidableEq, Repr

/-- A property of the clipboard window, and who stored it. -/
structure Stored where
  value : PropertyReply
  /-- the bridge itself, answering its own request -/
  own : Bool
deriving DecidableEq, Repr

structure XServer where
  owner : Selection → Owner
  property : Atom → Option Stored
  conversions : List Conversion
  inbox : List XEvent
  /-- the text with which each selection was last taken -/
  lastCopy : Selection → Option Text

/-- The conversion of a selection for the clipboard window. -/
def XServer.convert (clipboardWindow : XWindow) (sel : Selection) (target property : Atom)
    (x : XServer) : XServer :=
  match x.owner sel with
  | .nobody =>
    { x with inbox := x.inbox ++ [.selectionNotify ⟨clipboardWindow, sel.toAtom, none⟩] }
  | .bridge =>
    { x with
      inbox := x.inbox ++ [.selectionRequest ⟨clipboardWindow, sel.toAtom, target, some property⟩] }
  | .client window text =>
    { x with conversions := x.conversions ++ [⟨sel, window, text, property⟩] }

/-- A request of the bridge takes effect. What it sends to other windows is not followed up. -/
def XServer.process (clipboardWindow : XWindow) (x : XServer) : XRequest → XServer
  | .setSelectionOwner selection (some text) =>
    match Selection.ofAtom selection with
    | none => x
    | some sel =>
      { x with
        owner := Function.update x.owner sel .bridge
        lastCopy := Function.update x.lastCopy sel (some text)
        inbox := x.inbox ++ [.xfixesSelectionNotify sel (some clipboardWindow)] }
  | .deleteProperty property => { x with property := Function.update x.property property none }
  | .convertSelection selection target property =>
    match Selection.ofAtom selection with
    | none => x
    | some sel => x.convert clipboardWindow sel target property
  | .changeProperty window (some property) (.bytes type text) =>
    if window = clipboardWindow then
      { x with property := Function.update x.property property (some ⟨⟨type, text⟩, true⟩) }
    else x
  | .selectionNotify requestor selection _ property =>
    if requestor = clipboardWindow then
      { x with inbox := x.inbox ++ [.selectionNotify ⟨requestor, selection, property⟩] }
    else x
  | .setSelectionOwner _ none | .changeProperty .. | .clientMessage .. => x

/-- The exports, and the X server. -/
structure World extends ExportState where
  x : XServer

inductive WorldAction where
  /-- the seat and the pipe -/
  | seat (a : ExportAction)
  /-- the bridge handles its next event; `env` is for an import -/
  | deliver (env : ImportEnv)
  /-- a client takes a selection -/
  | xCopy (sel : Selection) (window : XWindow) (text : Text)
  /-- a client asks the bridge -/
  | xRequest (req : SelectionRequest)
  /-- the client asked in a conversion answers with a text, or refuses -/
  | xReply (i : Nat) (answer : Option Text)
deriving DecidableEq

namespace World

/-- The bridge has run up to `e`; its new requests take effect. -/
def serve (w : World) (e : ExportState) : World where
  toExportState := e
  x := (e.bridge.out.drop w.bridge.out.length).foldl (·.process w.bridge.clipboardWindow) w.x

/-- What `xcb_get_property` returns: at most `WLX_CLIPBOARD_MAX` bytes. -/
def propertyReply (x : XServer) (property : Option Atom) : Option PropertyReply :=
  property.bind fun p => (x.property p).map fun st =>
    { st.value with value := st.value.value.take wlxClipboardMax }

/-- The handler of an event, in `handle_xcb_readable`. -/
def handleEvent (x : XServer) (env : ImportEnv) (s : Bridge) : XEvent → Bridge
  | .xfixesSelectionNotify sel owner => s.handleXfixesSelectionNotify sel owner
  | .selectionClear sel => s.clipboardHandleSelectionClear sel.toAtom
  | .selectionRequest req => s.handleSelectionRequest req
  | .selectionNotify ev => s.handleSelectionNotify ev none (propertyReply x ev.property) env

/-- A client takes a selection: the bridge hears that it has lost it, and who has it. -/
def copy (sel : Selection) (window : XWindow) (text : Text) (x : XServer) : XServer :=
  { x with
    owner := Function.update x.owner sel (.client window text)
    lastCopy := Function.update x.lastCopy sel (some text)
    inbox := x.inbox ++ (if x.owner sel = .bridge then [.selectionClear sel] else []) ++
      [.xfixesSelectionNotify sel (some window)] }

/-- A conversion is answered. -/
def answer (clipboardWindow : XWindow) (i : Nat) (text : Option Text) (x : XServer) : XServer :=
  match x.conversions[i]? with
  | none => x
  | some c =>
    let x := { x with conversions := x.conversions.eraseIdx i }
    match text with
    | none =>
      { x with inbox := x.inbox ++ [.selectionNotify ⟨clipboardWindow, c.sel.toAtom, none⟩] }
    | some text =>
      { x with
        property := Function.update x.property c.property (some ⟨⟨.utf8String, text⟩, false⟩)
        inbox := x.inbox ++
          [.selectionNotify ⟨clipboardWindow, c.sel.toAtom, some c.property⟩] }

/-- How the client of a conversion may answer. -/
def mayAnswer (x : XServer) (c : Conversion) (text : Option Text) : Bool :=
  match x.owner c.sel with
  | .client window current =>
    if window = c.window then text = some current else text = none || text = some c.text
  | .nobody | .bridge => text = none || text = some c.text

/-- Whether the action can happen. -/
def enabled (w : World) : WorldAction → Bool
  | .seat a => w.toExportState.enabled a
  | .deliver _ => !w.looping && !w.x.inbox.isEmpty
  | .xCopy _ window _ => window ≠ w.bridge.clipboardWindow
  | .xRequest req => req.requestor ≠ w.bridge.clipboardWindow &&
    (Selection.ofAtom req.selection).any fun sel => w.x.owner sel = .bridge
  | .xReply i text => (w.x.conversions[i]?).any fun c => mayAnswer w.x c text

/-- The effect of an action. -/
def handle (w : World) : WorldAction → World
  | .seat a => w.serve (w.toExportState.handle a)
  | .deliver env =>
    match w.x.inbox with
    | [] => w
    | ev :: rest =>
      { w with x := { w.x with inbox := rest } }.serve
        { w.toExportState with bridge := handleEvent w.x env w.bridge ev }
  | .xCopy sel window text => { w with x := copy sel window text w.x }
  | .xRequest req => { w with x := { w.x with inbox := w.x.inbox ++ [.selectionRequest req] } }
  | .xReply i text => { w with x := answer w.bridge.clipboardWindow i text w.x }

/-- One step. -/
def step (w : World) (a : WorldAction) : Option World :=
  if w.enabled a then some (w.handle a) else none

theorem step_eq_some {w w' : World} {a : WorldAction} :
    w.step a = some w' ↔ w.enabled a = true ∧ w.handle a = w' := by
  simp [step]

/-- The state in which `clipboard_init` runs; `host` owns the selections. -/
def before (clipboardWindow : XWindow) (host : Selection → Option (XWindow × Text)) : World where
  toExportState := .init clipboardWindow
  x :=
    { owner := fun sel => (host sel).elim .nobody fun (window, text) => .client window text
      property := fun _ => none
      conversions := []
      inbox := []
      lastCopy := fun sel => (host sel).map (·.2) }

/-- The state `clipboard_init` leaves: it has asked for what the host has. -/
def init (clipboardWindow : XWindow) (host : Selection → Option (XWindow × Text)) : World :=
  let w := before clipboardWindow host
  w.serve { w.toExportState with bridge := w.bridge.clipboardInit }

/-! ## Serving -/

section Serve

variable (w : World) (e : ExportState)

/-- What was sent takes effect in order. -/
theorem serve_of_sent (sent : List XRequest) (h : e.bridge.out = w.bridge.out ++ sent) :
    w.serve e = { e with x := sent.foldl (·.process w.bridge.clipboardWindow) w.x } := by
  unfold serve
  rw [h, List.drop_left]

/-- Nothing sent, nothing changes at the server. -/
theorem serve_of_same (h : e.bridge.out = w.bridge.out) : w.serve e = { e with x := w.x } :=
  serve_of_sent w e [] (by rw [h, List.append_nil])

end Serve

end World

/-! ## What the handlers of the events do -/

namespace Bridge

variable (s : Bridge) (sel : Selection)

/-- Losing a selection, or hearing that it has no owner or the bridge itself. -/
theorem clipboardHandleSelectionClear_eq :
    s.clipboardHandleSelectionClear sel.toAtom =
      s.setChannel sel { s.channel sel with weOwnX11 := false } := by
  cases sel <;> rfl

/-- An owner that is no other client is only noted. -/
theorem handleXfixesSelectionNotify_of_not_foreign {owner : Option XWindow}
    (h : owner = none ∨ owner = some s.clipboardWindow) :
    ∃ own, s.handleXfixesSelectionNotify sel owner =
      s.setChannel sel { s.channel sel with weOwnX11 := own } := by
  unfold handleXfixesSelectionNotify
  rcases h with rfl | rfl
  · exact ⟨false, by simp⟩
  · exact ⟨true, by simp⟩

/-- A foreign owner is asked for its text. -/
theorem handleXfixesSelectionNotify_of_foreign {owner : XWindow} (h : owner ≠ s.clipboardWindow) :
    s.handleXfixesSelectionNotify sel (some owner) =
      { s.setChannel sel { s.channel sel with weOwnX11 := false } with
        out := s.out ++ [.deleteProperty sel.property,
          .convertSelection sel.toAtom .utf8String sel.property] } := by
  unfold handleXfixesSelectionNotify clipboardRequestFromX11
  simp [h, send]

/-- The bridge asks itself. -/
theorem handleSelectionRequest_self {cw : XWindow} (hwin : s.clipboardWindow = cw) :
    s.handleSelectionRequest ⟨cw, sel.toAtom, .utf8String, some sel.property⟩ =
      { s with out := s.out ++ match (s.channel sel).outText with
        | none => [.selectionNotify cw sel.toAtom .utf8String none]
        | some text =>
          [.changeProperty cw (some sel.property) (.bytes .utf8String text),
            .selectionNotify cw sel.toAtom .utf8String (some sel.property)] } := by
  subst hwin
  -- the drag's handler passes it on
  have hdnd : s.dndHandleSelectionRequest
      ⟨s.clipboardWindow, sel.toAtom, .utf8String, some sel.property⟩ = (s, false) := by
    unfold dndHandleSelectionRequest
    split
    · rfl
    · rw [if_pos (Or.inl sel.toAtom_ne_xdndSelection)]
  unfold handleSelectionRequest
  rw [hdnd]
  unfold clipboardHandleSelectionRequest
  cases sel <;> (cases h : (s.channel _).outText <;> simp [Selection.toAtom, h, send, servedType])

/-- An answer is imported if it has a text, and there is memory for it. -/
theorem handleSelectionNotify_eq {cw : XWindow} (hwin : s.clipboardWindow = cw)
    (reply : Option PropertyReply) (env : ImportEnv) :
    s.handleSelectionNotify ⟨cw, sel.toAtom, some sel.property⟩ none reply env =
      match reply with
      | none => s
      | some reply =>
        if reply.value = [] ∨ reply.type = .incr ∨ env.text = false then s
        else s.offerX11TextToWayland sel reply.value env := by
  subst hwin
  -- no answer to a drag
  have hdnd : s.dndHandleSelectionNotify
      ⟨s.clipboardWindow, sel.toAtom, some sel.property⟩ none env = s := by
    unfold dndHandleSelectionNotify
    rw [if_pos (Or.inr (Or.inr sel.toAtom_ne_xdndSelection))]
  unfold handleSelectionNotify
  rw [hdnd]
  have hsel : notifiedSelection ⟨s.clipboardWindow, sel.toAtom, some sel.property⟩ = sel := by
    cases sel <;> rfl
  unfold clipboardHandleSelectionNotify
  rw [if_neg (by simp), hsel]
  dsimp only
  rw [if_neg (by simp)]
  cases sel <;> rfl

end Bridge

/-- What an event leaves alone, whichever it is. -/
structure EventFrame (cw : XWindow) (s s' : Bridge) : Prop where
  window : s'.clipboardWindow = cw
  read : s'.read = s.read
  outText : ∀ sel, (s'.channel sel).outText = (s.channel sel).outText
  setting : ∀ sel, (s.channel sel).settingFromX11 = false → (s'.channel sel).settingFromX11 = false
  seat : ∀ sel, s'.seat sel = s.seat sel ∨ s'.seat sel = .bridge

namespace EventFrame

variable {s s' s'' : Bridge} {cw : XWindow}

/-- One event after the other. -/
theorem trans (h : EventFrame cw s s') (h' : EventFrame cw s' s'') : EventFrame cw s s'' where
  window := h'.window
  read := h'.read.trans h.read
  outText := fun sel => (h'.outText sel).trans (h.outText sel)
  setting := fun sel hset => h'.setting sel (h.setting sel hset)
  seat := by
    intro sel
    rcases h'.seat sel with hsame | hbridge
    · rw [hsame]; exact h.seat sel
    · exact Or.inr hbridge

/-- Sending something, and nothing more. -/
theorem of_out (hwin : s.clipboardWindow = cw) (out : List XRequest) :
    EventFrame cw s { s with out := out } :=
  ⟨hwin, rfl, fun _ => rfl, fun _ h => h, fun _ => Or.inl rfl⟩

/-- A change of one selection that keeps its text. -/
theorem of_channel (hwin : s.clipboardWindow = cw) {sel : Selection} {c : Channel}
    (hout : c.outText = (s.channel sel).outText)
    (hset : (s.channel sel).settingFromX11 = false → c.settingFromX11 = false) :
    EventFrame cw s (s.setChannel sel c) where
  window := hwin
  read := rfl
  outText := by
    intro sel'
    rw [Bridge.setChannel_channel]
    split
    · next h => rw [h]; exact hout
    · rfl
  setting := by
    intro sel' h
    rw [Bridge.setChannel_channel]
    split
    · next heq => exact hset (heq ▸ h)
    · exact h
  seat := fun _ => Or.inl rfl

/-- The bridge takes note of who owns a selection, and may send something. -/
theorem of_flag (hwin : s.clipboardWindow = cw) (sel : Selection) (own : Bool)
    (out : List XRequest) : EventFrame cw s
      { s.setChannel sel { s.channel sel with weOwnX11 := own } with out := out } := by
  have hflag : EventFrame cw s (s.setChannel sel { s.channel sel with weOwnX11 := own }) :=
    of_channel hwin rfl id
  exact hflag.trans (of_out hflag.window out)

/-- The bridge's own source becomes the selection. -/
theorem of_seat (hwin : s.clipboardWindow = cw) (sel : Selection) :
    EventFrame cw s { s with seat := Function.update s.seat sel .bridge } where
  window := hwin
  read := rfl
  outText := fun _ => rfl
  setting := fun _ h => h
  seat := by
    intro sel'
    by_cases h : sel' = sel
    · exact Or.inr (h ▸ Function.update_self ..)
    · exact Or.inl (Function.update_of_ne h ..)

/-- Importing a text. -/
theorem of_import (hwin : s.clipboardWindow = cw) (sel : Selection) (text : Text)
    (env : ImportEnv) : EventFrame cw s (s.offerX11TextToWayland sel text env) := by
  have hin : EventFrame cw s (s.setChannel sel { s.channel sel with inText := some text }) :=
    of_channel hwin rfl id
  have hset (s : Bridge) (hwin : s.clipboardWindow = cw) : EventFrame cw s
      (s.setChannel sel { s.channel sel with settingFromX11 := false }) :=
    of_channel hwin rfl fun _ => rfl
  unfold Bridge.offerX11TextToWayland
  dsimp only
  split
  · exact (hin.trans (hset _ hin.window)).trans (of_seat (hset _ hin.window).window sel)
  · exact hin

end EventFrame

/-- A read, and who it is for, survive an event. -/
theorem ExportState.Inv.of_event {w : ExportState} (h : w.Inv) {s : Bridge} {cw : XWindow}
    (hframe : EventFrame cw w.bridge s) (hpub : s.Published) : { w with bridge := s }.Inv where
  reading := by rw [hframe.read]; exact h.reading
  looping := by rw [hframe.read]; exact h.looping
  idle := by rw [hframe.read]; exact h.idle
  bound := by rw [hframe.read]; exact h.bound
  whole := by rw [hframe.read]; exact h.whole
  source := by
    intro p src hp hsrc htype
    rw [hframe.read] at hsrc
    refine h.source p src hp ?_ htype
    rcases hframe.seat w.bridge.read.target with hsame | hbridge
    · exact hsame.symm.trans hsrc
    -- an event may put the bridge's own source into the seat, never a client's
    · rw [hbridge] at hsrc; cases hsrc
  setting := fun sel => hframe.setting sel (h.setting sel)
  published := hpub

/-! ## Messages in flight -/

namespace World

/-- The messages in flight are those of the bridge's own conversions, and other clients' requests. -/
structure InFlight (cw : XWindow) (x : XServer) : Prop where
  requests : ∀ req, .selectionRequest req ∈ x.inbox → req.requestor = cw →
    ∃ sel : Selection, req = ⟨cw, sel.toAtom, .utf8String, some sel.property⟩
  notifies : ∀ ev, .selectionNotify ev ∈ x.inbox →
    ∃ sel : Selection, ev = ⟨cw, sel.toAtom, none⟩ ∨ ev = ⟨cw, sel.toAtom, some sel.property⟩
  conversions : ∀ c ∈ x.conversions, c.property = c.sel.property

/-- What holds in every state. -/
structure Inv (cw : XWindow) (w : World) : Prop where
  window : w.bridge.clipboardWindow = cw
  side : w.toExportState.Inv
  flight : InFlight cw w.x

/-- The bridge takes a selection. -/
def take (cw : XWindow) (sel : Selection) (text : Text) (x : XServer) : XServer :=
  { x with
    owner := Function.update x.owner sel .bridge
    lastCopy := Function.update x.lastCopy sel (some text)
    inbox := x.inbox ++ [.xfixesSelectionNotify sel (some cw)] }

/-- The bridge asks for a selection. -/
def ask (cw : XWindow) (sel : Selection) (x : XServer) : XServer :=
  XServer.convert cw sel .utf8String sel.property
    { x with property := Function.update x.property sel.property none }

/-- The bridge answers itself. -/
def answerSelf (cw : XWindow) (sel : Selection) (text : Option Text) (x : XServer) : XServer :=
  match text with
  | none => { x with inbox := x.inbox ++ [.selectionNotify ⟨cw, sel.toAtom, none⟩] }
  | some text =>
    { x with
      property := Function.update x.property sel.property (some ⟨⟨.utf8String, text⟩, true⟩)
      inbox := x.inbox ++ [.selectionNotify ⟨cw, sel.toAtom, some sel.property⟩] }

section Frames

variable (cw : XWindow) (sel : Selection) (x : XServer)

@[simp] theorem ask_owner : (ask cw sel x).owner = x.owner := by
  unfold ask XServer.convert
  split <;> rfl

@[simp] theorem ask_lastCopy : (ask cw sel x).lastCopy = x.lastCopy := by
  unfold ask XServer.convert
  split <;> rfl

@[simp] theorem ask_property :
    (ask cw sel x).property = Function.update x.property sel.property none := by
  unfold ask XServer.convert
  split <;> rfl

@[simp] theorem answerSelf_owner (text : Option Text) :
    (answerSelf cw sel text x).owner = x.owner := by
  cases text <;> rfl

@[simp] theorem answerSelf_lastCopy (text : Option Text) :
    (answerSelf cw sel text x).lastCopy = x.lastCopy := by
  cases text <;> rfl

@[simp] theorem answer_owner (i : Nat) (text : Option Text) :
    (answer cw i text x).owner = x.owner := by
  unfold answer
  split
  · rfl
  · cases text <;> rfl

@[simp] theorem answer_lastCopy (i : Nat) (text : Option Text) :
    (answer cw i text x).lastCopy = x.lastCopy := by
  unfold answer
  split
  · rfl
  · cases text <;> rfl

end Frames

/-- What the seat offers is as before. -/
structure SameOffer (s s' : Bridge) : Prop where
  seat : s'.seat = s.seat
  inText : ∀ sel, (s'.channel sel).inText = (s.channel sel).inText

/-- What handling an event comes to: the bridge asks, answers itself, imports, or does none of
these. `x` is the server with the event taken out of its inbox. -/
inductive Delivers (cw : XWindow) (w : World) (env : ImportEnv) (x : XServer) :
    XEvent → Bridge → XServer → Prop where
  | asks (sel : Selection) (owner : XWindow) (s : Bridge) (hforeign : owner ≠ cw)
      (hsame : SameOffer w.bridge s) :
      Delivers cw w env x (.xfixesSelectionNotify sel (some owner)) s (ask cw sel x)
  | answers (sel : Selection) (s : Bridge) (hsame : SameOffer w.bridge s) :
      Delivers cw w env x
        (.selectionRequest ⟨cw, sel.toAtom, .utf8String, some sel.property⟩) s
        (answerSelf cw sel (w.bridge.channel sel).outText x)
  | imports (sel : Selection) (reply : PropertyReply)
      (hreply : propertyReply w.x (some sel.property) = some reply) (hvalue : reply.value ≠ [])
      (htype : reply.type ≠ .incr) (hmem : env.text = true) :
      Delivers cw w env x (.selectionNotify ⟨cw, sel.toAtom, some sel.property⟩)
        (w.bridge.offerX11TextToWayland sel reply.value env) x
  | refuses (sel : Selection) (hreply : ∀ reply, propertyReply w.x (some sel.property) = some reply →
        reply.value = [] ∨ reply.type = .incr ∨ env.text = false) :
      Delivers cw w env x (.selectionNotify ⟨cw, sel.toAtom, some sel.property⟩) w.bridge x
  | nothing (ev : XEvent) (s : Bridge) (hsame : SameOffer w.bridge s)
      (hxfixes : ∀ sel owner, ev = .xfixesSelectionNotify sel (some owner) → owner = cw)
      (hrequest : ∀ sel : Selection,
        ev ≠ .selectionRequest ⟨cw, sel.toAtom, .utf8String, some sel.property⟩)
      (hnotify : ∀ sel : Selection, ev ≠ .selectionNotify ⟨cw, sel.toAtom, some sel.property⟩) :
      Delivers cw w env x ev s x

section Cases

variable {cw : XWindow} {w : World}

/-- A read that is published takes the selection. -/
theorem seat_publishes (hinv : w.Inv cw) {a : ExportAction} (ha : ExportState.ofPipe a = true)
    (hen : w.toExportState.enabled a = true) {env : PublishEnv}
    (he : w.toExportState.ending a = .publishes env) (hbuf : w.bridge.read.buf ≠ [])
    (hmem : env.alloc = true) :
    w.handle (.seat a) = ⟨w.toExportState.handle a,
      take cw w.bridge.read.target w.bridge.read.buf w.x⟩ := by
  have h := ExportState.handle_ending hinv.side ha hen
  rw [he] at h
  refine (serve_of_sent w _
    [.setSelectionOwner w.bridge.read.target.toAtom (some w.bridge.read.buf)] ?_).trans ?_
  · rw [h, w.bridge.publishCollected_of_memory hbuf hmem]
    rfl
  · simp only [List.foldl_cons, List.foldl_nil, XServer.process, Selection.ofAtom_toAtom,
      hinv.window]
    rfl

/-- An action of the seat or the pipe takes a selection, or leaves the server alone. -/
theorem seat_cases (hinv : w.Inv cw) {a : ExportAction} (hen : w.toExportState.enabled a = true) :
    (∃ env, ExportState.ofPipe a = true ∧ w.toExportState.ending a = .publishes env ∧
        w.bridge.read.buf ≠ [] ∧ env.alloc = true ∧
        w.handle (.seat a) = ⟨w.toExportState.handle a,
          take cw w.bridge.read.target w.bridge.read.buf w.x⟩) ∨
      w.handle (.seat a) = ⟨w.toExportState.handle a, w.x⟩ := by
  have hsame (h : (w.toExportState.handle a).bridge.out = w.bridge.out) :
      w.handle (.seat a) = ⟨w.toExportState.handle a, w.x⟩ := serve_of_same w _ h
  -- only a read that ends can take a selection
  cases ha : ExportState.ofPipe a with
  | false =>
    cases a with
    | write | close | callback | read => cases ha
    | select sel source env =>
      refine Or.inr (hsame ?_)
      rw [ExportState.handle_select]
  | true =>
    have h := ExportState.handle_ending hinv.side ha hen
    cases he : w.toExportState.ending a with
    | goesOn =>
      rw [he] at h
      exact Or.inr (hsame h.out)
    | abandons =>
      rw [he] at h
      exact Or.inr (hsame (by rw [h]; rfl))
    | publishes env =>
      rw [he] at h
      by_cases hbuf : w.bridge.read.buf = []
      · refine Or.inr (hsame ?_)
        rw [h, w.bridge.publishCollected_of_nil hbuf]
        rfl
      -- and only with a text and memory for it
      · cases hmem : env.alloc with
        | false =>
          refine Or.inr (hsame ?_)
          rw [h, w.bridge.publishCollected_of_no_memory hbuf hmem]
          rfl
        | true => exact Or.inl ⟨env, rfl, rfl, hbuf, hmem, seat_publishes hinv ha hen he hbuf hmem⟩

/-- The next event is handled. -/
theorem deliver_eq {ev : XEvent} {rest : List XEvent} (hinbox : w.x.inbox = ev :: rest)
    (env : ImportEnv) :
    w.handle (.deliver env) = serve { w with x := { w.x with inbox := rest } }
      { w.toExportState with bridge := handleEvent w.x env w.bridge ev } := by
  simp only [handle, hinbox]

/-- Who owns the selection is no part of what is offered. -/
theorem SameOffer.of_flag (s : Bridge) (sel : Selection) (own : Bool) (out : List XRequest) :
    SameOffer s { s.setChannel sel { s.channel sel with weOwnX11 := own } with out := out } where
  seat := rfl
  inText := by
    intro sel'
    show ((s.setChannel sel _).channel sel').inText = _
    rw [Bridge.setChannel_channel]
    split
    · next h => rw [h]
    · rfl

/-- A client's request is answered at the client. -/
theorem process_answers {s : Bridge} {req : SelectionRequest} {sent : List XRequest}
    (hsent : s.Answers req sent) (hreq : req.requestor ≠ cw) (x : XServer) :
    sent.foldl (·.process cw) x = x := by
  rcases hsent with rfl | ⟨value, -, rfl⟩
  · simp [XServer.process, hreq]
  · cases hproperty : req.property with
    | none => simp [XServer.process, hreq]
    | some p => cases value <;> simp [XServer.process, hreq]

/-- The event at the head of the inbox is handled. -/
def Delivered (cw : XWindow) (w : World) (env : ImportEnv) (ev : XEvent) (rest : List XEvent) : Prop :=
  ∃ s x', EventFrame cw w.bridge s ∧ s.Published ∧
    Delivers cw w env { w.x with inbox := rest } ev s x' ∧
    w.handle (.deliver env) = ⟨{ w.toExportState with bridge := s }, x'⟩

section Events

variable {ev : XEvent} {rest : List XEvent} {env : ImportEnv}

/-- A handler that sends nothing leaves the server alone. -/
theorem delivered_of_quiet (hinbox : w.x.inbox = ev :: rest) {s : Bridge}
    (hs : handleEvent w.x env w.bridge ev = s) (hout : s.out = w.bridge.out)
    (hframe : EventFrame cw w.bridge s) (hpub : s.Published)
    (hdelivers : Delivers cw w env { w.x with inbox := rest } ev s { w.x with inbox := rest }) :
    Delivered cw w env ev rest := by
  refine ⟨s, _, hframe, hpub, hdelivers, ?_⟩
  rw [deliver_eq hinbox env, hs]
  exact serve_of_same _ _ hout

/-- A change of owner is noted, and another client's text asked for. -/
theorem deliver_xfixesSelectionNotify (hinv : w.Inv cw) {sel : Selection} {owner : Option XWindow}
    (hinbox : w.x.inbox = .xfixesSelectionNotify sel owner :: rest) :
    Delivered cw w env (.xfixesSelectionNotify sel owner) rest := by
  have hwin := hinv.window
  have hev := (Bridge.handleXfixesSelectionNotify_evolves w.bridge sel owner).published
    hinv.side.published
  -- only of another client's selection is the text asked for
  by_cases hforeign : ∃ window, owner = some window ∧ window ≠ cw
  · obtain ⟨window, rfl, hne⟩ := hforeign
    have heq := w.bridge.handleXfixesSelectionNotify_of_foreign sel (hwin ▸ hne)
    rw [heq] at hev
    refine ⟨_, _, EventFrame.of_flag hwin sel false _, hev,
      .asks sel window _ hne (SameOffer.of_flag w.bridge sel false _), ?_⟩
    rw [deliver_eq hinbox env, handleEvent, heq]
    refine (serve_of_sent _ _ _ rfl).trans ?_
    simp only [List.foldl_cons, List.foldl_nil, XServer.process, Selection.ofAtom_toAtom, hwin]
    rfl
  · have hnot : owner = none ∨ owner = some w.bridge.clipboardWindow := by
      cases owner with
      | none => exact Or.inl rfl
      | some window =>
        refine Or.inr (congrArg some ?_)
        by_contra hne
        exact hforeign ⟨window, rfl, hwin ▸ hne⟩
    obtain ⟨own, heq⟩ := w.bridge.handleXfixesSelectionNotify_of_not_foreign sel hnot
    rw [heq] at hev
    refine delivered_of_quiet hinbox heq rfl (EventFrame.of_flag hwin sel own w.bridge.out) hev
      (.nothing _ _ (SameOffer.of_flag w.bridge sel own w.bridge.out) ?_ (fun _ h => nomatch h)
        (fun _ h => nomatch h))
    rintro sel' window ⟨⟩
    by_contra hne
    exact hforeign ⟨window, rfl, hne⟩

/-- A request is answered to the client that made it. -/
theorem deliver_selectionRequest (hinv : w.Inv cw) {req : SelectionRequest}
    (hinbox : w.x.inbox = .selectionRequest req :: rest) :
    Delivered cw w env (.selectionRequest req) rest := by
  have hwin := hinv.window
  have hpub := hinv.side.published
  have hwin' : ({ w with x := { w.x with inbox := rest } } : World).bridge.clipboardWindow = cw := hwin
  by_cases hself : req.requestor = cw
  · -- the bridge has asked itself
    obtain ⟨sel, rfl⟩ := hinv.flight.requests req (by rw [hinbox]; exact List.mem_cons_self) hself
    have hreq := w.bridge.handleSelectionRequest_self sel hwin
    obtain ⟨sent, heq, hsent⟩ := Bridge.handleSelectionRequest_answers w.bridge
      ⟨cw, sel.toAtom, .utf8String, some sel.property⟩ hpub
    have hpub' := hpub.answer hsent
    rw [← heq, hreq] at hpub'
    refine ⟨_, _, .of_out hwin _, hpub', .answers sel _ ⟨rfl, fun _ => rfl⟩, ?_⟩
    rw [deliver_eq hinbox env, handleEvent, hreq]
    refine (serve_of_sent _ _ _ rfl).trans ?_
    rw [hwin']
    unfold answerSelf
    cases (w.bridge.channel sel).outText with
    | none => simp [XServer.process]
    | some text => simp [XServer.process]
  -- a client has asked
  · obtain ⟨sent, heq, hsent⟩ := Bridge.handleSelectionRequest_answers w.bridge req hpub
    refine ⟨_, _, .of_out hwin _, hpub.answer hsent, .nothing _ _ ⟨rfl, fun _ => rfl⟩
      (fun _ _ h => nomatch h) ?_ (fun _ h => nomatch h), ?_⟩
    · rintro sel ⟨⟩
      exact hself rfl
    · rw [deliver_eq hinbox env, handleEvent, heq]
      refine (serve_of_sent _ _ _ rfl).trans ?_
      rw [hwin', process_answers hsent hself]

/-- A converted text is fetched and offered to Wayland. -/
theorem deliver_selectionNotify (hinv : w.Inv cw) {notify : SelectionNotify}
    (hinbox : w.x.inbox = .selectionNotify notify :: rest) :
    Delivered cw w env (.selectionNotify notify) rest := by
  have hwin := hinv.window
  have hpub := hinv.side.published
  obtain ⟨sel, rfl | rfl⟩ := hinv.flight.notifies notify (by rw [hinbox]; exact List.mem_cons_self)
  · -- the conversion was refused
    refine delivered_of_quiet hinbox rfl rfl (.of_out hwin w.bridge.out) hpub
      (.nothing _ _ ⟨rfl, fun _ => rfl⟩ (fun _ _ h => nomatch h) (fun _ h => nomatch h) ?_)
    intro sel' h
    simp at h
  · have heq : handleEvent w.x env w.bridge
        (.selectionNotify ⟨cw, sel.toAtom, some sel.property⟩) = _ :=
      w.bridge.handleSelectionNotify_eq sel hwin (propertyReply w.x (some sel.property)) env
    -- the property may be gone, too long, of another type or without memory
    cases hreply : propertyReply w.x (some sel.property) with
    | none =>
      rw [hreply] at heq
      refine delivered_of_quiet hinbox heq rfl
        (.of_out hwin w.bridge.out) hpub (.refuses sel ?_)
      rintro reply h
      rw [hreply] at h
      cases h
    | some reply =>
      rw [hreply] at heq
      dsimp only at heq
      split at heq
      · next hnot =>
        refine delivered_of_quiet hinbox heq rfl
          (.of_out hwin w.bridge.out) hpub (.refuses sel ?_)
        rintro reply' h
        rw [hreply] at h
        cases h
        exact hnot
      · next hall =>
        obtain ⟨hvalue, hrest⟩ := not_or.mp hall
        obtain ⟨htype, hmem⟩ := not_or.mp hrest
        exact delivered_of_quiet hinbox heq
          (by unfold Bridge.offerX11TextToWayland; dsimp only; split <;> rfl)
          (.of_import hwin sel reply.value env)
          ((Bridge.offerX11TextToWayland_evolves w.bridge sel reply.value env).published hpub)
          (.imports sel reply hreply hvalue htype (by simpa using hmem))

end Events

/-- **Handling an event.** One case per event. -/
theorem deliver_cases (hinv : w.Inv cw) {ev : XEvent} {rest : List XEvent}
    (hinbox : w.x.inbox = ev :: rest) (env : ImportEnv) :
    ∃ s x', EventFrame cw w.bridge s ∧ s.Published ∧
      Delivers cw w env { w.x with inbox := rest } ev s x' ∧
      w.handle (.deliver env) = ⟨{ w.toExportState with bridge := s }, x'⟩ := by
  cases ev with
  | xfixesSelectionNotify sel owner => exact deliver_xfixesSelectionNotify hinv hinbox
  | selectionClear sel =>
    have hev := (Bridge.clipboardHandleSelectionClear_evolves w.bridge sel.toAtom).published
      hinv.side.published
    -- the selection is the other's now: a flag, and nothing that is offered
    have heq := w.bridge.clipboardHandleSelectionClear_eq sel
    rw [heq] at hev
    exact delivered_of_quiet hinbox heq rfl (EventFrame.of_flag hinv.window sel false w.bridge.out) hev
      (.nothing _ _ (SameOffer.of_flag w.bridge sel false w.bridge.out) (fun _ _ h => nomatch h)
        (fun _ h => nomatch h) (fun _ h => nomatch h))
  | selectionRequest req => exact deliver_selectionRequest hinv hinbox
  | selectionNotify notify => exact deliver_selectionNotify hinv hinbox

end Cases

/-! ## The invariant -/

namespace InFlight

variable {cw : XWindow} {x x' : XServer}

/-- More events, none of them a request or an answer of the wrong form. -/
theorem append (h : InFlight cw x) (evs : List XEvent) (hinbox : x'.inbox = x.inbox ++ evs)
    (hconv : x'.conversions = x.conversions)
    (hreq : ∀ req, .selectionRequest req ∈ evs → req.requestor = cw →
      ∃ sel : Selection, req = ⟨cw, sel.toAtom, .utf8String, some sel.property⟩)
    (hnotify : ∀ ev, .selectionNotify ev ∈ evs →
      ∃ sel : Selection, ev = ⟨cw, sel.toAtom, none⟩ ∨ ev = ⟨cw, sel.toAtom, some sel.property⟩) :
    InFlight cw x' where
  requests := by
    intro req hmem hself
    rw [hinbox, List.mem_append] at hmem
    rcases hmem with hmem | hmem
    · exact h.requests req hmem hself
    · exact hreq req hmem hself
  notifies := by
    intro ev hmem
    rw [hinbox, List.mem_append] at hmem
    rcases hmem with hmem | hmem
    · exact h.notifies ev hmem
    · exact hnotify ev hmem
  conversions := by rw [hconv]; exact h.conversions

/-- One more event: it tells of a conversion of the bridge's, done or refused. -/
theorem notify (h : InFlight cw x) {sel : Selection} {property : Option Atom}
    (hinbox : x'.inbox = x.inbox ++ [.selectionNotify ⟨cw, sel.toAtom, property⟩])
    (hconv : x'.conversions = x.conversions)
    (hproperty : property = none ∨ property = some sel.property) : InFlight cw x' := by
  refine h.append _ hinbox hconv ?_ ?_
  · intro req hmem
    simp at hmem
  · intro ev hmem
    simp only [List.mem_singleton, XEvent.selectionNotify.injEq] at hmem
    rw [hmem]
    exact ⟨sel, hproperty.imp (congrArg _) (congrArg _)⟩

/-- Fewer events. -/
theorem tail (h : InFlight cw x) {ev : XEvent} {rest : List XEvent} (hinbox : x.inbox = ev :: rest) :
    InFlight cw { x with inbox := rest } :=
  ⟨fun req hmem => h.requests req (by rw [hinbox]; exact List.mem_cons_of_mem _ hmem),
    fun ev' hmem => h.notifies ev' (by rw [hinbox]; exact List.mem_cons_of_mem _ hmem),
    h.conversions⟩

/-- A new owner is announced behind what is under way. -/
theorem take (h : InFlight cw x) (sel : Selection) (text : Text) :
    InFlight cw (World.take cw sel text x) := by
  refine h.append _ rfl rfl ?_ ?_
  · intro req hmem
    simp at hmem
  · intro ev hmem
    simp at hmem

/-- A conversion is on its way to its owner. -/
theorem ask (h : InFlight cw x) (sel : Selection) : InFlight cw (World.ask cw sel x) := by
  unfold World.ask XServer.convert
  dsimp only
  split
  · exact h.notify rfl rfl (.inl rfl)
  · refine h.append _ rfl rfl ?_ ?_
    · intro req hmem _
      simp only [List.mem_singleton, XEvent.selectionRequest.injEq] at hmem
      exact ⟨sel, hmem⟩
    · intro ev hmem
      simp at hmem
  · refine ⟨h.requests, h.notifies, fun c hmem => ?_⟩
    rcases List.mem_append.mp hmem with hmem | hmem
    · exact h.conversions c hmem
    · rw [List.mem_singleton.mp hmem]

/-- The bridge's own answer comes back to it, -/
theorem answerSelf (h : InFlight cw x) (sel : Selection) (text : Option Text) :
    InFlight cw (World.answerSelf cw sel text x) := by
  cases text with
  | none =>
    exact h.notify rfl rfl (.inl rfl)
  | some text =>
    exact h.notify rfl rfl (.inr rfl)

/-- a client that copies owns the selection from then on, -/
theorem copy (h : InFlight cw x) (sel : Selection) (window : XWindow) (text : Text) :
    InFlight cw (World.copy sel window text x) := by
  refine h.append ((if x.owner sel = .bridge then [.selectionClear sel] else []) ++
    [.xfixesSelectionNotify sel (some window)]) ?_ rfl ?_ ?_
  · exact List.append_assoc ..
  · intro req hmem
    split at hmem <;> simp at hmem
  · intro ev hmem
    split at hmem <;> simp at hmem

/-- and a client that answers has put its text into the property. -/
theorem answer (h : InFlight cw x) (i : Nat) (text : Option Text) :
    InFlight cw (World.answer cw i text x) := by
  unfold World.answer
  split
  · exact h
  · next c hc =>
    have hproperty := h.conversions c (List.mem_of_getElem? hc)
    have herased : InFlight cw { x with conversions := x.conversions.eraseIdx i } :=
      ⟨h.requests, h.notifies, fun c' hmem => h.conversions c' (List.mem_of_mem_eraseIdx hmem)⟩
    dsimp only
    split
    · exact herased.notify rfl rfl (.inl rfl)
    · exact herased.notify rfl rfl (.inr (congrArg some hproperty))

end InFlight

end World

/-- The clipboard window is always the same. -/
theorem ExportState.handle_clipboardWindow {w : ExportState} (hinv : w.Inv) {a : ExportAction}
    (hen : w.enabled a = true) :
    (w.handle a).bridge.clipboardWindow = w.bridge.clipboardWindow := by
  cases ha : ofPipe a with
  | false =>
    cases a with
    | write | close | callback | read => cases ha
    | select sel source env => rw [handle_select]
  | true =>
    have h := handle_ending hinv ha hen
    split at h
    · exact (congrArg Bridge.clipboardWindow h.bridge :)
    -- published, or given up
    · rw [h]
      unfold Bridge.publishCollected Bridge.clipboardSetX11Owner
      dsimp only
      split
      · split <;> rfl
      · rfl
    · rw [h]; rfl

namespace World

namespace Inv

variable {cw : XWindow} {w w' : World}

/-- `clipboard_init` asks for both selections. -/
theorem init_eq (cw : XWindow) (host : Selection → Option (XWindow × Text)) :
    init cw host = ⟨{ ExportState.init cw with bridge := (Bridge.fresh cw).clipboardInit },
      ask cw .primary (ask cw .clipboard (before cw host).x)⟩ := by
  unfold init
  refine (serve_of_sent _ _ [.deleteProperty .wlxClipboard,
    .convertSelection .clipboard .utf8String .wlxClipboard, .deleteProperty .wlxPrimary,
    .convertSelection .primary .utf8String .wlxPrimary] rfl).trans ?_
  simp only [List.foldl_cons, List.foldl_nil, XServer.process, Selection.ofAtom]
  rfl

/-- Nothing is under way at the start. -/
theorem init (cw : XWindow) (host : Selection → Option (XWindow × Text)) :
    Inv cw (World.init cw host) := by
  rw [init_eq]
  refine ⟨rfl, ?_, InFlight.ask (InFlight.ask ⟨?_, ?_, ?_⟩ _) _⟩
  · exact ⟨rfl, (fun h => nomatch h), fun _ => rfl, Nat.zero_le _, (fun _ h => nomatch h),
      (fun _ _ h => nomatch h), fun _ => rfl, Bridge.clipboardInit_published cw⟩
  · exact fun _ hmem => nomatch hmem
  · exact fun _ hmem => nomatch hmem
  · exact fun _ hmem => nomatch hmem

/-- **Every step keeps the invariant.** -/
theorem step (hinv : w.Inv cw) {a : WorldAction} (hstep : w.step a = some w') : w'.Inv cw := by
  obtain ⟨hen, rfl⟩ := step_eq_some.mp hstep
  cases a with
  | seat a =>
    have hside := hinv.side.step (ExportState.step_eq_some.mpr ⟨hen, rfl⟩)
    have hwin := (ExportState.handle_clipboardWindow hinv.side hen).trans hinv.window
    rcases seat_cases hinv hen with ⟨env, -, -, -, -, heq⟩ | heq <;> rw [heq]
    · exact ⟨hwin, hside, hinv.flight.take _ _⟩
    · exact ⟨hwin, hside, hinv.flight⟩
  -- an event is handled, and what it sends is served at once
  | deliver env =>
    cases hinbox : w.x.inbox with
    | nil => simp [enabled, hinbox] at hen
    | cons ev rest =>
      obtain ⟨s, x', hframe, hpub, hdelivers, heq⟩ := deliver_cases hinv hinbox env
      rw [heq]
      refine ⟨hframe.window, hinv.side.of_event hframe hpub, ?_⟩
      have htail := hinv.flight.tail hinbox
      cases hdelivers with
      | asks sel owner s hforeign hsame => exact htail.ask sel
      | answers sel s hsame => exact htail.answerSelf sel _
      | imports | refuses | nothing => exact htail
  | xCopy sel window text => exact ⟨hinv.window, hinv.side, hinv.flight.copy sel window text⟩
  | xRequest req =>
    refine ⟨hinv.window, hinv.side, hinv.flight.append [.selectionRequest req] rfl rfl ?_ ?_⟩
    · intro req' hmem hself
      simp only [List.mem_singleton, XEvent.selectionRequest.injEq] at hmem
      subst hmem
      simp [enabled, hinv.window, hself] at hen
    · intro ev hmem
      simp at hmem
  | xReply i text =>
    refine ⟨hinv.window, hinv.side, ?_⟩
    show InFlight cw (World.answer w.bridge.clipboardWindow i text w.x)
    rw [hinv.window]
    exact hinv.flight.answer i text

end Inv

end World

end Wlx
