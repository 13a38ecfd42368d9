import WlX11.Lib.Run
import WlX11.Dnd

/-!
# WlX11 — every selection request is answered once

Two handlers share the `SelectionRequest`s: `dnd_handle_selection_request` looks first, and what it
does not answer goes to `clipboard_handle_selection_request`. They serve three texts of different
lifetimes: `clip_out_text`, `pri_out_text`, and `dnd_out_text` while a session is active.

Here nothing is ever served, so `Bridge.out` is the log of all requests the bridge has sent, and the
text last published for a selection can be read off it.

* **`Evolves`** — what every other handler does: it sends no `SelectionNotify`, and keeps each stored
  text the one last published. One lemma per handler.
* **`selection_requests_answered`** — along every run of the handlers in any order, a
  `SelectionRequest` is answered by exactly one `SelectionNotify`.
-/

namespace Wlx

namespace XRequest

/-- A `SelectionNotify`. -/
def isSelectionNotify : XRequest → Bool
  | .selectionNotify .. => true
  | _ => false

/-- The text with which the request takes `selection`. -/
def offerOf (selection : Atom) : XRequest → Option Text
  | .setSelectionOwner selection' (some text) => if selection' = selection then some text else none
  | _ => none

end XRequest

/-- The text last published for `selection`. -/
def lastOffer (selection : Atom) (log : List XRequest) : Option Text :=
  (log.filterMap (·.offerOf selection)).getLast?

/-- A request that takes the selection replaces the text; any other leaves it alone. -/
theorem lastOffer_append (selection : Atom) (log : List XRequest) (req : XRequest) :
    lastOffer selection (log ++ [req]) = (req.offerOf selection).or (lastOffer selection log) := by
  unfold lastOffer
  rw [List.filterMap_append]
  cases h : req.offerOf selection with
  | none => simp [h]
  | some text => simp [h]

namespace Bridge

/-- Each stored text is the one last published for its selection. -/
structure Published (s : Bridge) : Prop where
  channel : ∀ sel text, (s.channel sel).outText = some text →
    lastOffer sel.toAtom s.out = some text
  session : ∀ text, s.dndOut.text = some text → lastOffer .xdndSelection s.out = some text

/-- What a handler other than the two does. -/
structure Evolves (s s' : Bridge) : Prop where
  sent : ∃ sent, s'.out = s.out ++ sent ∧ ∀ req ∈ sent, req.isSelectionNotify = false
  published : s.Published → s'.Published

namespace Evolves

variable {s s' s'' : Bridge}

theorem refl (s : Bridge) : Evolves s s :=
  ⟨⟨[], (List.append_nil _).symm, (fun _ h => nomatch h)⟩, id⟩

/-- Handlers that are taken apart at their calls send one after the other. -/
theorem trans (h : Evolves s s') (h' : Evolves s' s'') : Evolves s s'' where
  sent := by
    obtain ⟨sent, hout, hnot⟩ := h.sent
    obtain ⟨sent', hout', hnot'⟩ := h'.sent
    refine ⟨sent ++ sent', by rw [hout', hout, List.append_assoc], fun req hreq => ?_⟩
    rcases List.mem_append.mp hreq with hreq | hreq
    · exact hnot req hreq
    · exact hnot' req hreq
  published := h'.published ∘ h.published

/-- Nothing is sent, and texts are kept or freed. -/
theorem of_fields (hout : s'.out = s.out)
    (hchannel : ∀ sel, (s'.channel sel).outText = none ∨
      (s'.channel sel).outText = (s.channel sel).outText)
    (htext : s'.dndOut.text = none ∨ s'.dndOut.text = s.dndOut.text) : Evolves s s' where
  sent := ⟨[], by rw [hout, List.append_nil], (fun _ h => nomatch h)⟩
  published := by
    intro h
    refine ⟨fun sel text htext' => ?_, fun text htext' => ?_⟩
    · rw [hout]
      rcases hchannel sel with hnone | hsame
      · rw [hnone] at htext'; cases htext'
      · exact h.channel sel text (hsame ▸ htext')
    · rw [hout]
      rcases htext with hnone | hsame
      · rw [hnone] at htext'; cases htext'
      · exact h.session text (hsame ▸ htext')

/-- A request that takes no selection and answers nobody. -/
theorem send (s : Bridge) {req : XRequest} (hnot : req.isSelectionNotify = false)
    (hoffer : ∀ selection, req.offerOf selection = none) : Evolves s (s.send req) where
  sent := ⟨[req], rfl, by simpa using hnot⟩
  published := by
    intro h
    refine ⟨fun sel text htext => ?_, fun text htext => ?_⟩
    · rw [send_out, lastOffer_append, hoffer, Option.none_or]
      exact h.channel sel text htext
    · rw [send_out, lastOffer_append, hoffer, Option.none_or]
      exact h.session text htext

end Evolves

section Clipboard

variable (s : Bridge)

@[simp] theorem setChannel_out (sel : Selection) (c : Channel) : (s.setChannel sel c).out = s.out :=
  rfl

/-- The other selection's record is another matter. -/
@[simp] theorem setChannel_channel (sel sel' : Selection) (c : Channel) :
    (s.setChannel sel c).channel sel' = if sel' = sel then c else s.channel sel' :=
  Function.update_apply ..

/-- A change of one selection that keeps its text. -/
theorem setChannel_evolves (sel : Selection) {c : Channel}
    (h : c.outText = (s.channel sel).outText) : Evolves s (s.setChannel sel c) := by
  refine .of_fields rfl (fun sel' => ?_) (Or.inr rfl)
  rw [setChannel_channel]
  split
  · next heq => exact Or.inr (heq ▸ h)
  · exact Or.inr rfl

/-- **Publishing**: what is stored is what is offered, or nothing is stored. -/
theorem clipboardSetX11Owner_evolves (env : PublishEnv) (text : Text) (sel : Selection) :
    Evolves s (s.clipboardSetX11Owner env text sel) := by
  unfold clipboardSetX11Owner
  dsimp only
  split
  -- no memory: the old text is freed and nothing is offered
  · refine .of_fields rfl (fun sel' => ?_) (Or.inr rfl)
    rw [setChannel_channel]
    split
    · exact Or.inl rfl
    · exact Or.inr rfl
  · refine ⟨⟨[_], rfl, by simp [XRequest.isSelectionNotify]⟩, fun h => ⟨fun sel' t ht => ?_, fun t ht => ?_⟩⟩
    · rw [send_channel, setChannel_channel] at ht
      rw [send_out, lastOffer_append, setChannel_out]
      split at ht
      · next heq =>
        split at ht
        · cases ht
        · cases ht
          rw [heq, XRequest.offerOf, if_pos rfl]
          rfl
      · next hne =>
        rw [XRequest.offerOf, if_neg (by simpa using Ne.symm hne), Option.none_or]
        exact h.channel sel' t ht
    · rw [send_out, lastOffer_append, setChannel_out, XRequest.offerOf,
        if_neg (by cases sel <;> decide), Option.none_or]
      exact h.session t ht

/-- What was read so far was not published. -/
theorem clipboardClearRead_evolves : Evolves s s.clipboardClearRead :=
  .of_fields rfl (fun _ => Or.inr rfl) (Or.inr rfl)

/-- A text that has been read is published before the read is cleared. -/
theorem publishCollected_evolves (env : PublishEnv) : Evolves s (s.publishCollected env) := by
  unfold publishCollected
  dsimp only
  refine Evolves.trans ?_ (clipboardClearRead_evolves _)
  split
  · exact clipboardSetX11Owner_evolves s env _ _
  · exact .refl s

/-- At the end of a text it is published, even if the reader is gone. -/
theorem clipboardReadFd_evolves (mask : Mask) (env : PublishEnv) :
    Evolves s (s.clipboardReadFd mask env).1 := by
  unfold clipboardReadFd
  split
  · exact publishCollected_evolves s env
  · exact .refl s

/-- A read that goes on, or fails, publishes nothing; one at its end publishes. -/
theorem clipboardReadChunk_evolves (result : ReadResult) (env : PublishEnv) :
    Evolves s (s.clipboardReadChunk result env).1 := by
  cases result with
  | again => exact .refl s
  | failed => exact clipboardClearRead_evolves s
  | eof => exact publishCollected_evolves s env
  | data chunk grown =>
    unfold clipboardReadChunk
    dsimp only
    split
    · exact clipboardClearRead_evolves s
    · split
      · exact clipboardClearRead_evolves s
      · exact .of_fields rfl (fun _ => Or.inr rfl) (Or.inr rfl)

/-- An export starts a read and publishes later. -/
theorem exportWaylandSource_evolves (sel : Selection) (mime : Option Mime) (env : ExportEnv) :
    Evolves s (s.exportWaylandSource sel mime env) := by
  unfold exportWaylandSource
  split
  · exact .refl s
  · dsimp only
    split <;> exact .of_fields rfl (fun _ => Or.inr rfl) (Or.inr rfl)

/-- A new Wayland selection is recorded and exported, whichever of the two it is. -/
theorem requestSetSelection_evolves (sel : Selection) (source : Option Source) (env : ExportEnv) :
    Evolves s (s.requestSetSelection sel source env) := by
  -- the seat's own record is not the bridge's
  have hseat (sources : Selection → SeatSource) : Evolves s { s with seat := sources } :=
    .of_fields rfl (fun _ => Or.inr rfl) (Or.inr rfl)
  cases sel with
  | clipboard =>
    unfold requestSetSelection serverRequestSetSelection
    dsimp only
    split
    · exact hseat _
    · split
      · exact hseat _
      · exact (hseat _).trans (exportWaylandSource_evolves ..)
  | primary =>
    unfold requestSetSelection serverRequestSetPrimarySelection
    dsimp only
    split
    · exact hseat _
    · split
      · exact hseat _
      · exact (hseat _).trans (exportWaylandSource_evolves ..)

/-- An import changes what is offered to Wayland only. -/
theorem offerX11TextToWayland_evolves (sel : Selection) (text : Text) (env : ImportEnv) :
    Evolves s (s.offerX11TextToWayland sel text env) := by
  unfold offerX11TextToWayland
  dsimp only
  have hin : Evolves s (s.setChannel sel { s.channel sel with inText := some text }) :=
    setChannel_evolves s sel rfl
  split
  · refine hin.trans ((setChannel_evolves _ sel ?_).trans
      (.of_fields rfl (fun _ => Or.inr rfl) (Or.inr rfl)))
    rfl
  · exact hin

/-- To ask for the text of another X client is no answer. -/
theorem clipboardRequestFromX11_evolves (sel : Selection) :
    Evolves s (s.clipboardRequestFromX11 sel) := by
  unfold clipboardRequestFromX11
  split
  · exact .refl s
  · exact (Evolves.send s rfl fun _ => rfl).trans (.send _ rfl fun _ => rfl)

/-- A converted text is offered to Wayland, or dropped. -/
theorem clipboardHandleSelectionNotify_evolves (ev : SelectionNotify) (reply : Option PropertyReply)
    (env : ImportEnv) : Evolves s (s.clipboardHandleSelectionNotify ev reply env) := by
  unfold clipboardHandleSelectionNotify
  split
  · exact .refl s
  · dsimp only
    split
    · exact .refl s
    · split
      · exact .refl s
      · split
        · exact .refl s
        · split <;> exact offerX11TextToWayland_evolves s _ _ env

/-- To lose a selection stores no text. -/
theorem clipboardHandleSelectionClear_evolves (selection : Atom) :
    Evolves s (s.clipboardHandleSelectionClear selection) := by
  unfold clipboardHandleSelectionClear
  split
  · exact setChannel_evolves s _ rfl
  · split
    · exact setChannel_evolves s _ rfl
    · exact .refl s

/-- A change of owner is noted, and a text of another owner asked for. -/
theorem handleXfixesSelectionNotify_evolves (sel : Selection) (owner : Option XWindow) :
    Evolves s (s.handleXfixesSelectionNotify sel owner) := by
  have hown : Evolves s (s.setChannel sel
      { s.channel sel with weOwnX11 := decide (owner = some s.clipboardWindow) }) :=
    setChannel_evolves s sel rfl
  unfold handleXfixesSelectionNotify
  dsimp only
  split
  · exact hown.trans (clipboardRequestFromX11_evolves _ sel)
  · exact hown

end Clipboard

section Dnd

variable (s : Bridge)

/-- A change of the outbound session that keeps its text, or frees it. -/
theorem setDndOut_evolves {o : DndOut} (h : o.text = none ∨ o.text = s.dndOut.text) :
    Evolves s { s with dndOut := o } :=
  .of_fields rfl (fun _ => Or.inr rfl) h

theorem setDndIn_evolves (i : DndIn) : Evolves s { s with dndIn := i } :=
  .of_fields rfl (fun _ => Or.inr rfl) (Or.inr rfl)

/-- A message of the drag protocol takes no selection. -/
theorem dndSendClientMessage_evolves (target : XWindow) (message : XdndMessage) :
    Evolves s (s.dndSendClientMessage target message) :=
  .send s rfl fun _ => rfl

/-- The text stays with the session when its target goes, -/
theorem dndOutLeave_evolves : Evolves s s.dndOutLeave := by
  unfold dndOutLeave
  split
  · exact .refl s
  · exact (dndSendClientMessage_evolves s _ _).trans (setDndOut_evolves _ (Or.inr rfl))

/-- and is freed at the end of the session. -/
theorem dndOutFinish_evolves (owned : Bool) : Evolves s (s.dndOutFinish owned) := by
  have hfreed : Evolves s { s.dndOutLeave with
      dndOut := { s.dndOutLeave.dndOut with active := false, drag := false, text := none, isUri := false } } :=
    (dndOutLeave_evolves s).trans (setDndOut_evolves _ (Or.inl rfl))
  unfold dndOutFinish
  dsimp only
  split
  · exact hfreed.trans (.send _ rfl fun _ => rfl)
  · exact hfreed

/-- A target is left before another one is entered. -/
theorem dndOutEnter_evolves (target : XWindow) (version : Int) :
    Evolves s (s.dndOutEnter target version) := by
  unfold dndOutEnter
  split
  · exact .refl s
  · refine ((dndOutLeave_evolves s).trans (setDndOut_evolves _ ?_)).trans
      (dndSendClientMessage_evolves _ target _)
    exact Or.inr rfl

/-- Following the pointer sends messages of the protocol. -/
theorem dndOutUpdatePosition_evolves (view : PointerView) :
    Evolves s (s.dndOutUpdatePosition view) := by
  unfold dndOutUpdatePosition
  split
  · exact .refl s
  · split
    · exact .refl s
    · split
      · exact dndOutLeave_evolves s
      · split
        · exact dndOutLeave_evolves s
        · exact (dndOutEnter_evolves s _ _).trans (dndSendClientMessage_evolves _ _ _)

/-- So does a release. -/
theorem dndOutOnButtonRelease_evolves (owned : Bool) :
    Evolves s (s.dndOutOnButtonRelease owned) := by
  unfold dndOutOnButtonRelease
  split
  · exact .refl s
  · split
    · exact dndOutFinish_evolves s owned
    · split
      · exact dndSendClientMessage_evolves s _ _
      · exact dndOutFinish_evolves s owned

/-- An answer to the source of an inbound drag is a message too. -/
theorem dndReplyToSource_evolves (message : XdndMessage) :
    Evolves s (s.dndReplyToSource message) := by
  unfold dndReplyToSource
  split
  · exact .refl s
  · exact dndSendClientMessage_evolves s _ _

/-- Messages of the protocol, in either direction. -/
theorem dndHandleClientMessage_evolves (ev : ClientMessage) (owned : Bool) :
    Evolves s (s.dndHandleClientMessage ev owned) := by
  -- replies go to the session, everything else changes the inbound state or sends
  unfold dndHandleClientMessage
  split
  · exact .refl s
  · split
    · split
      · exact setDndOut_evolves s (Or.inr rfl)
      · exact .refl s
    · split
      · exact dndOutFinish_evolves s owned
      · exact .refl s
    · exact setDndIn_evolves s _
    · split
      · exact dndReplyToSource_evolves s _
      · exact .refl s
    · exact setDndIn_evolves s _
    · split
      · exact (Evolves.send s rfl fun _ => rfl).trans (.send _ rfl fun _ => rfl)
      · exact .refl s

/-- A text that is dropped by another client is given to Wayland. -/
theorem dndHandleSelectionNotify_evolves (ev : SelectionNotify) (reply : Option PropertyReply)
    (env : ImportEnv) : Evolves s (s.dndHandleSelectionNotify ev reply env) := by
  unfold dndHandleSelectionNotify
  split
  · exact .refl s
  · dsimp only
    have hread : Evolves s (s.send (.deleteProperty .wlxDnd)) := .send s rfl fun _ => rfl
    split
    · exact (hread.trans (dndReplyToSource_evolves _ _)).trans (setDndIn_evolves _ _)
    · refine Evolves.trans ?_ (setDndIn_evolves _ _)
      refine Evolves.trans ?_ (dndReplyToSource_evolves _ _)
      split
      · exact hread.trans (offerX11TextToWayland_evolves ..)
      · exact hread

/-- A drag that starts may be waiting for its text. -/
theorem serverStartDrag_evolves (source : Option Source) (pipe : Bool) :
    Evolves s (s.serverStartDrag source pipe).1 := by
  have hdrag : Evolves s { s with dndOut := { s.dndOut with drag := true } } :=
    setDndOut_evolves s (Or.inr rfl)
  unfold serverStartDrag
  dsimp only
  split
  · exact hdrag
  · refine hdrag.trans ?_
    unfold dndOutBeginFromSource
    split
    · exact .refl _
    · exact setDndOut_evolves _ (Or.inr rfl)

/-- A session begins with the text it offers. -/
theorem dndOutPrepared_evolves (text : Text) (view : PointerView) :
    Evolves s (s.dndOutPrepared text view) := by
  unfold dndOutPrepared
  split
  · exact .refl s
  · refine Evolves.trans ⟨⟨[_], rfl, by simp [XRequest.isSelectionNotify]⟩, fun h => ⟨?_, ?_⟩⟩
      (dndOutUpdatePosition_evolves _ view)
    · intro sel t ht
      rw [send_out, lastOffer_append, XRequest.offerOf, if_neg (by cases sel <;> decide),
        Option.none_or]
      exact h.channel sel t ht
    · intro t ht
      cases ht
      rw [send_out, lastOffer_append, XRequest.offerOf, if_pos rfl]
      rfl

/-- A drag that ends ends its session, unless the target still has to answer. -/
theorem dragDestroy_evolves (owned : Bool) : Evolves s (s.dragDestroy owned) := by
  have hdrag : Evolves s { s with dndOut := { s.dndOut with drag := false } } :=
    setDndOut_evolves s (Or.inr rfl)
  unfold dragDestroy
  dsimp only
  split
  · exact hdrag
  · exact hdrag.trans (dndOutFinish_evolves _ owned)

end Dnd

/-! ## The two that answer -/

/-- What may be stored for a request: the list of targets, or the text last published for its
selection. -/
def Serves (s : Bridge) (req : SelectionRequest) (value : PropertyValue) : Prop :=
  (req.selection = .clipboard ∨ req.selection = .primary ∨
      (req.selection = .xdndSelection ∧ s.dndOut.active = true)) ∧
    ∃ text, lastOffer req.selection s.out = some text ∧
      ((req.target = .targets ∧ (value = .atoms clipboardTargets ∨ value = .atoms dndTargets)) ∨
        ∃ type, value = .bytes type text)

/-- The requests that answer `req`: a `SelectionNotify` to the requestor that refuses, or one that
names the property of the request, after a value has been stored there. -/
def Answers (s : Bridge) (req : SelectionRequest) (sent : List XRequest) : Prop :=
  sent = [.selectionNotify req.requestor req.selection req.target none] ∨
    ∃ value, s.Serves req value ∧
      sent = [.changeProperty req.requestor req.property value,
        .selectionNotify req.requestor req.selection req.target req.property]

section Answers

variable (s : Bridge) (req : SelectionRequest)

/-- A request for a selection is answered once, from what is published. -/
theorem clipboardHandleSelectionRequest_answers (h : s.Published) :
    ∃ sent, s.clipboardHandleSelectionRequest req = { s with out := s.out ++ sent } ∧
      s.Answers req sent := by
  -- a property and the notification that names it
  have hboth (r r' : XRequest) : (s.send r).send r' = { s with out := s.out ++ [r, r'] } := by
    simp [send]
  unfold clipboardHandleSelectionRequest
  dsimp only
  split
  · exact ⟨_, rfl, Or.inl rfl⟩
  · next text htext =>
    split
    · exact ⟨_, rfl, Or.inl rfl⟩
    · next hsel =>
      -- the text looked up is the one of the selection asked for
      have hours : (req.selection = .clipboard ∨ req.selection = .primary) ∧
          lastOffer req.selection s.out = some text := by
        by_cases hp : req.selection = .primary
        · rw [if_pos hp] at htext
          exact ⟨Or.inr hp, hp ▸ h.channel .primary text htext⟩
        · have hc : req.selection = .clipboard := by
            by_contra hc
            exact hsel ⟨hp, hc⟩
          rw [if_neg hp] at htext
          exact ⟨Or.inl hc, hc ▸ h.channel .clipboard text htext⟩
      obtain ⟨hsel', hoffer⟩ := hours
      have hserves (value : PropertyValue) (hvalue : (req.target = .targets ∧
          (value = .atoms clipboardTargets ∨ value = .atoms dndTargets)) ∨
            ∃ type, value = .bytes type text) : s.Serves req value :=
        ⟨hsel'.elim Or.inl fun hp => Or.inr (Or.inl hp), text, hoffer, hvalue⟩
      split
      · next htargets =>
        refine ⟨[_, _], hboth _ _, Or.inr ⟨_, hserves _ ?_, rfl⟩⟩
        exact Or.inl ⟨htargets, Or.inl rfl⟩
      · split
        · refine ⟨[_, _], hboth _ _, Or.inr ⟨_, hserves _ ?_, rfl⟩⟩
          exact Or.inr ⟨_, rfl⟩
        · exact ⟨_, rfl, Or.inl rfl⟩

/-- The drag handler answers for its own session, or does nothing at all. -/
theorem dndHandleSelectionRequest_answers (h : s.Published) :
    ((s.dndHandleSelectionRequest req).2 = true ∧
        ∃ sent, (s.dndHandleSelectionRequest req).1 = { s with out := s.out ++ sent } ∧
          s.Answers req sent) ∨
      s.dndHandleSelectionRequest req = (s, false) := by
  have hboth (r r' : XRequest) : (s.send r).send r' = { s with out := s.out ++ [r, r'] } := by
    simp [send]
  unfold dndHandleSelectionRequest
  split
  · exact Or.inr rfl
  · next text htext =>
    split
    · exact Or.inr rfl
    -- a session of ours: it answers with targets, text or a refusal
    · next hsession =>
      obtain ⟨hsel, hactive⟩ := not_or.mp hsession
      rw [not_not] at hsel
      have hserves (value : PropertyValue) (hvalue : (req.target = .targets ∧
          (value = .atoms clipboardTargets ∨ value = .atoms dndTargets)) ∨
            ∃ type, value = .bytes type text) : s.Serves req value :=
        ⟨Or.inr (Or.inr ⟨hsel, by simpa using hactive⟩), text, hsel ▸ h.session text htext, hvalue⟩
      dsimp only
      split
      · next htargets =>
        refine Or.inl ⟨rfl, [_, _], hboth _ _, Or.inr ⟨_, hserves _ ?_, rfl⟩⟩
        exact Or.inl ⟨htargets, Or.inr rfl⟩
      · split
        · refine Or.inl ⟨rfl, [_, _], hboth _ _, Or.inr ⟨_, hserves _ ?_, rfl⟩⟩
          exact Or.inr ⟨_, rfl⟩
        · exact Or.inl ⟨rfl, _, rfl, Or.inl rfl⟩

/-- **A `SelectionRequest` is answered**, by one handler or the other. -/
theorem handleSelectionRequest_answers (h : s.Published) :
    ∃ sent, s.handleSelectionRequest req = { s with out := s.out ++ sent } ∧
      s.Answers req sent := by
  unfold handleSelectionRequest
  rcases dndHandleSelectionRequest_answers s req h with ⟨hanswered, hsent⟩ | hpassed
  · dsimp only
    rw [if_pos hanswered]
    exact hsent
  · rw [hpassed]
    exact clipboardHandleSelectionRequest_answers s req h

end Answers

/-! ## Runs -/

/-- The handlers, with what each is told and what its queries find. -/
inductive Event where
  /-- a client sets the seat's selection: the export of its source starts -/
  | setSelection (sel : Selection) (source : Option Source) (env : ExportEnv)
  | readFd (mask : Mask) (env : PublishEnv)
  | readChunk (result : ReadResult) (env : PublishEnv)
  | xfixesSelectionNotify (sel : Selection) (owner : Option XWindow)
  | selectionNotify (ev : SelectionNotify) (dndReply reply : Option PropertyReply) (env : ImportEnv)
  | selectionClear (selection : Atom)
  | selectionRequest (req : SelectionRequest)
  | startDrag (source : Option Source) (pipe : Bool)
  /-- the read loop of a drag is left with `text` -/
  | dragRead (text : Text) (view : PointerView)
  | motion (view : PointerView)
  | buttonRelease (owned : Bool)
  | dragDestroyed (owned : Bool)
  | clientMessage (ev : ClientMessage) (owned : Bool)
  /-- the X11 windows of our own toplevels change -/
  | windowsChange (windows : List XWindow)

/-- The callbacks of an export come only while it is being read. -/
def accepts (s : Bridge) : Event → Bool
  | .readFd .. | .readChunk .. => s.read.reading
  | _ => true

/-- The handler an event runs. -/
def dispatch (s : Bridge) : Event → Bridge
  | .setSelection sel source env => s.requestSetSelection sel source env
  | .readFd mask env => (s.clipboardReadFd mask env).1
  | .readChunk result env => (s.clipboardReadChunk result env).1
  | .xfixesSelectionNotify sel owner => s.handleXfixesSelectionNotify sel owner
  | .selectionNotify ev dndReply reply env => s.handleSelectionNotify ev dndReply reply env
  | .selectionClear selection => s.clipboardHandleSelectionClear selection
  | .selectionRequest req => s.handleSelectionRequest req
  | .startDrag source pipe => (s.serverStartDrag source pipe).1
  | .dragRead text view => s.dndOutPrepared text view
  | .motion view => s.dndOutUpdatePosition view
  | .buttonRelease owned => s.dndOutOnButtonRelease owned
  | .dragDestroyed owned => s.dragDestroy owned
  | .clientMessage ev owned => s.dndHandleClientMessage ev owned
  | .windowsChange windows => { s with windows := windows }

/-- One event; nothing is served in between. -/
def step (s : Bridge) (e : Event) : Option Bridge :=
  if s.accepts e then some (s.dispatch e) else none

/-- What the requests of an event must be: a `SelectionRequest` is answered, and nothing else is. -/
def Sends (s : Bridge) : Event → List XRequest → Prop
  | .selectionRequest req, sent => s.Answers req sent
  | _, sent => ∀ req ∈ sent, req.isSelectionNotify = false

/-- The event is answered if it asks. -/
def AnswersOnce (s : Bridge) (e : Event) : Prop :=
  ∀ s', s.step e = some s' → ∃ sent, s'.out = s.out ++ sent ∧ s.Sends e sent

/-- Answering takes no selection. -/
theorem Published.answer {s : Bridge} (h : s.Published) {req : SelectionRequest}
    {sent : List XRequest} (hsent : s.Answers req sent) :
    { s with out := s.out ++ sent }.Published := by
  have hnone : ∀ selection, lastOffer selection (s.out ++ sent) = lastOffer selection s.out := by
    intro selection
    rcases hsent with rfl | ⟨value, -, rfl⟩
    · rw [lastOffer_append]; rfl
    · rw [List.append_cons, lastOffer_append, lastOffer_append]; rfl
  exact ⟨fun sel text htext => (hnone _).trans (h.channel sel text htext),
    fun text htext => (hnone _).trans (h.session text htext)⟩

/-- The other handlers. -/
theorem dispatch_evolves (s : Bridge) (e : Event) (h : ∀ req, e ≠ .selectionRequest req) :
    Evolves s (s.dispatch e) := by
  -- one handler per event
  cases e with
  | setSelection sel source env => exact requestSetSelection_evolves s sel source env
  | readFd mask env => exact clipboardReadFd_evolves s mask env
  | readChunk result env => exact clipboardReadChunk_evolves s result env
  | xfixesSelectionNotify sel owner => exact handleXfixesSelectionNotify_evolves s sel owner
  | selectionNotify ev dndReply reply env =>
    exact (dndHandleSelectionNotify_evolves s ev dndReply env).trans
      (clipboardHandleSelectionNotify_evolves _ ev reply env)
  | selectionClear selection => exact clipboardHandleSelectionClear_evolves s selection
  | selectionRequest req => exact absurd rfl (h req)
  | startDrag source pipe => exact serverStartDrag_evolves s source pipe
  | dragRead text view => exact dndOutPrepared_evolves s text view
  | motion view => exact dndOutUpdatePosition_evolves s view
  | buttonRelease owned => exact dndOutOnButtonRelease_evolves s owned
  | dragDestroyed owned => exact dragDestroy_evolves s owned
  | clientMessage ev owned => exact dndHandleClientMessage_evolves s ev owned
  | windowsChange windows => exact .of_fields rfl (fun _ => Or.inr rfl) (Or.inr rfl)

/-- **One event**: it is answered if it asks, and each stored text stays the one last published. -/
theorem dispatch_sends {s : Bridge} (h : s.Published) (e : Event) :
    (s.dispatch e).Published ∧ ∃ sent, (s.dispatch e).out = s.out ++ sent ∧ s.Sends e sent := by
  cases e with
  | selectionRequest req =>
    obtain ⟨sent, heq, hsent⟩ := handleSelectionRequest_answers s req h
    rw [show s.dispatch (.selectionRequest req) = s.handleSelectionRequest req from rfl, heq]
    exact ⟨h.answer hsent, sent, rfl, hsent⟩
  | _ =>
    refine ⟨(dispatch_evolves s _ ?_).published h, (dispatch_evolves s _ ?_).sent⟩ <;>
      exact fun _ heq => nomatch heq

theorem step_eq_some {s s' : Bridge} {e : Event} :
    s.step e = some s' ↔ s.accepts e = true ∧ s.dispatch e = s' := by
  simp [step]

/-- `clipboard_init` publishes nothing. -/
theorem clipboardInit_published (clipboardWindow : XWindow) :
    (fresh clipboardWindow).clipboardInit.Published := by
  have hfresh : (fresh clipboardWindow).Published :=
    ⟨(fun _ _ h => nomatch h), (fun _ h => nomatch h)⟩
  exact ((clipboardRequestFromX11_evolves _ .clipboard).trans
    (clipboardRequestFromX11_evolves _ .primary)).published hfresh

/-- **Selection requests are answered.** Along every run of exports, imports, drags and other
clients' events, every `SelectionRequest` is answered by exactly one `SelectionNotify`, sent to the
requestor. It names no property, or the requested one after the list of targets or the whole text
last published for that selection (for XdndSelection, in an active session) has been stored there.
No other event sends a `SelectionNotify`. -/
theorem selection_requests_answered (clipboardWindow : XWindow) (es : List Event) :
    Run.Along step AnswersOnce (fresh clipboardWindow).clipboardInit es := by
  refine Run.along_of_invariant (I := Published) (P := fun _ _ => True) ?_ ?_
    (clipboardInit_published clipboardWindow) (Run.along_of_forall fun _ _ => trivial)
  · intro s e s' h _ hstep
    obtain ⟨-, rfl⟩ := step_eq_some.mp hstep
    exact (dispatch_sends h e).1
  · intro s e h _ s' hstep
    obtain ⟨-, rfl⟩ := step_eq_some.mp hstep
    exact (dispatch_sends h e).2

end Bridge

end Wlx
