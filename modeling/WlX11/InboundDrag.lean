import WlX11.Lib.Run
import WlX11.Dnd

/-!
# WlX11 — inbound drags

An X11 client drags onto one of our windows: it sends `XdndEnter`, `XdndPosition`, `XdndDrop`; the
bridge converts XdndSelection, and once the conversion is answered it imports the text and owes the
client an `XdndFinished`. Messages of any number of clients come in any order, and a conversion is
answered at any later time, or refused.

Two ghosts record what is owed: the sources of the drops whose conversion is still to be answered,
and for each drop whose conversion has been answered its source and whether its text was imported.

* **`Settled`** — every `XdndFinished` owed has been sent, and no other; outside a session the bridge
  remembers no source.
* **`settled_iff`** — it is so all along a run exactly if every answer is one the bridge gets right.
-/

namespace Wlx

/-- The bridge, and the drops it has acted on. -/
structure InboundState where
  bridge : Bridge
  /-- the sources of the drops whose conversion is under way, oldest first -/
  pending : List (Option XWindow)
  /-- the drops whose conversion has been answered, with whether the text was imported -/
  due : List (Option XWindow × Bool)

inductive InboundAction where
  /-- a client message; `owned` is for the `dnd_out_finish` an `XdndFinished` runs -/
  | message (ev : ClientMessage) (owned : Bool)
  /-- a conversion is answered: with the property or without, and with what `_WLX_DND` holds -/
  | reply (i : Nat) (property : Bool) (stored : Option PropertyReply) (env : ImportEnv)
deriving DecidableEq

/-- `xcb_get_property` asks for `WLX_CLIPBOARD_MAX` bytes. -/
def PropertyReply.cut (stored : PropertyReply) : PropertyReply :=
  { stored with value := stored.value.take wlxClipboardMax }

/-- What is stored is a text the bridge can take over whole, and there is memory for it. -/
def importsWhole (stored : Option PropertyReply) (env : ImportEnv) : Bool :=
  stored.any fun st => st.value ≠ [] && st.type ≠ .incr && st.value.length ≤ wlxClipboardMax &&
    env.text && env.source

namespace Bridge

/-- The drop makes the bridge convert XdndSelection. -/
def actsOn (s : Bridge) (ev : ClientMessage) : Bool :=
  ev.format32 && s.dndIn.active && decide (ev.message = .drop)

/-- The `XdndFinished` messages among some requests. -/
def finishedIn (out : List XRequest) : List (XWindow × Bool) :=
  out.filterMap fun
    | .clientMessage window (.finished accepted) => some (window, accepted)
    | _ => none

@[simp] theorem finishedIn_append (out out' : List XRequest) :
    finishedIn (out ++ out') = finishedIn out ++ finishedIn out' := List.filterMap_append ..

end Bridge

namespace InboundState

def init (clipboardWindow : XWindow) : InboundState where
  bridge := .fresh clipboardWindow
  pending := []
  due := []

/-- One step; a reply answers a conversion that is under way. -/
def step (w : InboundState) : InboundAction → Option InboundState
  | .message ev owned => some
    { w with
      bridge := w.bridge.dndHandleClientMessage ev owned
      pending := if w.bridge.actsOn ev then w.pending ++ [ev.source] else w.pending }
  | .reply i property stored env =>
    (w.pending[i]?).map fun source =>
      { bridge := w.bridge.handleSelectionNotify
          ⟨w.bridge.clipboardWindow, .xdndSelection, if property then some .wlxDnd else none⟩
          (stored.map (·.cut)) none env
        pending := w.pending.eraseIdx i
        due := w.due ++ [(source, property && importsWhole stored env)] }

/-- Each drop answered has got its `XdndFinished`, in order; and no source outside a session. -/
def Settled (w : InboundState) : Prop :=
  (Bridge.finishedIn w.bridge.out).map (fun f => (some f.1, f.2)) = w.due ∧
    (w.bridge.dndIn.active = false → w.bridge.dndIn.source = none)

instance (w : InboundState) : Decidable w.Settled := inferInstanceAs (Decidable (_ ∧ _))

/-- The state the step leads to is settled. -/
def StaysSettled (w : InboundState) (a : InboundAction) : Prop :=
  ∀ w', w.step a = some w' → w'.Settled

/-- A conversion is answered with a text that is imported whole, while the client that dropped is
still the one the bridge remembers. -/
def AnswersRight (w : InboundState) : InboundAction → Prop
  | .message .. => True
  | .reply i property stored env => property = true ∧ importsWhole stored env = true ∧
    w.bridge.dndIn.source.isSome = true ∧ w.pending[i]? = some w.bridge.dndIn.source

instance : ∀ (w : InboundState) (a : InboundAction), Decidable (w.AnswersRight a)
  | _, .message .. => isTrue trivial
  | _, .reply .. => inferInstanceAs (Decidable (_ ∧ _ ∧ _ ∧ _))

end InboundState

/-! ## What the handlers send -/

namespace Bridge

variable (s : Bridge)

@[simp] theorem finishedIn_send (req : XRequest) :
    finishedIn (s.send req).out = finishedIn s.out ++ finishedIn [req] := finishedIn_append _ _

theorem dndOutLeave_inbound : finishedIn s.dndOutLeave.out = finishedIn s.out ∧
    s.dndOutLeave.dndIn = s.dndIn := by
  unfold dndOutLeave dndSendClientMessage
  split
  · exact ⟨rfl, rfl⟩
  · exact ⟨by simp [finishedIn], rfl⟩

theorem dndOutFinish_inbound (owned : Bool) :
    finishedIn (s.dndOutFinish owned).out = finishedIn s.out ∧
      (s.dndOutFinish owned).dndIn = s.dndIn := by
  obtain ⟨hout, hin⟩ := s.dndOutLeave_inbound
  unfold dndOutFinish
  dsimp only
  split
  · refine ⟨?_, hin⟩
    rw [finishedIn_send]
    exact (List.append_nil _).trans hout
  · exact ⟨hout, hin⟩

/-- No message is answered with an `XdndFinished`, and a session ends without its source. -/
theorem dndHandleClientMessage_inbound (ev : ClientMessage) (owned : Bool)
    (hidle : s.dndIn.active = false → s.dndIn.source = none) :
    finishedIn (s.dndHandleClientMessage ev owned).out = finishedIn s.out ∧
      ((s.dndHandleClientMessage ev owned).dndIn.active = false →
        (s.dndHandleClientMessage ev owned).dndIn.source = none) := by
  unfold dndHandleClientMessage
  split
  · exact ⟨rfl, hidle⟩
  · cases ev.message with
    | status accept => dsimp only; split <;> exact ⟨rfl, hidle⟩
    | finished accepted =>
      dsimp only
      split
      · obtain ⟨hout, hin⟩ := s.dndOutFinish_inbound owned
        exact ⟨hout, by rw [hin]; exact hidle⟩
      · exact ⟨rfl, hidle⟩
    | enter version type => exact ⟨rfl, nofun⟩
    | position x y =>
      dsimp only
      split
      · unfold dndReplyToSource dndSendClientMessage
        split
        · exact ⟨rfl, hidle⟩
        · exact ⟨by simp [finishedIn], hidle⟩
      · exact ⟨rfl, hidle⟩
    | leave => exact ⟨rfl, fun _ => rfl⟩
    | drop =>
      dsimp only
      split
      · exact ⟨by simp [finishedIn], hidle⟩
      · exact ⟨rfl, hidle⟩

/-- The clipboard's handler leaves the answer to a drop's conversion alone. -/
theorem handleSelectionNotify_xdnd (property : Bool) (reply : Option PropertyReply)
    (env : ImportEnv) :
    s.handleSelectionNotify ⟨s.clipboardWindow, .xdndSelection, if property then some .wlxDnd else none⟩
        reply none env =
      s.dndHandleSelectionNotify
        ⟨s.clipboardWindow, .xdndSelection, if property then some .wlxDnd else none⟩ reply env := by
  unfold handleSelectionNotify clipboardHandleSelectionNotify
  cases property <;> simp

/-- A refused conversion is ignored. -/
theorem dndHandleSelectionNotify_refused (reply : Option PropertyReply) (env : ImportEnv) :
    s.dndHandleSelectionNotify ⟨s.clipboardWindow, .xdndSelection, none⟩ reply env = s := by
  unfold dndHandleSelectionNotify
  rw [if_pos (Or.inl rfl)]

theorem dndReplyToSource_inbound (accepted : Bool) :
    finishedIn (s.dndReplyToSource (.finished accepted)).out =
        finishedIn s.out ++ (s.dndIn.source.map fun source => (source, accepted)).toList ∧
      (s.dndReplyToSource (.finished accepted)).dndIn = s.dndIn := by
  unfold dndReplyToSource dndSendClientMessage
  cases s.dndIn.source with
  | none => exact ⟨by simp, rfl⟩
  | some source => exact ⟨by simp [finishedIn], rfl⟩

/-- The offer of a text sends nothing. -/
theorem clipboardOfferX11TextToWayland_inbound (text : Text) (env : ImportEnv) :
    (s.clipboardOfferX11TextToWayland text env).out = s.out ∧
      (s.clipboardOfferX11TextToWayland text env).dndIn = s.dndIn := by
  unfold clipboardOfferX11TextToWayland offerX11TextToWayland
  dsimp only
  split <;> exact ⟨rfl, rfl⟩

/-- Once the property is read, the client the bridge remembers is told; only after a text is it
forgotten. -/
theorem dndHandleSelectionNotify_inbound (reply : Option PropertyReply) (env : ImportEnv) :
    let text := (reply.map (·.value)).getD []
    let s' := s.dndHandleSelectionNotify ⟨s.clipboardWindow, .xdndSelection, some .wlxDnd⟩ reply env
    finishedIn s'.out = finishedIn s.out ++
        (s.dndIn.source.map fun source => (source, decide (text ≠ []))).toList ∧
      s'.dndIn.active = false ∧
      s'.dndIn.source = if text = [] then s.dndIn.source else none := by
  intro text s'
  have hs' : s' = s.dndHandleSelectionNotify ⟨s.clipboardWindow, .xdndSelection, some .wlxDnd⟩
    reply env := rfl
  unfold dndHandleSelectionNotify at hs'
  rw [if_neg (by simp)] at hs'
  have hread : finishedIn (s.send (.deleteProperty .wlxDnd)).out = finishedIn s.out := by
    simp [finishedIn]
  by_cases htext : text = []
  · rw [if_pos htext] at hs'
    obtain ⟨hout, hin⟩ := (s.send (.deleteProperty .wlxDnd)).dndReplyToSource_inbound false
    rw [hs', if_pos htext]
    refine ⟨?_, rfl, (congrArg DndIn.source hin :)⟩
    dsimp only
    rw [hout, hread, decide_eq_false (by simp [htext])]
    rfl
  · rw [if_neg htext] at hs'
    have hoffer : ∀ t : Bridge, t = (if env.text then
        (s.send (.deleteProperty .wlxDnd)).clipboardOfferX11TextToWayland text env
        else s.send (.deleteProperty .wlxDnd)) →
        finishedIn t.out = finishedIn s.out ∧ t.dndIn = s.dndIn := by
      rintro t rfl
      split
      · obtain ⟨hout, hin⟩ :=
          (s.send (.deleteProperty .wlxDnd)).clipboardOfferX11TextToWayland_inbound text env
        exact ⟨by rw [hout, hread], hin⟩
      · exact ⟨hread, rfl⟩
    obtain ⟨hout, hin⟩ := hoffer _ rfl
    obtain ⟨hout', -⟩ := dndReplyToSource_inbound _ true
    rw [hs', if_neg htext]
    refine ⟨?_, rfl, rfl⟩
    rw [hout', hout, hin, decide_eq_true htext]

/-- A text that is imported whole is what Wayland clients paste afterwards. -/
theorem offered_of_importsWhole {stored : PropertyReply} {env : ImportEnv}
    (h : importsWhole (some stored) env = true) :
    let s' := s.dndHandleSelectionNotify ⟨s.clipboardWindow, .xdndSelection, some .wlxDnd⟩
      (some stored.cut) env
    (s'.channel .clipboard).inText = some stored.value ∧ s'.seat .clipboard = .bridge := by
  simp only [importsWhole, Option.any_some, Bool.and_eq_true, decide_eq_true_eq] at h
  obtain ⟨⟨⟨⟨htext, -⟩, hlen⟩, hmem⟩, hsource⟩ := h
  have hcut : stored.cut.value = stored.value := List.take_of_length_le hlen
  have hreply (t : Bridge) (message : XdndMessage) : (t.dndReplyToSource message).channel = t.channel ∧
      (t.dndReplyToSource message).seat = t.seat := by
    unfold dndReplyToSource
    split <;> exact ⟨rfl, rfl⟩
  unfold dndHandleSelectionNotify
  rw [if_neg (by simp)]
  dsimp only [Option.map_some, Option.getD_some]
  rw [hcut, if_neg htext, if_pos hmem, (hreply _ _).1, (hreply _ _).2]
  unfold clipboardOfferX11TextToWayland offerX11TextToWayland
  rw [if_pos hsource]
  simp [setChannel]

end Bridge

namespace InboundState

variable {w w' : InboundState}

theorem settled_message (h : w.Settled) (ev : ClientMessage) (owned : Bool) :
    w.StaysSettled (.message ev owned) := by
  intro w' hstep
  cases hstep
  obtain ⟨hsent, hidle⟩ := h
  obtain ⟨hout, hidle'⟩ := w.bridge.dndHandleClientMessage_inbound ev owned hidle
  exact ⟨by rw [hout]; exact hsent, hidle'⟩

/-- An answer settles its drop just if the bridge gets it right. -/
theorem settled_reply_iff (h : w.Settled) {i : Nat} {property : Bool} {stored : Option PropertyReply}
    {env : ImportEnv} (hstep : w.step (.reply i property stored env) = some w') :
    w'.Settled ↔ w.AnswersRight (.reply i property stored env) := by
  obtain ⟨hsent, hidle⟩ := h
  obtain ⟨source, hi, rfl⟩ := Option.map_eq_some_iff.mp hstep
  unfold Settled AnswersRight
  dsimp only
  rw [w.bridge.handleSelectionNotify_xdnd, hi]
  cases property with
  | false =>
    -- nothing is sent, but something is due
    rw [if_neg nofun, w.bridge.dndHandleSelectionNotify_refused]
    simp [hsent]
  | true =>
    rw [if_pos rfl]
    obtain ⟨hout, hactive, hsource⟩ :=
      w.bridge.dndHandleSelectionNotify_inbound (stored.map (·.cut)) env
    rw [hout, hactive, hsource, List.map_append, hsent]
    cases hremembered : w.bridge.dndIn.source with
    | none => simp
    | some client =>
      by_cases htext : ((stored.map (·.cut)).map (·.value)).getD [] = []
      · have hnot : importsWhole stored env = false := by
          unfold importsWhole
          cases stored with
          | none => rfl
          | some st =>
            have hnil : st.value = [] := by
              simpa [PropertyReply.cut, wlxClipboardMax] using htext
            simp [hnil]
        rw [if_pos htext, hnot]
        simp
      · rw [if_neg htext, decide_eq_true htext]
        simp [and_comm, eq_comm (a := source)]

/-- **An answer for each drop.** Whatever messages come from whatever clients, and in whatever order
conversions are answered: all along the run each drop whose conversion has been answered has got one
`XdndFinished`, sent to the client that dropped and saying whether its text was imported, and no
client is remembered outside a session, exactly if every conversion is answered with a text that is
imported whole, and the client that dropped is the one remembered then. -/
theorem settled_iff (clipboardWindow : XWindow) (as : List InboundAction) (w : InboundState)
    (hrun : Run.run step (init clipboardWindow) as = some w) :
    Run.Along step StaysSettled (init clipboardWindow) as ↔
      Run.Along step AnswersRight (init clipboardWindow) as := by
  refine Run.along_iff_of_step (I := Settled) ?_ ?_ ⟨rfl, fun _ => rfl⟩ hrun
  · exact fun s a t _ hstays hstep => hstays t hstep
  · intro s a t hs hstep
    rw [StaysSettled, Run.forall_step_iff hstep]
    cases a with
    | message ev owned => exact iff_of_true (settled_message hs ev owned t hstep) trivial
    | reply i property stored env => exact settled_reply_iff hs hstep

/-- A client enters window 5 of ours and drops, and its conversion is answered with two bytes. -/
def droppedAndAnswered : List InboundAction :=
  [.message ⟨5, true, some 7, .enter 5 .utf8String⟩ true, .message ⟨5, true, some 7, .drop⟩ true,
    .reply 0 true (some ⟨.utf8String, [104, 105]⟩) ⟨true, true⟩]

/-- A client enters and drops, and its conversion is refused. -/
def droppedAndRefused : List InboundAction :=
  [.message ⟨5, true, some 7, .enter 5 .utf8String⟩ true, .message ⟨5, true, some 7, .drop⟩ true,
    .reply 0 false none ⟨true, true⟩]

/-- The client whose conversion is refused never hears of it. -/
theorem refused_drop_unanswered :
    ¬ ∀ (clipboardWindow : XWindow) (as : List InboundAction) (w : InboundState),
      Run.run step (init clipboardWindow) as = some w → w.Settled := by
  intro h
  have hany : (Run.run step (init 1) droppedAndRefused).any (fun w => !decide w.Settled) = true := by
    decide +kernel
  obtain ⟨w, hw, hnot⟩ := (Option.any_eq_true ..).mp hany
  rw [Bool.not_eq_true', decide_eq_false_iff_not] at hnot
  exact hnot (h 1 droppedAndRefused w hw)

theorem settled_answered : Run.Along step StaysSettled (init 1) droppedAndAnswered := by
  have hsome : (Run.run step (init 1) droppedAndAnswered).isSome = true := by decide +kernel
  obtain ⟨w, hw⟩ := Option.isSome_iff_exists.mp hsome
  exact (settled_iff 1 droppedAndAnswered w hw).mpr (by decide +kernel)

end InboundState

end Wlx
