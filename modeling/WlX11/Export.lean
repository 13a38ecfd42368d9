import WlX11.SelectionService

/-!
# WlX11 — exports as a transition system

A Wayland selection change starts an export; the source writes its text into the pipe in chunks of
its own choosing and closes it; the event loop calls `clipboard_read_fd` back with some mask, and
each `read` in there returns some of what is in the pipe. All of it interleaves, except that the loop
of `clipboard_read_fd` is not interrupted by another handler (the source writes meanwhile).

A source is identified with what it writes before it closes its end: one that dies early has written
a shorter text.

As nothing is served here, `Bridge.out` is the log of the requests, and a selection once claimed stays
claimed.
-/

namespace Wlx

/-- A text the bridge carries: not empty, and not too long. -/
def Text.Valid (text : Text) : Prop := 1 ≤ text.length ∧ text.length ≤ wlxClipboardMax

instance (text : Text) : Decidable text.Valid := inferInstanceAs (Decidable (_ ∧ _))

/-- The source has a type that is exported. -/
def Source.isText (source : Source) : Bool := (pickMime source.mimeTypes).isSome

/-- The pipe of an export. -/
structure Pipe where
  /-- all the source writes before it closes its end -/
  text : Text
  /-- what it has yet to write -/
  pending : Text
  /-- written, and not read yet -/
  unread : Text
  closed : Bool
deriving DecidableEq, Repr

def Pipe.start (text : Text) : Pipe := ⟨text, text, [], false⟩

/-- The bridge, and the pipe it reads. -/
structure ExportState where
  bridge : Bridge
  pipe : Option Pipe
  /-- inside the loop of `clipboard_read_fd` -/
  looping : Bool

/-- What `read` returns. -/
inductive PipeRead where
  | data (size : Nat) (grown : Bool)
  | eof
  | again
  | failed
deriving DecidableEq, Repr

namespace PipeRead

/-- How many bytes it takes out of the pipe. -/
def size : PipeRead → Nat
  | .data size _ => size
  | .eof | .again | .failed => 0

/-- The result with its bytes. -/
def ofPipe (p : Pipe) : PipeRead → ReadResult
  | .data size grown => .data (p.unread.take size) grown
  | .eof => .eof
  | .again => .again
  | .failed => .failed

end PipeRead

inductive ExportAction where
  /-- a client sets the selection, or clears it -/
  | select (sel : Selection) (source : Option Source) (env : ExportEnv)
  /-- the source writes that many bytes -/
  | write (size : Nat)
  | close
  | callback (mask : Mask) (env : PublishEnv)
  | read (result : PipeRead) (env : PublishEnv)
deriving DecidableEq

/-- The source a selection change exports, if any. -/
def Bridge.exported (s : Bridge) (sel : Selection) (source : Option Source) : Option Source :=
  source.filter fun source => source.isText && !(s.channel sel).settingFromX11

namespace ExportState

/-- Nothing selected, nothing in progress. -/
def init (clipboardWindow : XWindow) : ExportState := ⟨.fresh clipboardWindow, none, false⟩

/-- The state after the read callback, or a turn of its loop: its pipe is closed with the read. -/
def after (p : Pipe) (result : Bridge × Bool) : ExportState where
  bridge := result.1
  pipe := if result.1.read.reading then some p else none
  looping := result.2

/-- The kernel reports a hang-up only when the other end is closed, end of file only when there is
nothing left to read either, and `EAGAIN` only when there may be more. -/
def enabled (w : ExportState) : ExportAction → Bool
  | .select .. => !w.looping
  | .write size => w.pipe.any fun p => !p.closed && (0 < size && size ≤ p.pending.length : Bool)
  | .close => w.pipe.any fun p => !p.closed && p.pending.isEmpty
  | .callback mask _ => !w.looping && w.pipe.any fun p => !mask.hangup || p.closed
  | .read result _ => w.looping && w.pipe.any fun p =>
    match result with
    | .data size _ => (0 < size && size ≤ min 4096 p.unread.length : Bool)
    | .eof => p.closed && p.unread.isEmpty
    | .again => !p.closed && p.unread.isEmpty
    | .failed => true

/-- The effect of an action. -/
def handle (w : ExportState) : ExportAction → ExportState
  | .select sel source env =>
    { w with
      bridge := w.bridge.requestSetSelection sel source env
      pipe := match w.bridge.exported sel source with
        | none => w.pipe
        | some source => if env.pipe && env.addFd then some (.start source.text) else none }
  | .write size =>
    { w with pipe := w.pipe.map fun p =>
      { p with pending := p.pending.drop size, unread := p.unread ++ p.pending.take size } }
  | .close => { w with pipe := w.pipe.map fun p => { p with closed := true } }
  | .callback mask env =>
    match w.pipe with
    | none => w
    | some p => after p (w.bridge.clipboardReadFd mask env)
  | .read result env =>
    match w.pipe with
    | none => w
    | some p => after { p with unread := p.unread.drop result.size }
        (w.bridge.clipboardReadChunk (result.ofPipe p) env)

/-- One step. -/
def step (w : ExportState) (a : ExportAction) : Option ExportState :=
  if w.enabled a then some (w.handle a) else none

theorem step_eq_some {w w' : ExportState} {a : ExportAction} :
    w.step a = some w' ↔ w.enabled a = true ∧ w.handle a = w' := by
  simp [step]

end ExportState

/-! ## What the handlers do to an export -/

namespace Bridge

variable (s : Bridge)

/-- A change that exports nothing sets the seat's source and no more. -/
theorem requestSetSelection_of_not_exported {sel : Selection} {source : Option Source}
    (h : s.exported sel source = none) (env : ExportEnv) :
    s.requestSetSelection sel source env =
      { s with seat := Function.update s.seat sel (source.elim .none .client) } := by
  cases source with
  | none => cases sel <;> rfl
  | some src =>
    -- no text is offered, or the change is the bridge's own
    have hnot : pickMime src.mimeTypes = none ∨ (s.channel sel).settingFromX11 = true := by
      simp only [exported, Option.filter_some, Source.isText] at h
      cases hmime : pickMime src.mimeTypes with
      | none => exact Or.inl rfl
      | some mime => exact Or.inr (by simpa [hmime] using h)
    cases sel with
    | clipboard =>
      unfold requestSetSelection serverRequestSetSelection clipboardExportWaylandSource
        exportWaylandSource clipboardPickMime
      dsimp only
      split
      · rfl
      · next hset => rw [hnot.resolve_right hset]
    | primary =>
      unfold requestSetSelection serverRequestSetPrimarySelection primaryExportWaylandSource
        exportWaylandSource primaryPickMime
      dsimp only
      split
      · rfl
      · next hset => rw [hnot.resolve_right hset]

/-- A change that exports a source stops the read in progress for it. -/
theorem requestSetSelection_of_exported {sel : Selection} {source : Option Source} {src : Source}
    (h : s.exported sel source = some src) (env : ExportEnv) :
    s.requestSetSelection sel source env =
      { s with
        seat := Function.update s.seat sel (.client src)
        read := ⟨env.pipe && env.addFd, [], sel⟩ } := by
  cases source with
  | none => cases h
  -- no matter whether the pipe is made, the read before it is stopped
  | some src' =>
    simp only [exported, Option.filter_some, Source.isText] at h
    split at h
    · next hok =>
      cases h
      rw [Bool.and_eq_true, Bool.not_eq_true'] at hok
      obtain ⟨mime, hmime⟩ := Option.isSome_iff_exists.mp hok.1
      cases sel with
      | clipboard =>
        unfold requestSetSelection serverRequestSetSelection clipboardExportWaylandSource
          exportWaylandSource clipboardPickMime
        dsimp only
        rw [hok.2, if_neg (by decide), hmime]
        cases env.pipe && env.addFd <;> simp [clipboardClearRead]
      | primary =>
        unfold requestSetSelection serverRequestSetPrimarySelection primaryExportWaylandSource
          exportWaylandSource primaryPickMime
        dsimp only
        rw [hok.2, if_neg (by decide), hmime]
        cases env.pipe && env.addFd <;> simp [clipboardClearRead]
    · cases h

/-- An exported source is the one that was set, and has a text type. -/
theorem of_exported {sel : Selection} {source : Option Source} {src : Source}
    (h : s.exported sel source = some src) : source = some src ∧ src.isText = true := by
  obtain ⟨hsource, hok⟩ := Option.filter_eq_some_iff.mp h
  rw [Bool.and_eq_true] at hok
  exact ⟨hsource, hok.1⟩

/-- Nothing collected: the read ends, and that is all. -/
theorem publishCollected_of_nil (h : s.read.buf = []) (env : PublishEnv) :
    s.publishCollected env = s.clipboardClearRead := by
  unfold publishCollected
  simp [h]

/-- No memory: the old text is gone. -/
theorem publishCollected_of_no_memory (h : s.read.buf ≠ []) {env : PublishEnv}
    (henv : env.alloc = false) :
    s.publishCollected env = (s.setChannel s.read.target
      { s.channel s.read.target with outText := none }).clipboardClearRead := by
  unfold publishCollected clipboardSetX11Owner
  simp [h, henv]

/-- The collected text is stored and the selection claimed. -/
theorem publishCollected_of_memory (h : s.read.buf ≠ []) {env : PublishEnv}
    (henv : env.alloc = true) :
    s.publishCollected env = ((s.setChannel s.read.target
      { s.channel s.read.target with
        outText := some s.read.buf
        weOwnX11 := env.owned }).send
        (.setSelectionOwner s.read.target.toAtom (some s.read.buf))).clipboardClearRead := by
  unfold publishCollected clipboardSetX11Owner
  simp [h, henv]

end Bridge

namespace ExportState

/-- How an action ends the read in progress, if it does. -/
inductive Ending where
  | goesOn
  /-- what has been collected is published -/
  | publishes (env : PublishEnv)
  | abandons
deriving DecidableEq

def ending (w : ExportState) : ExportAction → Ending
  | .callback mask env => if mask.hangup || mask.error then .publishes env else .goesOn
  | .read .eof env => .publishes env
  | .read .failed _ => .abandons
  | .read (.data size grown) _ =>
    if wlxClipboardMax < w.bridge.read.buf.length + size ∨ grown = false then .abandons else .goesOn
  | .select .. | .write _ | .close | .read .again _ => .goesOn

/-- The action is not a selection change. -/
def ofPipe : ExportAction → Bool
  | .select .. => false
  | .write _ | .close | .callback .. | .read .. => true

/-- What holds in every state: the buffer, what is unread and what is yet to be written are the whole
text of the pipe, which is the text of the current source if that is being read. -/
structure Inv (w : ExportState) : Prop where
  reading : w.pipe.isSome = w.bridge.read.reading
  looping : w.looping = true → w.bridge.read.reading = true
  idle : w.bridge.read.reading = false → w.bridge.read.buf = []
  bound : w.bridge.read.buf.length ≤ wlxClipboardMax
  whole : ∀ p, w.pipe = some p →
    p.text = w.bridge.read.buf ++ p.unread ++ p.pending ∧ (p.closed = true → p.pending = [])
  source : ∀ p src, w.pipe = some p → w.bridge.seat w.bridge.read.target = .client src →
    src.isText = true → p.text = src.text
  setting : ∀ sel, (w.bridge.channel sel).settingFromX11 = false
  published : w.bridge.Published

/-- The read goes on: bytes have moved towards the buffer, nothing else has changed. -/
structure GoesOn (w w' : ExportState) : Prop where
  bridge : { w'.bridge with read := w.bridge.read } = w.bridge
  reading : w'.bridge.read.reading = true
  target : w'.bridge.read.target = w.bridge.read.target
  pipe : ∃ p p', w.pipe = some p ∧ w'.pipe = some p' ∧ p'.text = p.text ∧
    p.text = w'.bridge.read.buf ++ p'.unread ++ p'.pending ∧ (p'.closed = true → p'.pending = [])
  bound : w'.bridge.read.buf.length ≤ wlxClipboardMax

/-- What a selection change does to the bridge. -/
theorem handle_select (w : ExportState) (sel : Selection) (source : Option Source) (env : ExportEnv) :
    (w.handle (.select sel source env)).bridge =
      { w.bridge with
        seat := Function.update w.bridge.seat sel (source.elim .none .client)
        read := match w.bridge.exported sel source with
          | none => w.bridge.read
          | some _ => ⟨env.pipe && env.addFd, [], sel⟩ } := by
  show w.bridge.requestSetSelection sel source env = _
  cases hexp : w.bridge.exported sel source with
  | none => exact w.bridge.requestSetSelection_of_not_exported hexp env
  | some src =>
    obtain ⟨rfl, -⟩ := w.bridge.of_exported hexp
    exact w.bridge.requestSetSelection_of_exported hexp env

namespace GoesOn

variable {w w' : ExportState}

theorem seat (h : GoesOn w w') : w'.bridge.seat = w.bridge.seat :=
  (congrArg Bridge.seat h.bridge :)

theorem channel (h : GoesOn w w') : w'.bridge.channel = w.bridge.channel :=
  (congrArg Bridge.channel h.bridge :)

theorem out (h : GoesOn w w') : w'.bridge.out = w.bridge.out :=
  (congrArg Bridge.out h.bridge :)

theorem dndOut (h : GoesOn w w') : w'.bridge.dndOut = w.bridge.dndOut :=
  (congrArg Bridge.dndOut h.bridge :)

end GoesOn

section Steps

variable {w w' : ExportState} {a : ExportAction}

/-- Nothing but a selection change happens without a pipe. -/
theorem pipe_of_enabled (ha : ofPipe a = true) (hen : w.enabled a = true) :
    ∃ p, w.pipe = some p := by
  cases hp : w.pipe with
  | some p => exact ⟨p, rfl⟩
  | none => cases a <;> simp [enabled, ofPipe, hp] at hen ha

/-- A callback or a read that leaves the bridge reading, with the bytes it took. -/
theorem goesOn_after (hinv : w.Inv) {p : Pipe} (hp : w.pipe = some p) {buf rest : Text}
    (hbytes : w.bridge.read.buf ++ p.unread = buf ++ rest) (hbound : buf.length ≤ wlxClipboardMax)
    (again : Bool) :
    GoesOn w (after { p with unread := rest }
      ({ w.bridge with read := { w.bridge.read with buf := buf } }, again)) := by
  have hreading : w.bridge.read.reading = true := by rw [← hinv.reading, hp]; rfl
  obtain ⟨hwhole, hclosed⟩ := hinv.whole p hp
  refine ⟨rfl, hreading, rfl, ⟨p, { p with unread := rest }, hp, if_pos hreading, rfl, ?_, hclosed⟩,
    hbound⟩
  rw [hwhole, hbytes]
  rfl

/-- **What an action of the pipe does**: the read goes on, or ends one way or the other. -/
theorem handle_ending (hinv : w.Inv) (ha : ofPipe a = true) (hen : w.enabled a = true) :
    match w.ending a with
    | .goesOn => GoesOn w (w.handle a)
    | .publishes env => w.handle a = ⟨w.bridge.publishCollected env, none, false⟩
    | .abandons => w.handle a = ⟨w.bridge.clipboardClearRead, none, false⟩ := by
  obtain ⟨p, hp⟩ := pipe_of_enabled ha hen
  obtain ⟨hwhole, hclosed⟩ := hinv.whole p hp
  have hreading : w.bridge.read.reading = true := by rw [← hinv.reading, hp]; rfl
  cases a with
  | select => cases ha
  | write size =>
    simp only [handle, hp, ending, Option.map_some]
    refine ⟨rfl, hreading, rfl, ⟨p, _, hp, rfl, rfl, ?_, fun hc => ?_⟩, hinv.bound⟩
    -- what is written is what is yet to be written, cut in two
    · rw [hwhole, List.append_assoc, List.append_assoc, List.append_assoc, List.take_append_drop]
    · rw [hclosed hc, List.drop_nil]
  | close =>
    simp only [handle, hp, ending, Option.map_some]
    refine ⟨rfl, hreading, rfl, ⟨p, _, hp, rfl, rfl, hwhole, fun _ => ?_⟩, hinv.bound⟩
    simp only [enabled, hp, Option.any_some, Bool.and_eq_true, List.isEmpty_iff] at hen
    exact hen.2
  -- a hangup ends the read, whatever is left in the pipe
  | callback mask env =>
    simp only [handle, hp, ending, Bridge.clipboardReadFd]
    by_cases hend : (mask.hangup || mask.error) = true
    · simp only [if_pos hend]
      rfl
    · simp only [if_neg hend]
      exact goesOn_after hinv hp rfl hinv.bound mask.readable
  | read result env =>
    simp only [handle, hp]
    cases result with
    | eof => rfl
    | failed => rfl
    | again => exact goesOn_after hinv hp rfl hinv.bound false
    | data size grown =>
      have hsize : (p.unread.take size).length = size := by
        simp only [enabled, hp, Option.any_some, Bool.and_eq_true, decide_eq_true_eq] at hen
        rw [List.length_take]
        omega
      simp only [ending, PipeRead.ofPipe, Bridge.clipboardReadChunk, hsize]
      -- a chunk is refused for its size or for memory, else appended
      by_cases hlong : wlxClipboardMax < w.bridge.read.buf.length + size
      · simp only [if_pos hlong, if_pos (Or.inl hlong)]
        rfl
      · by_cases hgrown : grown = false
        · simp only [if_neg hlong, if_pos hgrown, if_pos (Or.inr hgrown)]
          rfl
        · simp only [if_neg hlong, if_neg hgrown, if_neg (not_or.mpr ⟨hlong, hgrown⟩)]
          refine goesOn_after hinv hp ?_ ?_ true
          · rw [List.append_assoc]
            exact congrArg _ (List.take_append_drop size p.unread).symm
          · rw [List.length_append, hsize]
            omega

end Steps

/-! ## What publishing changes -/

/-- The published texts after a read that is published. -/
theorem outText_publishCollected (s : Bridge) (env : PublishEnv) (sel : Selection) :
    ((s.publishCollected env).channel sel).outText =
      if s.read.buf = [] ∨ sel ≠ s.read.target then (s.channel sel).outText
      else if env.alloc = true then some s.read.buf else none := by
  -- nothing read, no memory for the copy, or published
  by_cases hbuf : s.read.buf = []
  · rw [s.publishCollected_of_nil hbuf, if_pos (Or.inl hbuf)]
    rfl
  · cases hmem : env.alloc with
    | false =>
      rw [s.publishCollected_of_no_memory hbuf hmem]
      show ((s.setChannel _ _).channel sel).outText = _
      rw [Bridge.setChannel_channel]
      by_cases hsel : sel = s.read.target <;> simp [hsel, hbuf]
    | true =>
      rw [s.publishCollected_of_memory hbuf hmem]
      show ((s.setChannel _ _).channel sel).outText = _
      rw [Bridge.setChannel_channel]
      by_cases hsel : sel = s.read.target <;> simp [hsel, hbuf]

theorem publishCollected_inText (s : Bridge) (env : PublishEnv) (sel : Selection) :
    ((s.publishCollected env).channel sel).inText = (s.channel sel).inText := by
  -- whatever is stored, the imported text is left alone
  have hkept (c : Channel) (hc : c.inText = (s.channel s.read.target).inText) :
      ((s.setChannel s.read.target c).channel sel).inText = (s.channel sel).inText := by
    rw [Bridge.setChannel_channel]
    split
    · next h => rw [hc, h]
    · rfl
  by_cases hbuf : s.read.buf = []
  · rw [s.publishCollected_of_nil hbuf]
    rfl
  · cases hmem : env.alloc with
    | false =>
      rw [s.publishCollected_of_no_memory hbuf hmem]
      exact hkept { s.channel s.read.target with outText := none } rfl
    | true =>
      rw [s.publishCollected_of_memory hbuf hmem]
      exact hkept { s.channel s.read.target with
        outText := some s.read.buf, weOwnX11 := env.owned } rfl

theorem publishCollected_seat (s : Bridge) (env : PublishEnv) :
    (s.publishCollected env).seat = s.seat := by
  unfold Bridge.publishCollected Bridge.clipboardSetX11Owner
  dsimp only
  split
  · split <;> rfl
  · rfl

/-! ## The invariant -/

namespace Inv

variable {w w' : ExportState}

theorem init (clipboardWindow : XWindow) : Inv (.init clipboardWindow) where
  reading := rfl
  looping := fun h => nomatch h
  idle := fun _ => rfl
  bound := Nat.zero_le _
  whole := fun _ h => nomatch h
  source := fun _ _ h => nomatch h
  setting := fun _ => rfl
  published := ⟨(fun _ _ h => nomatch h), (fun _ h => nomatch h)⟩

/-- A read that goes on. -/
theorem goesOn (hinv : w.Inv) (h : GoesOn w w') : w'.Inv := by
  -- the chunk has moved from the pipe to the buffer
  obtain ⟨p, p', hp, hp', htext, hwhole, hclosed⟩ := h.pipe
  refine ⟨by rw [hp', h.reading]; rfl, fun _ => h.reading, fun hidle => ?_, h.bound, ?_, ?_, ?_,
    ⟨?_, ?_⟩⟩
  · rw [h.reading] at hidle; cases hidle
  · intro q hq
    rw [hp'] at hq
    cases hq
    exact ⟨htext.trans hwhole, hclosed⟩
  · intro q src hq hsrc htype
    rw [hp'] at hq
    cases hq
    rw [h.seat, h.target] at hsrc
    exact htext.trans (hinv.source p src hp hsrc htype)
  · rw [h.channel]; exact hinv.setting
  · rw [h.channel, h.out]; exact hinv.published.channel
  · rw [h.dndOut, h.out]; exact hinv.published.session

/-- A read that has ended. -/
theorem ended {s : Bridge} (hread : s.read.reading = false) (hbuf : s.read.buf = [])
    (hset : ∀ sel, (s.channel sel).settingFromX11 = false) (hpub : s.Published) :
    Inv ⟨s, none, false⟩ where
  reading := hread.symm
  looping := fun h => nomatch h
  idle := fun _ => hbuf
  bound := by rw [hbuf]; exact Nat.zero_le _
  whole := fun _ h => nomatch h
  source := fun _ _ h => nomatch h
  setting := hset
  published := hpub

/-- Publishing leaves `clip_setting_from_x11` alone. -/
theorem publishCollected_setting (s : Bridge) (env : PublishEnv) (sel : Selection) :
    ((s.publishCollected env).channel sel).settingFromX11 = (s.channel sel).settingFromX11 := by
  -- nothing read, no memory for the copy, or published
  by_cases hbuf : s.read.buf = []
  · rw [s.publishCollected_of_nil hbuf]; rfl
  · cases hmem : env.alloc with
    | false =>
      rw [s.publishCollected_of_no_memory hbuf hmem]
      show ((s.setChannel _ _).channel sel).settingFromX11 = _
      rw [Bridge.setChannel_channel]
      split
      · next h => rw [h]
      · rfl
    | true =>
      rw [s.publishCollected_of_memory hbuf hmem]
      show ((s.setChannel _ _).channel sel).settingFromX11 = _
      rw [Bridge.setChannel_channel]
      split
      · next h => rw [h]
      · rfl

/-- **Every step keeps the invariant.** -/
theorem step (hinv : w.Inv) {a : ExportAction} (hstep : w.step a = some w') : w'.Inv := by
  obtain ⟨hen, rfl⟩ := step_eq_some.mp hstep
  cases ha : ofPipe a with
  | true =>
    have h := handle_ending hinv ha hen
    split at h
    · exact hinv.goesOn h
    · next env _ =>
      rw [h]
      exact ended rfl rfl (fun sel => (publishCollected_setting ..).trans (hinv.setting sel))
        ((Bridge.publishCollected_evolves _ env).published hinv.published)
    · rw [h]
      exact ended rfl rfl hinv.setting
        ((Bridge.clipboardClearRead_evolves _).published hinv.published)
  | false =>
    cases a with
    -- these are of the pipe
    | write | close | callback | read => cases ha
    | select sel source env =>
      have hpub := (Bridge.requestSetSelection_evolves w.bridge sel source env).published hinv.published
      simp only [handle]
      cases hexp : w.bridge.exported sel source with
      -- the seat has another source, and the read goes on
      | none =>
        rw [w.bridge.requestSetSelection_of_not_exported hexp] at hpub ⊢
        refine ⟨hinv.reading, hinv.looping, hinv.idle, hinv.bound, hinv.whole, ?_, hinv.setting, hpub⟩
        intro p src hp hsrc htype
        have hsrc' : Function.update w.bridge.seat sel (source.elim .none .client)
            w.bridge.read.target = .client src := hsrc
        rw [Function.update_apply] at hsrc'
        split at hsrc'
        · -- a source of a text type would have been exported
          cases source with
          | none => cases hsrc'
          | some src' =>
            cases hsrc'
            simp [Bridge.exported, htype, hinv.setting sel] at hexp
        · exact hinv.source p src hp hsrc' htype
      -- a new read, or none if no pipe can be had
      | some src =>
        rw [w.bridge.requestSetSelection_of_exported hexp] at hpub ⊢
        have hnot : w.looping = false := by simpa [enabled] using hen
        cases henv : env.pipe && env.addFd with
        | false =>
          have hended := ended (s := { w.bridge with
            seat := Function.update w.bridge.seat sel (.client src)
            read := ⟨false, [], sel⟩ }) rfl rfl hinv.setting (by rw [henv] at hpub; exact hpub)
          simpa [henv, hnot] using hended
        | true =>
          refine ⟨rfl, fun h => ?_, fun _ => rfl, Nat.zero_le _, ?_, ?_, hinv.setting, ?_⟩
          · rfl
          · rintro p ⟨⟩
            exact ⟨rfl, fun h => nomatch h⟩
          · rintro p src' ⟨⟩ hsrc -
            have hsrc' : Function.update w.bridge.seat sel (.client src) sel = .client src' := hsrc
            rw [Function.update_self] at hsrc'
            cases hsrc'
            rfl
          · rw [henv] at hpub; exact hpub

end Inv

end ExportState

end Wlx
