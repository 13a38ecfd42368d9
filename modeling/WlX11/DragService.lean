import WlX11.Drag

/-!
# WlX11 — what an outbound session serves

`dnd_out_begin_from_source` reads the text of a drag before it claims XdndSelection. What the session
then serves should be the whole text of that drag, under the type it was read as, or nothing. The
runs of `Drag` are followed here with the pipes of their read loops: each loop knows which drag it
reads for, and what its source has yet to deliver.

The function misses its purpose in four ways:

* the loop counts its turns, and each wait of 5 ms and each `read` of 4096 bytes is a turn: after a
  hundred of them it goes on with what it has;
* a failed `poll` or `read` leaves the loop by the same `break` as the end of the file;
* a drag can start while an earlier session waits for its `XdndFinished`; whether it then reads
  nothing or something, that session stays, and the type flag may already be the new one's;
* in the nested dispatch the drag can end, which clears the flag, and another one can start.

**`served_whole_iff`** — outside of these, every state of every run serves the last drag's whole
text, or nothing.
-/

namespace Wlx

/-- The source is read as `text/uri-list`. -/
def Source.isUri (source : Source) : Bool := dragMime source.mimeTypes = some .textUriList

/-- Where the bytes of a read loop come from. -/
structure DragOrigin where
  /-- which drag it is, the first being 1 -/
  drag : Nat
  source : Source
  /-- what the source has yet to deliver -/
  unread : Text
deriving DecidableEq, Repr

/-- What a turn of the loop leaves in the pipe. -/
def DragOrigin.left (origin : DragOrigin) : Poll → Text
  | .ready (.data chunk _) => origin.unread.drop chunk.length
  | .failed | .timeout | .ready _ => origin.unread

/-- The outbound half of `dnd.c`, and where its text comes from. -/
structure TracedDrag where
  drags : DragState
  /-- how many drags have started -/
  started : Nat
  /-- the source of the last one -/
  source : Option Source
  /-- for each read loop, innermost first -/
  origins : List DragOrigin
  /-- the drag whose text `dnd_out_text` was read from -/
  served : Option Nat

namespace TracedDrag

def init (clipboardWindow : XWindow) : TracedDrag := ⟨.init clipboardWindow, 0, none, [], none⟩

/-- The outbound fields. -/
abbrev out (w : TracedDrag) : DndOut := w.drags.out

/-- What `poll` and `read` can return: the next bytes of the source, at most 4096 of them, and the
end of the file after the last. How long the source takes, and how it cuts its writes, is its own
affair. -/
def delivers (w : TracedDrag) : DragAction → Bool
  | .poll (.ready (.data chunk _)) _ => w.origins.head?.all fun origin =>
      (0 < chunk.length && chunk.length ≤ 4096 : Bool) && chunk.isPrefixOf origin.unread
  | .poll (.ready .eof) _ => w.origins.head?.all (·.unread.isEmpty)
  | _ => true

/-- Which drags are read from, and which one is served, after an event. -/
def follow (w : TracedDrag) (drags : DragState) : DragAction → TracedDrag
  | .startDrag source pipe _ =>
    { w with
      drags := drags
      started := w.started + 1
      source := source
      origins := match source with
        | some source =>
          if (w.drags.bridge.serverStartDrag source pipe).2
          then ⟨w.started + 1, source, source.text⟩ :: w.origins else w.origins
        | none => w.origins }
  | .poll result _ =>
    match w.drags.loops, w.origins with
    | loop :: _, origin :: rest =>
      match loop.spin result with
      | .more _ =>
        { w with drags := drags, origins := { origin with unread := origin.left result } :: rest }
      | .done text =>
        { w with
          drags := drags
          origins := rest
          served := if text = [] then w.served else some origin.drag }
      | .abandoned => { w with drags := drags, origins := rest }
    | _, _ => { w with drags := drags }
  | _ => { w with drags := drags }

/-- One step. -/
def step (w : TracedDrag) (a : DragAction) : Option TracedDrag :=
  if w.delivers a then (w.drags.step a).map fun drags => w.follow drags a else none

theorem step_eq_some {w w' : TracedDrag} {a : DragAction} :
    w.step a = some w' ↔
      w.delivers a = true ∧ w.drags.enabled a = true ∧ w.follow (w.drags.handle a) a = w' := by
  unfold step DragState.step
  by_cases hd : w.delivers a = true
  · by_cases he : w.drags.enabled a = true <;> simp [hd, he]
  · simp [hd]

/-- An active session carries the whole text of the last drag that has started, and its flag is
that of the type it was read as. So when the last drag could not be read, none is active. -/
def Serves (w : TracedDrag) : Prop :=
  w.out.active = true → ∃ source, w.source = some source ∧ w.served = some w.started ∧
    w.out.text = some source.text ∧ w.out.isUri = source.isUri

/-- The state the step leads to serves the last drag. -/
def StaysServing (w : TracedDrag) (a : DragAction) : Prop := ∀ w', w.step a = some w' → w'.Serves

/-- A drag starts when no session is active. A read loop is left, if it has read anything, when it
has read everything, while its drag is still the last one and the flag still the one it has set. -/
def ReadsWhole (w : TracedDrag) : DragAction → Prop
  | .startDrag .. => w.out.active = false
  | .poll result _ => (w.drags.prepares result).isSome = true →
      ∀ origin ∈ w.origins.head?, origin.left result = [] ∧ origin.drag = w.started ∧
        w.out.isUri = origin.source.isUri
  | _ => True

instance : ∀ (w : TracedDrag) (a : DragAction), Decidable (w.ReadsWhole a)
  | w, .startDrag .. => inferInstanceAs (Decidable (w.out.active = false))
  | w, .poll result _ =>
    inferInstanceAs (Decidable ((w.drags.prepares result).isSome = true →
      ∀ origin ∈ w.origins.head?, origin.left result = [] ∧ origin.drag = w.started ∧
        w.out.isUri = origin.source.isUri))
  | _, .motion .. | _, .buttonPress | _, .buttonRelease .. | _, .dragEnds _ | _, .clientMessage ..
  | _, .windowsChange _ => isTrue trivial

end TracedDrag

namespace DragState

/-! ## Events that read nothing -/

/-- The read loops are those of before, and a session that is active then has been so before, with
the same text and flag. -/
structure Keeps (w w' : DragState) : Prop where
  loops : w'.loops = w.loops
  active : w'.out.active = true → w.out.active = true
  text : w'.out.active = true → w'.out.text = w.out.text
  isUri : w'.out.active = true → w'.out.isUri = w.out.isUri

namespace Keeps

variable {w w' w'' : DragState}

theorem refl (w : DragState) : Keeps w w := ⟨rfl, id, fun _ => rfl, fun _ => rfl⟩

/-- One message after the other. -/
theorem trans (h : Keeps w w') (h' : Keeps w' w'') : Keeps w w'' where
  loops := h'.loops.trans h.loops
  active := h.active ∘ h'.active
  text := fun ha => (h'.text ha).trans (h.text (h'.active ha))
  isUri := fun ha => (h'.isUri ha).trans (h.isUri (h'.active ha))

/-- A change of fields that say neither what is served nor what is read. -/
theorem congr (hout : w'.out.active = w.out.active) (htext : w'.out.text = w.out.text)
    (huri : w'.out.isUri = w.out.isUri) (hloops : w'.loops = w.loops) : Keeps w w' :=
  ⟨hloops, fun ha => hout ▸ ha, fun _ => htext, fun _ => huri⟩

end Keeps

section Keeps

variable (w : DragState)

/-- Messages read nothing, -/
theorem tell_keeps (target : XWindow) (message : XdndMessage) : Keeps w (w.tell target message) := by
  apply Keeps.congr <;> simp [out]

/-- and neither does leaving, -/
theorem leave_keeps : Keeps w w.leave := by
  unfold leave
  split
  · exact .refl w
  · next target _ => exact (tell_keeps w target .leave).trans (.congr rfl rfl rfl rfl)

/-- finishing, -/
theorem finish_keeps : Keeps w w.finish where
  loops := (leave_keeps w).loops
  active := fun ha => nomatch ha
  text := fun ha => nomatch ha
  isUri := fun ha => nomatch ha

/-- visiting -/
theorem visit_keeps (target : XWindow) (version x y : Int) :
    Keeps w (w.visit target version x y) := by
  unfold visit
  split
  · exact tell_keeps ..
  · dsimp only
    refine Keeps.trans ?_ (tell_keeps _ target _)
    refine Keeps.trans ?_ (tell_keeps _ target _)
    exact (leave_keeps w).trans (.congr rfl rfl rfl rfl)

/-- or following the pointer. -/
theorem track_keeps (view : PointerView) : Keeps w (w.track view) := by
  unfold track
  split
  · exact .refl w
  · split
    · exact leave_keeps w
    · split
      · exact leave_keeps w
      · exact visit_keeps w ..

variable {w}

/-- The end of the drag drops what was not read. -/
theorem endDrag_keeps (hserved : w.bridge.out = []) (owned : Bool) : Keeps w (w.endDrag owned) := by
  rw [endDrag_eq hserved]
  split
  · split
    · exact .congr rfl rfl rfl rfl
    · have hcleared : Keeps w ({ w with drag := none }.setOut { w.out with drag := false }) :=
        .congr rfl rfl rfl rfl
      exact hcleared.trans (finish_keeps _)
  · exact .congr rfl rfl rfl rfl

/-- A release reads nothing either. -/
theorem release_keeps (hserved : w.bridge.out = []) (owned : Bool) :
    Keeps w (w.flush (w.bridge.dndOutOnButtonRelease owned)) := by
  rw [release_eq hserved]
  split
  · exact .refl w
  · split
    · exact finish_keeps w
    · split
      · exact tell_keeps ..
      · exact finish_keeps w

/-- Only the start of a drag and the turns of the read loops touch what is served. -/
theorem handle_keeps (hinv : w.Inv) {a : DragAction}
    (hstart : ∀ source pipe listening, a ≠ .startDrag source pipe listening)
    (hpoll : ∀ result view, a ≠ .poll result view) : Keeps w (w.handle a) := by
  cases a with
  | startDrag source pipe listening => exact absurd rfl (hstart source pipe listening)
  | poll result view => exact absurd rfl (hpoll result view)
  | motion interactive view =>
    rw [motion_eq hinv.served]
    split
    · exact .refl w
    · exact track_keeps w view
  | buttonPress => exact .refl w
  | buttonRelease endsDrag owned =>
    cases endsDrag with
    | false => exact release_keeps hinv.served owned
    | true =>
      -- the seat ends its drag first
      have hended := hinv.endDrag owned
      exact (endDrag_keeps hinv.served owned).trans (release_keeps hended.served owned)
  | dragEnds owned => exact endDrag_keeps hinv.served owned
  | clientMessage sender sentAfter ev owned =>
    have hheard : Keeps w (w.hear ⟨sender, sentAfter, ev.message⟩ ev.format32) :=
      .congr rfl rfl rfl rfl
    rcases clientMessage_cases hinv.served sender sentAfter ev owned with
      ⟨accept, -, -, -, heq⟩ | ⟨accepted, -, -, -, heq⟩ | ⟨-, b, hb, -, heq⟩ <;> rw [heq]
    · exact hheard.trans (.congr rfl rfl rfl rfl)
    · exact hheard.trans (finish_keeps _)
    · refine hheard.trans (.congr ?_ ?_ ?_ rfl) <;> rw [out, hb] <;> rfl
  | windowsChange windows => exact .congr rfl rfl rfl rfl

end Keeps

end DragState

namespace TracedDrag

variable {w w' : TracedDrag}

/-! ## Where the text comes from -/

/-- What a read loop has collected and what its pipe still holds make the text of its source, and
the loops of the last drag read from the last source. -/
structure Traced (w : TracedDrag) : Prop where
  inv : w.drags.Inv
  reads : List.Forall₂ (fun loop origin => loop.buf ++ origin.unread = origin.source.text)
    w.drags.loops w.origins
  past : ∀ origin ∈ w.origins, origin.drag ≤ w.started
  last : ∀ origin ∈ w.origins, origin.drag = w.started → w.source = some origin.source

/-- Nothing is read at the start. -/
theorem Traced.init (clipboardWindow : XWindow) : Traced (.init clipboardWindow) where
  inv := .init clipboardWindow
  reads := .nil
  past := fun _ hmem => absurd hmem List.not_mem_nil
  last := fun _ hmem => absurd hmem List.not_mem_nil

/-- What a turn leaves in the buffer and in the pipe makes the text of the source. -/
def Collects (text left : Text) : SpinResult → Prop
  | .more loop => loop.buf ++ left = text
  | .done buf => buf ++ left = text
  | .abandoned => True

/-- A turn that goes on has collected what it read. -/
theorem next_collects (loop : DragRead) {buf text left : Text} (h : buf ++ left = text)
    (dispatching : Bool) : Collects text left (loop.next buf dispatching) := by
  unfold DragRead.next
  split <;> exact h

/-- So the loop collects its source's text, piece by piece. -/
theorem spin_collects {loop : DragRead} {origin : DragOrigin} {result : Poll} {view : PointerView}
    (hreads : loop.buf ++ origin.unread = origin.source.text) (horigin : w.origins.head? = some origin)
    (hdelivers : w.delivers (.poll result view) = true) :
    Collects origin.source.text (origin.left result) (loop.spin result) := by
  cases result with
  | failed => exact hreads
  | timeout => exact next_collects loop hreads true
  | ready r =>
    cases r with
    | eof => exact hreads
    | failed => exact hreads
    | again => exact next_collects loop hreads false
    | data chunk grown =>
      unfold DragRead.spin
      dsimp only
      split
      · trivial
      · split
        · trivial
        · apply next_collects
          -- the chunk is what the pipe held first
          unfold delivers at hdelivers
          simp only [horigin, Option.all_some, Bool.and_eq_true] at hdelivers
          obtain ⟨rest, hrest⟩ := List.isPrefixOf_iff_prefix.mp hdelivers.2
          show (loop.buf ++ chunk) ++ origin.unread.drop chunk.length = origin.source.text
          rw [← hreads, ← hrest, List.drop_left, List.append_assoc]

/-- A turn of the innermost read loop, with the pipe it reads from: it goes on, it begins a session
with what it has, or it is left with nothing. -/
theorem poll_follow (htraced : w.Traced) {result : Poll} {view : PointerView}
    (hdelivers : w.delivers (.poll result view) = true)
    (henabled : w.drags.enabled (.poll result view) = true) :
    ∃ loop loops origin origins, w.drags.loops = loop :: loops ∧ w.origins = origin :: origins ∧
      Collects origin.source.text (origin.left result) (loop.spin result) := by
  have hreads := htraced.reads
  -- a turn is enabled only while a loop runs, and each loop has its pipe
  cases hl : w.drags.loops with
  | nil =>
    unfold DragState.enabled at henabled
    rw [hl] at henabled
    cases henabled
  | cons loop loops =>
    cases ho : w.origins with
    | nil => rw [hl, ho] at hreads; cases hreads
    | cons origin origins =>
      rw [hl, ho, List.forall₂_cons] at hreads
      exact ⟨loop, loops, origin, origins, rfl, rfl,
        spin_collects hreads.1 (by rw [ho]; rfl) hdelivers⟩

/-- Events that read nothing leave the pipes alone. -/
theorem Traced.keeps (h : w.Traced) {drags : DragState} (hinv : drags.Inv)
    (hkeeps : DragState.Keeps w.drags drags) : Traced { w with drags := drags } where
  inv := hinv
  reads := by
    show List.Forall₂ _ drags.loops w.origins
    rw [hkeeps.loops]
    exact h.reads
  past := h.past
  last := h.last

/-- No loop is new: what the loops that are left read from, they read from before. -/
theorem Traced.goesOn (h : w.Traced) {drags : DragState} (hinv : drags.Inv) {origins : List DragOrigin}
    (hreads : List.Forall₂ (fun loop origin => loop.buf ++ origin.unread = origin.source.text)
      drags.loops origins)
    (hold : ∀ origin ∈ origins, ∃ old ∈ w.origins, old.drag = origin.drag ∧ old.source = origin.source)
    (served : Option Nat) : Traced { w with drags := drags, origins := origins, served := served } where
  -- the loops that are left keep what was known of theirs
  inv := hinv
  reads := hreads
  past := by
    intro origin hmem
    obtain ⟨old, hold, hdrag, -⟩ := hold origin hmem
    rw [← hdrag]
    exact h.past old hold
  last := by
    intro origin hmem hlast
    obtain ⟨old, hold, hdrag, hsource⟩ := hold origin hmem
    rw [← hsource]
    exact h.last old hold (hdrag.trans hlast)

/-- A drag starts: the loops that go on read for an older one. -/
theorem Traced.startDrag (h : w.Traced) (source : Option Source) (pipe listening : Bool)
    (hinv : (w.drags.handle (.startDrag source pipe listening)).Inv) :
    Traced (w.follow (w.drags.handle (.startDrag source pipe listening))
      (.startDrag source pipe listening)) := by
  have hpast (origin : DragOrigin) (hmem : origin ∈ w.origins) : origin.drag ≤ w.started + 1 := by
    have := h.past origin hmem
    omega
  -- an older loop does not read for the new drag
  have hlast (origin : DragOrigin) (hmem : origin ∈ w.origins) (hdrag : origin.drag = w.started + 1) :
      source = some origin.source := by
    have := h.past origin hmem
    omega
  obtain ⟨isUri, heq⟩ := DragState.startDrag_loops h.inv.served source pipe listening
  rw [heq] at hinv ⊢
  cases source with
  | none => exact ⟨hinv, h.reads, hpast, hlast⟩
  | some source =>
    cases hbegins : (w.drags.bridge.serverStartDrag (some source) pipe).2 with
    | false =>
      rw [hbegins] at hinv
      simp only [follow, hbegins]
      exact ⟨hinv, h.reads, hpast, hlast⟩
    | true =>
      rw [hbegins] at hinv
      simp only [follow, hbegins]
      refine ⟨hinv, .cons rfl h.reads, fun origin hmem => ?_, fun origin hmem => ?_⟩
      · rcases List.mem_cons.mp hmem with rfl | hmem
        · exact Nat.le_refl _
        · exact hpast origin hmem
      · rcases List.mem_cons.mp hmem with rfl | hmem
        · exact fun _ => rfl
        · exact hlast origin hmem

/-- The innermost loop takes a turn: it reads on, or the loops around it are left. -/
theorem Traced.poll (h : w.Traced) {result : Poll} {view : PointerView}
    (hdelivers : w.delivers (.poll result view) = true)
    (henabled : w.drags.enabled (.poll result view) = true)
    (hinv : (w.drags.handle (.poll result view)).Inv) :
    Traced (w.follow (w.drags.handle (.poll result view)) (.poll result view)) := by
  obtain ⟨loop, loops, origin, origins, hloops, horigins, hcollects⟩ :=
    poll_follow h hdelivers henabled
  have hreads := h.reads
  rw [hloops, horigins, List.forall₂_cons] at hreads
  -- this loop is left, those around it stay
  have htail (drags : DragState) (hd : drags.Inv) (hl : drags.loops = loops) (served : Option Nat) :
      Traced { w with drags := drags, origins := origins, served := served } := by
    refine h.goesOn hd (by rw [hl]; exact hreads.2) (fun o hmem => ⟨o, ?_, rfl, rfl⟩) served
    rw [horigins]
    exact List.mem_cons_of_mem _ hmem
  have hafter : w.drags.handle (.poll result view) = w.drags.afterSpin view (loop.spin result) := by
    simp only [DragState.handle, hloops]
  rw [hafter] at hinv ⊢
  simp only [follow, hloops, horigins]
  cases hspin : loop.spin result with
  | more loop' =>
    rw [hspin] at hcollects hinv
    refine h.goesOn hinv ?_ (fun o hmem => ?_) w.served
    -- the loop has another chunk, of the same read
    · show List.Forall₂ _ (loop' :: w.drags.loops.tail) _
      rw [hloops]
      exact .cons hcollects hreads.2
    · rw [horigins]
      rcases List.mem_cons.mp hmem with rfl | hmem
      · exact ⟨origin, List.mem_cons_self, rfl, rfl⟩
      · exact ⟨o, List.mem_cons_of_mem _ hmem, rfl, rfl⟩
  | abandoned =>
    rw [hspin] at hinv
    exact htail _ hinv (by show w.drags.loops.tail = loops; rw [hloops]; rfl) _
  -- the session that begins with the text touches no loop
  | done text =>
    rw [hspin] at hinv
    refine htail _ hinv ?_ _
    unfold DragState.afterSpin
    dsimp only
    rw [DragState.flush_dndOutPrepared, DragState.flush_nil _ _ h.inv.served, hloops]
    split
    · rfl
    · exact (DragState.track_sent _ view).loops

/-- **Every step keeps the pipes and the buffers together.** -/
theorem Traced.step (h : w.Traced) {a : DragAction} (hstep : w.step a = some w') : w'.Traced := by
  obtain ⟨hdelivers, henabled, rfl⟩ := step_eq_some.mp hstep
  have hinv : (w.drags.handle a).Inv := h.inv.step (DragState.step_eq_some.mpr ⟨henabled, rfl⟩)
  cases a with
  | startDrag source pipe listening => exact h.startDrag source pipe listening hinv
  | poll result view => exact h.poll hdelivers henabled hinv
  | motion | buttonPress | buttonRelease | dragEnds | clientMessage | windowsChange =>
    exact h.keeps hinv (DragState.handle_keeps h.inv (fun _ _ _ h => by cases h)
      (fun _ _ h => by cases h))

/-! ## What is served -/

/-- What reads nothing serves what was served. -/
theorem Serves.keeps (h : w.Serves) {drags : DragState} (hkeeps : DragState.Keeps w.drags drags) :
    Serves { w with drags := drags } := by
  intro hactive
  obtain ⟨source, hsource, hserved, htext, huri⟩ := h (hkeeps.active hactive)
  exact ⟨source, hsource, hserved, (hkeeps.text hactive).trans htext,
    (hkeeps.isUri hactive).trans huri⟩

/-- A drag that could not be read leaves no session active, its own or an earlier one. -/
theorem Serves.idle (h : w.Serves) (hfailed : w.served ≠ some w.started) : w.out.active = false := by
  cases hactive : w.out.active with
  | false => rfl
  | true =>
    obtain ⟨source, -, hserved, -⟩ := h hactive
    exact absurd hserved hfailed

/-- A conversion of XdndSelection to one of the types a session offers is answered with the whole
text of the last drag. -/
theorem Serves.answers (h : w.Serves) (hactive : w.out.active = true) (req : SelectionRequest)
    (hsel : req.selection = .xdndSelection)
    (htarget : req.target ∈ [Atom.utf8String, .textUriList, .string, .text]) :
    ∃ source, w.source = some source ∧
      (w.drags.bridge.dndHandleSelectionRequest req).1 =
        (w.drags.bridge.send
          (.changeProperty req.requestor req.property (.bytes req.target source.text))).send
          (.selectionNotify req.requestor req.selection req.target req.property) := by
  obtain ⟨source, hsource, -, htext, -⟩ := h hactive
  -- the four types that are served, none of which is TARGETS
  have hoffered : req.target ≠ .targets ∧ (req.target = .utf8String ∨ req.target = .textUriList ∨
      req.target = .string ∨ req.target = .text) := by
    simp only [List.mem_cons, List.not_mem_nil, or_false] at htarget
    rcases htarget with h | h | h | h <;> simp [h]
  refine ⟨source, hsource, ?_⟩
  have htext' : w.drags.bridge.dndOut.text = some source.text := htext
  have hactive' : w.drags.bridge.dndOut.active = true := hactive
  unfold Bridge.dndHandleSelectionRequest
  simp only [htext', hsel, hactive', ne_eq, not_true_eq_false, Bool.true_eq_false, or_self, if_false]
  rw [if_neg hoffered.1, if_pos hoffered.2]

/-- The state in which a read loop has begun a session. -/
theorem serves_begin_iff (htraced : w.Traced) {origin : DragOrigin} (horigin : origin ∈ w.origins)
    {text left : Text} (hcollects : text ++ left = origin.source.text) {drags : DragState}
    (hactive : drags.out.active = true) (htext : drags.out.text = some text)
    (huri : drags.out.isUri = w.out.isUri) (origins : List DragOrigin) :
    Serves { w with drags := drags, origins := origins, served := some origin.drag } ↔
      left = [] ∧ origin.drag = w.started ∧ w.out.isUri = origin.source.isUri := by
  -- the whole text has been read exactly if none is left in the pipe
  have hwhole : text = origin.source.text ↔ left = [] := by
    rw [← hcollects]
    exact List.self_eq_append_right
  constructor
  · intro h
    obtain ⟨source, hsource, hserved, hserves, hflag⟩ := h hactive
    have hdrag : origin.drag = w.started := Option.some.inj hserved
    obtain rfl : origin.source = source :=
      Option.some.inj ((htraced.last origin horigin hdrag).symm.trans hsource)
    exact ⟨hwhole.mp (Option.some.inj (htext.symm.trans hserves)), hdrag, huri.symm.trans hflag⟩
  · rintro ⟨hleft, hdrag, hflag⟩ -
    exact ⟨origin.source, htraced.last origin horigin hdrag, congrArg some hdrag,
      htext.trans (congrArg some (hwhole.mpr hleft)), huri.trans hflag⟩

/-- **One step**: it stays with the last drag exactly if it meets the condition. -/
theorem staysServing_iff (htraced : w.Traced) (hserves : w.Serves) {a : DragAction}
    (hstep : w.step a = some w') : w.StaysServing a ↔ w.ReadsWhole a := by
  have hnext : w.StaysServing a ↔ w'.Serves := Run.forall_step_iff hstep
  rw [hnext]
  obtain ⟨hdelivers, henabled, rfl⟩ := step_eq_some.mp hstep
  have hserved := htraced.inv.served
  cases a with
  | startDrag source pipe listening =>
    obtain ⟨isUri, heq⟩ := DragState.startDrag_loops hserved source pipe listening
    rw [heq]
    constructor
    · intro h
      cases hactive : w.out.active with
      | false => exact hactive
      | true =>
        -- a session of an earlier drag is not the new one's
        obtain ⟨-, -, hold, -⟩ := hserves hactive
        obtain ⟨-, -, hnew, -⟩ := h hactive
        have : w.started = w.started + 1 := Option.some.inj (hold.symm.trans hnew)
        omega
    · intro hidle hactive
      have hold : w.out.active = true := hactive
      rw [hidle] at hold
      cases hold
  | poll result view =>
    obtain ⟨loop, loops, origin, origins, hloops, horigins, hcollects⟩ :=
      poll_follow htraced hdelivers henabled
    have hafter : w.drags.handle (.poll result view) = w.drags.afterSpin view (loop.spin result) := by
      simp only [DragState.handle, hloops]
    rw [hafter]
    simp only [follow, hloops, horigins, ReadsWhole, DragState.prepares,
      List.head?_cons, Option.mem_some_iff, forall_eq']
    cases hspin : loop.spin result with
    | more loop' => exact iff_of_true hserves (by simp)
    | abandoned => exact iff_of_true hserves (by simp)
    | done text =>
      rw [hspin] at hcollects
      simp only [DragState.afterSpin]
      rw [DragState.flush_dndOutPrepared, DragState.flush_nil _ _ hserved]
      by_cases hempty : text = []
      · rw [if_pos hempty, if_pos hempty, if_pos hempty]
        exact iff_of_true hserves (by simp)
      · rw [if_neg hempty, if_neg hempty, if_neg hempty]
        have htracks := DragState.track_keeps
          (({ w.drags with loops := w.drags.loops.tail } : DragState).begin text) view
        have hactive := (DragState.track_sent
          (({ w.drags with loops := w.drags.loops.tail } : DragState).begin text) view).active
        refine (serves_begin_iff htraced (by rw [horigins]; exact List.mem_cons_self) hcollects hactive
          ((htracks.text hactive)) (htracks.isUri hactive) origins).trans ?_
        simp
  | motion | buttonPress | buttonRelease | dragEnds | clientMessage | windowsChange =>
    exact iff_of_true (hserves.keeps (DragState.handle_keeps htraced.inv (fun _ _ _ h => by cases h)
      (fun _ _ h => by cases h))) trivial

/-- **What a session serves.** In every run from the start: every state reached serves the whole text
of the last drag under the type it was read as, or nothing, exactly if each drag starts when no
session is active, and each read loop that has read anything is left when it has read everything,
while its drag is the last one and the flag is still the one it has set. -/
theorem served_whole_iff (clipboardWindow : XWindow) (as : List DragAction) (w : TracedDrag)
    (hrun : Run.run step (init clipboardWindow) as = some w) :
    Run.Along step StaysServing (init clipboardWindow) as ↔
      Run.Along step ReadsWhole (init clipboardWindow) as := by
  refine Run.along_iff_of_step (I := fun w => w.Traced ∧ w.Serves) ?_ ?_
    ⟨Traced.init clipboardWindow, fun h => nomatch h⟩ hrun
  · exact fun s a t ⟨htraced, _⟩ hstays hstep => ⟨htraced.step hstep, hstays t hstep⟩
  · exact fun s a t ⟨htraced, hserves⟩ hstep => staysServing_iff htraced hserves hstep

/-- A drag of one file whose source is read in time, dropped, and after it a drag of two letters. -/
def readInTime : List DragAction :=
  [.startDrag (some ⟨[.textUriList], [102, 47, 120]⟩) true true,
    .poll .timeout ⟨none, false, []⟩,
    .poll (.ready (.data [102, 47] true)) ⟨none, false, []⟩,
    .poll (.ready (.data [120] true)) ⟨none, false, []⟩,
    .poll (.ready .eof) ⟨some (3, 4), false, [⟨7, some 5⟩]⟩,
    .clientMessage 7 1 ⟨1, true, some 7, .status true⟩ false, .buttonRelease true true,
    .clientMessage 7 1 ⟨1, true, some 7, .finished true⟩ true,
    .startDrag (some ⟨[.textPlain], [104, 105]⟩) true true,
    .poll (.ready (.data [104, 105] true)) ⟨none, false, []⟩,
    .poll (.ready .eof) ⟨none, false, []⟩]

/-- Both drags are served whole. -/
theorem served_whole_read_in_time : Run.Along step StaysServing (init 1) readInTime := by
  have hsome : (Run.run step (init 1) readInTime).isSome = true := by decide +kernel
  have hcond : Run.Along step ReadsWhole (init 1) readInTime := by decide +kernel
  obtain ⟨w, hw⟩ := Option.isSome_iff_exists.mp hsome
  exact (served_whole_iff 1 readInTime w hw).mpr hcond

/-- A source that writes the first of two bytes and then takes half a second over the other. -/
def slowSource : List DragAction :=
  .startDrag (some ⟨[.textPlain], [104, 105]⟩) true true ::
    .poll (.ready (.data [104] true)) ⟨none, false, []⟩ ::
    List.replicate 99 (.poll .timeout ⟨none, false, []⟩)

/-- The session of a slow source serves the beginning of its text. -/
theorem slow_source_served_in_part :
    ¬ ∀ (clipboardWindow : XWindow) (w : TracedDrag),
      Run.Reachable step (init clipboardWindow) w → w.Serves := by
  intro h
  have hany : (Run.run step (init 1) slowSource).any (fun w =>
      w.out.active && w.out.text = some [104] && w.source = some ⟨[.textPlain], [104, 105]⟩) = true := by
    decide +kernel
  obtain ⟨w, hw, hchecks⟩ := (Option.any_eq_true ..).mp hany
  simp only [Bool.and_eq_true, decide_eq_true_eq] at hchecks
  obtain ⟨⟨hactive, hpart⟩, hsource⟩ := hchecks
  obtain ⟨source, hlast, -, htext, -⟩ := h 1 w ⟨_, hw⟩ hactive
  rw [hsource] at hlast
  cases hlast
  rw [hpart] at htext
  cases htext

end TracedDrag

end Wlx
