import WlX11.Export

/-!
# WlX11 — an export publishes its text whole or not at all

`clipboard_read_fd` publishes what it has collected when the source closes the pipe. It learns of
that in two ways: from an end of file in its loop, when everything has been read; or from
`WL_EVENT_HANGUP` in the mask, and then it does not look at `WL_EVENT_READABLE` in the same mask, and
what is still in the pipe is lost. A source that writes its text and closes the pipe at once is
reported by both bits together, so its text is cut short, or lost altogether.

* **`PublishesWhole`** — what a step should publish; **`ReadsWhole`** — when it does.
* **`export_whole_iff`** — the two are equivalent along every export, and every export that has not
  ended can end.
-/

namespace Wlx

namespace ExportState

/-- The step publishes nothing, unless it ends the read of a text the bridge carries: then it
publishes that text. -/
def PublishesWhole (sel : Selection) (text : Text) (w : ExportState) (a : ExportAction) : Prop :=
  ∀ w', w.step a = some w' →
    if w'.bridge.read.reading = false ∧ text.Valid then
      w'.bridge.out = w.bridge.out ++ [.setSelectionOwner sel.toAtom (some text)] ∧
        (w'.bridge.channel sel).outText = some text
    else w'.bridge.out = w.bridge.out

/-- A read of a text the bridge carries ends with the whole text in the buffer, and there is memory
for it; any other read ends with nothing in the buffer, or without the memory for what there is. -/
def EndsWhole (text : Text) (w : ExportState) : Ending → Prop
  | .goesOn => True
  | .publishes env =>
    if text.Valid then w.bridge.read.buf = text ∧ env.alloc = true
    else w.bridge.read.buf = [] ∨ env.alloc = false
  | .abandons => ¬ text.Valid

instance (text : Text) (w : ExportState) : ∀ e : Ending, Decidable (w.EndsWhole text e)
  | .goesOn => isTrue trivial
  | .publishes env => inferInstanceAs (Decidable
      (if text.Valid then w.bridge.read.buf = text ∧ env.alloc = true
        else w.bridge.read.buf = [] ∨ env.alloc = false))
  | .abandons => inferInstanceAs (Decidable (¬ text.Valid))

/-- If the action ends the read, it ends whole. -/
def ReadsWhole (text : Text) (w : ExportState) (a : ExportAction) : Prop :=
  w.EndsWhole text (w.ending a)

instance (text : Text) (w : ExportState) (a : ExportAction) : Decidable (w.ReadsWhole text a) :=
  inferInstanceAs (Decidable (w.EndsWhole text (w.ending a)))

/-- The read in progress, if any, is the export of `text`. -/
def Exports (sel : Selection) (text : Text) (w : ExportState) : Prop :=
  ∀ p, w.pipe = some p → w.bridge.read.target = sel ∧ p.text = text

section Whole

variable {w w' : ExportState} {a : ExportAction} {sel : Selection} {text : Text}

/-- **One action of the pipe**: it publishes the whole exactly if it reads the whole. -/
theorem publishesWhole_iff (hinv : w.Inv) (hexp : Exports sel text w) (ha : ofPipe a = true)
    (hstep : w.step a = some w') : w.PublishesWhole sel text a ↔ w.ReadsWhole text a := by
  obtain ⟨hen, rfl⟩ := step_eq_some.mp hstep
  obtain ⟨p, hp⟩ := pipe_of_enabled ha hen
  obtain ⟨htarget, -⟩ := hexp p hp
  have hnext : w.PublishesWhole sel text a ↔
      if (w.handle a).bridge.read.reading = false ∧ text.Valid then
        (w.handle a).bridge.out = w.bridge.out ++ [.setSelectionOwner sel.toAtom (some text)] ∧
          ((w.handle a).bridge.channel sel).outText = some text
      else (w.handle a).bridge.out = w.bridge.out :=
    Run.forall_step_iff hstep
  rw [hnext]
  have hne (hvalid : text.Valid) : text ≠ [] := by
    rintro rfl
    exact absurd hvalid.1 (by decide)
  have h := handle_ending hinv ha hen
  unfold ReadsWhole
  cases he : w.ending a with
  | goesOn =>
    -- nothing is sent while the read goes on
    rw [he] at h
    refine iff_of_true ?_ trivial
    rw [if_neg (by rw [h.reading]; simp)]
    exact h.out
  | publishes env =>
    rw [he] at h
    rw [h]
    have hended : (w.bridge.publishCollected env).read.reading = false := rfl
    simp only [hended, true_and, EndsWhole]
    by_cases hbuf : w.bridge.read.buf = []
    · rw [w.bridge.publishCollected_of_nil hbuf]
      split
      · next hvalid =>
        refine iff_of_false (fun hpub => ?_) fun hread => hne hvalid (hread.1.symm.trans hbuf)
        simpa [Bridge.clipboardClearRead] using hpub.1
      · exact iff_of_true rfl (Or.inl hbuf)
    · cases hmem : env.alloc with
      | false =>
        rw [w.bridge.publishCollected_of_no_memory hbuf hmem]
        split
        · refine iff_of_false (fun hpub => ?_) fun hread => absurd hread.2 (by decide)
          simpa [Bridge.clipboardClearRead] using hpub.1
        · exact iff_of_true rfl (Or.inr rfl)
      | true =>
        rw [w.bridge.publishCollected_of_memory hbuf hmem, htarget]
        simp only [Bridge.clipboardClearRead, Bridge.send_out, Bridge.send_channel,
          Bridge.setChannel_out, Bridge.setChannel_channel, if_true]
        split
        · simp
        · simp [hbuf]
  | abandons =>
    rw [he] at h
    rw [h]
    have hended : w.bridge.clipboardClearRead.read.reading = false := rfl
    simp only [hended, true_and, EndsWhole]
    split
    · next hvalid =>
      refine iff_of_false (fun hpub => ?_) fun hnot => hnot hvalid
      simpa [Bridge.clipboardClearRead] using hpub.1
    · next hnot => exact iff_of_true rfl hnot

/-- An action of the pipe does not change what is exported. -/
theorem Exports.step (hinv : w.Inv) (hexp : Exports sel text w) (ha : ofPipe a = true)
    (hstep : w.step a = some w') : Exports sel text w' := by
  obtain ⟨hen, rfl⟩ := step_eq_some.mp hstep
  have h := handle_ending hinv ha hen
  split at h
  · obtain ⟨p, p', hp, hp', htext, -⟩ := h.pipe
    obtain ⟨htarget, hp_text⟩ := hexp p hp
    intro q hq
    rw [hp'] at hq
    cases hq
    exact ⟨h.target.trans htarget, htext.trans hp_text⟩
  · rw [h]
    exact fun _ hq => nomatch hq
  · rw [h]
    exact fun _ hq => nomatch hq

/-! ## An export can end -/

/-- Some further run reads the whole and ends the read. -/
def CanEnd (text : Text) (w : ExportState) : Prop :=
  ∃ as t, Run.run step w as = some t ∧ t.bridge.read.reading = false ∧
    Run.Along step (ReadsWhole text) w as

theorem CanEnd.of_step (hen : w.enabled a = true) (hread : w.ReadsWhole text a)
    (h : CanEnd text (w.handle a)) : CanEnd text w := by
  obtain ⟨as, t, hrun, hended, halong⟩ := h
  have hstep : w.step a = some (w.handle a) := step_eq_some.mpr ⟨hen, rfl⟩
  refine ⟨a :: as, t, ?_, hended, ?_⟩
  · rw [Run.run_cons, hstep]
    exact hrun
  · rw [Run.along_cons hstep]
    exact ⟨hread, halong⟩

theorem CanEnd.of_idle (h : w.bridge.read.reading = false) : CanEnd text w :=
  ⟨[], w, rfl, h, trivial⟩

/-- In the loop, with the source gone: every read takes a byte, until the end of file. -/
theorem canEnd_of_looping {p : Pipe} (hinv : w.Inv) (hexp : Exports sel text w)
    (hp : w.pipe = some p) (hloop : w.looping = true) (hclosed : p.closed = true) :
    CanEnd text w := by
  have hreading : w.bridge.read.reading = true := by rw [← hinv.reading, hp]; rfl
  obtain ⟨hwhole, hdone⟩ := hinv.whole p hp
  have htext : text = w.bridge.read.buf ++ p.unread := by
    rw [← (hexp p hp).2, hwhole, hdone hclosed, List.append_nil]
  induction hn : p.unread generalizing w p with
  | nil =>
    rw [hn, List.append_nil] at htext
    refine CanEnd.of_step (a := .read .eof ⟨true, true⟩) ?_ ?_ (.of_idle ?_)
    · simp [enabled, hloop, hp, hclosed, hn]
    · show if text.Valid then w.bridge.read.buf = text ∧ true = true
        else w.bridge.read.buf = [] ∨ true = false
      split
      · exact ⟨htext.symm, rfl⟩
      · next hnot =>
        -- an invalid text that fits the buffer is empty
        refine Or.inl (List.eq_nil_iff_length_eq_zero.mpr ?_)
        have hbound := hinv.bound
        rw [← htext] at hbound ⊢
        unfold Text.Valid at hnot
        omega
    · simp only [handle, hp]
      rfl
  | cons b rest ih =>
    have hen : w.enabled (.read (.data 1 true) ⟨true, true⟩) = true := by
      simp only [enabled, hloop, hp, hn, Option.any_some, Bool.true_and, Bool.and_eq_true,
        decide_eq_true_eq, List.length_cons]
      omega
    have htake : p.unread.take 1 = [b] := by rw [hn]; rfl
    have hdrop : p.unread.drop 1 = rest := by rw [hn]; rfl
    by_cases hlong : wlxClipboardMax < w.bridge.read.buf.length + 1
    · refine CanEnd.of_step hen ?_ (.of_idle ?_)
      · rw [ReadsWhole, ending, if_pos (Or.inl hlong)]
        rintro ⟨-, hshort⟩
        rw [htext, hn, List.length_append, List.length_cons] at hshort
        omega
      · simp only [handle, hp, PipeRead.ofPipe, htake, Bridge.clipboardReadChunk]
        rw [if_pos (by simpa using hlong)]
        rfl
    · have hnext : w.handle (.read (.data 1 true) ⟨true, true⟩) =
          ⟨{ w.bridge with read := { w.bridge.read with buf := w.bridge.read.buf ++ [b] } },
            some { p with unread := rest }, true⟩ := by
        simp only [handle, hp, PipeRead.ofPipe, htake, Bridge.clipboardReadChunk, PipeRead.size, hdrop]
        rw [if_neg (by simpa using hlong), if_neg (by decide)]
        simp [after, hreading]
      have hstep := step_eq_some.mpr ⟨hen, hnext⟩
      refine CanEnd.of_step hen ?_ ?_
      · rw [ReadsWhole, ending, if_neg (by simpa using hlong)]
        trivial
      · rw [hnext]
        refine ih (hinv.step hstep) (hexp.step hinv rfl hstep) rfl rfl hclosed hreading ?_ ?_ ?_ rfl
        · rw [hwhole, hn]
          simp
        · exact hdone
        · rw [htext, hn]
          simp

/-- Any other action of the pipe leads on. -/
theorem CanEnd.of_goesOn (hinv : w.Inv) (hexp : Exports sel text w) (ha : ofPipe a = true)
    (hen : w.enabled a = true) (hgoes : w.ending a = .goesOn)
    (h : (w.handle a).Inv → Exports sel text (w.handle a) → CanEnd text (w.handle a)) :
    CanEnd text w := by
  have hstep : w.step a = some (w.handle a) := step_eq_some.mpr ⟨hen, rfl⟩
  refine CanEnd.of_step hen (by rw [ReadsWhole, hgoes]; trivial) ?_
  exact h (hinv.step hstep) (hexp.step hinv ha hstep)

theorem canEnd_of_closed {p : Pipe} (hinv : w.Inv) (hexp : Exports sel text w)
    (hp : w.pipe = some p) (hclosed : p.closed = true) : CanEnd text w := by
  cases hloop : w.looping with
  | true => exact canEnd_of_looping hinv hexp hp hloop hclosed
  | false =>
    have hreading : w.bridge.read.reading = true := by rw [← hinv.reading, hp]; rfl
    refine CanEnd.of_goesOn (a := .callback ⟨true, false, false⟩ ⟨true, true⟩) hinv hexp rfl ?_ rfl ?_
    · simp [enabled, hloop, hp]
    · intro hinv' hexp'
      have hnext : w.handle (.callback ⟨true, false, false⟩ ⟨true, true⟩) =
          ⟨w.bridge, some p, true⟩ := by
        simp [handle, hp, after, Bridge.clipboardReadFd, hreading]
      rw [hnext] at hinv' hexp' ⊢
      exact canEnd_of_looping hinv' hexp' rfl rfl hclosed

/-- **An export can end**: the source writes the rest and closes, the callback comes, and its loop
reads everything. -/
theorem canEnd {p : Pipe} (hinv : w.Inv) (hexp : Exports sel text w) (hp : w.pipe = some p) :
    CanEnd text w := by
  have hwritten {w : ExportState} {p : Pipe} (hinv : w.Inv) (hexp : Exports sel text w)
      (hp : w.pipe = some p) (hnone : p.pending = []) : CanEnd text w := by
    cases hclosed : p.closed with
    | true => exact canEnd_of_closed hinv hexp hp hclosed
    | false =>
      refine CanEnd.of_goesOn (a := .close) hinv hexp rfl ?_ rfl fun hinv' hexp' => ?_
      · simp [enabled, hp, hclosed, hnone]
      · refine canEnd_of_closed hinv' hexp' (p := { p with closed := true }) ?_ rfl
        simp only [handle, hp, Option.map_some]
  cases hpending : p.pending with
  | nil => exact hwritten hinv hexp hp hpending
  | cons b rest =>
    have hopen : p.closed = false := by
      cases hclosed : p.closed with
      | false => rfl
      | true => rw [(hinv.whole p hp).2 hclosed] at hpending; cases hpending
    refine CanEnd.of_goesOn (a := .write p.pending.length) hinv hexp rfl ?_ rfl fun hinv' hexp' => ?_
    · simp [enabled, hp, hopen, hpending]
    · refine hwritten hinv' hexp' (p := { p with
        pending := p.pending.drop p.pending.length
        unread := p.unread ++ p.pending.take p.pending.length }) ?_ (List.drop_length ..)
      simp only [handle, hp, Option.map_some]

end Whole

/-- **Exports are whole.** An export starts in any reachable state, and any actions of its pipe
follow (no selection change). Then its text is published, whole, exactly if it is one the bridge
carries, and nothing else is, if and only if its pipe can be had and its read ends whole; and as long
as the read is in progress it can end so. -/
theorem export_whole_iff (clipboardWindow : XWindow) (w₀ w w' : ExportState) (sel : Selection)
    (source : Option Source) (src : Source) (env : ExportEnv) (as : List ExportAction)
    (hreach : Run.Reachable step (init clipboardWindow) w₀)
    (hexported : w₀.bridge.exported sel source = some src)
    (hstart : w₀.step (.select sel source env) = some w)
    (hpipe : ∀ a ∈ as, ofPipe a = true) (hrun : Run.run step w as = some w') :
    ((src.text.Valid → w.bridge.read.reading = true) ∧
          Run.Along step (PublishesWhole sel src.text) w as ↔
        (src.text.Valid → (env.pipe && env.addFd) = true) ∧
          Run.Along step (ReadsWhole src.text) w as) ∧
      (w'.bridge.read.reading = true → CanEnd src.text w') := by
  obtain ⟨as₀, hrun₀⟩ := hreach
  have hinv₀ : w₀.Inv :=
    Run.run_invariant (fun _ _ _ hinv hstep => Inv.step hinv hstep) (Inv.init clipboardWindow) hrun₀
  have hinv : w.Inv := hinv₀.step hstart
  obtain ⟨hreading, hexp⟩ :
      w.bridge.read.reading = (env.pipe && env.addFd) ∧ Exports sel src.text w := by
    obtain ⟨-, rfl⟩ := step_eq_some.mp hstart
    simp only [handle, hexported]
    rw [w₀.bridge.requestSetSelection_of_exported hexported]
    refine ⟨rfl, fun p hp => ?_⟩
    cases hok : env.pipe && env.addFd with
    | false => rw [hok] at hp; cases hp
    | true => rw [hok] at hp; cases hp; exact ⟨rfl, rfl⟩
  have halong : Run.Along step (fun _ a => ofPipe a = true) w as := Run.along_of_mem hpipe
  have hkeeps : ∀ s a t, s.Inv ∧ Exports sel src.text s → ofPipe a = true → step s a = some t →
      t.Inv ∧ Exports sel src.text t := by
    rintro s a t ⟨hinv, hexp⟩ ha hstep
    exact ⟨hinv.step hstep, hexp.step hinv ha hstep⟩
  constructor
  · rw [hreading]
    refine and_congr_right fun _ => ?_
    refine Run.along_iff_along (I := fun w => w.Inv ∧ Exports sel src.text w) ?_ ?_ ⟨hinv, hexp⟩
      halong hrun
    · exact fun s a t h ha _ hstep => hkeeps s a t h ha hstep
    · rintro s a t ⟨hinv, hexp⟩ ha hstep
      exact publishesWhole_iff hinv hexp ha hstep
  · intro hreads
    obtain ⟨hinv', hexp'⟩ := Run.run_invariant_of_along hkeeps ⟨hinv, hexp⟩ halong hrun
    obtain ⟨p, hp⟩ := Option.isSome_iff_exists.mp (hinv'.reading.trans hreads)
    exact canEnd hinv' hexp' hp

/-- A text of two bytes. -/
def twoBytes : Source := ⟨[.textPlain], [104, 105]⟩

/-- It is written and the pipe is closed; one callback reports all of it. -/
def writtenAndClosed : List ExportAction :=
  [.write 2, .close, .callback ⟨true, true, false⟩ ⟨true, true⟩]

/-- The two bytes are lost. -/
theorem hangup_loses_unread_text :
    ¬ ∀ (clipboardWindow : XWindow) (w₀ w w' : ExportState) (sel : Selection)
      (source : Option Source) (src : Source) (env : ExportEnv) (as : List ExportAction),
      Run.Reachable step (init clipboardWindow) w₀ →
        w₀.bridge.exported sel source = some src →
        w₀.step (.select sel source env) = some w →
        (∀ a ∈ as, ofPipe a = true) → Run.run step w as = some w' →
        (src.text.Valid → w.bridge.read.reading = true) ∧
          Run.Along step (PublishesWhole sel src.text) w as := by
  intro h
  let w := (init 1).handle (.select .clipboard (some twoBytes) ⟨true, true⟩)
  have hwrite : w.step (.write 2) = some (w.handle (.write 2)) := rfl
  have hclose : (w.handle (.write 2)).step .close = some ((w.handle (.write 2)).handle .close) := rfl
  let u := (w.handle (.write 2)).handle .close
  have hcall : u.step (.callback ⟨true, true, false⟩ ⟨true, true⟩) =
      some (u.handle (.callback ⟨true, true, false⟩ ⟨true, true⟩)) := rfl
  obtain ⟨-, halong⟩ := h 1 (init 1) w _ .clipboard (some twoBytes) twoBytes ⟨true, true⟩
    writtenAndClosed ⟨[], rfl⟩ rfl rfl (by decide) rfl
  have hlast := ((Run.along_cons hclose).mp ((Run.along_cons hwrite).mp halong).2).2.1 _ hcall
  rw [if_pos ⟨rfl, by decide⟩] at hlast
  exact absurd hlast.2 (by decide)

/-- The same text in two chunks, the last of them read before the source has gone. -/
def readInTime : List ExportAction :=
  [.write 1, .callback ⟨true, false, false⟩ ⟨true, true⟩, .read (.data 1 true) ⟨true, true⟩, .write 1,
    .read (.data 1 true) ⟨true, true⟩, .read .again ⟨true, true⟩, .close,
    .callback ⟨false, true, false⟩ ⟨true, true⟩]

/-- It is published whole. -/
theorem export_whole_in_time :
    Run.Along step (PublishesWhole .clipboard [104, 105])
      ((init 1).handle (.select .clipboard (some twoBytes) ⟨true, true⟩)) readInTime := by
  let w := (init 1).handle (.select .clipboard (some twoBytes) ⟨true, true⟩)
  have hsome : (Run.run step w readInTime).isSome = true := by decide +kernel
  obtain ⟨w', hw'⟩ := Option.isSome_iff_exists.mp hsome
  exact ((export_whole_iff 1 (init 1) w w' .clipboard (some twoBytes) twoBytes ⟨true, true⟩ readInTime
    ⟨[], rfl⟩ rfl rfl (by decide) hw').1.mpr ⟨fun _ => rfl, by decide +kernel⟩).2

end ExportState

end Wlx
