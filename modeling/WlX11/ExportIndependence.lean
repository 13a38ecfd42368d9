import WlX11.ExportWhole

/-!
# WlX11 — the exports of the two selections

CLIPBOARD and PRIMARY share one reader: `clipboard_clear_read` at the start of an export stops
whatever read is in progress, also one of the other selection, whose text is then never published.

* **`Independent`** — the text each selection should carry is being read for it, or published on it.
* **`RespectsOther`** — the steps that keep it so.
* **`exports_independent_iff`** — the two are equivalent along every run of selection changes and
  pipe reads.
-/

namespace Wlx

namespace ExportState

/-- The text the X11 selection should carry: that of the seat's current source, if the bridge carries
it. -/
def currentText (w : ExportState) (sel : Selection) : Option Text :=
  match w.bridge.seat sel with
  | .client src => if src.isText = true ∧ src.text.Valid then some src.text else none
  | .none | .bridge => none

/-- The text published on the X11 selection. -/
def outText (w : ExportState) (sel : Selection) : Option Text := (w.bridge.channel sel).outText

/-- `text` is what requests for the selection are answered with, and was offered when the selection
was last taken. -/
def Carries (w : ExportState) (sel : Selection) (text : Text) : Prop :=
  w.outText sel = some text ∧ lastOffer sel.toAtom w.bridge.out = some text

/-- `text` is being read for the selection. -/
def Exporting (w : ExportState) (sel : Selection) (text : Text) : Prop :=
  w.bridge.read.target = sel ∧ ∃ p, w.pipe = some p ∧ p.text = text

/-- Whatever happens on the other one, each selection's current text is on its way or published. -/
def Independent (w : ExportState) : Prop :=
  ∀ sel text, w.currentText sel = some text → w.Exporting sel text ∨ w.Carries sel text

/-- The state the step leads to is independent. -/
def StaysIndependent (w : ExportState) (a : ExportAction) : Prop :=
  ∀ w', w.step a = some w' → w'.Independent

/-- The selection carries its current text already, or needs to carry none. -/
def Settled (w : ExportState) (sel : Selection) : Prop :=
  w.currentText sel = none ∨ w.outText sel = w.currentText sel

instance (w : ExportState) (sel : Selection) : Decidable (w.Settled sel) :=
  inferInstanceAs (Decidable (_ ∨ _))

/-- The read in progress ends with the current text of its selection in the buffer, or that is
settled already. -/
def EndsSettled (w : ExportState) : Ending → Prop
  | .goesOn => True
  | .publishes env => w.currentText w.bridge.read.target = none ∨
      if w.bridge.read.buf = [] then w.Settled w.bridge.read.target
      else w.currentText w.bridge.read.target = some w.bridge.read.buf ∧ env.alloc = true
  | .abandons => w.Settled w.bridge.read.target

instance (w : ExportState) : ∀ e : Ending, Decidable (w.EndsSettled e)
  | .goesOn => isTrue trivial
  | .publishes env => inferInstanceAs (Decidable (w.currentText w.bridge.read.target = none ∨
      if w.bridge.read.buf = [] then w.Settled w.bridge.read.target
      else w.currentText w.bridge.read.target = some w.bridge.read.buf ∧ env.alloc = true))
  | .abandons => inferInstanceAs (Decidable (w.Settled w.bridge.read.target))

/-- An export starts only when no read of the other selection is cut off by it, and its pipe can be
had; and reads end settled. -/
def RespectsOther (w : ExportState) : ExportAction → Prop
  | .select sel source env => ∀ src ∈ w.bridge.exported sel source,
      (w.bridge.read.reading = true → w.bridge.read.target ≠ sel → w.Settled w.bridge.read.target) ∧
        (src.text.Valid → (env.pipe && env.addFd) = true ∨ w.outText sel = some src.text)
  | .write size => w.EndsSettled (w.ending (.write size))
  | .close => w.EndsSettled (w.ending .close)
  | .callback mask env => w.EndsSettled (w.ending (.callback mask env))
  | .read result env => w.EndsSettled (w.ending (.read result env))

instance : ∀ (w : ExportState) (a : ExportAction), Decidable (w.RespectsOther a)
  | w, .select sel source env => inferInstanceAs (Decidable (∀ src ∈ w.bridge.exported sel source,
      (w.bridge.read.reading = true → w.bridge.read.target ≠ sel → w.Settled w.bridge.read.target) ∧
        (src.text.Valid → (env.pipe && env.addFd) = true ∨ w.outText sel = some src.text)))
  | w, .write size => inferInstanceAs (Decidable (w.EndsSettled (w.ending (.write size))))
  | w, .close => inferInstanceAs (Decidable (w.EndsSettled (w.ending .close)))
  | w, .callback mask env =>
    inferInstanceAs (Decidable (w.EndsSettled (w.ending (.callback mask env))))
  | w, .read result env => inferInstanceAs (Decidable (w.EndsSettled (w.ending (.read result env))))

section Independent

variable {w w' : ExportState} {a : ExportAction} {sel : Selection} {text : Text}

/-- What is stored is what was offered. -/
theorem carries_iff (hinv : w.Inv) : w.Carries sel text ↔ w.outText sel = some text :=
  ⟨fun h => h.1, fun h => ⟨h, hinv.published.channel sel text h⟩⟩

theorem settled_iff_outText :
    w.Settled sel ↔ ∀ text, w.currentText sel = some text → w.outText sel = some text := by
  unfold Settled
  cases h : w.currentText sel with
  | none => simp
  | some text => simp

theorem currentText_congr (h : w'.bridge.seat sel = w.bridge.seat sel) :
    w'.currentText sel = w.currentText sel := by
  rw [currentText, currentText, h]

theorem settled_congr (hseat : w'.bridge.seat sel = w.bridge.seat sel)
    (hout : w'.outText sel = w.outText sel) : w'.Settled sel ↔ w.Settled sel := by
  unfold Settled
  rw [currentText_congr hseat, hout]

/-- The read in progress for a selection is that of its current text. -/
theorem exporting_of_current (hinv : w.Inv) (hreading : w.bridge.read.reading = true)
    (htext : w.currentText w.bridge.read.target = some text) :
    w.Exporting w.bridge.read.target text := by
  obtain ⟨p, hp⟩ := Option.isSome_iff_exists.mp (hinv.reading.trans hreading)
  refine ⟨rfl, p, hp, ?_⟩
  unfold currentText at htext
  split at htext
  · next src hsrc =>
    split at htext
    · next hok =>
      cases htext
      exact hinv.source p src hp hsrc hok.1
    · cases htext
  · cases htext
  · cases htext

/-- A selection that is not being read must be settled, and that is all. -/
theorem independent_iff (hinv : w.Inv) :
    w.Independent ↔
      ∀ sel, ¬ (w.bridge.read.reading = true ∧ w.bridge.read.target = sel) → w.Settled sel := by
  constructor
  · intro h sel hnot
    rw [settled_iff_outText]
    intro text htext
    rcases h sel text htext with ⟨htarget, p, hp, -⟩ | hcarries
    · exact absurd ⟨by rw [← hinv.reading, hp]; rfl, htarget⟩ hnot
    · exact hcarries.1
  · intro h sel text htext
    by_cases hread : w.bridge.read.reading = true ∧ w.bridge.read.target = sel
    · left
      obtain ⟨hreading, rfl⟩ := hread
      exact exporting_of_current hinv hreading htext
    · exact Or.inr ((carries_iff hinv).mpr (settled_iff_outText.mp (h sel hread) text htext))

/-- **One action of the pipe**: it stays independent exactly if its read ends settled. -/
theorem independent_pipe_iff (hinv : w.Inv) (hind : w.Independent) (ha : ofPipe a = true)
    (hen : w.enabled a = true) :
    (w.handle a).Independent ↔ w.EndsSettled (w.ending a) := by
  have hstep : w.step a = some (w.handle a) := step_eq_some.mpr ⟨hen, rfl⟩
  have hinv' := hinv.step hstep
  obtain ⟨p, hp⟩ := pipe_of_enabled ha hen
  have hreading : w.bridge.read.reading = true := by rw [← hinv.reading, hp]; rfl
  have hind' := (independent_iff hinv).mp hind
  have h := handle_ending hinv ha hen
  rw [independent_iff hinv']
  cases he : w.ending a with
  | goesOn =>
    rw [he] at h
    refine iff_of_true (fun sel hnot => ?_) trivial
    have hsettled := hind' sel fun hread => hnot ⟨h.reading, h.target.trans hread.2⟩
    exact (settled_congr (by rw [h.seat]) (by rw [outText, outText, h.channel])).mpr hsettled
  | publishes env =>
    rw [he] at h
    rw [h]
    -- the other selection is as before, so it is about the one that was read
    have hother (sel : Selection) (hne : sel ≠ w.bridge.read.target) :
        Settled ⟨w.bridge.publishCollected env, none, false⟩ sel :=
      (settled_congr (by rw [publishCollected_seat])
        (by rw [outText, outText_publishCollected, if_pos (Or.inr hne)]; rfl)).mpr
        (hind' sel fun hread => hne hread.2.symm)
    have hone : Settled ⟨w.bridge.publishCollected env, none, false⟩ w.bridge.read.target ↔
        w.EndsSettled (.publishes env) := by
      simp only [Settled, EndsSettled]
      rw [currentText_congr (w := w) (by rw [publishCollected_seat]), outText,
        outText_publishCollected]
      by_cases hbuf : w.bridge.read.buf = []
      · rw [if_pos (Or.inl hbuf), if_pos hbuf]
        exact ⟨Or.inr, fun hends => hends.elim Or.inl id⟩
      · rw [if_neg (by simp [hbuf]), if_neg hbuf]
        cases hmem : env.alloc with
        | true => simp [eq_comm]
        | false => cases w.currentText w.bridge.read.target <;> simp
    constructor
    · exact fun hall => hone.mp (hall _ fun hread => nomatch hread.1)
    · intro hends sel _
      by_cases hsel : sel = w.bridge.read.target
      · rw [hsel]; exact hone.mpr hends
      · exact hother sel hsel
  | abandons =>
    rw [he] at h
    rw [h]
    have hsame (sel : Selection) :
        Settled ⟨w.bridge.clipboardClearRead, none, false⟩ sel ↔ w.Settled sel :=
      settled_congr rfl rfl
    constructor
    · exact fun hall => (hsame _).mp (hall _ fun hread => nomatch hread.1)
    · intro hends sel _
      rw [hsame]
      by_cases hsel : sel = w.bridge.read.target
      · rw [hsel]; exact hends
      · exact hind' sel fun hread => hsel hread.2.symm

/-- **One step**: it stays independent exactly if it respects the other selection. -/
theorem staysIndependent_iff (hinv : w.Inv) (hind : w.Independent) (hstep : w.step a = some w') :
    w.StaysIndependent a ↔ w.RespectsOther a := by
  have hnext : w.StaysIndependent a ↔ w'.Independent := Run.forall_step_iff hstep
  rw [hnext]
  have hinv' := hinv.step hstep
  obtain ⟨hen, rfl⟩ := step_eq_some.mp hstep
  cases a with
  | write size => exact independent_pipe_iff hinv hind rfl hen
  | close => exact independent_pipe_iff hinv hind rfl hen
  | callback mask env => exact independent_pipe_iff hinv hind rfl hen
  | read result env => exact independent_pipe_iff hinv hind rfl hen
  | select sel source env =>
    have hind' := (independent_iff hinv).mp hind
    rw [independent_iff hinv']
    have hbridge := w.handle_select sel source env
    generalize w.handle (.select sel source env) = w' at hbridge
    have hseat : w'.bridge.seat = Function.update w.bridge.seat sel (source.elim .none .client) := by
      rw [hbridge]
    have hout (sel' : Selection) : w'.outText sel' = w.outText sel' := by rw [outText, hbridge]; rfl
    have hother (sel' : Selection) (hne : sel' ≠ sel) : w'.Settled sel' ↔ w.Settled sel' :=
      settled_congr (by rw [hseat, Function.update_of_ne hne]) (hout sel')
    simp only [RespectsOther]
    cases hexp : w.bridge.exported sel source with
    | none =>
      refine iff_of_true (fun sel' hnot => ?_) (by simp)
      rw [hbridge, hexp] at hnot
      by_cases hsel : sel' = sel
      · -- the new source has no text to carry
        refine Or.inl ?_
        rw [hsel, currentText, hseat, Function.update_self]
        cases source with
        | none => rfl
        | some src =>
          have htype : src.isText = false := by
            simpa [Bridge.exported, hinv.setting sel] using hexp
          simp [htype]
      · exact (hother sel' hsel).mpr (hind' sel' hnot)
    | some src =>
      obtain ⟨rfl, htype⟩ := w.bridge.of_exported hexp
      have hthis : w'.Settled sel ↔ (src.text.Valid → w.outText sel = some src.text) := by
        rw [settled_iff_outText, currentText, hout, hseat, Function.update_self]
        simp [htype]
      rw [hbridge, hexp]
      constructor
      · rintro hall src' ⟨⟩
        refine ⟨fun _ hne => ?_, fun hvalid => ?_⟩
        · exact (hother _ hne).mp (hall _ fun hread => hne hread.2.symm)
        · cases hok : env.pipe && env.addFd with
          | true => exact Or.inl rfl
          | false =>
            refine Or.inr (hthis.mp (hall sel fun hread => ?_) hvalid)
            rw [hok] at hread
            obtain ⟨hstarted, -⟩ := hread
            cases hstarted
      · intro hcond sel' hnot
        obtain ⟨hcut, hstarts⟩ := hcond src rfl
        by_cases hsel : sel' = sel
        · subst hsel
          refine hthis.mpr fun hvalid => ?_
          exact (hstarts hvalid).resolve_left fun hok => hnot ⟨hok, rfl⟩
        · refine (hother sel' hsel).mpr ?_
          by_cases hread : w.bridge.read.reading = true ∧ w.bridge.read.target = sel'
          · rw [← hread.2]
            exact hcut hread.1 (by rw [hread.2]; exact hsel)
          · exact hind' sel' hread

end Independent

/-- **The exports of the two selections are independent.** In every run from the start: after every
step the current text of each selection is being read for it or published on it, exactly if no export
of one selection starts while the text of the other is being read, every export gets its pipe, and
every read ends with the whole text in the buffer and memory for it (or has nothing left to publish).
And a read in progress can end so. -/
theorem exports_independent_iff (clipboardWindow : XWindow) (as : List ExportAction)
    (w : ExportState) (hrun : Run.run step (init clipboardWindow) as = some w) :
    (Run.Along step StaysIndependent (init clipboardWindow) as ↔
        Run.Along step RespectsOther (init clipboardWindow) as) ∧
      (w.bridge.read.reading = true → ∃ p, w.pipe = some p ∧ CanEnd p.text w) := by
  constructor
  · refine Run.along_iff_of_step (I := fun w => w.Inv ∧ w.Independent) ?_ ?_
      ⟨Inv.init clipboardWindow, (fun _ _ h => nomatch h)⟩ hrun
    · exact fun s a t ⟨hinv, _⟩ hstays hstep => ⟨hinv.step hstep, hstays t hstep⟩
    · exact fun s a t ⟨hinv, hind⟩ hstep => staysIndependent_iff hinv hind hstep
  · intro hreading
    have hinv : w.Inv :=
      Run.run_invariant (fun _ _ _ hinv hstep => Inv.step hinv hstep) (Inv.init clipboardWindow) hrun
    obtain ⟨p, hp⟩ := Option.isSome_iff_exists.mp (hinv.reading.trans hreading)
    have hexp : Exports w.bridge.read.target p.text w := by
      rintro q hq
      rw [hp] at hq
      cases hq
      exact ⟨rfl, rfl⟩
    exact ⟨p, hp, canEnd hinv hexp hp⟩

/-- A text is selected, and before it is read another one for the other selection. -/
def selectedBoth : List ExportAction :=
  [.select .clipboard (some twoBytes) ⟨true, true⟩,
    .select .primary (some ⟨[.textPlain], [111]⟩) ⟨true, true⟩]

/-- The first text is lost. -/
theorem primary_cancels_clipboard :
    ¬ ∀ (clipboardWindow : XWindow) (w : ExportState),
      Run.Reachable step (init clipboardWindow) w → w.Independent := by
  intro h
  have hany : (Run.run step (init 1) selectedBoth).any (fun w =>
      decide (w.currentText .clipboard = some [104, 105] ∧ w.outText .clipboard = none ∧
        w.bridge.read.target = .primary)) = true := by decide +kernel
  obtain ⟨w, hw, hchecks⟩ := (Option.any_eq_true ..).mp hany
  obtain ⟨htext, hnone, htarget⟩ := of_decide_eq_true hchecks
  rcases h 1 w ⟨_, hw⟩ .clipboard [104, 105] htext with hread | hcarries
  · exact absurd (htarget.symm.trans hread.1) (by decide)
  · exact absurd (hnone.symm.trans hcarries.1) (by decide)

/-- The same, one after the other. -/
def selectedInTurn : List ExportAction :=
  [.select .clipboard (some twoBytes) ⟨true, true⟩, .write 2, .close,
    .callback ⟨true, false, false⟩ ⟨true, true⟩, .read (.data 2 true) ⟨true, true⟩,
    .read .eof ⟨true, true⟩, .select .primary (some ⟨[.textPlain], [111]⟩) ⟨true, true⟩]

theorem exports_independent_in_turn :
    Run.Along step StaysIndependent (init 1) selectedInTurn := by
  have hsome : (Run.run step (init 1) selectedInTurn).isSome = true := by decide +kernel
  obtain ⟨w, hw⟩ := Option.isSome_iff_exists.mp hsome
  exact (exports_independent_iff 1 selectedInTurn w hw).1.mpr (by decide +kernel)

end ExportState

end Wlx
