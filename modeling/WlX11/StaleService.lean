import WlX11.ExportIndependence

/-!
# WlX11 — serving the current source only

Once nothing is being read, the bridge should own an X11 selection only while the seat's source is
the one whose text it serves. `clipboard_export_wayland_source` returns early for a source without a
text type, and `server_request_set_selection` does not call it when the selection is cleared: neither
the text of an earlier source that is served, nor the read of one that is still in progress, is given
up then.

* **`NotStale`** — what should hold; **`NeverStale`** — the steps that keep it.
* **`service_current_iff`** — the two are equivalent along every run that changes one selection.
-/

namespace Wlx

namespace ExportState

/-- The bridge has taken the selection. Nobody else does here. -/
def Owns (w : ExportState) (sel : Selection) : Prop :=
  (lastOffer sel.toAtom w.bridge.out).isSome = true

/-- The seat's source, if it is a client's and has a text type. -/
def currentSource (w : ExportState) (sel : Selection) : Option Source :=
  match w.bridge.seat sel with
  | .client src => if src.isText = true then some src else none
  | .none | .bridge => none

/-- What is served is the text of the seat's source. -/
def ServesCurrent (w : ExportState) (sel : Selection) : Prop :=
  ∃ src, w.currentSource sel = some src ∧ w.outText sel = some src.text

/-- Once nothing is being read, what is owned is current. -/
def NotStale (w : ExportState) (sel : Selection) : Prop :=
  w.bridge.read.reading = false → w.Owns sel → w.ServesCurrent sel

/-- The state the step leads to is not stale. -/
def StaysCurrent (sel : Selection) (w : ExportState) (a : ExportAction) : Prop :=
  ∀ w', w.step a = some w' → w'.NotStale sel

instance (w : ExportState) (sel : Selection) : Decidable (w.Owns sel) :=
  inferInstanceAs (Decidable (_ = true))

instance (w : ExportState) (sel : Selection) : Decidable (w.ServesCurrent sel) :=
  match h : w.currentSource sel with
  | none => isFalse (by simp [ServesCurrent, h])
  | some src => decidable_of_iff (w.outText sel = some src.text) (by simp [ServesCurrent, h])

/-- A read that ends with something in the buffer has read the text of the seat's source, and there
is memory for it; or the selection is not owned and there is no memory. A read that ends with nothing
leaves the selection as it was: not owned, or current. -/
def EndsCurrent (sel : Selection) (w : ExportState) : Ending → Prop
  | .goesOn => True
  | .publishes env =>
    if w.bridge.read.buf = [] then w.Owns sel → w.ServesCurrent sel
    else if env.alloc = true then (w.currentSource sel).map (·.text) = some w.bridge.read.buf
    else ¬ w.Owns sel
  | .abandons => w.Owns sel → w.ServesCurrent sel

instance (sel : Selection) (w : ExportState) : ∀ e : Ending, Decidable (w.EndsCurrent sel e)
  | .goesOn => isTrue trivial
  | .publishes env => inferInstanceAs (Decidable
      (if w.bridge.read.buf = [] then w.Owns sel → w.ServesCurrent sel
      else if env.alloc = true then (w.currentSource sel).map (·.text) = some w.bridge.read.buf
      else ¬ w.Owns sel))
  | .abandons => inferInstanceAs (Decidable (w.Owns sel → w.ServesCurrent sel))

/-- A source that is not exported is set, or the selection cleared, only while a read is in progress
or the selection is not owned. An export that gets no pipe is of a selection not owned, or of the text
served already. And reads end current. -/
def NeverStale (sel : Selection) (w : ExportState) : ExportAction → Prop
  | .select _ source env =>
    match w.bridge.exported sel source with
    | none => w.bridge.read.reading = true ∨ ¬ w.Owns sel
    | some src => (env.pipe && env.addFd) = true ∨ ¬ w.Owns sel ∨ w.outText sel = some src.text
  | .write size => w.EndsCurrent sel (w.ending (.write size))
  | .close => w.EndsCurrent sel (w.ending .close)
  | .callback mask env => w.EndsCurrent sel (w.ending (.callback mask env))
  | .read result env => w.EndsCurrent sel (w.ending (.read result env))

instance (sel : Selection) : ∀ (w : ExportState) (a : ExportAction), Decidable (w.NeverStale sel a)
  | w, .select _ source env =>
    match h : w.bridge.exported sel source with
    | none => decidable_of_iff (w.bridge.read.reading = true ∨ ¬ w.Owns sel)
        (by simp [NeverStale, h])
    | some src => decidable_of_iff
        ((env.pipe && env.addFd) = true ∨ ¬ w.Owns sel ∨ w.outText sel = some src.text)
        (by simp [NeverStale, h])
  | w, .write size => inferInstanceAs (Decidable (w.EndsCurrent sel (w.ending (.write size))))
  | w, .close => inferInstanceAs (Decidable (w.EndsCurrent sel (w.ending .close)))
  | w, .callback mask env =>
    inferInstanceAs (Decidable (w.EndsCurrent sel (w.ending (.callback mask env))))
  | w, .read result env =>
    inferInstanceAs (Decidable (w.EndsCurrent sel (w.ending (.read result env))))

/-- The action changes no selection but `sel`. -/
def Changes (sel : Selection) : ExportAction → Prop
  | .select sel' .. => sel' = sel
  | .write _ | .close | .callback .. | .read .. => True

section Stale

variable {w w' : ExportState} {a : ExportAction} {sel : Selection}

theorem servesCurrent_congr (hseat : w'.bridge.seat = w.bridge.seat)
    (hout : w'.outText sel = w.outText sel) : w'.ServesCurrent sel ↔ w.ServesCurrent sel := by
  unfold ServesCurrent currentSource
  rw [hseat, hout]

/-- Publishing takes the selection, if there is something to publish and memory for it. -/
theorem owns_publishCollected (s : Bridge) (env : PublishEnv) (pipe : Option Pipe) (looping : Bool) :
    Owns ⟨s.publishCollected env, pipe, looping⟩ s.read.target ↔
      (s.read.buf ≠ [] ∧ env.alloc = true) ∨ Owns ⟨s, pipe, looping⟩ s.read.target := by
  unfold Owns
  by_cases hbuf : s.read.buf = []
  · rw [s.publishCollected_of_nil hbuf]
    simp [hbuf, Bridge.clipboardClearRead]
  · cases hmem : env.alloc with
    | false =>
      rw [s.publishCollected_of_no_memory hbuf hmem]
      simp [Bridge.clipboardClearRead]
    | true =>
      rw [s.publishCollected_of_memory hbuf hmem]
      simp [Bridge.clipboardClearRead, hbuf, lastOffer_append, XRequest.offerOf]

/-- **One action of the pipe**: it is not stale afterwards exactly if its read ends current. -/
theorem notStale_pipe_iff (hinv : w.Inv) (htarget : w.bridge.read.target = sel)
    (ha : ofPipe a = true) (hen : w.enabled a = true) :
    (w.handle a).NotStale sel ↔ w.EndsCurrent sel (w.ending a) := by
  have h := handle_ending hinv ha hen
  cases he : w.ending a with
  | goesOn =>
    rw [he] at h
    refine iff_of_true (fun hidle => ?_) trivial
    rw [h.reading] at hidle
    cases hidle
  | publishes env =>
    rw [he] at h
    rw [h]
    have howns := owns_publishCollected w.bridge env none false
    rw [htarget] at howns
    have hcurrent : currentSource ⟨w.bridge.publishCollected env, none, false⟩ sel =
        w.currentSource sel := by
      rw [currentSource, publishCollected_seat]
      rfl
    have hout := outText_publishCollected w.bridge env sel
    have hidle {P : Prop} :
        ((w.bridge.publishCollected env).read.reading = false → P) ↔ P := ⟨fun h => h rfl, fun h _ => h⟩
    unfold NotStale
    rw [hidle, howns, ServesCurrent, hcurrent, outText, hout]
    simp only [EndsCurrent]
    by_cases hbuf : w.bridge.read.buf = []
    · rw [if_pos (Or.inl hbuf), if_pos hbuf]
      refine imp_congr ⟨fun h => h.resolve_left fun hne => hne.1 hbuf, Or.inr⟩ Iff.rfl
    · rw [if_neg (by simp [hbuf, htarget]), if_neg hbuf]
      cases hmem : env.alloc with
      | false =>
        -- the old text is gone, and nothing is served
        refine ⟨fun h howned => ?_, fun hnot h => ?_⟩
        · obtain ⟨src, -, hnone⟩ := h (Or.inr howned)
          cases hnone
        · refine absurd (h.resolve_left ?_) hnot
          rintro ⟨-, hmem⟩
          cases hmem
      | true =>
        rw [if_pos rfl, if_pos rfl, Option.map_eq_some_iff]
        refine ⟨fun h => ?_, fun h _ => ?_⟩
        · obtain ⟨src, hsrc, htext⟩ := h (Or.inl ⟨hbuf, rfl⟩)
          exact ⟨src, hsrc, (Option.some.inj htext).symm⟩
        · obtain ⟨src, hsrc, htext⟩ := h
          exact ⟨src, hsrc, by rw [htext]⟩
  | abandons =>
    rw [he] at h
    rw [h]
    have hsame : ServesCurrent ⟨w.bridge.clipboardClearRead, none, false⟩ sel ↔ w.ServesCurrent sel :=
      servesCurrent_congr rfl rfl
    exact ⟨fun h howned => hsame.mp (h rfl howned), fun h _ howned => hsame.mpr (h howned)⟩

/-- **One step**: it is not stale afterwards exactly if it is not made so. -/
theorem staysCurrent_iff (hinv : w.Inv) (htarget : w.bridge.read.reading = true →
      w.bridge.read.target = sel) (hstale : w.NotStale sel) (hchanges : Changes sel a)
    (hstep : w.step a = some w') : w.StaysCurrent sel a ↔ w.NeverStale sel a := by
  have hnext : w.StaysCurrent sel a ↔ w'.NotStale sel := Run.forall_step_iff hstep
  rw [hnext]
  obtain ⟨hen, rfl⟩ := step_eq_some.mp hstep
  have hpipe (ha : ofPipe a = true) :
      (w.handle a).NotStale sel ↔ w.EndsCurrent sel (w.ending a) := by
    obtain ⟨p, hp⟩ := pipe_of_enabled ha hen
    exact notStale_pipe_iff hinv (htarget (by rw [← hinv.reading, hp]; rfl)) ha hen
  cases a with
  | write size => exact hpipe rfl
  | close => exact hpipe rfl
  | callback mask env => exact hpipe rfl
  | read result env => exact hpipe rfl
  | select sel' source env =>
    have hsel : sel' = sel := hchanges
    subst hsel
    have hbridge := w.handle_select sel' source env
    generalize w.handle (.select sel' source env) = w' at hbridge
    have howns : w'.Owns sel' ↔ w.Owns sel' := by unfold Owns; rw [hbridge]
    have hout : w'.outText sel' = w.outText sel' := by rw [outText, hbridge]; rfl
    have hseat : w'.bridge.seat sel' = source.elim .none .client := by
      rw [hbridge]
      exact Function.update_self ..
    simp only [NotStale, NeverStale, howns]
    rw [hbridge]
    cases hexp : w.bridge.exported sel' source with
    | none =>
      have hnone : w'.currentSource sel' = none := by
        rw [currentSource, hseat]
        cases source with
        | none => rfl
        | some src =>
          have htype : src.isText = false := by
            simpa [Bridge.exported, hinv.setting sel'] using hexp
          simp [htype]
      have hnot : ¬ w'.ServesCurrent sel' := by
        rintro ⟨src, hsrc, -⟩
        rw [hnone] at hsrc
        cases hsrc
      dsimp only
      cases hread : w.bridge.read.reading with
      | true => simp
      | false => simp [hnot]
    | some src =>
      obtain ⟨rfl, htype⟩ := w.bridge.of_exported hexp
      have hsrc : w'.currentSource sel' = some src := by
        rw [currentSource, hseat]
        simp [htype]
      have hserves : w'.ServesCurrent sel' ↔ w.outText sel' = some src.text := by
        unfold ServesCurrent
        rw [hsrc, hout]
        simp
      dsimp only
      rw [hserves]
      cases env.pipe && env.addFd with
      | true => simp
      | false => simp [imp_iff_not_or]

/-- Only `sel` is ever read when only `sel` changes. -/
theorem target_step (hinv : w.Inv) (htarget : w.bridge.read.reading = true →
      w.bridge.read.target = sel) (hchanges : Changes sel a) (hstep : w.step a = some w') :
    w'.bridge.read.reading = true → w'.bridge.read.target = sel := by
  obtain ⟨hen, rfl⟩ := step_eq_some.mp hstep
  cases ha : ofPipe a with
  | true =>
    have h := handle_ending hinv ha hen
    split at h
    · obtain ⟨p, hp⟩ := pipe_of_enabled ha hen
      intro _
      rw [h.target]
      exact htarget (by rw [← hinv.reading, hp]; rfl)
    · rw [h]; exact fun hread => nomatch hread
    · rw [h]; exact fun hread => nomatch hread
  | false =>
    cases a with
    | write | close | callback | read => cases ha
    | select sel' source env =>
      have hsel : sel' = sel := hchanges
      rw [w.handle_select sel' source env]
      dsimp only
      split
      · exact htarget
      · exact fun _ => hsel

end Stale

/-- **Nothing stale is served.** In every run that changes only `sel`, from the start: whenever
nothing is being read, the bridge owns the X11 selection only if it serves the text of the seat's
source, exactly if it never owns the selection when a source without a text type is set, or the
selection is cleared, or an export fails, and no such read is in progress that is later published. -/
theorem service_current_iff (clipboardWindow : XWindow) (sel : Selection) (as : List ExportAction)
    (w : ExportState) (hchanges : ∀ a ∈ as, Changes sel a)
    (hrun : Run.run step (init clipboardWindow) as = some w) :
    Run.Along step (StaysCurrent sel) (init clipboardWindow) as ↔
      Run.Along step (NeverStale sel) (init clipboardWindow) as := by
  refine Run.along_iff_along (I := fun w => w.Inv ∧
      (w.bridge.read.reading = true → w.bridge.read.target = sel) ∧ w.NotStale sel) ?_ ?_
    ⟨Inv.init clipboardWindow, (fun h => nomatch h), fun _ howned => ?_⟩
    (Run.along_of_mem hchanges) hrun
  · exact fun s a t ⟨hinv, htarget, _⟩ hch hstays hstep =>
      ⟨hinv.step hstep, target_step hinv htarget hch hstep, hstays t hstep⟩
  · exact fun s a t ⟨hinv, htarget, hstale⟩ hch hstep =>
      staysCurrent_iff hinv htarget hstale hch hstep
  · exact nomatch (show (none : Option Text).isSome = true from howned)

/-- A text is copied and exported, and then the selection is cleared. -/
def copiedAndCleared : List ExportAction :=
  [.select .clipboard (some twoBytes) ⟨true, true⟩, .write 2, .close,
    .callback ⟨true, false, false⟩ ⟨true, true⟩, .read (.data 2 true) ⟨true, true⟩,
    .read .eof ⟨true, true⟩, .select .clipboard none ⟨true, true⟩]

/-- The old text is still served. -/
theorem cleared_selection_still_served :
    ¬ ∀ (clipboardWindow : XWindow) (sel : Selection) (as : List ExportAction) (w : ExportState),
      (∀ a ∈ as, Changes sel a) → Run.run step (init clipboardWindow) as = some w →
        w.NotStale sel := by
  intro h
  have hany : (Run.run step (init 1) copiedAndCleared).any (fun w =>
      !w.bridge.read.reading && decide (w.Owns .clipboard ∧ w.currentSource .clipboard = none)) =
        true := by decide +kernel
  obtain ⟨w, hw, hchecks⟩ := (Option.any_eq_true ..).mp hany
  rw [Bool.and_eq_true, Bool.not_eq_true'] at hchecks
  obtain ⟨howned, hnone⟩ := of_decide_eq_true hchecks.2
  have hchanges : ∀ a ∈ copiedAndCleared, Changes .clipboard a := by simp [copiedAndCleared, Changes]
  obtain ⟨src, hsrc, -⟩ := h 1 .clipboard copiedAndCleared w hchanges hw hchecks.1 howned
  exact absurd (hnone.symm.trans hsrc) (by simp)

/-- Without that, what is served is current. -/
theorem service_current_copied :
    Run.Along step (StaysCurrent .clipboard) (init 1) copiedAndCleared.dropLast := by
  have hsome : (Run.run step (init 1) copiedAndCleared.dropLast).isSome = true := by decide +kernel
  obtain ⟨w, hw⟩ := Option.isSome_iff_exists.mp hsome
  exact (service_current_iff 1 .clipboard copiedAndCleared.dropLast w
    (by simp [copiedAndCleared, Changes]) hw).mpr (by decide +kernel)

end ExportState

end Wlx
