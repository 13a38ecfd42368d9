import WlX11.Lib.WriteLoop
import WlX11.ImportWhole

/-!
# WlX11 — what a Wayland client receives of an X11 text

A source the bridge has made for an imported text carries no text of its own: a receive request is
answered from `clip_in_text` (or `pri_in_text`), in a loop of `write`s that goes on after `EINTR` and
gives up on any other error, `EAGAIN` too, before it closes the descriptor.

* **`ReceiveSession.Delivers`** — a receive request gets the whole text of the import that made the
  source.
* **`delivers_iff`** — as long as every import finds memory for its source, a run delivers exactly if
  no `EAGAIN` comes before the whole text is written.
-/

namespace Wlx

/-- The bridge, and the text of the import each source that it offers was made for. -/
structure ReceiveSession where
  bridge : Bridge
  origin : Selection → Option Text

inductive ReceiveAction where
  /-- a conversion is answered -/
  | importText (path : ImportPath) (stored : Option PropertyReply) (env : ImportEnv)
  /-- a client sets a selection, or clears it -/
  | setSelection (sel : Selection) (source : Option Source) (env : ExportEnv)
  /-- a client receives from the source the bridge offers; what its descriptor does -/
  | receive (sel : Selection) (outcomes : List WriteLoop.Outcome)
deriving DecidableEq

namespace Bridge

/-- The loop of both senders: what is written before the descriptor is closed. -/
def sourceSend (sel : Selection) (outcomes : List WriteLoop.Outcome) (s : Bridge) : Option Text :=
  match (s.channel sel).inText with
  | none => some []
  | some text => WriteLoop.write text outcomes

/-- `text_source_send`. -/
def textSourceSend (outcomes : List WriteLoop.Outcome) (s : Bridge) : Option Text :=
  s.sourceSend .clipboard outcomes

/-- `pri_source_send`. -/
def priSourceSend (outcomes : List WriteLoop.Outcome) (s : Bridge) : Option Text :=
  s.sourceSend .primary outcomes

/-- What a receive request is sent, by selection. -/
def receive (sel : Selection) (outcomes : List WriteLoop.Outcome) (s : Bridge) : Option Text :=
  match sel with
  | .clipboard => s.textSourceSend outcomes
  | .primary => s.priSourceSend outcomes

end Bridge

namespace ReceiveSession

def init (clipboardWindow : XWindow) : ReceiveSession := ⟨.fresh clipboardWindow, fun _ => none⟩

/-- A receive request comes to the bridge if the seat has its source; it ends when the loop does. -/
def step (v : ReceiveSession) : ReceiveAction → Option ReceiveSession
  | .importText path stored env => some
    { bridge := path.importText stored env v.bridge
      origin := match path.taken stored env with
        | some text => if env.source then Function.update v.origin path.target (some text) else v.origin
        | none => v.origin }
  | .setSelection sel source env => some
    { bridge := v.bridge.requestSetSelection sel source env
      origin := Function.update v.origin sel none }
  | .receive sel outcomes =>
    if v.bridge.seat sel = .bridge ∧ (v.bridge.receive sel outcomes).isSome then some v else none

/-- What is written for a receive request is the text the source was made for. -/
def Delivers (v : ReceiveSession) : ReceiveAction → Prop
  | .receive sel outcomes => v.bridge.seat sel = .bridge →
    ∀ text ∈ v.bridge.receive sel outcomes, some text = v.origin sel
  | .importText .. | .setSelection .. => True

/-- An import that replaces the stored text also replaces the source that is offered. -/
def Sourced (v : ReceiveSession) : ReceiveAction → Prop
  | .importText path stored env => (path.taken stored env).isSome = true →
    v.bridge.seat path.target = .bridge → env.source = true
  | .setSelection .. | .receive .. => True

/-- The descriptor takes the whole stored text before a `write` fails, if the loop ends. -/
def WrittenWhole (v : ReceiveSession) : ReceiveAction → Prop
  | .receive sel outcomes => v.bridge.seat sel = .bridge → (v.bridge.receive sel outcomes).isSome = true →
    ∀ text ∈ (v.bridge.channel sel).inText, text.length ≤ WriteLoop.room outcomes
  | .importText .. | .setSelection .. => True

instance (v : ReceiveSession) : (a : ReceiveAction) → Decidable (v.Delivers a)
  | .receive .. => inferInstanceAs (Decidable (_ → ∀ text ∈ _, _))
  | .importText .. => isTrue trivial
  | .setSelection .. => isTrue trivial

instance (v : ReceiveSession) : (a : ReceiveAction) → Decidable (v.Sourced a)
  | .importText .. => inferInstanceAs (Decidable (_ → _ → _))
  | .setSelection .. => isTrue trivial
  | .receive .. => isTrue trivial

instance (v : ReceiveSession) : (a : ReceiveAction) → Decidable (v.WrittenWhole a)
  | .receive .. => inferInstanceAs (Decidable (_ → _ → ∀ text ∈ _, _))
  | .importText .. => isTrue trivial
  | .setSelection .. => isTrue trivial

/-- A source that is offered was made for the text stored now. -/
def Matched (v : ReceiveSession) : Prop :=
  ∀ sel, v.bridge.seat sel = .bridge →
    (v.bridge.channel sel).inText.isSome = true ∧ v.origin sel = (v.bridge.channel sel).inText

end ReceiveSession

/-! ## The stored text and the source offered -/

theorem Bridge.offerX11TextToWayland_inText_other {s : Bridge} {sel sel' : Selection} {text : Text}
    {env : ImportEnv} (h : sel' ≠ sel) :
    ((s.offerX11TextToWayland sel text env).channel sel').inText = (s.channel sel').inText := by
  unfold Bridge.offerX11TextToWayland
  split <;> simp [Bridge.setChannel, h]

/-- A client's selection leaves the imported texts alone, and takes the seat. -/
theorem Bridge.requestSetSelection_offers (s : Bridge) (sel : Selection) (source : Option Source)
    (env : ExportEnv) :
    (∀ sel', ((s.requestSetSelection sel source env).channel sel').inText = (s.channel sel').inText) ∧
      (s.requestSetSelection sel source env).seat =
        Function.update s.seat sel (source.elim .none .client) := by
  -- an export writes the reader alone
  have hexport : ∀ (s : Bridge) target mime,
      (s.exportWaylandSource target mime env).channel = s.channel ∧
        (s.exportWaylandSource target mime env).seat = s.seat := by
    intro s target mime
    unfold Bridge.exportWaylandSource Bridge.clipboardClearRead
    repeat' split
    all_goals exact ⟨rfl, rfl⟩
  cases sel with
  | clipboard =>
    unfold Bridge.requestSetSelection Bridge.serverRequestSetSelection
    cases source with
    | none => exact ⟨fun _ => rfl, rfl⟩
    | some source =>
      dsimp only [Bridge.clipboardExportWaylandSource, Option.elim_some]
      split
      · exact ⟨fun _ => rfl, rfl⟩
      · exact ⟨fun _ => by rw [(hexport _ _ _).1], (hexport _ _ _).2⟩
  | primary =>
    unfold Bridge.requestSetSelection Bridge.serverRequestSetPrimarySelection
    cases source with
    | none => exact ⟨fun _ => rfl, rfl⟩
    | some source =>
      dsimp only [Bridge.primaryExportWaylandSource, Option.elim_some]
      split
      · exact ⟨fun _ => rfl, rfl⟩
      · exact ⟨fun _ => by rw [(hexport _ _ _).1], (hexport _ _ _).2⟩

namespace ReceiveSession

variable {v v' : ReceiveSession}

theorem Matched.init (clipboardWindow : XWindow) : (ReceiveSession.init clipboardWindow).Matched := by
  intro sel hseat
  cases hseat

theorem Matched.importText (h : v.Matched) {path : ImportPath} {stored : Option PropertyReply}
    {env : ImportEnv} (hsourced : v.Sourced (.importText path stored env))
    (hstep : v.step (.importText path stored env) = some v') : v'.Matched := by
  cases hstep
  obtain ⟨hchannel, hseat⟩ := ImportPath.importText_offers path stored env v.bridge
  intro sel hbridge
  dsimp only at hbridge ⊢
  rw [hseat] at hbridge
  rw [hchannel]
  cases htaken : path.taken stored env with
  | none =>
    rw [htaken] at hbridge
    exact h sel hbridge
  | some text =>
    rw [htaken] at hbridge
    dsimp only [Option.elim_some] at hbridge ⊢
    rw [Bridge.offerX11TextToWayland_seat] at hbridge
    by_cases hsel : sel = path.target
    · -- its own selection: the text is new, and so is the source
      have hsource : env.source = true := by
        by_contra hno
        rw [if_neg hno, hsel] at hbridge
        exact hno (hsourced (by rw [htaken]; rfl) hbridge)
      rw [hsel, Bridge.offerX11TextToWayland_inText, if_pos hsource, Function.update_self]
      exact ⟨rfl, rfl⟩
    · rw [Bridge.offerX11TextToWayland_inText_other hsel]
      cases hsource : env.source with
      | false =>
        rw [hsource] at hbridge
        exact h sel hbridge
      | true =>
        rw [hsource, if_pos rfl, Function.update_of_ne hsel] at hbridge
        rw [if_pos rfl, Function.update_of_ne hsel]
        exact h sel hbridge

theorem Matched.setSelection (h : v.Matched) {sel : Selection} {source : Option Source}
    {env : ExportEnv} (hstep : v.step (.setSelection sel source env) = some v') : v'.Matched := by
  cases hstep
  obtain ⟨hin, hseat⟩ := v.bridge.requestSetSelection_offers sel source env
  intro sel' hbridge
  dsimp only at hbridge ⊢
  rw [hseat] at hbridge
  rw [hin]
  by_cases hsel : sel' = sel
  · rw [hsel, Function.update_self] at hbridge
    cases source <;> cases hbridge
  · rw [Function.update_of_ne hsel] at hbridge ⊢
    exact h sel' hbridge

theorem Matched.step (h : v.Matched) {a : ReceiveAction} (hsourced : v.Sourced a)
    (hstep : v.step a = some v') : v'.Matched := by
  cases a with
  | importText path stored env => exact h.importText hsourced hstep
  | setSelection sel source env => exact h.setSelection hstep
  | receive sel outcomes =>
    simp only [ReceiveSession.step, Option.ite_none_right_eq_some, Option.some.injEq] at hstep
    rw [← hstep.2]
    exact h

theorem receive_eq_sourceSend (s : Bridge) (sel : Selection) (outcomes : List WriteLoop.Outcome) :
    s.receive sel outcomes = s.sourceSend sel outcomes := by
  cases sel <;> rfl

theorem delivers_iff_writtenWhole (h : v.Matched) (a : ReceiveAction) :
    v.Delivers a ↔ v.WrittenWhole a := by
  cases a with
  | importText path stored env => exact Iff.rfl
  | setSelection sel source env => exact Iff.rfl
  | receive sel outcomes =>
    refine forall_congr' fun hseat => ?_
    obtain ⟨hsome, horigin⟩ := h sel hseat
    obtain ⟨text, htext⟩ := Option.isSome_iff_exists.mp hsome
    rw [horigin, receive_eq_sourceSend]
    unfold Bridge.sourceSend
    rw [htext]
    dsimp only
    cases hwrite : WriteLoop.write text outcomes with
    | none => simp
    | some written =>
      simp only [Option.mem_def, Option.some.injEq, forall_eq', Option.isSome_some, true_implies]
      exact WriteLoop.write_eq_self_iff hwrite

/-- The descriptor is closed as soon as there has been room for the text, or a `write` has failed. -/
theorem receive_ends (s : Bridge) (sel : Selection) (outcomes : List WriteLoop.Outcome) :
    (s.receive sel outcomes).isSome = true ↔ ∀ text ∈ (s.channel sel).inText,
      text.length ≤ WriteLoop.room outcomes ∨ .failed ∈ outcomes := by
  rw [receive_eq_sourceSend]
  unfold Bridge.sourceSend
  cases (s.channel sel).inText with
  | none => simp
  | some text =>
    simp only [Option.mem_def, Option.some.injEq, forall_eq']
    exact WriteLoop.write_isSome_iff

/-- **What is received.** In a run in which every import that stores a text finds memory for its
source, if an older one is offered, each receive request gets the whole text of the import that made
the source exactly if no descriptor refuses a `write` before the whole text is written. -/
theorem delivers_iff (clipboardWindow : XWindow) (as : List ReceiveAction)
    (hsourced : Run.Along step Sourced (init clipboardWindow) as) :
    Run.Along step Delivers (init clipboardWindow) as ↔
      Run.Along step WrittenWhole (init clipboardWindow) as := by
  constructor
  · intro h
    exact Run.along_of_invariant (I := Matched) (fun _ _ _ hv hP => hv.step hP.1)
      (fun v a hv hP => (delivers_iff_writtenWhole hv a).mp hP.2) (.init _) (hsourced.and h)
  · intro h
    exact Run.along_of_invariant (I := Matched) (fun _ _ _ hv hP => hv.step hP.1)
      (fun v a hv hP => (delivers_iff_writtenWhole hv a).mpr hP.2) (.init _) (hsourced.and h)

/-- A text of five bytes is imported and received, in two pieces and after an interruption. -/
def pastedRun (last : WriteLoop.Outcome) : List ReceiveAction :=
  [.importText (.selection .clipboard) (some ⟨.utf8String, [104, 101, 108, 108, 111]⟩) ⟨true, true⟩,
    .receive .clipboard [.took 1, .interrupted, last]]

theorem pastedRun_delivers :
    Run.Along step Delivers (init 1) (pastedRun (.took 9)) ↔
      Run.Along step WrittenWhole (init 1) (pastedRun (.took 9)) :=
  delivers_iff 1 (pastedRun (.took 9)) (by decide +kernel)

/-- The pipe is full after two bytes, and the rest is never written. -/
theorem pastedRun_cut_short : ¬ ∀ (clipboardWindow : XWindow) (as : List ReceiveAction),
    Run.Along step Delivers (init clipboardWindow) as := by
  intro h
  exact absurd (h 1 (pastedRun .failed)) (by decide +kernel)

/-- An import without memory for its source changes what the older source delivers. -/
def replacedRun : List ReceiveAction :=
  [.importText (.selection .clipboard) (some ⟨.utf8String, [104, 105]⟩) ⟨true, true⟩,
    .importText .drop (some ⟨.utf8String, [98, 121, 101]⟩) ⟨true, false⟩,
    .receive .clipboard [.took 9]]

example : ¬ Run.Along step Delivers (init 1) replacedRun := by decide +kernel

end ReceiveSession

end Wlx
