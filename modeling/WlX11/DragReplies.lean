import WlX11.Drag

/-!
# WlX11 — whose replies an outbound session believes

`dnd_handle_client_message` takes every `XdndStatus` for the answer of the current target, and every
`XdndFinished` for the end of the current session. The message names its sender in `data32[0]`, but
nobody looks. So an answer counts for the wrong target when it comes from a window left before, or
from an earlier visit to the same one, and a session can be ended from outside.

* **`targetAccepts`** — the last `XdndStatus` the current target has sent since it was entered
  accepts. Only messages of the target that were sent after the last `XdndEnter` count.
* **`RepliesTied`** — what a step should guarantee; **`RepliesAnswer`** — what the client messages
  must be for that.
* **`replies_tied_iff`** — the two are equivalent along every run.
-/

namespace Wlx

/-- The answer an `XdndStatus` carries. -/
def XdndMessage.status? : XdndMessage → Option Bool
  | .status accept => some accept
  | .enter .. | .position .. | .leave | .drop | .finished _ => none

namespace DragState

/-- The last answer handled of those `target` has sent since the last `XdndEnter`. -/
def lastStatus (w : DragState) (target : XWindow) : Option Bool :=
  (w.heard.filterMap fun reply =>
    if reply.sender = target ∧ reply.sentAfter = w.enters then reply.message.status? else none).getLast?

/-- The current target has accepted since it was entered, and not refused after that. -/
def targetAccepts (w : DragState) : Bool :=
  w.out.target.any fun target => w.lastStatus target = some true

/-- `dnd_out_accepted` is the current target's own answer. -/
def AcceptanceEarned (w : DragState) : Prop := w.out.accepted = true → w.targetAccepts = true

/-- The step is an `XdndFinished` of this sender. -/
def FinishedBy (sender : XWindow) : DragAction → Prop
  | .clientMessage sender' _ ev _ => sender' = sender ∧ ev.message.isFinished = true
  | _ => False

/-- After the step, the acceptance is the target's own; a drop goes to a target that accepts; and an
`XdndFinished` that ends the session comes from a window the session has dropped on. -/
def RepliesTied (w : DragState) (a : DragAction) : Prop :=
  ∀ w', w.step a = some w' →
    w'.AcceptanceEarned ∧
      (∀ target, w'.drops = w.drops ++ [target] →
        w.out.target = some target ∧ w.targetAccepts = true) ∧
      ∀ sender, FinishedBy sender a → w.out.active = true → w'.out.active = false →
        sender ∈ w.drops

/-- While a session is active, an accepting `XdndStatus` comes from the current target and was sent
since the last `XdndEnter` (or the target accepts already), and an `XdndFinished` comes from a window
the session has dropped on. -/
def RepliesAnswer (w : DragState) : DragAction → Prop
  | .clientMessage sender sentAfter ev _ =>
    w.out.active = true → ev.format32 = true →
      (ev.message.status? = some true →
        (w.out.target = some sender ∧ sentAfter = w.enters) ∨ w.targetAccepts = true) ∧
        (ev.message.isFinished = true → sender ∈ w.drops)
  | _ => True

instance : ∀ (w : DragState) (a : DragAction), Decidable (w.RepliesAnswer a)
  | w, .clientMessage sender sentAfter ev _ =>
    inferInstanceAs (Decidable (w.out.active = true → ev.format32 = true →
      (ev.message.status? = some true →
        (w.out.target = some sender ∧ sentAfter = w.enters) ∨ w.targetAccepts = true) ∧
        (ev.message.isFinished = true → sender ∈ w.drops)))
  | _, .startDrag .. | _, .poll .. | _, .motion .. | _, .buttonPress | _, .buttonRelease ..
  | _, .dragEnds _ | _, .windowsChange _ => isTrue trivial

section Replies

variable {w w' : DragState}

theorem targetAccepts_iff :
    w.targetAccepts = true ↔
      ∃ target, w.out.target = some target ∧ w.lastStatus target = some true := by
  simp [targetAccepts, Option.any_eq_true]

/-- An acceptance that is earned has a target. -/
theorem AcceptanceEarned.of_no_target (h : w.AcceptanceEarned) (ht : w.out.target = none) :
    w.out.accepted = false := by
  cases ha : w.out.accepted with
  | false => rfl
  | true =>
    obtain ⟨target, htarget, -⟩ := targetAccepts_iff.mp (h ha)
    rw [ht] at htarget
    cases htarget

theorem acceptanceEarned_of_not_accepted (h : w.out.accepted = false) : w.AcceptanceEarned :=
  fun ha => absurd ha (by simp [h])

/-- The property reads the target and its answers. -/
theorem targetAccepts_eq (htarget : w'.out.target = w.out.target)
    (hlast : ∀ target, w'.lastStatus target = w.lastStatus target) :
    w'.targetAccepts = w.targetAccepts := by
  rw [Bool.eq_iff_iff, targetAccepts_iff, targetAccepts_iff, htarget]
  exact exists_congr fun target => by rw [hlast target]

theorem targetAccepts_congr (htarget : w'.out.target = w.out.target) (hheard : w'.heard = w.heard)
    (henters : w'.enters = w.enters) : w'.targetAccepts = w.targetAccepts :=
  targetAccepts_eq htarget fun target => by rw [lastStatus, lastStatus, hheard, henters]

theorem AcceptanceEarned.congr (h : w.AcceptanceEarned)
    (haccepted : w'.out.accepted = w.out.accepted) (htarget : w'.out.target = w.out.target)
    (hheard : w'.heard = w.heard) (henters : w'.enters = w.enters) : w'.AcceptanceEarned := by
  intro ha
  rw [targetAccepts_congr htarget hheard henters]
  exact h (haccepted ▸ ha)

/-- A target that is left takes its answer along. -/
theorem AcceptanceEarned.leave_accepted (h : w.AcceptanceEarned) :
    w.leave.out.accepted = false := by
  rw [DragState.leave_accepted]
  cases ht : w.out.target with
  | none => rw [h.of_no_target ht]; rfl
  | some target => simp

theorem AcceptanceEarned.track (h : w.AcceptanceEarned) (view : PointerView) :
    (w.track view).AcceptanceEarned := by
  unfold DragState.track
  -- the pointer stays outside, leaves a window, or enters one
  split
  · exact h
  · split
    · exact acceptanceEarned_of_not_accepted h.leave_accepted
    · split
      · exact acceptanceEarned_of_not_accepted h.leave_accepted
      · unfold visit
        split
        · -- another position changes no answer
          exact h.congr (by rw [out, tell_bridge]) (by rw [out, tell_bridge]) (tell_heard ..)
            (tell_enters_of_ne _ _ _ (by simp))
        · refine acceptanceEarned_of_not_accepted ?_
          rw [out, tell_bridge, tell_bridge]
          rfl

theorem AcceptanceEarned.finish (h : w.AcceptanceEarned) : w.finish.AcceptanceEarned :=
  acceptanceEarned_of_not_accepted h.leave_accepted

theorem AcceptanceEarned.endDrag (h : w.AcceptanceEarned) (hinv : w.Inv) (owned : Bool) :
    (w.endDrag owned).AcceptanceEarned := by
  rw [endDrag_eq hinv.served owned]
  split
  · split
    · exact h.congr rfl rfl rfl rfl
    · exact AcceptanceEarned.finish (h.congr rfl rfl rfl rfl)
  · exact h.congr rfl rfl rfl rfl

theorem AcceptanceEarned.release (h : w.AcceptanceEarned) (hinv : w.Inv) (owned : Bool) :
    (w.flush (w.bridge.dndOutOnButtonRelease owned)).AcceptanceEarned := by
  rw [release_eq hinv.served owned]
  split
  · exact h
  · split
    · exact h.finish
    · split
      · exact h.congr (by rw [out, tell_bridge]) (by rw [out, tell_bridge]) (tell_heard ..)
          (tell_enters_of_ne _ _ _ (by simp))
      · exact h.finish

/-- A release drops on an accepting target only. -/
theorem drops_release (h : w.AcceptanceEarned) (hinv : w.Inv) (owned : Bool) :
    let w' := w.flush (w.bridge.dndOutOnButtonRelease owned)
    w'.drops = w.drops ∨ ∃ target, w'.drops = w.drops ++ [target] ∧
      w.out.target = some target ∧ w.targetAccepts = true := by
  dsimp only
  -- a session that ends without a drop has dropped nothing
  have hfinish : w.finish.drops = w.drops := drops_leave w
  rw [release_eq hinv.served owned]
  split
  · exact Or.inl rfl
  · split
    · exact Or.inl hfinish
    · next target htarget =>
      split
      · next ha =>
        refine Or.inr ⟨target, ?_, htarget, h ha⟩
        rw [drops_tell, if_pos rfl]
      · exact Or.inl hfinish

theorem drops_endDrag (hinv : w.Inv) (owned : Bool) : (w.endDrag owned).drops = w.drops := by
  rw [endDrag_eq hinv.served owned]
  split
  · split
    · rfl
    · exact drops_leave _
  · rfl

/-- The end of a drag changes neither the target of an accepted session nor its answer. -/
theorem targetAccepts_endDrag (hinv : w.Inv) (owned : Bool) {target : XWindow}
    (htarget : (w.endDrag owned).out.target = some target) :
    w.out.target = some target ∧ (w.endDrag owned).targetAccepts = w.targetAccepts := by
  rw [endDrag_eq hinv.served owned] at htarget ⊢
  -- the bridge hears of the end only while it listens
  split at htarget
  · next hlistens =>
    split at htarget
    · next hkept =>
      rw [if_pos hlistens, if_pos hkept]
      exact ⟨htarget, targetAccepts_congr rfl rfl rfl⟩
    · -- a finished session has no target
      have hnone : ({ w with drag := none }.setOut { w.out with drag := false }).finish.out.target =
          none := leave_target _
      rw [hnone] at htarget
      cases htarget
  · next hdeaf =>
    rw [if_neg hdeaf]
    exact ⟨htarget, targetAccepts_congr rfl rfl rfl⟩

/-- **Hearing a status** replaces the answer of a target that sent it after it was entered. -/
theorem lastStatus_hear (w : DragState) (reply : HeardMessage) (target : XWindow) {accept : Bool}
    (hm : reply.message = .status accept) :
    (w.hear reply true).lastStatus target =
      if reply.sender = target ∧ reply.sentAfter = w.enters then some accept
      else w.lastStatus target := by
  unfold lastStatus hear
  simp only [if_true, List.filterMap_append, List.filterMap_cons, List.filterMap_nil]
  -- the new message is a status of the target or no answer
  split
  · next h =>
    split at h
    · simp [hm, XdndMessage.status?] at h
    · next hnot => rw [if_neg hnot, List.append_nil]
  · next b h =>
    split at h
    · next hyes =>
      rw [hm] at h
      cases h
      rw [if_pos hyes, List.getLast?_concat]
    · cases h

/-- Whether an accepting status is earned. -/
theorem earned_status_iff (w : DragState) (sender : XWindow) (sentAfter : Nat) (accept : Bool) :
    ((w.hear ⟨sender, sentAfter, .status accept⟩ true).setOut
        { w.out with accepted := accept }).AcceptanceEarned ↔
      (accept = true → (w.out.target = some sender ∧ sentAfter = w.enters) ∨
        w.targetAccepts = true) := by
  -- the status just heard is the last one of its sender
  have hstatus (target : XWindow) :
      ((w.hear ⟨sender, sentAfter, .status accept⟩ true).setOut
        { w.out with accepted := accept }).lastStatus target =
        if sender = target ∧ sentAfter = w.enters then some accept else w.lastStatus target :=
    lastStatus_hear w ⟨sender, sentAfter, .status accept⟩ target rfl
  refine forall_congr' fun haccept => ?_
  have haccept' : accept = true := haccept
  subst haccept'
  rw [targetAccepts_iff, targetAccepts_iff]
  show (∃ target, w.out.target = some target ∧ _) ↔ _
  constructor
  · rintro ⟨target, htarget, hlast⟩
    rw [hstatus] at hlast
    split at hlast
    · next h => exact Or.inl ⟨h.1 ▸ htarget, h.2⟩
    · exact Or.inr ⟨target, htarget, hlast⟩
  · rintro (⟨htarget, hafter⟩ | ⟨target, htarget, hlast⟩)
    · exact ⟨sender, htarget, by rw [hstatus, if_pos ⟨rfl, hafter⟩]⟩
    · refine ⟨target, htarget, ?_⟩
      rw [hstatus]
      split
      · rfl
      · exact hlast

/-- Messages that are no status leave the answers alone. -/
theorem targetAccepts_hear (w : DragState) (reply : HeardMessage) (format32 : Bool)
    (h : format32 = true → reply.message.status? = none) :
    (w.hear reply format32).targetAccepts = w.targetAccepts := by
  refine targetAccepts_eq rfl fun target => ?_
  unfold lastStatus hear
  cases format32 with
  | false => rfl
  | true =>
    simp only [if_true, List.filterMap_append, List.filterMap_cons, h rfl]
    simp

theorem ne_append_singleton (l : List XWindow) (target : XWindow) : l ≠ l ++ [target] := by simp

/-- A release, after the seat's drag has ended or not, drops on an accepting target only. -/
theorem repliesTied_release (hinv : w.Inv) (he : w.AcceptanceEarned) (endsDrag owned : Bool) :
    w.RepliesTied (.buttonRelease endsDrag owned) := by
  intro w' hstep
  obtain ⟨-, rfl⟩ := step_eq_some.mp hstep
  refine ⟨?_, fun target hdrops => ?_, fun _ hfin => absurd hfin id⟩
  · cases endsDrag with
    | false => exact he.release hinv owned
    -- with the seat's drag ended first, the target is still there if it accepts
    | true => exact (he.endDrag hinv owned).release (hinv.endDrag owned) owned
  · cases endsDrag with
    | false =>
      rcases drops_release he hinv owned with hsame | ⟨t, hdrop, htarget, hacc⟩
      · exact absurd (hsame.symm.trans hdrops) (ne_append_singleton _ _)
      · have ht : t = target := by
          have := hdrop.symm.trans hdrops
          simpa using this
        exact ⟨ht ▸ htarget, hacc⟩
    | true =>
      have hended := drops_endDrag hinv owned
      rcases drops_release (he.endDrag hinv owned) (hinv.endDrag owned) owned with
        hsame | ⟨t, hdrop, htarget, hacc⟩
      · exact absurd ((hsame.trans hended).symm.trans hdrops) (ne_append_singleton _ _)
      · have ht : t = target := by
          have := hdrop.symm.trans hdrops
          rw [hended] at this
          simpa using this
        obtain ⟨htarget', hsame⟩ := targetAccepts_endDrag hinv owned htarget
        exact ⟨ht ▸ htarget', hsame ▸ hacc⟩

/-- No drop and no message: what is left is the acceptance. -/
theorem repliesTied_of_quiet {a : DragAction} (hstep : w.step a = some w')
    (hearned : w'.AcceptanceEarned) (hdrops : w'.drops = w.drops ∨ w'.drops = [])
    (hmsg : ∀ sender, ¬ FinishedBy sender a) : w.RepliesTied a := by
  refine (Run.forall_step_iff hstep).mpr
    ⟨hearned, fun target hgrow => ?_, fun sender hfin => absurd hfin (hmsg sender)⟩
  rcases hdrops with hsame | hnone
  · exact absurd (hsame.symm.trans hgrow) (ne_append_singleton _ _)
  · rw [hnone] at hgrow
    simp at hgrow

section Message

variable {sender : XWindow} {sentAfter : Nat} {ev : ClientMessage} {owned : Bool}

/-- An `XdndStatus` of an active session: the acceptance it leaves must be earned. -/
theorem repliesTied_status {accept : Bool} (hf : ev.format32 = true) (hm : ev.message = .status accept)
    (hactive : w.out.active = true)
    (hstep : w.step (.clientMessage sender sentAfter ev owned) = some w')
    (heq : w' = (w.hear ⟨sender, sentAfter, ev.message⟩ ev.format32).setOut
      { w.out with accepted := accept }) :
    w.RepliesTied (.clientMessage sender sentAfter ev owned) ↔
      w.RepliesAnswer (.clientMessage sender sentAfter ev owned) := by
  unfold RepliesAnswer
  have hearned := earned_status_iff w sender sentAfter accept
  have hfin : ev.message.isFinished = false := by rw [hm]; rfl
  -- only an accepting status has to be earned
  have hstatus : ev.message.status? = some true ↔ accept = true := by
    rw [hm]
    simp [XdndMessage.status?]
  rw [hf] at heq
  rw [← hm, ← heq] at hearned
  constructor
  · intro htied _ _
    have hw' := (htied _ hstep).1
    exact ⟨fun hs => hearned.mp hw' (hstatus.mp hs), fun h => by rw [hfin] at h; cases h⟩
  · intro hanswer
    refine repliesTied_of_quiet hstep ?_ ?_ fun s hfinished => by simp [FinishedBy, hfin] at hfinished
    · exact hearned.mpr fun hacc => (hanswer hactive hf).1 (hstatus.mpr hacc)
    · rw [heq]
      exact Or.inl rfl

/-- An `XdndFinished` ends an active session: it must come from a window dropped on. -/
theorem repliesTied_finished {accepted : Bool} (he : w.AcceptanceEarned) (hf : ev.format32 = true)
    (hm : ev.message = .finished accepted) (hactive : w.out.active = true)
    (hstep : w.step (.clientMessage sender sentAfter ev owned) = some w')
    (heq : w' = (w.hear ⟨sender, sentAfter, ev.message⟩ ev.format32).finish) :
    w.RepliesTied (.clientMessage sender sentAfter ev owned) ↔
      w.RepliesAnswer (.clientMessage sender sentAfter ev owned) := by
  unfold RepliesAnswer
  have hidle : w'.out.active = false := by rw [heq]; rfl
  have hfin : ev.message.isFinished = true := by rw [hm]; rfl
  have hstatus : ev.message.status? = none := by rw [hm]; rfl
  constructor
  · intro htied _ _
    exact ⟨fun hs => (by rw [hstatus] at hs; cases hs),
      fun _ => (htied _ hstep).2.2 sender ⟨rfl, hfin⟩ hactive hidle⟩
  · intro hanswer
    refine (Run.forall_step_iff hstep).mpr ⟨?_, fun target hgrow => ?_, ?_⟩
    · rw [heq]
      -- an answer that is no status changes no acceptance
      have hheard : (w.hear ⟨sender, sentAfter, ev.message⟩ ev.format32).AcceptanceEarned :=
        fun ha => (targetAccepts_hear w _ _ fun _ => hstatus).trans (he ha)
      exact hheard.finish
    · rw [heq] at hgrow
      exact absurd ((drops_leave _).symm.trans hgrow) (ne_append_singleton _ _)
    · rintro s ⟨rfl, -⟩ - -
      exact (hanswer hactive hf).2 hfin

/-- A message that is not for the outbound session changes neither the acceptance nor the session. -/
theorem repliesTied_other (hinv : w.Inv) (he : w.AcceptanceEarned)
    (hnot : w.out.active = true → ev.format32 = true →
      (∀ accept, ev.message ≠ .status accept) ∧ ev.message.isFinished = false)
    (hstep : w.step (.clientMessage sender sentAfter ev owned) = some w') {b : Bridge}
    (hb : b.dndOut = w.out)
    (heq : w' = { w.hear ⟨sender, sentAfter, ev.message⟩ ev.format32 with bridge := b }) :
    w.RepliesTied (.clientMessage sender sentAfter ev owned) ↔
      w.RepliesAnswer (.clientMessage sender sentAfter ev owned) := by
  unfold RepliesAnswer
  have hstatus (hactive : w.out.active = true) (hf : ev.format32 = true) :
      ev.message.status? = none := by
    cases hmsg : ev.message with
    | status accept => exact absurd hmsg ((hnot hactive hf).1 accept)
    | _ => rfl
  have hearned : w'.AcceptanceEarned := by
    rw [heq]
    cases hactive : w.out.active with
    | false =>
      -- an idle bridge has no target, so no answer to keep
      refine acceptanceEarned_of_not_accepted ?_
      rw [out, hb]
      exact he.of_no_target (hinv.idle hactive)
    | true =>
      have hheard : (w.hear ⟨sender, sentAfter, ev.message⟩ ev.format32).AcceptanceEarned :=
        fun ha => (targetAccepts_hear w _ _ (hstatus hactive)).trans (he ha)
      exact hheard.congr (by rw [out, hb]; rfl) (by rw [out, hb]; rfl) rfl rfl
  refine iff_of_true ((Run.forall_step_iff hstep).mpr ⟨hearned, fun target hgrow => ?_, ?_⟩) ?_
  · rw [heq] at hgrow
    exact absurd (hgrow : w.drops = w.drops ++ [target]) (ne_append_singleton _ _)
  · intro s _ hactive hidle
    rw [heq, out, hb, hactive] at hidle
    cases hidle
  · intro hactive hf
    refine ⟨fun hs => ?_, fun h => ?_⟩
    · rw [hstatus hactive hf] at hs
      cases hs
    · rw [(hnot hactive hf).2] at h
      cases h

end Message

/-- **One step**: the replies are tied to their senders exactly if the client message handled, if
any, is an answer. -/
theorem repliesTied_iff (hinv : w.Inv) (he : w.AcceptanceEarned) {a : DragAction}
    (hstep : w.step a = some w') : w.RepliesTied a ↔ w.RepliesAnswer a := by
  have hquiet := repliesTied_of_quiet hstep
  obtain ⟨-, rfl⟩ := step_eq_some.mp hstep
  cases a with
  | startDrag source pipe listening =>
    obtain ⟨loops, isUri, heq⟩ := startDrag_eq hinv.served source pipe listening
    refine iff_of_true (hquiet ?_ ?_ fun _ => id) trivial <;> rw [heq]
    · exact he.congr rfl rfl rfl rfl
    · exact Or.inl rfl
  | poll result view =>
    refine iff_of_true (hquiet ?_ ?_ fun _ => id) trivial <;>
      rcases poll_cases hinv.served result view with ⟨text, loops, -, heq⟩ | ⟨-, loops, heq⟩ <;>
      rw [heq]
    · exact AcceptanceEarned.track (acceptanceEarned_of_not_accepted rfl) view
    · exact he.congr rfl rfl rfl rfl
    · exact Or.inr (drops_track _ view)
    · exact Or.inl rfl
  | motion interactive view =>
    refine iff_of_true (hquiet ?_ ?_ fun _ => id) trivial <;> rw [motion_eq hinv.served] <;> split
    · exact he
    · exact he.track view
    · exact Or.inl rfl
    · exact Or.inl (drops_track w view)
  | buttonPress => exact iff_of_true (hquiet he (Or.inl rfl) fun _ => id) trivial
  | buttonRelease endsDrag owned =>
    exact iff_of_true (repliesTied_release hinv he endsDrag owned) trivial
  | dragEnds owned =>
    exact iff_of_true (hquiet (he.endDrag hinv owned) (Or.inl (drops_endDrag hinv owned)) fun _ => id)
      trivial
  | windowsChange windows =>
    exact iff_of_true (hquiet (he.congr rfl rfl rfl rfl) (Or.inl rfl) fun _ => id) trivial
  -- a status, an end of the session, or neither
  | clientMessage sender sentAfter ev owned =>
    rcases clientMessage_cases hinv.served sender sentAfter ev owned with
      ⟨accept, hf, hm, hactive, heq⟩ | ⟨accepted, hf, hm, hactive, heq⟩ | ⟨hnot, b, hb, -, heq⟩
    · exact repliesTied_status hf hm hactive hstep heq
    · exact repliesTied_finished he hf hm hactive hstep heq
    · exact repliesTied_other hinv he hnot hstep hb heq

end Replies

/-- **Replies are tied to their senders.** In every run from the start: the acceptance is always the
current target's own, drops go to accepting targets only, and an `XdndFinished` ends a session only
if it comes from a window the session has dropped on, exactly if every client message handled in an
active session is an answer: an accepting status from the current target sent since it was entered,
a finish from a window dropped on. -/
theorem replies_tied_iff (clipboardWindow : XWindow) (as : List DragAction) (w : DragState)
    (hrun : Run.run step (init clipboardWindow) as = some w) :
    Run.Along step RepliesTied (init clipboardWindow) as ↔
      Run.Along step RepliesAnswer (init clipboardWindow) as := by
  refine Run.along_iff_of_step (I := fun w => w.Inv ∧ w.AcceptanceEarned) ?_ ?_
    ⟨Inv.init clipboardWindow, fun h => nomatch h⟩ hrun
  · exact fun s a t ⟨hinv, _⟩ htied hstep => ⟨hinv.step hstep, (htied t hstep).1⟩
  · exact fun s a t ⟨hinv, he⟩ hstep => repliesTied_iff hinv he hstep

/-- A drag of plain text that has entered window 7 and then window 8. -/
def movedOn : List DragAction :=
  [.startDrag (some ⟨[.textPlain], [104, 105]⟩) true true,
    .poll (.ready (.data [104, 105] true)) ⟨none, false, []⟩,
    .poll (.ready .eof) ⟨some (3, 4), false, [⟨7, some 5⟩]⟩,
    .motion false ⟨some (9, 9), false, [⟨8, some 5⟩]⟩]

/-- The answer of window 7, which was on its way, accepts for window 8, and window 8 gets the drop. -/
theorem late_status_accepts_for_new_target :
    ¬ ∀ (clipboardWindow : XWindow) (as : List DragAction) (w : DragState),
      Run.run step (init clipboardWindow) as = some w →
        Run.Along step RepliesTied (init clipboardWindow) as := by
  intro h
  have hrun : (Run.run step (init 1)
      (movedOn ++ [.clientMessage 7 1 ⟨1, true, some 7, .status true⟩ false])).any (fun w =>
        w.out.accepted && !w.targetAccepts) = true := by decide +kernel
  obtain ⟨w, hw, hchecks⟩ := (Option.any_eq_true ..).mp hrun
  rw [Bool.and_eq_true, Bool.not_eq_true'] at hchecks
  have hlast : (Run.run step (init 1) movedOn).isSome = true := by decide +kernel
  obtain ⟨s, hs⟩ := Option.isSome_iff_exists.mp hlast
  -- acceptance would have to be earned from the window that is the target now
  have htied := h 1 _ w hw
  rw [Run.run_append, hs] at hw
  obtain ⟨w', hstep, hnil⟩ := Run.run_cons_inv hw
  cases hnil
  have hearned := ((Run.along_append hs).mp htied).2.1 w hstep
  rw [hearned.1 hchecks.1] at hchecks
  cases hchecks.2

/-- The same drag, where window 8 answers for itself. -/
theorem replies_tied_answered :
    Run.Along step RepliesTied (init 1)
      (movedOn ++ [.clientMessage 8 2 ⟨1, true, some 8, .status true⟩ false,
        .buttonRelease true true, .clientMessage 8 2 ⟨1, true, some 8, .finished true⟩ true]) := by
  have hsome : (Run.run step (init 1)
      (movedOn ++ [.clientMessage 8 2 ⟨1, true, some 8, .status true⟩ false,
        .buttonRelease true true,
        .clientMessage 8 2 ⟨1, true, some 8, .finished true⟩ true])).isSome = true := by
    decide +kernel
  obtain ⟨w, hw⟩ := Option.isSome_iff_exists.mp hsome
  exact (replies_tied_iff 1 _ w hw).mpr (by decide +kernel)

end DragState

end Wlx
