import WlX11.Drag

/-!
# WlX11 — when an outbound session may be active

An outbound XDND session belongs to a Wayland drag: it should be active only while there is a drag on
the seat, or between its `XdndDrop` and the `XdndFinished` that answers it. `drag_destroy` and
`dnd_out_on_button_release` are written for exactly that, with three gaps:

* the drag can end inside the nested dispatch of `dnd_out_begin_from_source`, which then starts the
  session all the same;
* `drag_destroy` takes an accepting target for a drop that was sent, but a drag can end without a
  button release;
* nobody hears of the end of a drag whose listener found no memory.

**`session_justified_iff`** — outside of these, every state of every run is justified.
-/

namespace Wlx

namespace DragState

/-- The session's `XdndDrop` has been sent, and no `XdndFinished` has been handled since the session
began. -/
def DropPending (w : DragState) : Prop :=
  w.drops ≠ [] ∧ ∀ reply ∈ w.heard, reply.message.isFinished = false

instance (w : DragState) : Decidable w.DropPending :=
  inferInstanceAs (Decidable (_ ∧ _))

/-- An active session has a drag on the seat, or waits for the end of its drop. -/
def Justified (w : DragState) : Prop :=
  w.out.active = true → w.drag.isSome = true ∨ w.DropPending

/-- The state the step leads to is justified. -/
def StaysJustified (w : DragState) (a : DragAction) : Prop :=
  ∀ w', w.step a = some w' → w'.Justified

/-- A session starts under a drag, and a drag that ends without its last button release leaves no
active session, except one that has dropped. -/
def EndsWithDrag (w : DragState) : DragAction → Prop
  | .poll result _ => (w.prepares result).isSome = true → w.drag.isSome = true
  | .dragEnds _ => w.out.active = true → w.DropPending ∨
      (w.drag = some true ∧ ¬ (w.out.target.isSome = true ∧ w.out.accepted = true))
  | _ => True

instance : ∀ (w : DragState) (a : DragAction), Decidable (w.EndsWithDrag a)
  | w, .poll result _ =>
    inferInstanceAs (Decidable ((w.prepares result).isSome = true → w.drag.isSome = true))
  | w, .dragEnds _ =>
    inferInstanceAs (Decidable (w.out.active = true → w.DropPending ∨
      (w.drag = some true ∧ ¬ (w.out.target.isSome = true ∧ w.out.accepted = true))))
  | _, .startDrag .. | _, .motion .. | _, .buttonPress | _, .buttonRelease .. | _, .clientMessage ..
  | _, .windowsChange _ => isTrue trivial

section Justified

variable {w w' : DragState}

theorem finish_justified (w : DragState) : w.finish.Justified := fun hactive => nomatch hactive

/-- A state that differs in nothing the property reads. -/
theorem Justified.congr (h : w.Justified) (hactive : w'.out.active = w.out.active)
    (hdrag : w'.drag.isSome = w.drag.isSome) (hdrops : w'.drops = w.drops)
    (hheard : w.out.active = true → (∀ reply ∈ w.heard, reply.message.isFinished = false) →
      ∀ reply ∈ w'.heard, reply.message.isFinished = false) : w'.Justified := by
  intro ha
  rw [hactive] at ha
  rw [hdrag]
  rcases h ha with hdrag | ⟨hd, hf⟩
  · exact Or.inl hdrag
  · exact Or.inr ⟨by rwa [hdrops], hheard ha hf⟩

/-- The button release that follows justifies whatever the end of its drag has left. -/
theorem release_justified (hinv : w.Inv) (owned : Bool) :
    (w.flush (w.bridge.dndOutOnButtonRelease owned)).Justified := by
  rw [release_eq hinv.served owned]
  split
  · next hidle => exact fun hactive => absurd hactive (by simp [hidle])
  · next hactive =>
    split
    · exact finish_justified w
    · next target _ =>
      split
      · intro _
        refine Or.inr ⟨by rw [drops_tell]; simp, ?_⟩
        rw [tell_heard]
        exact hinv.unfinished (by simpa using hactive)
      · exact finish_justified w

/-- The session a prepared text starts has dropped nothing yet: it takes a drag to justify it. -/
theorem begin_justified_iff (w : DragState) (loops : List DragRead) (text : Text)
    (view : PointerView) :
    (({ w with loops := loops }.begin text).track view).Justified ↔ w.drag.isSome = true := by
  have hsent := track_sent ({ w with loops := loops }.begin text) view
  have hnot : (({ w with loops := loops }.begin text).track view).drops = [] :=
    drops_track _ view
  have hdrag : (({ w with loops := loops }.begin text).track view).drag = w.drag := hsent.drag
  constructor
  · intro h
    rcases h hsent.active with h | ⟨h, -⟩
    · rwa [hdrag] at h
    · exact absurd hnot h
  · exact fun h _ => Or.inl (by rw [hdrag]; exact h)

/-- What the end of a drag leaves is justified if there is a drop to wait for, or nothing active. -/
theorem endDrag_justified_iff (hinv : w.Inv) (owned : Bool) :
    (w.endDrag owned).Justified ↔ w.EndsWithDrag (.dragEnds owned) := by
  have hleft (w' : DragState) (hactive : w'.out.active = w.out.active) (hdrag : w'.drag = none)
      (hsession : w'.sessions = w.sessions) (hheard : w'.heard = w.heard) :
      w'.Justified ↔ (w.out.active = true → w.DropPending) := by
    have hdrops : w'.drops = w.drops := by rw [drops, session, hsession]; rfl
    unfold Justified DropPending
    rw [hactive, hdrag, hheard, hdrops]
    simp
  rw [endDrag_eq hinv.served owned]
  unfold EndsWithDrag
  split
  · next hlistens =>
    split
    · next hkept =>
      rw [Bool.and_eq_true, Bool.and_eq_true] at hkept
      refine (hleft _ ?_ ?_ ?_ ?_).trans ?_
      any_goals rfl
      exact forall_congr' fun _ => ⟨Or.inl, fun h => h.resolve_right fun hr =>
        hr.2 ⟨hkept.1.2, hkept.2⟩⟩
    · next hquit =>
      refine ⟨fun _ hactive => Or.inr ⟨hlistens, fun hboth => hquit ?_⟩, fun _ => finish_justified _⟩
      rw [hactive, hboth.1, hboth.2]
      rfl
  · next hdeaf =>
    refine (hleft _ ?_ ?_ ?_ ?_).trans ?_
    any_goals rfl
    exact forall_congr' fun _ => ⟨Or.inl, fun h => h.resolve_right fun hr => hdeaf hr.1⟩

/-- **One step**: it stays justified exactly if it meets the condition. -/
theorem staysJustified_iff (hinv : w.Inv) (hj : w.Justified) {a : DragAction}
    (hstep : w.step a = some w') : w.StaysJustified a ↔ w.EndsWithDrag a := by
  have hnext : w.StaysJustified a ↔ w'.Justified := Run.forall_step_iff hstep
  rw [hnext]
  obtain ⟨-, rfl⟩ := step_eq_some.mp hstep
  cases a with
  | startDrag source pipe listening =>
    obtain ⟨loops, isUri, heq⟩ := startDrag_eq hinv.served source pipe listening
    rw [heq]
    exact iff_of_true (fun _ => Or.inl rfl) trivial
  | poll result view =>
    rcases poll_cases hinv.served result view with ⟨text, loops, hp, heq⟩ | ⟨hp, loops, heq⟩ <;>
      rw [heq, EndsWithDrag, hp]
    · rw [begin_justified_iff]
      simp
    · exact iff_of_true (hj.congr rfl rfl rfl fun _ => id) (by simp)
  | motion interactive view =>
    refine iff_of_true ?_ trivial
    rw [motion_eq hinv.served]
    split
    · exact hj
    · have hsent := track_sent w view
      exact hj.congr hsent.active (by rw [hsent.drag]) (drops_track w view)
        (fun _ h => by rw [hsent.heard]; exact h)
  | buttonPress => exact iff_of_true hj trivial
  | buttonRelease endsDrag owned =>
    refine iff_of_true ?_ trivial
    cases endsDrag with
    | false => exact release_justified hinv owned
    | true => exact release_justified (hinv.endDrag owned) owned
  | dragEnds owned => exact endDrag_justified_iff hinv owned
  | clientMessage sender sentAfter ev owned =>
    refine iff_of_true ?_ trivial
    rcases clientMessage_cases hinv.served sender sentAfter ev owned with
      ⟨accept, hf, hm, hactive, heq⟩ | ⟨accepted, hf, hm, hactive, heq⟩ | ⟨hnot, b, hb, hbo, heq⟩ <;>
      rw [heq]
    · exact hj.congr rfl rfl rfl fun _ hall =>
        Inv.hear_unfinished ⟨sender, sentAfter, ev.message⟩ _ hall fun _ => by rw [hm]; rfl
    · exact finish_justified _
    · exact hj.congr (by rw [out, hb]) rfl rfl fun ha hall =>
        Inv.hear_unfinished ⟨sender, sentAfter, ev.message⟩ _ hall fun hf => (hnot ha hf).2
  | windowsChange windows => exact iff_of_true (hj.congr rfl rfl rfl fun _ => id) trivial

end Justified

/-- **Active sessions are justified.** In every run from the start: every state reached has its
active session justified by a drag or a pending drop exactly if each session starts under a drag,
and no drag ends without its last button release while a session is active, unless that session has
dropped or its target has not accepted. -/
theorem session_justified_iff (clipboardWindow : XWindow) (as : List DragAction) (w : DragState)
    (hrun : Run.run step (init clipboardWindow) as = some w) :
    Run.Along step StaysJustified (init clipboardWindow) as ↔
      Run.Along step EndsWithDrag (init clipboardWindow) as := by
  refine Run.along_iff_of_step (I := fun w => w.Inv ∧ w.Justified) ?_ ?_
    ⟨Inv.init clipboardWindow, fun h => nomatch h⟩ hrun
  · exact fun s a t ⟨hinv, _⟩ hstays hstep => ⟨hinv.step hstep, hstays t hstep⟩
  · exact fun s a t ⟨hinv, hj⟩ hstep => staysJustified_iff hinv hj hstep

/-- A drag of plain text that is cancelled while its source is read; the text arrives afterwards. -/
def cancelledWhileRead : List DragAction :=
  [.startDrag (some ⟨[.textPlain], [104, 105]⟩) true true, .poll .timeout ⟨none, false, []⟩,
    .dragEnds false, .poll (.ready (.data [104, 105] true)) ⟨none, false, []⟩,
    .poll (.ready .eof) ⟨none, false, []⟩]

/-- A drag that is cancelled while its source is read leaves a session nothing ends. -/
theorem session_outlives_cancelled_drag :
    ¬ ∀ (clipboardWindow : XWindow) (w : DragState),
      Run.Reachable step (init clipboardWindow) w → w.Justified := by
  intro h
  have hany : (Run.run step (init 1) cancelledWhileRead).any (fun w =>
      w.out.active && w.drag.isNone && w.drops.isEmpty) = true := by decide +kernel
  obtain ⟨w, hw, hchecks⟩ := (Option.any_eq_true ..).mp hany
  simp only [Bool.and_eq_true, List.isEmpty_iff] at hchecks
  obtain ⟨⟨hactive, hnone⟩, hnot⟩ := hchecks
  rcases h 1 w ⟨_, hw⟩ hactive with hdrag | ⟨hdropped, -⟩
  · rw [Option.isNone_iff_eq_none.mp hnone] at hdrag; cases hdrag
  · exact absurd hnot hdropped

/-- The same drag, read in time and then dropped on an X11 window that accepts. -/
def readAndDropped : List DragAction :=
  [.startDrag (some ⟨[.textPlain], [104, 105]⟩) true true,
    .poll (.ready (.data [104, 105] true)) ⟨none, false, []⟩,
    .poll (.ready .eof) ⟨some (3, 4), false, [⟨7, some 5⟩]⟩,
    .clientMessage 7 1 ⟨1, true, some 7, .status true⟩ false, .buttonRelease true true,
    .clientMessage 7 1 ⟨1, true, some 7, .finished true⟩ true]

/-- A drag that runs its course has a justified session throughout. -/
theorem session_justified_read_and_dropped :
    Run.Along step StaysJustified (init 1) readAndDropped := by
  have hsome : (Run.run step (init 1) readAndDropped).isSome = true := by decide +kernel
  have hcond : Run.Along step EndsWithDrag (init 1) readAndDropped := by decide +kernel
  obtain ⟨w, hw⟩ := Option.isSome_iff_exists.mp hsome
  exact (session_justified_iff 1 readAndDropped w hw).mpr hcond

end DragState

end Wlx
