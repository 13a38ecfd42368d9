import WlX11.Drag

/-!
# WlX11 — the messages of an outbound session are words

What the bridge sends to one target should read `Enter Position* (Leave | Drop)`, over and over while
the target is left and entered again, and a drop should be the last message of its session.
`dnd_out_leave` and `dnd_out_update_position` keep to that as long as nothing has been dropped. But
there is no phase for a drop whose `XdndFinished` is awaited: the target stays the current one, so a
motion still tells it positions, and the `dnd_out_finish` that an `XdndFinished` runs still leaves it.

* **`Phase`** — where a target stands; the words of the grammar are the runs of `Phase.step`.
* **`Grammatical`** — the sessions so far are made of words; **`QuietAfterDrop`** — the events that
  keep them so.
* **`messages_grammatical_iff`** — the two are equivalent along every run.
-/

namespace Wlx

/-- Where a target stands in the protocol. -/
inductive Phase where
  | outside
  | inside
  | dropped
deriving DecidableEq, Repr

/-- What may be sent to it, and what that makes of it. -/
def Phase.step : Phase → XdndMessage → Option Phase
  | .outside, .enter .. | .inside, .position .. => some .inside
  | .inside, .leave => some .outside
  | .inside, .drop => some .dropped
  | _, _ => none

namespace DragTrace

/-- The messages of a session that went to `target`. -/
def messagesTo (target : XWindow) (s : DragTrace) : List XdndMessage :=
  (s.filter (·.1 = target)).map (·.2)

/-- The phase they lead to, if they are allowed. -/
def phase (s : DragTrace) (target : XWindow) : Option Phase :=
  Run.run Phase.step .outside (messagesTo target s)

/-- Every target is sent a word, and a complete one once the session is over; a drop is the last
message. -/
structure WellFormed (s : DragTrace) (ended : Bool) : Prop where
  words : ∀ target, ∃ p, phase s target = some p ∧ (ended = true → p ≠ .inside)
  last : ∀ before target after, s = before ++ (target, .drop) :: after → after = []

/-! ## Traces, message by message -/

/-- Nothing is dropped yet, and `target` is the one window entered. -/
structure Visiting (s : DragTrace) (target : Option XWindow) : Prop where
  undropped : ∀ e ∈ s, e.2 ≠ .drop
  phases : ∀ t, phase s t = some (if target = some t then .inside else .outside)

/-- A drop on the window entered is the last message. -/
def Dropped (s : DragTrace) (target : XWindow) : Prop :=
  ∃ before, Visiting before (some target) ∧ s = before ++ [(target, .drop)]

section Words

variable {s : DragTrace} {target : Option XWindow} {t : XWindow} {ended : Bool}

/-- A message moves the target it is sent to, and no other. -/
theorem phase_append (s : DragTrace) (t t' : XWindow) (message : XdndMessage) :
    phase (s ++ [(t, message)]) t' =
      if t = t' then (phase s t').bind (Phase.step · message) else phase s t' := by
  unfold phase messagesTo
  split
  · next h =>
    simp only [List.filter_append, List.map_append, List.filter_cons, h, decide_true, if_true,
      List.filter_nil, List.map_cons, List.map_nil, Run.run_append, Run.run_cons, Run.run_nil]
    exact Option.bind_congr fun p _ => by cases Phase.step p message <;> rfl
  · next h => simp [h]

/-- A session that has said nothing visits nobody. -/
theorem visiting_nil : Visiting [] none :=
  ⟨(fun _ hmem => nomatch hmem), fun _ => rfl⟩

/-- One more message that is no drop. -/
theorem Visiting.append (h : Visiting s target) {message : XdndMessage} (hm : message ≠ .drop)
    {target' : Option XWindow}
    (hstep : Phase.step (if target = some t then .inside else .outside) message =
      some (if target' = some t then .inside else .outside))
    (hothers : ∀ t', t ≠ t' → (target = some t' ↔ target' = some t')) :
    Visiting (s ++ [(t, message)]) target' where
  undropped := by
    intro e he
    rw [List.mem_append, List.mem_singleton] at he
    rcases he with he | rfl
    · exact h.undropped e he
    · exact hm
  phases := by
    intro t'
    rw [phase_append, h.phases]
    split
    -- this target is a phase further, the others are where they were
    · next ht => rw [← ht]; exact hstep
    · next ht => simp only [hothers t' ht]

/-- `XdndEnter` begins a visit, -/
theorem Visiting.enter (h : Visiting s none) (t : XWindow) (version : Int) (type : Atom) :
    Visiting (s ++ [(t, .enter version type)]) (some t) :=
  h.append (by simp) (by simp [Phase.step]) (by simp)

/-- positions are told within one, -/
theorem Visiting.position (h : Visiting s (some t)) (x y : Int) :
    Visiting (s ++ [(t, .position x y)]) (some t) :=
  h.append (by simp) (by simp [Phase.step]) (by simp)

/-- `XdndLeave` ends it, -/
theorem Visiting.leave (h : Visiting s (some t)) : Visiting (s ++ [(t, .leave)]) none :=
  h.append (by decide) (by simp [Phase.step]) (by simp)

/-- and a drop is the last thing a visit brings. -/
theorem Visiting.drop (h : Visiting s (some t)) : Dropped (s ++ [(t, .drop)]) t :=
  ⟨s, h, rfl⟩

/-- A session that visits, or has left, is well formed so far. -/
theorem Visiting.wellFormed (h : Visiting s target) (hended : ended = true → target = none) :
    WellFormed s ended where
  words := by
    intro t
    refine ⟨_, h.phases t, fun ho => ?_⟩
    rw [hended ho, if_neg (by simp)]
    decide
  last := by
    rintro before t after rfl
    exact absurd rfl (h.undropped (t, .drop) (by simp))

/-- A session that is over has left its last target. -/
theorem Visiting.target_of_over (h : Visiting s target) (hw : WellFormed s true) :
    target = none := by
  cases htarget : target with
  | none => rfl
  | some t =>
    obtain ⟨p, hp, hnot⟩ := hw.words t
    rw [h.phases, if_pos htarget] at hp
    cases hp
    exact absurd rfl (hnot rfl)

/-- One that has dropped is well formed, ended or not. -/
theorem Dropped.wellFormed (h : Dropped s t) : WellFormed s ended where
  words := by
    obtain ⟨before, hv, rfl⟩ := h
    intro t'
    rw [phase_append, hv.phases]
    split
    · next ht => exact ⟨.dropped, by rw [if_pos (by rw [ht])]; rfl, fun _ => by decide⟩
    · next ht =>
      exact ⟨.outside, by rw [if_neg fun heq => ht (Option.some.inj heq)], fun _ => by decide⟩
  last := by
    obtain ⟨before, hv, rfl⟩ := h
    intro before' t' after heq
    -- the drop is the last message, and before it there is none
    rcases List.eq_nil_or_concat after with hnil | ⟨init, e, rfl⟩
    · exact hnil
    · rw [List.concat_eq_append, ← List.cons_append, ← List.append_assoc] at heq
      obtain ⟨hbefore, -⟩ := List.append_inj' heq rfl
      exact absurd rfl (hv.undropped (t', .drop) (by rw [hbefore]; simp))

/-- A drop cannot be followed by anything. -/
theorem Dropped.not_wellFormed (h : Dropped s t) (e : XWindow × XdndMessage) (es : DragTrace) :
    ¬ WellFormed (s ++ e :: es) ended := by
  obtain ⟨before, -, rfl⟩ := h
  intro hw
  exact absurd (hw.last before t (e :: es) (by simp)) (by simp)

end Words

end DragTrace

namespace DragState

open DragTrace

/-- The current session is made of words so far, and those before it of complete words. -/
def Grammatical (w : DragState) : Prop :=
  WellFormed w.session (!w.out.active) ∧ ∀ s ∈ w.sessions.tail, WellFormed s true

/-- The state the step leads to is grammatical. -/
def StaysGrammatical (w : DragState) (a : DragAction) : Prop :=
  ∀ w', w.step a = some w' → w'.Grammatical

/-- Once the session has dropped, the pointer is not tracked, no button is released, no
`XdndFinished` is handled, and a drag that is listened to ends only under an accepting target. And a
new session does not start while the current one is visiting a target. -/
def QuietAfterDrop (w : DragState) : DragAction → Prop
  | .poll result _ => (w.prepares result).isSome = true → w.out.target = none ∨ w.drops ≠ []
  | .motion interactive view => w.drops ≠ [] → interactive = true ∨ view.position = none
  | .buttonRelease .. => w.drops = []
  | .dragEnds _ => w.drops ≠ [] → w.drag ≠ some true ∨ w.out.accepted = true
  | .clientMessage _ _ ev _ => w.drops ≠ [] → ¬ (ev.format32 = true ∧ ev.message.isFinished = true)
  | _ => True

instance : ∀ (w : DragState) (a : DragAction), Decidable (w.QuietAfterDrop a)
  | w, .poll result _ => inferInstanceAs (Decidable
      ((w.prepares result).isSome = true → w.out.target = none ∨ w.drops ≠ []))
  | w, .motion interactive view => inferInstanceAs (Decidable
      (w.drops ≠ [] → interactive = true ∨ view.position = none))
  | w, .buttonRelease .. => inferInstanceAs (Decidable (w.drops = []))
  | w, .dragEnds _ => inferInstanceAs (Decidable
      (w.drops ≠ [] → w.drag ≠ some true ∨ w.out.accepted = true))
  | w, .clientMessage _ _ ev _ => inferInstanceAs (Decidable
      (w.drops ≠ [] → ¬ (ev.format32 = true ∧ ev.message.isFinished = true)))
  | _, .startDrag .. | _, .buttonPress | _, .windowsChange _ => isTrue trivial

/-! ## What the sender says -/

/-- What the fields of a grammatical state say about its trace: the target is being visited, or has
been dropped on. -/
structure Talking (w : DragState) : Prop where
  current : Visiting w.session w.out.target ∨
    w.out.active = true ∧ ∃ target, w.out.target = some target ∧ Dropped w.session target
  past : ∀ s ∈ w.sessions.tail, WellFormed s true

section Talking

variable {w w' : DragState} {target : XWindow}

/-- The session of `w'` is that of `w` and at least one message more. -/
def Grew (w w' : DragState) : Prop :=
  ∃ e es, w'.session = w.session ++ e :: es

/-- A message of the protocol is appended to the session. -/
theorem tell_grew (w : DragState) (target : XWindow) {message : XdndMessage}
    (h : isOutbound message = true) : Grew w (w.tell target message) :=
  ⟨(target, message), [], tell_session w target message h⟩

/-- A new target is entered and told the position, after the old one is left. -/
theorem visit_of_ne (h : w.out.target ≠ some target) (version x y : Int) :
    (w.visit target version x y).out.target = some target ∧
      ∃ type, (w.visit target version x y).sessions =
        (w.leave.session ++ [(target, .enter version type)] ++ [(target, .position x y)]) ::
          w.leave.sessions.tail := by
  unfold visit
  rw [if_neg h]
  dsimp only
  refine ⟨by rw [out, tell_bridge, tell_bridge]; rfl,
    if w.leave.out.isUri then .textUriList else .utf8String, ?_⟩
  rw [tell_sessions _ target _ rfl, tell_session _ target _ rfl, tell_sessions _ target _ rfl]
  rfl

/-- Leaving a target is said. -/
theorem leave_grew (h : w.out.target = some target) : Grew w w.leave := by
  unfold leave
  rw [h]
  exact tell_grew w target rfl

/-- Tracking the pointer says something about the target, unless the pointer is not found. -/
theorem track_grew (h : w.out.target = some target) (view : PointerView)
    (hpos : view.position ≠ none) : Grew w (w.track view) := by
  unfold track
  split
  · next hnone => exact absurd hnone hpos
  · next x y _ =>
    split
    · exact leave_grew h
    · split
      · exact leave_grew h
      · next t version _ =>
        -- a position, or all it takes to change the target
        by_cases hsame : w.out.target = some t
        · rw [visit, if_pos hsame]
          exact tell_grew w t rfl
        · obtain ⟨-, type, hsessions⟩ := visit_of_ne hsame version x y
          obtain ⟨e, es, hleft⟩ := leave_grew h
          refine ⟨e, es ++ [(t, .enter version type)] ++ [(t, .position x y)], ?_⟩
          rw [session, hsessions, List.headD_cons, hleft]
          simp

/-- A dropped session that grows is not grammatical. -/
theorem Grew.not_grammatical (hg : Grew w w') (hd : Dropped w.session target) :
    ¬ w'.Grammatical := by
  obtain ⟨e, es, heq⟩ := hg
  intro h
  have hw := h.1
  rw [heq] at hw
  exact hd.not_wellFormed e es hw

/-- What is said by the record is said in order. -/
theorem Talking.grammatical (h : w.Talking) (hinv : w.Inv) : w.Grammatical := by
  refine ⟨?_, h.past⟩
  rcases h.current with hv | ⟨-, target, -, hd⟩
  · refine hv.wellFormed fun hended => hinv.idle (by simpa using hended)
  · exact hd.wellFormed

/-- The property reads the trace, the target and whether the session is active. -/
theorem Talking.congr (h : w.Talking) (hsessions : w'.sessions = w.sessions)
    (htarget : w'.out.target = w.out.target) (hactive : w'.out.active = w.out.active) :
    w'.Talking where
  current := by
    rw [show w'.session = w.session by rw [session, hsessions]; rfl, htarget, hactive]
    exact h.current
  past := by rw [hsessions]; exact h.past

/-- Nothing dropped, so the target is being visited. -/
theorem Talking.visiting (h : w.Talking) (hdrops : w.drops = []) :
    Visiting w.session w.out.target := by
  rcases h.current with hv | ⟨-, target, -, before, -, heq⟩
  · exact hv
  · have : target ∈ w.drops := by rw [drops, heq]; simp
    rw [hdrops] at this
    cases this

/-- Something dropped, so the session waits, its target unchanged. -/
theorem Talking.dropped (h : w.Talking) (hdrops : w.drops ≠ []) :
    w.out.active = true ∧ ∃ target, w.out.target = some target ∧ Dropped w.session target := by
  rcases h.current with hv | hd
  · refine absurd ?_ hdrops
    rw [drops, List.map_eq_nil_iff, List.filter_eq_nil_iff]
    intro e he
    simpa using hv.undropped e he
  · exact hd

/-- A message goes to the current session; those before it are as they were. -/
theorem tell_past (w : DragState) (target : XWindow) {message : XdndMessage}
    (h : isOutbound message = true) : (w.tell target message).sessions.tail = w.sessions.tail := by
  rw [tell_sessions w target message h, List.tail_cons]

/-- Messages go to the newest session, -/
theorem leave_past (w : DragState) : w.leave.sessions.tail = w.sessions.tail := by
  unfold DragState.leave
  split
  · rfl
  · next t _ => exact tell_past w t rfl

/-- and so do those that follow the pointer. -/
theorem track_past (w : DragState) (view : PointerView) :
    (w.track view).sessions.tail = w.sessions.tail := by
  unfold DragState.track
  split
  · rfl
  · next x y _ =>
    split
    · exact leave_past w
    · split
      · exact leave_past w
      · next t version _ =>
        -- what is told is told in the session that is current
        by_cases hsame : w.out.target = some t
        · rw [visit, if_pos hsame]
          exact tell_past w t rfl
        · obtain ⟨-, type, hsessions⟩ := visit_of_ne hsame version x y
          rw [hsessions, List.tail_cons, leave_past]

/-- A visited target may be left. -/
theorem leave_visiting (hv : Visiting w.session w.out.target) : Visiting w.leave.session none := by
  unfold DragState.leave
  split
  · next hnone => exact hnone ▸ hv
  · next t htarget =>
    show Visiting (w.tell t .leave).session none
    rw [tell_session w t .leave rfl]
    rw [htarget] at hv
    exact hv.leave

/-- The pointer may be tracked while nothing is dropped. -/
theorem track_visiting (hv : Visiting w.session w.out.target) (view : PointerView) :
    Visiting (w.track view).session (w.track view).out.target := by
  -- nobody below the pointer that takes drags: the target is left
  have hleft : Visiting w.leave.session w.leave.out.target := by
    rw [leave_target]
    exact leave_visiting hv
  unfold DragState.track
  split
  · exact hv
  · next x y _ =>
    split
    · exact hleft
    · split
      · exact hleft
      · next t version _ =>
        by_cases hsame : w.out.target = some t
        · rw [visit, if_pos hsame, out, tell_bridge, tell_session w t _ rfl]
          rw [hsame] at hv ⊢
          exact hv.position x y
        · obtain ⟨htarget, type, hsessions⟩ := visit_of_ne hsame version x y
          rw [htarget, session, hsessions, List.headD_cons]
          exact ((leave_visiting hv).enter t version type).position x y

/-- Following the pointer goes on talking, -/
theorem Talking.track (h : w.Talking) (hdrops : w.drops = []) (view : PointerView) :
    (w.track view).Talking :=
  ⟨Or.inl (track_visiting (h.visiting hdrops) view), by rw [track_past]; exact h.past⟩

/-- and the end of a session leaves its target first. -/
theorem Talking.finish (h : w.Talking) (hdrops : w.drops = []) : w.finish.Talking := by
  refine ⟨Or.inl ?_, fun s hs => h.past s ?_⟩
  · rw [show w.finish.out.target = none from leave_target w]
    exact leave_visiting (h.visiting hdrops)
  · rwa [show w.finish.sessions = w.leave.sessions from rfl, leave_past] at hs

/-- The end of the compositor's drag drops nothing. -/
theorem drops_endDrag_eq_nil (hinv : w.Inv) (owned : Bool) (hdrops : w.drops = []) :
    (w.endDrag owned).drops = [] := by
  rw [endDrag_eq hinv.served owned]
  split
  · split
    · exact hdrops
    · exact (drops_leave _).trans hdrops
  · exact hdrops

/-- It may end the session. -/
theorem Talking.endDrag (h : w.Talking) (hinv : w.Inv) (owned : Bool) (hdrops : w.drops = []) :
    (w.endDrag owned).Talking := by
  rw [endDrag_eq hinv.served owned]
  split
  · split
    · exact h.congr rfl rfl rfl
    · exact Talking.finish (h.congr rfl rfl rfl) hdrops
  · exact h.congr rfl rfl rfl

/-- A release drops, or ends the session. -/
theorem Talking.release (h : w.Talking) (hinv : w.Inv) (owned : Bool) (hdrops : w.drops = []) :
    (w.flush (w.bridge.dndOutOnButtonRelease owned)).Talking := by
  rw [release_eq hinv.served owned]
  split
  · exact h
  · next hactive =>
    split
    · exact h.finish hdrops
    · next t htarget =>
      split
      -- dropped on a target that has accepted
      · refine ⟨Or.inr ⟨by rw [out, tell_bridge]; simpa using hactive, t, ?_, ?_⟩,
          by rw [tell_past w t rfl]; exact h.past⟩
        · rw [out, tell_bridge]; exact htarget
        · rw [tell_session w t .drop rfl]
          have hv := h.visiting hdrops
          rw [htarget] at hv
          exact hv.drop
      · exact h.finish hdrops

/-- A new session may begin when the target is left or dropped on. -/
theorem Talking.closed (h : w.Talking) (hleft : w.out.target = none ∨ w.drops ≠ []) :
    ∀ s ∈ w.sessions, WellFormed s true := by
  have hcurrent : WellFormed w.session true := by
    rcases h.current with hv | ⟨-, target, -, hd⟩
    -- a target that is visited has no drop
    · refine hv.wellFormed fun _ => hleft.resolve_right fun hdrops => ?_
      obtain ⟨-, target, htarget, before, -, heq⟩ := h.dropped hdrops
      exact absurd rfl (hv.undropped (target, .drop) (by rw [heq]; simp))
    · exact hd.wellFormed
  intro s hs
  cases hsessions : w.sessions with
  | nil => rw [hsessions] at hs; cases hs
  | cons head tail =>
    rw [hsessions] at hs
    rcases List.mem_cons.mp hs with rfl | hs
    · rw [session, hsessions] at hcurrent
      exact hcurrent
    · exact h.past s (by rw [hsessions]; exact hs)

/-! ## One step -/

/-- **A quiet step** keeps what the fields say. One case per event. -/
theorem Talking.step (h : w.Talking) (hinv : w.Inv) {a : DragAction} (hq : w.QuietAfterDrop a)
    (hstep : w.step a = some w') : w'.Talking := by
  obtain ⟨-, rfl⟩ := step_eq_some.mp hstep
  cases a with
  | startDrag source pipe listening =>
    obtain ⟨loops, isUri, heq⟩ := startDrag_eq hinv.served source pipe listening
    rw [heq]
    exact h.congr rfl rfl rfl
  | poll result view =>
    rcases poll_cases hinv.served result view with ⟨text, loops, hp, heq⟩ | ⟨-, loops, heq⟩ <;> rw [heq]
    · -- the session that was current joins the past ones
      have hbegun : ({ w with loops := loops }.begin text).Talking :=
        ⟨Or.inl visiting_nil, h.closed (hq (by rw [hp]; rfl))⟩
      exact hbegun.track rfl view
    · exact h.congr rfl rfl rfl
  | motion interactive view =>
    rw [motion_eq hinv.served]
    split
    · exact h
    · next hmoves =>
      by_cases hdrops : w.drops = []
      · exact h.track hdrops view
      · -- the pointer is not found: nothing is said
        have hpos := (hq hdrops).resolve_left fun hi => hmoves (Or.inl hi)
        rw [DragState.track, hpos]
        exact h
  -- no message goes out
  | buttonPress => exact h
  | buttonRelease endsDrag owned =>
    cases endsDrag with
    | false => exact h.release hinv owned hq
    | true =>
      exact (h.endDrag hinv owned hq).release (hinv.endDrag owned) owned
        (drops_endDrag_eq_nil hinv owned hq)
  -- a session that awaits its answer stays, any other is left
  | dragEnds owned =>
    by_cases hdrops : w.drops = []
    · exact h.endDrag hinv owned hdrops
    · obtain ⟨hactive, target, htarget, -⟩ := h.dropped hdrops
      show (w.endDrag owned).Talking
      rw [endDrag_eq hinv.served owned]
      split
      · next hlistens =>
        have haccepted := (hq hdrops).resolve_left fun hne => hne hlistens
        rw [if_pos (by rw [hactive, htarget, haccepted]; rfl)]
        exact h.congr rfl rfl rfl
      · exact h.congr rfl rfl rfl
  | clientMessage sender sentAfter ev owned =>
    rcases clientMessage_cases hinv.served sender sentAfter ev owned with
      ⟨accept, hf, hm, hactive, heq⟩ | ⟨accepted, hf, hm, hactive, heq⟩ | ⟨-, b, hb, -, heq⟩ <;>
      rw [heq]
    · exact h.congr rfl rfl rfl
    -- `XdndFinished`, which is only quiet if nothing was dropped
    · have hdrops : w.drops = [] := by
        by_contra hdrops
        exact hq hdrops ⟨hf, by rw [hm]; rfl⟩
      have hheard : (w.hear ⟨sender, sentAfter, ev.message⟩ ev.format32).Talking :=
        h.congr rfl rfl rfl
      exact hheard.finish hdrops
    · exact h.congr rfl (by rw [out, hb]) (by rw [out, hb])
  | windowsChange windows => exact h.congr rfl rfl rfl

/-- A release of an ended session says nothing. -/
theorem finish_release (hinv : w.finish.Inv) (owned : Bool) :
    w.finish.flush (w.finish.bridge.dndOutOnButtonRelease owned) = w.finish := by
  rw [release_eq hinv.served owned, if_pos (show w.finish.out.active = false from rfl)]

/-- What finishes a session after its drop tells the target to leave. -/
theorem finish_not_grammatical {target : XWindow} (htarget : w.out.target = some target)
    (hd : Dropped w.session target) : ¬ w.finish.Grammatical :=
  Grew.not_grammatical (leave_grew htarget : Grew w w.finish) hd

/-- A release after the drop drops again, or finishes. -/
theorem release_not_grammatical (hinv : w.Inv) (owned : Bool) (hactive : w.out.active = true)
    {target : XWindow} (htarget : w.out.target = some target) (hd : Dropped w.session target) :
    ¬ (w.flush (w.bridge.dndOutOnButtonRelease owned)).Grammatical := by
  rw [release_eq hinv.served owned, if_neg (by rw [hactive]; decide), htarget]
  dsimp only
  split
  · exact (tell_grew w target rfl).not_grammatical hd
  · exact finish_not_grammatical htarget hd

/-- The same when the release ends the seat's drag first. -/
theorem endDrag_release_not_grammatical (hinv : w.Inv) (owned : Bool) (hactive : w.out.active = true)
    {target : XWindow} (htarget : w.out.target = some target) (hd : Dropped w.session target) :
    ¬ ((w.endDrag owned).flush ((w.endDrag owned).bridge.dndOutOnButtonRelease owned)).Grammatical := by
  have hinv' := hinv.endDrag owned
  rw [endDrag_eq hinv.served owned] at hinv' ⊢
  split
  · next hlistens =>
    rw [if_pos hlistens] at hinv'
    split
    -- the session stays, and the release finds it
    · next hkept =>
      rw [if_pos hkept] at hinv'
      exact release_not_grammatical hinv' owned hactive htarget hd
    · -- already finished: the release finds no active session
      next hquit =>
      rw [if_neg hquit] at hinv'
      rw [finish_release hinv' owned]
      exact finish_not_grammatical htarget hd
  · next hdeaf =>
    rw [if_neg hdeaf] at hinv'
    exact release_not_grammatical hinv' owned hactive htarget hd

/-- **Any other step** breaks the grammar. -/
theorem Talking.not_staysGrammatical (h : w.Talking) (hinv : w.Inv) {a : DragAction}
    (hq : ¬ w.QuietAfterDrop a) (hstep : w.step a = some w') : ¬ w'.Grammatical := by
  obtain ⟨-, rfl⟩ := step_eq_some.mp hstep
  cases a with
  -- these are quiet always
  | startDrag | buttonPress | windowsChange => exact absurd trivial hq
  | poll result view =>
    rw [QuietAfterDrop, Classical.not_imp, not_or, not_not] at hq
    obtain ⟨hprepares, htarget, hdrops⟩ := hq
    rcases poll_cases hinv.served result view with ⟨text, loops, hp, heq⟩ | ⟨hp, loops, heq⟩
    · -- the session that is over has not left its target
      rw [heq]
      intro hg
      have hactive : w.out.active = true := by
        cases ha : w.out.active with
        | true => rfl
        | false => exact absurd (hinv.idle ha) htarget
      have hended : WellFormed w.session true := by
        refine hg.2 w.session ?_
        rw [track_past]
        show w.session ∈ w.sessions
        obtain ⟨head, tail, hsessions⟩ := List.exists_cons_of_ne_nil (hinv.begun hactive)
        rw [session, hsessions]
        exact List.mem_cons_self
      exact htarget ((h.visiting hdrops).target_of_over hended)
    -- only a read that is prepared is not quiet
    · rw [hp] at hprepares; cases hprepares
  | motion interactive view =>
    rw [QuietAfterDrop, Classical.not_imp, not_or] at hq
    obtain ⟨hdrops, hmoves, hpos⟩ := hq
    obtain ⟨hactive, target, htarget, hd⟩ := h.dropped hdrops
    rw [motion_eq hinv.served, if_neg]
    · exact (track_grew htarget view hpos).not_grammatical hd
    -- the motion is tracked: no interactive one, in a session with a text
    · rintro (hi | hidle | htext)
      · exact hmoves hi
      · rw [hactive] at hidle; cases hidle
      · exact hinv.text hactive htext
  | buttonRelease endsDrag owned =>
    obtain ⟨hactive, target, htarget, hd⟩ := h.dropped hq
    cases endsDrag with
    | false => exact release_not_grammatical hinv owned hactive htarget hd
    | true => exact endDrag_release_not_grammatical hinv owned hactive htarget hd
  | dragEnds owned =>
    rw [QuietAfterDrop, Classical.not_imp, not_or, not_not] at hq
    obtain ⟨hdrops, hlistens, hrefused⟩ := hq
    obtain ⟨hactive, target, htarget, hd⟩ := h.dropped hdrops
    show ¬ (w.endDrag owned).Grammatical
    rw [endDrag_eq hinv.served owned, if_pos hlistens, if_neg]
    · exact finish_not_grammatical htarget hd
    · intro hkept
      rw [Bool.and_eq_true] at hkept
      exact hrefused hkept.2
  | clientMessage sender sentAfter ev owned =>
    rw [QuietAfterDrop, Classical.not_imp, not_not] at hq
    obtain ⟨hdrops, hf, hfin⟩ := hq
    obtain ⟨hactive, target, htarget, hd⟩ := h.dropped hdrops
    rcases clientMessage_cases hinv.served sender sentAfter ev owned with
      ⟨accept, -, hm, -, -⟩ | ⟨accepted, -, hm, -, heq⟩ | ⟨hnot, -⟩
    · rw [hm] at hfin; cases hfin
    · rw [heq]
      exact finish_not_grammatical htarget hd
    · rw [(hnot hactive hf).2] at hfin; cases hfin

/-- **One step**: it stays grammatical exactly if it is quiet after a drop. -/
theorem staysGrammatical_iff (h : w.Talking) (hinv : w.Inv) {a : DragAction}
    (hstep : w.step a = some w') : w.StaysGrammatical a ↔ w.QuietAfterDrop a := by
  constructor
  · intro hstays
    by_contra hq
    exact h.not_staysGrammatical hinv hq hstep (hstays w' hstep)
  · intro hq
    refine (Run.forall_step_iff hstep).mpr ?_
    exact (h.step hinv hq hstep).grammatical (hinv.step hstep)

end Talking

/-- **The messages are words.** In every run from the start: after every step each target has been
sent a word `(Enter Position* (Leave | Drop))*`, complete in the sessions that are over, with nothing
after a drop, exactly if every step is quiet once the session has dropped and no new session starts
while the current one is visiting a target. -/
theorem messages_grammatical_iff (clipboardWindow : XWindow) (as : List DragAction) (w : DragState)
    (hrun : Run.run step (init clipboardWindow) as = some w) :
    Run.Along step StaysGrammatical (init clipboardWindow) as ↔
      Run.Along step QuietAfterDrop (init clipboardWindow) as := by
  refine Run.along_iff_of_step (I := fun w => w.Inv ∧ w.Talking) ?_ ?_
    ⟨Inv.init clipboardWindow, Or.inl visiting_nil, (fun _ hmem => nomatch hmem)⟩
    hrun
  · intro s a t ⟨hinv, h⟩ hstays hstep
    exact ⟨hinv.step hstep, h.step hinv ((staysGrammatical_iff h hinv hstep).mp hstays) hstep⟩
  · exact fun s a t ⟨hinv, h⟩ hstep => staysGrammatical_iff h hinv hstep

/-- A drag of plain text over window 7, which accepts, and is dropped on. -/
def droppedOnSeven : List DragAction :=
  [.startDrag (some ⟨[.textPlain], [104, 105]⟩) true true,
    .poll (.ready (.data [104, 105] true)) ⟨none, false, []⟩,
    .poll (.ready .eof) ⟨some (3, 4), false, [⟨7, some 5⟩]⟩,
    .motion false ⟨some (5, 4), false, [⟨7, some 5⟩]⟩,
    .clientMessage 7 1 ⟨1, true, some 7, .status true⟩ false, .buttonRelease true true]

/-- The `XdndFinished` of a drop is answered by an `XdndLeave`. -/
theorem finished_drop_is_left :
    ¬ ∀ (clipboardWindow : XWindow) (w : DragState),
      Run.Reachable step (init clipboardWindow) w → w.Grammatical := by
  intro h
  have hany : (Run.run step (init 1)
      (droppedOnSeven ++ [.clientMessage 7 1 ⟨1, true, some 7, .finished true⟩ true])).any (fun w =>
        decide (w.session = [(7, .enter 5 .utf8String), (7, .position 3 4), (7, .position 5 4),
          (7, .drop), (7, .leave)])) = true := by decide +kernel
  obtain ⟨w, hw, htrace⟩ := (Option.any_eq_true ..).mp hany
  have hlast := (h 1 w ⟨_, hw⟩).1.last
  rw [of_decide_eq_true htrace] at hlast
  exact absurd (hlast [(7, .enter 5 .utf8String), (7, .position 3 4), (7, .position 5 4)] 7
    [(7, .leave)] rfl) (by simp)

/-- Up to its drop the session is a word. -/
theorem messages_grammatical_dropped :
    Run.Along step StaysGrammatical (init 1) droppedOnSeven := by
  have hsome : (Run.run step (init 1) droppedOnSeven).isSome = true := by decide +kernel
  obtain ⟨w, hw⟩ := Option.isSome_iff_exists.mp hsome
  exact (messages_grammatical_iff 1 droppedOnSeven w hw).mpr (by decide +kernel)

end DragState

end Wlx
