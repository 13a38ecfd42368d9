import WlX11.RepaintRuns

/-!
# WlX11 — every window comes to show its scene

No frame that is needed is forgotten, by whatever way the need arises: damage, an `Expose`, a surface that
waits for its callback, a new size. So a window at rest shows the scene.

* **`Awake`** — while there is something to show, a frame is on its way; **`step_awake`** keeps it.
* **`composed_frame_whole`** — what is composed by redrawing the damage is the whole scene.
* **`finalWindow_shows_scene`** — what has been asked of the server is enough.
* **`frame_due`**, **`rest_shows_scene`** — there will be a frame, and after the last the window is right.
-/

namespace Wlx

namespace PaintedOutput

variable {Color : Type} {o o' : PaintedOutput Color} {nRects : Region → Nat} {b : Nat}

/-! ## There will be a frame -/

/-- The server tells when it has shown a frame that is pending; what has been lost is to be painted. -/
structure Coming (o : PaintedOutput Color) : Prop where
  complete : o.framePending = true → o.queue ≠ [] ∨ .presentComplete ∈ o.events
  exposedNeeds : o.exposed ≠ ∅ → o.needsFrame = true

/-- A frame is on its way, or has failed. -/
def Attended (o : PaintedOutput Color) : Prop :=
  o.idleFrame = true ∨ o.framePending = true ∨ o.stalled = true

/-- Between events. -/
structure Awake (o : PaintedOutput Color) : Prop extends Coming o where
  due : o.Attended ∨ o.needsFrame = false ∧ o.pendingCommitDamage = ∅
  known : o.lastOutput = o.size

/-- What a frame does to the flags. -/
structure Steered (o o' : PaintedOutput Color) : Prop where
  coming : o'.Coming
  due : o'.Attended ∨ o'.needsFrame = false ∧ o'.pendingCommitDamage = ∅
  lastOutput : o'.lastOutput = o.lastOutput

/-- The flags do not depend on the buffers. -/
theorem Coming.onlyBuffers (h : o.Coming) (honly : o.OnlyBuffers o') : o'.Coming := by
  rw [honly]
  exact ⟨h.complete, h.exposedNeeds⟩

/-- Nor does what is due. -/
theorem Awake.onlyBuffers (h : o.Awake) (honly : o.OnlyBuffers o') : o'.Awake := by
  rw [honly]
  exact ⟨⟨h.complete, h.exposedNeeds⟩, h.due, h.known⟩

/-- Something has been scheduled. -/
theorem attended_scheduleFrame (o : PaintedOutput Color) : o.scheduleFrame.Attended := by
  rw [scheduleFrame_eq]
  unfold Attended
  cases o.framePending <;> simp

/-- A frame that is scheduled comes: with the idle timer, or after the one that is pending. -/
theorem Coming.scheduleFrame (h : o.Coming) : o.scheduleFrame.Coming ∧ o.scheduleFrame.Attended := by
  refine ⟨?_, attended_scheduleFrame o⟩
  rw [scheduleFrame_eq]
  exact ⟨h.complete, fun _ => rfl⟩

/-- To schedule a frame is never wrong. -/
theorem Awake.scheduleFrame (h : o.Awake) : o.scheduleFrame.Awake := by
  obtain ⟨hcoming, hattended⟩ := h.toComing.scheduleFrame
  refine ⟨hcoming, .inl hattended, ?_⟩
  rw [scheduleFrame_eq]
  exact h.known

/-- Damage schedules a frame, if there is any. -/
theorem Coming.sceneOutputDamage (h : o.Coming) (damage : Region) :
    (o.sceneOutputDamage damage).Coming ∧
      ((o.sceneOutputDamage damage).Attended ∨ o.sceneOutputDamage damage = o) := by
  unfold PaintedOutput.sceneOutputDamage
  dsimp only
  split
  · exact ⟨h, .inr rfl⟩
  · obtain ⟨⟨hcomplete, hexposed⟩, hattended⟩ := h.scheduleFrame
    exact ⟨⟨hcomplete, hexposed⟩, .inl hattended⟩

/-- A change schedules the frame that is to show it; or it is not in the output. -/
theorem Awake.sceneChange (h : o.Awake) (region : Region) (image : Pixel → Color) :
    (o.sceneChange region image).Awake := by
  have hscene : Coming { o with scene := fun p => if p ∈ region then image p else o.scene p } :=
    ⟨h.complete, h.exposedNeeds⟩
  obtain ⟨hcoming, hattended⟩ := hscene.sceneOutputDamage region
  refine ⟨hcoming, ?_, ?_⟩
  -- damage outside of the output is clipped away
  · rcases hattended with hattended | hsame
    · exact .inl hattended
    · unfold PaintedOutput.sceneChange
      rw [hsame]
      exact h.due
  · have hframe := sceneOutputDamage_frame
      { o with scene := fun p => if p ∈ region then image p else o.scene p } region
    exact hframe.lastOutput.trans (h.known.trans hframe.size.symm)

/-- A frame that fails is noted, unless another one is on its way. -/
theorem attended_failed (o : PaintedOutput Color) : o.failed.Attended := by
  unfold failed Attended
  cases o.idleFrame <;> cases o.framePending <;> simp

/-- A commit that fails is noted, and one that succeeds is in the server's queue. -/
theorem Painted.commitFrame_steered [DecidableEq Color] (h : o.Painted) (hcoming : o.Coming) (out : FrameOutcome Color)
    (hpos : 0 < o.buffers.others b) : o.Steered (o.commitFrame b out) := by
  unfold PaintedOutput.commitFrame
  split
  · exact ⟨⟨hcoming.complete, hcoming.exposedNeeds⟩, .inl (attended_failed o), rfl⟩
  · have hidle : { o with idleFrame := false }.Painted := h.flags _ _ _ _ _ _ _
    dsimp only
    split
    · exact ⟨⟨hcoming.complete, hcoming.exposedNeeds⟩, .inl (attended_failed _), rfl⟩
    · split
      · exact ⟨⟨hcoming.complete, hcoming.exposedNeeds⟩, .inl (attended_failed _), rfl⟩
      · rename_i o' ho'
        obtain ⟨q, -, -, -, hq⟩ := hidle.outputCommitBuffer hpos ho'
        -- what was exposed is in the present as well, so nothing is left of it
        rw [hq.only]
        refine ⟨⟨fun _ => .inl ?_, fun hexposed => absurd rfl hexposed⟩, .inl (.inr (.inl rfl)), rfl⟩
        exact List.append_ne_nil_of_right_ne_nil _ (List.cons_ne_nil _ _)

variable (nRects) in
/-- A frame takes the damage away only with a commit. -/
theorem Painted.sceneOutputCommit_steered [DecidableEq Color] (h : o.Painted) (hcoming : o.Coming)
    (out : FrameOutcome Color) : o.Steered (o.sceneOutputCommit nRects out) := by
  unfold PaintedOutput.sceneOutputCommit
  split
  · rename_i hneeds
    -- no frame is needed, and nothing is damaged
    refine ⟨hcoming, .inr ?_, rfl⟩
    simpa [sceneOutputNeedsFrame] using hneeds
  · have hbuilt := buildState_built nRects h out
    split
    · rename_i o₁ heq
      rw [heq] at hbuilt
      obtain ⟨hcomplete, hexposed⟩ := hcoming.onlyBuffers hbuilt.only
      -- there is no buffer to draw into, or nothing has been drawn
      exact ⟨⟨hcomplete, hexposed⟩, .inl (attended_failed o₁), hbuilt.only.lastOutput_eq⟩
    · rename_i o₁ b heq
      rw [heq] at hbuilt
      have hpos : 0 < o₁.buffers.others b := by
        have hothers : o₁.buffers.others = Function.update o.buffers.others b (o.buffers.others b + 1) :=
          hbuilt.others
        rw [hothers, Function.update_self]
        exact Nat.succ_pos _
      obtain ⟨hcoming', hdue, hlast⟩ :=
        hbuilt.painted.commitFrame_steered (hcoming.onlyBuffers hbuilt.only) out hpos
      refine ⟨⟨hcoming'.complete, hcoming'.exposedNeeds⟩, hdue, hlast.trans hbuilt.only.lastOutput_eq⟩

variable (nRects) in
/-- Scaling first makes no difference. -/
theorem Painted.paint_steered [DecidableEq Color] (h : o.Painted) (hcoming : o.Coming)
    (f : FrameInput Color) : o.Steered (o.paint nRects f) := by
  have hscene : Coming { o with scene := fun p => if p ∈ f.rescaled then f.image p else o.scene p } :=
    ⟨hcoming.complete, hcoming.exposedNeeds⟩
  obtain ⟨hcoming', hdue, hlast⟩ := (h.sceneChange f.rescaled f.image).sceneOutputCommit_steered
    nRects (hscene.sceneOutputDamage f.rescaled).1 f.outcome
  exact ⟨hcoming', hdue, hlast.trans (sceneOutputDamage_frame _ _).lastOutput⟩

/-- After a frame all is as it was before it: something is due, or nothing is left to do. -/
theorem Painted.sendFrame_awake [DecidableEq Color] (h : o.Painted)
    (hneeds : o.exposed ≠ ∅ → o.needsFrame = true) (hknown : o.lastOutput = o.size) (f : FrameInput Color) :
    (o.sendFrame nRects f).Awake := by
  have hnext : { o with framePending := false }.Painted := h.flags _ _ _ _ _ _ _
  obtain ⟨hcoming, hdue, hlast⟩ := hnext.paint_steered nRects ⟨nofun, hneeds⟩ f
  have hsize := (hnext.paint nRects f).size
  refine ⟨⟨hcoming.complete, hcoming.exposedNeeds⟩, ?_, ?_⟩
  · exact hdue
  · exact hlast.trans (hknown.trans hsize.symm)

variable (nRects) in
/-- The listener knows the size afterwards, whether it paints or waits. -/
theorem Painted.outputCommitListener_steered [DecidableEq Color] (h : o.Painted) (hcoming : o.Coming)
    (f : FrameInput Color) :
    (o.outputCommitListener nRects f).Coming ∧
      (o.outputCommitListener nRects f).lastOutput = (o.outputCommitListener nRects f).size := by
  unfold PaintedOutput.outputCommitListener
  split
  · rename_i hsame
    exact ⟨hcoming, hsame.symm⟩
  · have hknown : { o with lastOutput := o.size }.Painted := h.flags _ _ _ _ _ _ _
    have hcoming' : Coming { o with lastOutput := o.size } := ⟨hcoming.complete, hcoming.exposedNeeds⟩
    -- a new size: painted at once, or a frame is scheduled
    dsimp only
    split
    · obtain ⟨hcoming'', -, hlast⟩ := hknown.paint_steered nRects hcoming' f
      exact ⟨hcoming'', hlast.trans (hknown.paint nRects f).size.symm⟩
    · refine ⟨hcoming'.scheduleFrame.1, ?_⟩
      rw [scheduleFrame_eq]

variable (nRects) in
/-- A new size is put into the queue, or there is none. -/
theorem Painted.commitMode_steered [DecidableEq Color] (h : o.Painted) (hcoming : o.Coming)
    (hknown : o.lastOutput = o.size) {size : Size} (hsize : size ≠ o.size)
    (blank : Color) (out : FrameOutcome Color) (f : FrameInput Color) :
    (o.commitMode nRects size blank out f).Coming ∧
      (o.commitMode nRects size blank out f).lastOutput = (o.commitMode nRects size blank out f).size := by
  rcases h.commitMode_cases nRects hsize blank out f with
    ⟨o₁, -, honly, heq | heq⟩ | ⟨o₂, b, h₂, -, hqueue, hexposed, -, heq⟩
  · rw [heq]
    exact ⟨hcoming.onlyBuffers honly, honly.lastOutput_eq.trans (hknown.trans honly.size_eq.symm)⟩
  · rw [heq]
    obtain ⟨hcomplete, hneeds⟩ := hcoming.onlyBuffers honly
    exact ⟨⟨hcomplete, hneeds⟩, honly.lastOutput_eq.trans (hknown.trans honly.size_eq.symm)⟩
  · rw [heq]
    -- the empty buffer is in the queue, and its event comes before that of the listener's frame
    obtain ⟨⟨hcomplete, hneeds⟩, hlast⟩ := h₂.outputCommitListener_steered nRects
      ⟨fun _ => .inl hqueue, fun hne => absurd hexposed hne⟩ f
    exact ⟨⟨hcomplete, hneeds⟩, hlast⟩

/-- Whoever asks for a size, a frame is scheduled at the end. -/
theorem Painted.resize_awake [DecidableEq Color] (h : o.Painted) (hawake : o.Awake) {size : Size}
    (hsize : size ≠ o.size) (byHost : Bool) (blank : Color) (out : FrameOutcome Color)
    (f : FrameInput Color) : (o.resize nRects byHost size blank out f).Awake := by
  obtain ⟨hcoming, hknown⟩ := h.commitMode_steered nRects hawake.toComing hawake.known hsize
    blank out f
  unfold PaintedOutput.resize
  -- the host's resize repaints, ours waits for the frame that is scheduled
  dsimp only
  split
  · obtain ⟨hcoming', hattended⟩ := hcoming.scheduleFrame
    refine ⟨hcoming', .inl hattended, ?_⟩
    rw [scheduleFrame_eq]
    exact hknown
  · have hcoming' : Coming { o.commitMode nRects size blank out f with
        lastOutput := (o.commitMode nRects size blank out f).size } :=
      ⟨hcoming.complete, hcoming.exposedNeeds⟩
    obtain ⟨hcoming'', hattended⟩ := hcoming'.scheduleFrame
    refine ⟨hcoming'', .inl hattended, ?_⟩
    rw [scheduleFrame_eq]

/-- What is neither a frame nor the size leaves the flags alone, but for what is told of the window. -/
theorem Awake.server (h : o.Awake) {buffers : PresentSession} {content : Nat → Pixel → Color}
    {window : Pixel → Color} {queue : List QueuedPresent} {events : List OutputEvent}
    (htold : o.queue ≠ [] ∨ .presentComplete ∈ o.events → queue ≠ [] ∨ .presentComplete ∈ events) :
    { o with
      buffers := buffers, content := content, window := window, queue := queue,
      events := events }.Awake :=
  ⟨⟨fun hpending => htold (h.complete hpending), h.exposedNeeds⟩, h.due, h.known⟩

/-- No event leaves work behind without a frame to do it. -/
theorem step_awake [DecidableEq Color] (h : o.Painted) (hawake : o.Awake) {blank : Color}
    {a : RepaintAction Color} (hstep : o.step nRects blank a = some o') : o'.Awake := by
  cases a with
  | change region image =>
    cases hstep
    exact hawake.sceneChange region image
  | requestCallback surface =>
    cases hstep
    have hcallback : Awake { o with callbacks := o.callbacks ++ [surface] } :=
      ⟨⟨hawake.complete, hawake.exposedNeeds⟩, hawake.due, hawake.known⟩
    dsimp only
    split
    · exact hcallback.scheduleFrame
    · exact hcallback
  | pace surfaces | dropCallback surface =>
    cases hstep
    exact ⟨⟨hawake.complete, hawake.exposedNeeds⟩, hawake.due, hawake.known⟩
  | schedule =>
    cases hstep
    exact hawake.scheduleFrame
  | idleTimer f =>
    simp only [PaintedOutput.step] at hstep
    split_ifs at hstep
    cases hstep
    have hidle : { o with idleFrame := false }.Painted := h.flags _ _ _ _ _ _ _
    unfold handleIdleTimer
    dsimp only
    split
    · rename_i hpending
      -- the timer finds a frame pending: its event makes the next one
      exact ⟨⟨hawake.complete, hawake.exposedNeeds⟩, .inl (.inr (.inl hpending)), hawake.known⟩
    · exact hidle.sendFrame_awake hawake.exposedNeeds hawake.known f
  | readEvent f =>
    simp only [PaintedOutput.step] at hstep
    split at hstep
    · cases hstep
    · rename_i hevents
      cases hstep
      rw [updateNeedsFrame_eq]
      refine ⟨⟨fun hpending => ?_, fun _ => rfl⟩, ?_, hawake.known⟩
      -- the expose event is not the one that is waited for
      · refine (hawake.complete hpending).imp_right fun hmem => ?_
        rw [hevents] at hmem
        rcases List.mem_cons.mp hmem with heq | hmem
        · cases heq
        · exact hmem
      -- `wlr_output_update_needs_frame` schedules a frame unless one is needed already
      · cases hneeds : o.needsFrame with
        | true =>
          refine hawake.due.imp id fun hquiet => ?_
          rw [hneeds] at hquiet
          cases hquiet.1
        | false =>
          left
          unfold Attended
          cases o.framePending <;> simp
    · rename_i hevents
      cases hstep
      exact (h.readComplete hevents).sendFrame_awake hawake.exposedNeeds hawake.known f
  | resize byHost size out f =>
    simp only [PaintedOutput.step] at hstep
    split_ifs at hstep with hguard
    cases hstep
    exact h.resize_awake hawake (fun heq => hguard (.inl heq)) byHost blank out f
  | client a =>
    simp only [PaintedOutput.step] at hstep
    split_ifs at hstep with ha
    obtain ⟨buffers, hbuffers, rfl⟩ := Option.map_eq_some_iff.mp hstep
    exact hawake.onlyBuffers rfl
  | draw b image =>
    simp only [PaintedOutput.step] at hstep
    split_ifs at hstep with hguard
    cases hstep
    exact hawake.onlyBuffers rfl
  | execute =>
    simp only [PaintedOutput.step] at hstep
    split at hstep
    · cases hstep
    · rename_i hqueue
      cases hstep
      -- the present that has been executed is followed by its event
      exact hawake.server fun _ => .inr (List.mem_append_right _ (List.mem_singleton_self _))
  | lose region image =>
    cases hstep
    exact hawake.server fun htold => htold.imp_right (List.mem_append_left _)
  | finish n =>
    simp only [PaintedOutput.step] at hstep
    split_ifs at hstep with hdone
    obtain ⟨buffers, hbuffers, rfl⟩ := Option.map_eq_some_iff.mp hstep
    exact hawake.onlyBuffers rfl
  | readIdle =>
    simp only [PaintedOutput.step] at hstep
    obtain ⟨buffers, hbuffers, rfl⟩ := Option.map_eq_some_iff.mp hstep
    exact hawake.onlyBuffers rfl

/-- The first modeset has been presented, and all of the output is damaged. -/
theorem awake_init (isOpaque : Bool) (size : Size) (blank : Color) (scene window : Pixel → Color) :
    (init isOpaque size blank scene window).Awake := by
  have hcoming : (turnedOn isOpaque size blank scene window).Coming :=
    ⟨fun _ => .inl (List.cons_ne_nil _ _), fun hexposed => absurd rfl hexposed⟩
  obtain ⟨hcoming', hdue⟩ := hcoming.sceneOutputDamage size.rect
  have hframe := sceneOutputDamage_frame (turnedOn isOpaque size blank scene window) size.rect
  refine ⟨hcoming', .inl ?_, hframe.lastOutput.trans hframe.size.symm⟩
  rcases hdue with hattended | hsame
  · exact hattended
  · exact .inr (.inl (congrArg framePending hsame))

/-! ## Surfaces that wait -/

instance (o : PaintedOutput Color) : Decidable o.Attended := inferInstanceAs (Decidable (_ ∨ _ ∨ _))

/-- No surface waits that a frame would serve, or a frame is on its way. -/
def Heeded (o : PaintedOutput Color) : Prop := o.Attended ∨ ∀ x ∈ o.callbacks, o.serves x = false

/-- A surface that waits comes to be served only while a frame is on its way. Mostly that is so: what uncovers
the surface damages the output. But an opaque region that shrinks damages nothing, and neither does another
window that paces the surface no more. -/
def Announced (o : PaintedOutput Color) : RepaintAction Color → Prop
  | .pace surfaces => ∀ x ∈ o.callbacks, o.serves x = false →
      { o with surfaces := surfaces }.serves x = true → o.Attended
  | _ => True

instance (o : PaintedOutput Color) (a : RepaintAction Color) : Decidable (o.Announced a) := by
  cases a
  case pace surfaces => exact inferInstanceAs (Decidable (∀ x ∈ o.callbacks, _ → _ → o.Attended))
  all_goals exact isTrue trivial

/-- The frame serves all that it can. -/
theorem heeded_sendFrame [DecidableEq Color] (o : PaintedOutput Color) (f : FrameInput Color) :
    (o.sendFrame nRects f).Heeded := by
  refine .inr fun x hx => ?_
  have hkept : (!(o.sendFrame nRects f).serves x) = true := (List.mem_filter.mp hx).2
  exact Bool.not_eq_eq_eq_not.mp hkept

/-- What changes neither the flags nor the surfaces. -/
theorem Heeded.congr (h : o.Heeded) (hattended : o.Attended → o'.Attended) (hsurfaces : o'.surfaces = o.surfaces)
    (hcallbacks : o'.callbacks ⊆ o.callbacks) : o'.Heeded := by
  refine h.imp hattended fun hserves x hx => ?_
  unfold serves
  rw [hsurfaces]
  exact hserves x (hcallbacks hx)

/-- No event leaves a surface waiting that a frame would serve, as long as it is announced. -/
theorem step_heeded [DecidableEq Color] (hawake : o.Awake) (h : o.Heeded) {blank : Color}
    {a : RepaintAction Color} (ha : o.Announced a) (hstep : o.step nRects blank a = some o') : o'.Heeded := by
  cases a with
  | change region image =>
    cases hstep
    have hscene : Coming { o with scene := fun p => if p ∈ region then image p else o.scene p } :=
      ⟨hawake.complete, hawake.exposedNeeds⟩
    -- a change that damages nothing leaves who waits
    rcases (hscene.sceneOutputDamage region).2 with hattended | hsame
    · exact .inl hattended
    · unfold PaintedOutput.sceneChange
      rw [hsame]
      exact h
  | requestCallback surface =>
    cases hstep
    dsimp only
    split
    · exact .inl (attended_scheduleFrame _)
    · -- no frame of this output would serve it
      rename_i hpaced
      refine h.imp id fun hserves x hx => ?_
      rcases List.mem_append.mp hx with hx | hx
      · exact hserves x hx
      · rw [List.mem_singleton.mp hx]
        unfold serves
        rw [Bool.eq_false_iff.mpr hpaced, Bool.false_and]
  | pace surfaces =>
    cases hstep
    -- surfaces come to be served: the frame that is announced serves them
    by_cases hattended : o.Attended
    · exact .inl hattended
    · refine .inr fun x hx => Bool.eq_false_iff.mpr fun hserves => ?_
      exact hattended (ha x hx (h.resolve_left hattended x hx) hserves)
  | dropCallback surface =>
    cases hstep
    exact h.congr id rfl (List.filter_subset_self _)
  | schedule =>
    cases hstep
    exact .inl (attended_scheduleFrame o)
  | idleTimer f =>
    simp only [PaintedOutput.step] at hstep
    split_ifs at hstep
    cases hstep
    unfold handleIdleTimer
    dsimp only
    split
    · rename_i hpending
      exact .inl (.inr (.inl hpending))
    · exact heeded_sendFrame _ f
  | readEvent f =>
    simp only [PaintedOutput.step] at hstep
    split at hstep
    · cases hstep
    · cases hstep
      rw [updateNeedsFrame_eq]
      refine h.congr ?_ rfl (List.Subset.refl _)
      unfold Attended
      dsimp only
      -- an expose event takes no frame away
      rintro (hidle | hpending | hstalled)
      · exact .inl (by rw [hidle]; split <;> rfl)
      · exact .inr (.inl hpending)
      · cases hneeds : o.needsFrame with
        | true => exact .inr (.inr hstalled)
        | false => cases o.framePending <;> simp
    · cases hstep
      exact heeded_sendFrame _ f
  | resize byHost size out f =>
    simp only [PaintedOutput.step] at hstep
    split_ifs at hstep
    cases hstep
    exact .inl (attended_scheduleFrame _)
  | client a =>
    simp only [PaintedOutput.step] at hstep
    split_ifs at hstep
    obtain ⟨buffers, hbuffers, rfl⟩ := Option.map_eq_some_iff.mp hstep
    exact h
  | draw b image =>
    simp only [PaintedOutput.step] at hstep
    split_ifs at hstep
    cases hstep
    exact h
  | execute =>
    simp only [PaintedOutput.step] at hstep
    split at hstep
    · cases hstep
    · cases hstep
      exact h
  | lose region image =>
    cases hstep
    exact h
  | finish n =>
    simp only [PaintedOutput.step] at hstep
    split_ifs at hstep
    obtain ⟨buffers, hbuffers, rfl⟩ := Option.map_eq_some_iff.mp hstep
    exact h
  | readIdle =>
    simp only [PaintedOutput.step] at hstep
    obtain ⟨buffers, hbuffers, rfl⟩ := Option.map_eq_some_iff.mp hstep
    exact h

/-! ## What is scanned out -/

section Astray

variable [DecidableEq Color]

/-- A buffer that is like the scene leaves nothing astray. -/
theorem commitFrame_astray (out : FrameOutcome Color) (hshows : o.ShowsScene b) :
    (o.commitFrame b out).astray ⊆ o.astray := by
  unfold PaintedOutput.commitFrame
  split
  · exact Finset.Subset.refl _
  · dsimp only
    split
    · exact Finset.Subset.refl _
    · split
      · exact Finset.Subset.refl _
      -- the present makes right all that it covers
      · intro p hp
        have hin := mem_astrayAfter.mp hp
        split_ifs at hin with hpresented
        · exact absurd (hshows p (mem_presented.mp hpresented).2) hin
        · exact hin

variable (nRects) in
/-- What is composed is the scene. -/
theorem Painted.sceneOutputCommit_astray (h : o.Painted) {out : FrameOutcome Color} (hscanout : out.scanout = none) :
    (o.sceneOutputCommit nRects out).astray ⊆ o.astray := by
  -- without a scan-out the frame is composed
  have hcompose : o.buildState nRects out = o.compose nRects out := by
    unfold buildState
    rw [hscanout]
  have hbuilt := compose_built nRects h out
  unfold PaintedOutput.sceneOutputCommit
  split
  · exact Finset.Subset.refl _
  · rw [hcompose]
    split
    · rename_i o₁ heq
      rw [heq] at hbuilt
      exact hbuilt.only.astray_eq.subset
    · rename_i o₁ b heq
      rw [heq] at hbuilt
      exact (commitFrame_astray out (hbuilt.shows b rfl)).trans hbuilt.only.astray_eq.subset

variable (nRects) in
/-- Nor does a whole frame without a scan-out. -/
theorem Painted.paint_astray (h : o.Painted) {f : FrameInput Color} (hscanout : f.outcome.scanout = none) :
    (o.paint nRects f).astray ⊆ o.astray := by
  refine ((h.sceneChange f.rescaled f.image).sceneOutputCommit_astray nRects hscanout).trans ?_
  exact (sceneOutputDamage_frame _ _).astray.subset

/-- Nor does an event that draws one. -/
theorem Painted.sendFrame_astray (h : o.Painted) {f : FrameInput Color} (hscanout : f.outcome.scanout = none) :
    (o.sendFrame nRects f).astray ⊆ o.astray := by
  have hpending : { o with framePending := false }.Painted := h.flags _ _ _ _ _ _ _
  exact hpending.paint_astray nRects hscanout

variable (nRects) in
/-- The empty buffer of a new size is damaged, not astray, and the listener may paint. -/
theorem Painted.commitMode_astray (h : o.Painted) {size : Size} (hsize : size ≠ o.size) (blank : Color)
    (out : FrameOutcome Color) {f : FrameInput Color} (hscanout : f.outcome.scanout = none) :
    (o.commitMode nRects size blank out f).astray ⊆ o.astray := by
  rcases h.commitMode_cases nRects hsize blank out f with
    ⟨o₁, -, honly, heq | heq⟩ | ⟨o₂, b, h₂, -, -, -, hastray, heq⟩
  · exact heq ▸ honly.astray_eq.subset
  · exact heq ▸ honly.astray_eq.subset
  -- what is presented of the empty buffer is damaged until the next frame
  · rw [heq]
    show (o₂.outputCommitListener nRects f).astray ⊆ o.astray
    unfold PaintedOutput.outputCommitListener
    split
    · exact hastray.subset
    · have hknown : { o₂ with lastOutput := o₂.size }.Painted := h₂.flags _ _ _ _ _ _ _
      dsimp only
      split
      · exact (hknown.paint_astray nRects hscanout).trans hastray.subset
      · rw [scheduleFrame_eq]
        exact hastray.subset

/-- Only a buffer that is scanned out is ever presented unlike the scene. -/
theorem step_astray (h : o.Painted) {blank : Color} {a : RepaintAction Color}
    (hscanout : ∀ f ∈ a.frame, f.outcome.scanout = none) (hstep : o.step nRects blank a = some o') :
    o'.astray ⊆ o.astray := by
  -- what presents is the frame; the other events leave the buffers' contents
  cases a with
  | change region image =>
    cases hstep
    exact (sceneOutputDamage_frame _ _).astray.subset
  | requestCallback surface =>
    cases hstep
    dsimp only
    split
    · rw [scheduleFrame_eq]
    · exact Finset.Subset.refl _
  | schedule =>
    cases hstep
    rw [scheduleFrame_eq]
  | idleTimer f =>
    simp only [PaintedOutput.step] at hstep
    split_ifs at hstep
    cases hstep
    have hidle : { o with idleFrame := false }.Painted := h.flags _ _ _ _ _ _ _
    unfold handleIdleTimer
    dsimp only
    split
    · exact Finset.Subset.refl _
    · exact hidle.sendFrame_astray (hscanout f rfl)
  | readEvent f =>
    simp only [PaintedOutput.step] at hstep
    split at hstep
    · cases hstep
    · cases hstep
      rw [updateNeedsFrame_eq]
    · rename_i hevents
      cases hstep
      exact (h.readComplete hevents).sendFrame_astray (hscanout f rfl)
  | resize byHost size out f =>
    simp only [PaintedOutput.step] at hstep
    split_ifs at hstep with hguard
    cases hstep
    have hmode := h.commitMode_astray nRects (fun heq => hguard (.inl heq)) blank out (hscanout f rfl)
    unfold PaintedOutput.resize
    rw [scheduleFrame_eq]
    dsimp only
    split
    · exact hmode
    · exact hmode
  | client a | draw b image | finish n =>
    simp only [PaintedOutput.step] at hstep
    split_ifs at hstep
    first
      | cases hstep; exact Finset.Subset.refl _
      | obtain ⟨buffers, -, rfl⟩ := Option.map_eq_some_iff.mp hstep
        exact Finset.Subset.refl _
  | execute =>
    simp only [PaintedOutput.step] at hstep
    split at hstep
    · cases hstep
    · cases hstep
      exact Finset.Subset.refl _
  | pace surfaces | dropCallback surface | lose region image =>
    cases hstep
    exact Finset.Subset.refl _
  | readIdle =>
    obtain ⟨buffers, -, rfl⟩ := Option.map_eq_some_iff.mp hstep
    exact Finset.Subset.refl _

end Astray

/-! ## Results -/

section Results

variable [DecidableEq Color] {blank : Color} {isOpaque : Bool} {size : Size} {scene window : Pixel → Color}
  {as : List (RepaintAction Color)}

/-- Both invariants hold in every state. -/
theorem painted_of_reachable (h : Run.Reachable (step nRects blank) (init isOpaque size blank scene window) o) :
    o.Painted ∧ o.Awake := by
  obtain ⟨as, has⟩ := h
  refine Run.run_invariant (I := fun o => o.Painted ∧ o.Awake) ?_ ⟨painted_init .., awake_init ..⟩ has
  exact fun o a o' h hstep => ⟨step_painted h.1 hstep, step_awake h.1 h.2 hstep⟩

/-- No surface waits for nothing in a run that announces what it uncovers. -/
theorem heeded_of_run (hrun : Run.run (step nRects blank) (init isOpaque size blank scene window) as = some o)
    (hannounced : Run.Along (step nRects blank) Announced (init isOpaque size blank scene window) as) :
    o.Heeded := by
  -- along the run a surface that waits is either served or has a frame coming
  refine (Run.run_invariant_of_along (I := fun o : PaintedOutput Color => (o.Painted ∧ o.Awake) ∧ o.Heeded) ?_
    ⟨⟨painted_init .., awake_init ..⟩, .inr ?_⟩ hannounced hrun).2
  · exact fun o a o' h ha hstep =>
      ⟨⟨step_painted h.1.1 hstep, step_awake h.1.1 h.1.2 hstep⟩, step_heeded h.1.2 h.2 ha hstep⟩
  · -- nothing waits yet
    intro x hx
    have hnone : (init isOpaque size blank scene window).callbacks = [] := by
      unfold init sceneOutputDamageWhole sceneOutputDamage
      dsimp only
      split
      · rfl
      · rw [scheduleFrame_eq]
        rfl
    rw [hnone] at hx
    cases hx

/-- With direct scan-out disabled, or where no frame finds a buffer to scan out, nothing is shown unlike the
scene. -/
theorem astray_eq_empty (hrun : Run.run (step nRects blank) (init isOpaque size blank scene window) as = some o)
    (hscanout : ∀ a ∈ as, ∀ f ∈ a.frame, f.outcome.scanout = none) : o.astray = ∅ := by
  have hinit : (init isOpaque size blank scene window).astray = ∅ := (sceneOutputDamage_frame _ _).astray
  have halong : Run.Along (step nRects blank) (fun _ a => ∀ f ∈ a.frame, f.outcome.scanout = none)
      (init isOpaque size blank scene window) as := Run.along_of_mem hscanout
  refine Finset.subset_empty.mp (Run.run_invariant_of_along
    (I := fun o : PaintedOutput Color => o.Painted ∧ o.astray ⊆ ∅) ?_
    ⟨painted_init .., hinit.subset⟩ halong hrun).2
  exact fun o a o' h ha hstep => ⟨step_painted h.1 hstep, (step_astray h.1 ha hstep).trans h.2⟩

omit [DecidableEq Color] in
/-- Work there is does not stay undone. -/
theorem Awake.attended_of_work (h : o.Awake)
    (hwork : o.needsFrame = true ∨ o.pendingCommitDamage ≠ ∅ ∨ o.exposed ≠ ∅ ∨
      o.Heeded ∧ ∃ x ∈ o.callbacks, o.serves x = true) :
    o.idleFrame = true ∨ o.stalled = true ∨
      o.framePending = true ∧ (o.queue ≠ [] ∨ .presentComplete ∈ o.events) := by
  have hattended : o.Attended := by
    rcases h.due with hattended | ⟨hneeds, hdamage⟩
    · exact hattended
    -- nothing is due, so each kind of work is a contradiction
    · rcases hwork with hwork | hwork | hwork | ⟨hheeded, x, hx, hserves⟩
      · rw [hneeds] at hwork
        cases hwork
      · exact absurd hdamage hwork
      · rw [h.exposedNeeds hwork] at hneeds
        cases hneeds
      · refine hheeded.resolve_right fun hnone => ?_
        rw [hnone x hx] at hserves
        cases hserves
  rcases hattended with hidle | hpending | hstalled
  · exact .inl hidle
  · exact .inr (.inr ⟨hpending, h.complete hpending⟩)
  · exact .inr (.inl hstalled)

/-- No frame is scheduled, nothing is queued at the server or unread, and the last frame has not failed. -/
structure AtRest (o : PaintedOutput Color) : Prop where
  idle : o.idleFrame = false
  queue : o.queue = []
  events : o.events = []
  sound : o.stalled = false

omit [DecidableEq Color] in
/-- An output at rest has nothing to do. -/
theorem AtRest.no_work (hrest : o.AtRest) (h : o.Awake) :
    ¬ (o.needsFrame = true ∨ o.pendingCommitDamage ≠ ∅ ∨ o.exposed ≠ ∅ ∨
      o.Heeded ∧ ∃ x ∈ o.callbacks, o.serves x = true) := by
  intro hwork
  rcases h.attended_of_work hwork with hsome | hsome | ⟨-, hsome | hsome⟩
  · rw [hrest.idle] at hsome
    cases hsome
  · rw [hrest.sound] at hsome
    cases hsome
  · exact hsome hrest.queue
  · rw [hrest.events] at hsome
    cases hsome

omit [DecidableEq Color] in
/-- With nothing to wait for there is no work left, and the window shows what has been presented. -/
theorem AtRest.shown (hrest : o.AtRest) (h : o.Awake) (hpainted : o.Painted) :
    ∀ p ∈ o.size.rect, p ∉ o.astray → o.window p = o.scene p := by
  have hnone := hrest.no_work h
  simp only [not_or, not_not] at hnone
  obtain ⟨-, hpending, hexposed, -⟩ := hnone
  intro p hp hastray
  have hlost : ¬ o.Lost p := by
    rintro ⟨region, hregion, -⟩
    rw [hrest.events] at hregion
    cases hregion
  have hfinal := hpainted.shown p hp (by rw [hpending]; exact Finset.notMem_empty p)
    (by rw [hexposed]; exact Finset.notMem_empty p) hlost hastray
  rw [← hfinal, finalWindow, hrest.queue]
  rfl

/-- **The partial redraw is the whole one.** What is composed, by drawing over an old buffer where it is
damaged, shows the scene on every pixel of the output. -/
theorem composed_frame_whole
    (h : Run.Reachable (step nRects blank) (init isOpaque size blank scene window) o)
    {out : FrameOutcome Color} (hcompose : o.compose nRects out = (o', some b)) :
    ∀ p ∈ o.size.rect, o'.content b p = o.scene p := by
  have hbuilt := compose_built nRects (painted_of_reachable h).1 out
  rw [hcompose] at hbuilt
  have hshows := hbuilt.shows b rfl
  unfold ShowsScene at hshows
  rw [hbuilt.only] at hshows
  exact hshows

/-- **No frame is forgotten.** Where there is something to paint, or a surface waits that the output serves, a
frame is scheduled, or the server has one and tells when it is shown, or the last has failed. -/
theorem frame_due (hrun : Run.run (step nRects blank) (init isOpaque size blank scene window) as = some o)
    (hwork : o.needsFrame = true ∨ o.pendingCommitDamage ≠ ∅ ∨ o.exposed ≠ ∅ ∨
      Run.Along (step nRects blank) Announced (init isOpaque size blank scene window) as ∧
        ∃ x ∈ o.callbacks, o.serves x = true) :
    o.idleFrame = true ∨ o.stalled = true ∨
      o.framePending = true ∧ (o.queue ≠ [] ∨ .presentComplete ∈ o.events) := by
  refine (painted_of_reachable ⟨as, hrun⟩).2.attended_of_work ?_
  exact hwork.imp id (Or.imp id (Or.imp id fun hwaits => ⟨heeded_of_run hrun hwaits.1, hwaits.2⟩))

end Results

/-- Every call succeeds. -/
def goodFrame : FrameInput Bool :=
  ⟨∅, fun _ => true, ⟨none, true, true, true, true, fun _ => false, true, true, true⟩⟩

/-- A window of two pixels, one of which is not what it should be. -/
def smallOutput : PaintedOutput Bool := init true ⟨2, 1⟩ false (fun p => p.1 = 1) fun _ => false

/-- The server shows what it has, and tells so. -/
def shown : List (RepaintAction Bool) := [.execute, .readEvent goodFrame]

/-- What comes of a run. -/
def smallRun (as : List (RepaintAction Bool)) : PaintedOutput Bool :=
  (Run.run (step (fun _ => 0) false) smallOutput as).getD smallOutput

/-- Where no action of a run is refused, this is what comes of it. -/
theorem run_smallRun (as : List (RepaintAction Bool))
    (h : (Run.run (step (fun _ => 0) false) smallOutput as).isSome = true) :
    Run.run (step (fun _ => 0) false) smallOutput as = some (smallRun as) :=
  (Option.getD_of_ne_none (Option.isSome_iff_ne_none.mp h) _).symm

/-- The first frame has been shown, the server is done with its buffer, and the other pixel changes. -/
def changed : List (RepaintAction Bool) :=
  shown ++ shown ++ [.finish 0, .finish 0, .readIdle, .readIdle, .change {(0, 0)} fun _ => true]

/-- The second frame only draws the pixel that has changed, into the buffer of the first. -/
theorem changed_composed :
    ((smallRun changed).compose (fun _ => 0) goodFrame.outcome).1.content 1 (1, 0) =
      (smallRun changed).scene (1, 0) :=
  composed_frame_whole ⟨changed, run_smallRun _ (by decide +kernel)⟩
    (show (smallRun changed).compose (fun _ => 0) goodFrame.outcome = (_, some 1) from
      Prod.ext rfl (by decide +kernel)) (1, 0) (by decide +kernel)

/-- Surface 5 is seen in the window, and 6 is not; both ask for a callback. -/
def asked : List (RepaintAction Bool) :=
  shown ++ [.pace fun x => ⟨x = 5, true⟩, .requestCallback 6, .requestCallback 5]

/-- The surface that is seen is going to be served. -/
theorem asked_due :
    (smallRun asked).idleFrame = true ∨ (smallRun asked).stalled = true ∨
      (smallRun asked).framePending = true ∧
        ((smallRun asked).queue ≠ [] ∨ .presentComplete ∈ (smallRun asked).events) :=
  frame_due (run_smallRun asked (by decide +kernel))
    (.inr (.inr (.inr ⟨by decide +kernel, 5, by decide +kernel, by decide +kernel⟩)))

/-- A client's buffer of the window's size, black but for its first pixel, is the only thing to see, with this
pixel to the left of the window. -/
def scannedOut : List (RepaintAction Bool) :=
  shown ++ shown ++ [.client (.create ⟨2, 1⟩), .draw 2 fun p => p.1 = 0, .client (.lock 2),
    .change {(0, 0), (1, 0)} fun _ => false,
    .idleTimer { goodFrame with outcome := { goodFrame.outcome with scanout := some 2 } }]

/-- It is shown at the corner of the window all the same. -/
example : (smallRun scannedOut).astray = {(0, 0)} ∧ (smallRun scannedOut).finalWindow (0, 0) = true ∧
    (smallRun scannedOut).scene (0, 0) = false := by
  decide +kernel

end PaintedOutput

end Wlx
