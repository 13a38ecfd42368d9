import WlX11.HostTracking

/-!
# WlX11 — the record of the output's mode

`output_commit` compares the output's mode with `last_output_w/h` and does nothing when they agree.
The record is kept by the listener itself, by `resize_output_to` and by the creation of the output;
it is exact in every state of every session, across unmaps too.
-/

namespace Wlx

open X11Output (CommitOutcome)
open Window (MapEnv NetWmAtom NetWmState hostResize)

/-- `last_output_w/h` is the mode of the output, and a mode is never empty. -/
def ModeRecorded (win : Window) : Prop :=
  ∀ out, win.output = some out → win.lastOutputSize = out.size ∧ out.size.isSet = true

namespace ModeRecorded

variable {cfg : Config} {win win' : Window}

theorem of_none (h : win.output = none) : ModeRecorded win := by
  intro out ho
  rw [h] at ho
  cases ho

/-- Only the mode and its record count. -/
theorem congr (h : ModeRecorded win) (hm : win'.lastOutputSize = win.lastOutputSize)
    (ho : win'.outputSize = win.outputSize) : ModeRecorded win' := by
  intro out' hout'
  have hsize : win.outputSize = some out'.size := by rw [← ho, Window.outputSize, hout']; rfl
  obtain ⟨out, hout, heq⟩ := Option.map_eq_some_iff.mp hsize
  obtain ⟨hrec, hset⟩ := h out hout
  exact ⟨by rw [hm, hrec, heq], heq ▸ hset⟩

theorem fillHost [CInt] (h : ModeRecorded win) (now : Int) :
    ModeRecorded (Window.wlxToplevelFillHost cfg now win) := by
  rcases Window.wlxToplevelFillHost_cases cfg now win with heq | ⟨msec, heq⟩ <;> rw [heq]
  · exact h
  · exact h.congr rfl rfl

/-- A successful mode commit is recorded by the listener; a failed one leaves the mode. -/
theorem commitOutput [CInt] (h : ModeRecorded win) (now : Int) {size : Size} (hset : size.isSet = true)
    (outcome : CommitOutcome) : ModeRecorded (Window.commitOutput cfg now size outcome win) := by
  cases ho : win.output with
  | none => exact of_none (by rw [Window.commitOutput_output, ho]; rfl)
  | some out =>
    unfold Window.commitOutput
    rw [ho]
    dsimp only
    by_cases hok : outcome = .ok
    · subst hok
      have hsize := X11Output.commitState_ok_size out size
      rw [if_pos (X11Output.commitState_snd.mpr rfl)]
      unfold Window.outputCommit
      dsimp only
      have hpos := Size.isSet_iff.mp hset
      rw [if_neg (by rw [hsize]; omega)]
      -- nothing to fill if the client has that size
      split
      · next hsame =>
        intro out' hout'
        cases hout'
        exact ⟨hsame.symm, by rw [hsize]; exact hset⟩
      · apply fillHost
        intro out' hout'
        cases hout'
        exact ⟨rfl, by rw [hsize]; exact hset⟩
    · rw [if_neg (fun hc => hok (X11Output.commitState_snd.mp hc))]
      refine h.congr rfl ?_
      show some (out.commitState size outcome).1.size = win.outputSize
      rw [X11Output.commitState_size_of_ne_ok out size hok, Window.outputSize, ho]
      rfl

theorem resizeOutputTo [CInt] (h : ModeRecorded win) (now : Int) (size : Size) (outcome : CommitOutcome) :
    ModeRecorded (Window.resizeOutputTo cfg now size outcome win) := by
  unfold Window.resizeOutputTo
  split
  · exact h
  split
  · exact h
  · next out ho hmin =>
    split
    · exact h
    -- from the smallest output on the size is a mode
    · have hset : size.isSet = true := by
        simp only [minOutputSize] at hmin
        rw [Size.isSet_iff]
        omega
      have hkept : ModeRecorded (Window.commitOutput cfg now size outcome win) :=
        h.commitOutput now hset outcome
      intro out' hout'
      have hout'' : (Window.commitOutput cfg now size outcome win).output = some out' := hout'
      refine ⟨?_, (hkept out' hout'').2⟩
      dsimp only
      rw [hout'']

/-- A fit records the mode it commits, and what is recorded besides is no part of the mode. -/
theorem fitWindow [CInt] (h : ModeRecorded win) (now : Int) (outcome : CommitOutcome) :
    ModeRecorded (Window.fitWindow cfg now outcome win) := by
  unfold Window.fitWindow
  split
  · exact h
  · next out ho =>
    have hreleased : ModeRecorded (Window.releaseHostSize cfg win out) := h.congr rfl rfl
    dsimp only
    -- only a fit commits a mode
    cases Window.fitDecision cfg now (Window.releaseHostSize cfg win out) out with
    | fit host conf =>
      have hnoted : ModeRecorded { Window.releaseHostSize cfg win out with
          fitPrev := win.fitLast, fitLast := host, fitLastMsec := now } := h
      have hresized : ModeRecorded (Window.resizeOutputTo cfg now host outcome _) :=
        hnoted.resizeOutputTo now host outcome
      show ModeRecorded (Window.fitHost cfg now outcome host conf _)
      unfold Window.fitHost
      dsimp only
      split
      · exact hresized.congr rfl rfl
      · exact hresized
    | oscillation => exact hreleased
    | hold => exact hreleased.fillHost now
    | idle => exact hreleased

theorem surfaceCommit [CInt] (h : ModeRecorded win) (now : Int) (outcome : CommitOutcome) :
    ModeRecorded (Window.surfaceCommit cfg now outcome win) := by
  have hprep : ModeRecorded (Window.prepareCommit cfg win) :=
    h.congr (Window.prepareCommit_lastOutputSize cfg win)
      (by rw [Window.outputSize, Window.outputSize, (Window.prepareCommit_prepared cfg win).output])
  exact hprep.fitWindow now outcome

theorem setActiveWindow (h : ModeRecorded win) : ModeRecorded win.setActiveWindow := by
  unfold Window.setActiveWindow
  split
  · exact h
  · exact h.congr rfl rfl

/-- The mode a map commits is recorded with it, be it the placeholder. -/
theorem mapOnBuffer [CInt] (h : ModeRecorded win) (env : MapEnv) :
    ModeRecorded (win.mapOnBuffer cfg env) := by
  unfold Window.mapOnBuffer Window.xdgToplevelMap
  split
  · dsimp only
    split
    · exact h.congr rfl rfl
    · have hcreated : ModeRecorded (Window.createOutputForWindow cfg env
          { win with xdg := { win.xdg with mapped := true } }) := by
        unfold Window.createOutputForWindow
        split
        · intro out hout
          cases hout
          exact ⟨rfl, Window.createdSize_isSet cfg env _⟩
        · exact h.congr rfl rfl
      split
      · exact hcreated.setActiveWindow
      · exact hcreated
  · exact h

theorem wlSurfaceCommit [CInt] (h : ModeRecorded win) (hinv : Inv win) (now : Int) (env : MapEnv)
    (outcome : CommitOutcome) (c : SurfaceCommit) :
    ModeRecorded (Window.wlSurfaceCommit cfg now env outcome c win) := by
  apply surfaceCommit
  cases hu : win.xdg.unmapCommit c with
  | true =>
    rw [Window.applyCommit_of_unmap cfg env hinv hu]
    exact of_none rfl
  | false =>
    rw [Window.applyCommit_of_not_unmap cfg env hu]
    have hrole : ModeRecorded (win.roleCommitted c) := h.congr rfl rfl
    exact hrole.mapOnBuffer env

/-- What the window manager changes is mirrored to the client; the fill that may follow keeps the record. -/
theorem winHandleNetWmStateNotify [CInt] (h : ModeRecorded win) (now : Int)
    (replies : List (Option (List NetWmAtom))) :
    ModeRecorded (Window.winHandleNetWmStateNotify cfg now replies win) := by
  have hsize (on : Bool) (w : Window) (hw : ModeRecorded w) :
      ModeRecorded (Window.mirrorSize on w) := by
    cases on <;> exact hw.congr rfl rfl
  -- what is mirrored is scheduled and touches no output
  have hmirror (host : NetWmState) :
      ModeRecorded ((Window.mirrorMaximized host.maximized win).mirrorFullscreen host.fullscreen) := by
    have hmax : ModeRecorded (Window.mirrorMaximized host.maximized win) := by
      unfold Window.mirrorMaximized
      split
      · exact h
      · exact (hsize host.maximized win h).congr rfl rfl
    unfold Window.mirrorFullscreen
    split
    · exact hmax
    · exact (hsize host.fullscreen _ hmax).congr rfl rfl
  unfold Window.winHandleNetWmStateNotify
  split
  · split
    · exact h
    · next host _ =>
      dsimp only
      split
      · exact (hmirror host).fillHost now
      · exact hmirror host
  · exact h

theorem configureNotify [CInt] (h : ModeRecorded win) (now : Int)
    (replies : List (Option (List NetWmAtom))) (outcome : CommitOutcome) (ev : ConfigureNotify) :
    ModeRecorded (Window.configureNotify cfg now replies outcome ev win) := by
  -- the filter itself changes no size
  have hfilter (b : Bool) : ModeRecorded { win with
      output := win.output.map fun out => (out.handleX11ConfigureNotify ev).1
      sizeFromWm := b } := by
    refine h.congr rfl ?_
    simp only [Window.outputSize, Option.map_map]
    exact Option.map_congr fun out _ => X11Output.handleX11ConfigureNotify_size out ev
  -- an echo ends there, the host's own size is committed
  cases hreq : hostResize win ev with
  | none =>
    rw [Window.configureNotify_of_none cfg now replies outcome hreq]
    exact hfilter win.sizeFromWm
  | some req =>
    rw [Window.configureNotify_of_some cfg now replies outcome hreq]
    refine ((hfilter true).winHandleNetWmStateNotify now replies).commitOutput now ?_ outcome
    cases ho : win.output with
    | none => simp [hostResize, ho] at hreq
    | some out =>
      simp only [hostResize, ho, Option.bind_some, Option.filter_eq_some_iff,
        Bool.and_eq_true, decide_eq_true_eq] at hreq
      exact Size.isSet_iff.mpr hreq.2.1

/-- **Every step keeps the record exact.** -/
theorem step [CInt] (h : ModeRecorded win) (hinv : Inv win) {a : Action}
    (hstep : Wlx.step cfg win a = some win') : ModeRecorded win' := by
  obtain ⟨-, -, rfl⟩ := step_eq_some.mp hstep
  cases a with
  | commit c now env outcome => exact h.wlSurfaceCommit hinv now env outcome c
  | configureNotify ev replies now outcome => exact h.configureNotify now replies outcome ev
  | netWmState replies now => exact h.winHandleNetWmStateNotify now replies
  -- the size X reports, if it is another
  | reparent drawable now outcome =>
    simp only [handle, Window.reparentSync]
    split
    · exact h
    · split
      · exact (h.resizeOutputTo now drawable outcome).congr rfl rfl
      · exact h
  | ackConfigure n => exact h.congr rfl rfl
  | sendConfigure => exact h.congr rfl rfl
  | requestMaximize want =>
    simp only [handle, Window.toplevelRequestMaximize]
    split <;> exact h.congr rfl rfl
  | requestFullscreen want =>
    simp only [handle, Window.toplevelRequestFullscreen]
    split <;> exact h.congr rfl rfl
  | newDecoration =>
    simp only [handle, Window.serverNewToplevelDecoration, Window.wlxDecorationApplyMode]
    split <;> exact h.congr rfl rfl
  | requestDecorationMode =>
    simp only [handle, Window.wlxDecorationApplyMode]
    split <;> exact h.congr rfl rfl
  | destroyDecoration => exact h.congr rfl rfl
  | focusIn => exact h.setActiveWindow
  | focusOut =>
    simp only [handle, Window.setInactive]
    split <;> exact h.congr rfl rfl
  -- sequence numbers only
  | otherRequests n =>
    refine h.congr rfl ?_
    simp only [handle, Window.outputSize, Option.map_map]
    rfl

/-- The record is exact, and the life cycle in order, in every state of every session. -/
theorem of_reachable [CInt] (h : Run.Reachable (Wlx.step cfg) .fresh win) :
    Inv win ∧ ModeRecorded win := by
  obtain ⟨as, hrun⟩ := h
  exact Run.run_invariant (I := fun w => Inv w ∧ ModeRecorded w)
    (fun _ _ _ hs ha => ⟨hs.1.step ha, hs.2.step hs.1 ha⟩) ⟨Inv.fresh, of_none rfl⟩ hrun

end ModeRecorded

end Wlx
