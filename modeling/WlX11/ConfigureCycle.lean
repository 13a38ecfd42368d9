import WlX11.Session

/-!
# WlX11 — the configure cycle of a toplevel

A client cannot map before it has acknowledged a configure, and a compositor must not schedule one
while the `xdg_surface` is not initialized. wlroots resets `initialized` on every unmap; the program
decides with a flag of its own, `initial_configure_sent`, which it sets once and never clears. This
module says exactly where the two part ways:

* **`schedules_only_when_initialized`** — a session reaches no failing
  `assert(surface->initialized)` iff every maximize, fullscreen and decoration request arrives
  before the first commit or while the surface is initialized.
* **`initial_commits_answered_iff`** — every initial commit of a session is answered with a
  configure iff none of them comes after the one configure the flag allows.
-/

namespace Wlx

open X11Output (CommitOutcome)

/-! ## No configure on an uninitialized surface -/

/-- A request that is answered with a configure arrives before the initial configure (the handlers
defer or ignore it then) or while the surface is initialized. Only such requests are restricted. -/
def RequestsWhenReady (win : Window) : Action → Prop
  | .requestMaximize _ | .requestFullscreen _ | .newDecoration | .requestDecorationMode =>
    win.initialConfigureSent = true → win.xdg.initialized = true
  | _ => True

instance (win : Window) : DecidablePred (RequestsWhenReady win) := fun a => by
  cases a <;> unfold RequestsWhenReady <;> infer_instance

section Assertion

variable {cfg : Config} {win win' : Window}

/-- Scheduling on a surface that has not failed yet fails exactly when it is uninitialized. -/
theorem XdgSurface.aborted_scheduleConfigure {x : XdgSurface} (h : x.aborted = false) :
    x.scheduleConfigure.aborted = false ↔ x.initialized = true := by
  unfold XdgSurface.scheduleConfigure
  split
  · next hi => simp [h, hi]
  · next hi => simp [hi]

/-- A request handler that schedules once `initial_configure_sent` is set. -/
theorem aborted_request {f : Window → Window} {s : ToplevelState} (habort : win.xdg.aborted = false)
    (hsent : win.initialConfigureSent = true →
      (f win).xdg = { win.xdg with scheduled := s }.scheduleConfigure)
    (hearly : win.initialConfigureSent = false → (f win).xdg = win.xdg) :
    (f win).xdg.aborted = false ↔
      (win.initialConfigureSent = true → win.xdg.initialized = true) := by
  cases hs : win.initialConfigureSent with
  | true =>
    rw [hsent hs, XdgSurface.aborted_scheduleConfigure (by exact habort)]
    simp
  | false =>
    rw [hearly hs]
    simp [habort]

/-- A decoration's mode request. -/
theorem aborted_decoration (habort : win.xdg.aborted = false) :
    win.wlxDecorationApplyMode.xdg.aborted = false ↔
      (win.initialConfigureSent = true → win.xdg.initialized = true) := by
  refine aborted_request (s := win.xdg.scheduled) habort (fun hs => ?_) (fun hs => ?_) <;>
    simp [Window.wlxDecorationApplyMode, hs, XdgSurface.decorationSetMode]

/-- **One step fails the assertion iff it is an early request.** Commits and host events never do:
a commit initializes the surface or leaves nothing to schedule, and a host event needs an output,
which only an initialized surface has. -/
theorem aborted_step [CInt] (h : Inv win) {a : Action} (hstep : step cfg win a = some win') :
    win'.xdg.aborted = false ↔ RequestsWhenReady win a := by
  obtain ⟨habort, hen, rfl⟩ := step_eq_some.mp hstep
  have hhost {w : Window} (ho : win.output.isSome = true) (hs : win.HandlerStep w) :
      w.xdg.aborted = false := (hs.xdg.ready (h.ready_of_output ho)).trans habort
  cases a with
  | commit c now env outcome =>
    exact iff_of_true ((h.wlSurfaceCommit cfg now env outcome c).2.trans habort) trivial
  | ackConfigure n =>
    refine iff_of_true ?_ trivial
    simp only [handle, XdgSurface.ackConfigure]
    split <;> exact habort
  | sendConfigure => exact iff_of_true habort trivial
  | requestMaximize want =>
    refine aborted_request (f := Window.toplevelRequestMaximize want)
      (s := { win.xdg.scheduled with maximized := want }) habort (fun hs => ?_) (fun hs => ?_) <;>
      simp [Window.toplevelRequestMaximize, hs, XdgSurface.setMaximized]
  | requestFullscreen want =>
    refine aborted_request (f := Window.toplevelRequestFullscreen want)
      (s := { win.xdg.scheduled with fullscreen := want }) habort (fun hs => ?_) (fun hs => ?_) <;>
      simp [Window.toplevelRequestFullscreen, hs, XdgSurface.setFullscreen]
  | newDecoration =>
    show ({ win with decoration := true } : Window).wlxDecorationApplyMode.xdg.aborted = false ↔ _
    exact aborted_decoration habort
  | requestDecorationMode => exact aborted_decoration habort
  | destroyDecoration => exact iff_of_true habort trivial
  | focusIn =>
    exact iff_of_true
      ((win.setActiveWindow_xdg.ready (h.ready_of_output hen)).trans habort) trivial
  | focusOut =>
    refine iff_of_true ?_ trivial
    cases hf : win.focused with
    | true => exact (win.setInactive_xdg.ready (h.ready_of_output (h.focused hf))).trans habort
    | false => simp [handle, Window.setInactive, hf, habort]
  | netWmState replies now =>
    exact iff_of_true
      (hhost hen (Window.winHandleNetWmStateNotify_step cfg now replies win)) trivial
  | configureNotify ev replies now outcome =>
    exact iff_of_true
      (hhost hen (Window.configureNotify_step cfg now replies outcome ev win)) trivial
  | reparent drawable now outcome =>
    exact iff_of_true (hhost hen (Window.reparentSync_step cfg now outcome drawable win)) trivial
  | otherRequests n => exact iff_of_true habort trivial

/-- From any good state that has not failed: the run ends without a failed assertion iff none of
its requests was early. By induction on the run; after a failure nothing more is enabled. -/
theorem aborted_run [CInt] (h : Inv win) (habort : win.xdg.aborted = false) {as : List Action}
    (hrun : Run.run (step cfg) win as = some win') :
    win'.xdg.aborted = false ↔ Run.Along (step cfg) RequestsWhenReady win as := by
  induction as generalizing win with
  | nil => cases hrun; simp [Run.Along, habort]
  | cons a as ih =>
    obtain ⟨win₁, ha, has⟩ := Run.run_cons_inv hrun
    have hiff := aborted_step h ha
    rw [Run.along_cons ha, ← hiff]
    cases hfail : win₁.xdg.aborted with
    | false => simpa using ih (h.step ha) hfail has
    | true =>
      -- the session is over
      cases as with
      | nil => cases has; simp [hfail]
      | cons b bs =>
        obtain ⟨win₂, hb, -⟩ := Run.run_cons_inv has
        simp [step, hfail] at hb

end Assertion

/-- **A session never fails `assert(surface->initialized)` iff each of its maximize, fullscreen and
decoration requests arrives before the initial configure or while the surface is initialized**, that
is, none arrives between an unmap and the next commit. -/
theorem schedules_only_when_initialized [CInt] (cfg : Config) (as : List Action) (win : Window)
    (hrun : Run.run (step cfg) .fresh as = some win) :
    win.xdg.aborted = false ↔ Run.Along (step cfg) RequestsWhenReady .fresh as :=
  aborted_run .fresh rfl hrun

/-- A session that maps, unmaps, and then asks to be maximized. -/
def maximizeAfterUnmap : List Action :=
  [.commit ⟨.keep, none⟩ 1 ⟨true, 0, .ok⟩ .ok, .sendConfigure, .ackConfigure 0,
    .commit ⟨.attach ⟨640, 480⟩, some ⟨0, 0, 640, 480⟩⟩ 2 ⟨true, 0, .ok⟩ .ok,
    .commit ⟨.detach, none⟩ 3 ⟨true, 0, .ok⟩ .ok, .requestMaximize true]

/-- The assertion is reachable: `initial_configure_sent` is still set after the unmap, so the
handler answers a surface wlroots has reset. -/
theorem maximize_after_unmap_aborts :
    ¬ ∀ (cfg : Config) (as : List Action) (win : Window),
      Run.run (step cfg) .fresh as = some win → win.xdg.aborted = false := by
  intro h
  have hrun : (Run.run (step ⟨1, false⟩) .fresh maximizeAfterUnmap).map (·.xdg.aborted) =
      some true := by decide +kernel
  obtain ⟨win, hwin, habort⟩ := Option.map_eq_some_iff.mp hrun
  rw [h _ _ _ hwin] at habort
  cases habort

/-- A client that maximizes while it is mapped meets the condition. -/
theorem schedules_only_when_initialized_mapped :
    ∃ win, Run.run (step ⟨1, false⟩) .fresh
        (maximizeAfterUnmap.take 4 ++ [.requestMaximize true]) = some win ∧
      win.xdg.aborted = false := by
  have hrun : (Run.run (step ⟨1, false⟩) .fresh
      (maximizeAfterUnmap.take 4 ++ [.requestMaximize true])).isSome = true := by decide +kernel
  obtain ⟨win, hwin⟩ := Option.isSome_iff_exists.mp hrun
  exact ⟨win, hwin, (schedules_only_when_initialized _ _ _ hwin).mpr (by decide +kernel)⟩

/-! ## An answer to every initial commit -/

/-- The commit makes the surface initialized: `surface->initial_commit` is set by it. -/
def IsInitialCommit (win : Window) : Action → Prop
  | .commit c _ _ _ =>
    win.xdg.aborted = false ∧ win.xdg.commitAllowed c = true ∧ win.xdg.unmapCommit c = false ∧
      win.xdg.initialized = false
  | _ => False

instance (win : Window) : DecidablePred (IsInitialCommit win) := fun a => by
  cases a <;> unfold IsInitialCommit <;> infer_instance

/-- An initial commit ends with a configure scheduled. -/
def InitialCommitAnswered [CInt] (cfg : Config) (win : Window) (a : Action) : Prop :=
  IsInitialCommit win a → ∀ win', step cfg win a = some win' → win'.xdg.configureIdle = true

/-- An initial commit finds the initial configure still to be sent. -/
def InitialCommitIsFirst (win : Window) (a : Action) : Prop :=
  IsInitialCommit win a → win.initialConfigureSent = false

section Initial

variable {cfg : Config} {win : Window} {c : SurfaceCommit}

/-- An initial commit cannot carry a buffer, so it does not map. -/
theorem applyCommit_of_initial [CInt] (h : Inv win) (env : Window.MapEnv)
    (hallow : win.xdg.commitAllowed c = true) (hu : win.xdg.unmapCommit c = false)
    (hi : win.xdg.initialized = false) : win.applyCommit cfg env c = win.roleCommitted c := by
  have hbuf : win.xdg.hasBufferAfter c = false := by
    simp only [XdgSurface.commitAllowed, (h.blank hi).1, Bool.or_false, Bool.and_eq_true,
      Bool.not_eq_true'] at hallow
    exact hallow.2
  have hbuf' : (win.roleCommitted c).xdg.hasBuffer = false := hbuf
  rw [Window.applyCommit_of_not_unmap cfg env hu, Window.mapOnBuffer, hbuf', Bool.and_false]
  rfl

/-- **An initial commit is answered iff the flag still allows it.** -/
theorem initialCommitAnswered_iff [CInt] (h : Inv win) (a : Action) :
    InitialCommitAnswered cfg win a ↔ InitialCommitIsFirst win a := by
  refine forall_congr' fun hinit => ?_
  cases a with
  | commit c now env outcome =>
    obtain ⟨habort, hallow, hu, hi⟩ := hinit
    have hstep : step cfg win (.commit c now env outcome) =
        some (Window.surfaceCommit cfg now outcome (win.roleCommitted c)) := by
      rw [step_eq_some]
      exact ⟨habort, hallow, by
        rw [handle, Window.wlSurfaceCommit, applyCommit_of_initial h env hallow hu hi]⟩
    simp only [hstep, Option.some.injEq, forall_eq']
    cases hs : win.initialConfigureSent with
    | false =>
      -- `sendInitialConfigure` schedules on the surface that is now initialized
      have hprep : (Window.prepareCommit cfg (win.roleCommitted c)).xdg.configureIdle = true :=
        Window.prepareCommit_configureIdle cfg rfl hs
      have hidle := (Window.fitWindow_step cfg now outcome _).xdg.idle hprep
      exact iff_of_true hidle rfl
    | true =>
      -- nothing is left that could schedule one
      have hunmapped : win.output = none := by
        refine h.output_eq_none ?_
        cases hm : win.xdg.mapped with
        | false => rfl
        | true => rw [h.initialized hm] at hi; cases hi
      rw [Window.surfaceCommit_xdg_of_quiet cfg now outcome (win.roleCommitted c) hunmapped
        hs (h.deferred hs)]
      simp [(h.blank hi).2.1]
  | _ => exact absurd hinit id

end Initial

/-- **Every initial commit of a session schedules a configure iff no initial commit comes after the
first one**: the configure is sent once in the life of a window, so the initial commit that follows
an unmap gets none. -/
theorem initial_commits_answered_iff [CInt] (cfg : Config) (as : List Action) :
    Run.Along (step cfg) (InitialCommitAnswered cfg) .fresh as ↔
      Run.Along (step cfg) InitialCommitIsFirst .fresh as :=
  Run.along_congr (fun _ _ _ h ha => h.step ha) (fun _ a h => initialCommitAnswered_iff h a) .fresh

/-- The first one gets its configure, and the window is mapped. -/
theorem first_initial_commit_answered :
    Run.Along (step ⟨1, false⟩) (InitialCommitAnswered ⟨1, false⟩) .fresh (maximizeAfterUnmap.take 4) :=
  (initial_commits_answered_iff ⟨1, false⟩ _).mpr (by
    unfold InitialCommitIsFirst
    decide +kernel)

/-- A session that maps, unmaps, and makes its second initial commit. -/
def remapAfterUnmap : List Action :=
  maximizeAfterUnmap.take 5 ++ [.commit ⟨.keep, none⟩ 4 ⟨true, 0, .ok⟩ .ok]

/-- That second initial commit gets no configure: the client can never map again. -/
theorem initial_commit_after_unmap_unanswered :
    ¬ ∀ (cfg : Config) (as : List Action),
      Run.Along (step cfg) (InitialCommitAnswered cfg) .fresh as := by
  intro h
  have hfirst := (Run.along_congr (fun _ _ _ hs ha => Inv.step hs ha)
    (fun _ a hs => initialCommitAnswered_iff hs a) .fresh).mp (h ⟨1, false⟩ remapAfterUnmap)
  have hnot : ¬ Run.Along (step ⟨1, false⟩) InitialCommitIsFirst .fresh remapAfterUnmap := by
    unfold InitialCommitIsFirst
    decide +kernel
  exact hnot hfirst

end Wlx
