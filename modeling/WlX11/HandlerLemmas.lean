import WlX11.Handlers

/-!
# WlX11 — what the handlers leave alone

Frame lemmas for the handlers of `WlX11.Handlers`, so that no later proof unfolds one of them:

* **`XdgSurface.Scheduled`** — an `xdg_surface` after some configures were scheduled. Only the
  scheduled state, the idle source and the assertion flag can have changed, and the flag only on an
  uninitialized surface. `SizeConfigured` is the case where only sizes were scheduled.
* **`Window.SizeStep`** — a window after the size policy acted on it. Each function of the policy is
  a `SizeStep`, down to `runDecision`.
* **`Window.HandlerStep`** — the coarser frame every host event handler stays within.
* **`Window.fitWindow_cases`** — what "Fit the X11 window" can do.
* **`Window.Prepared`** — what `surface_commit` has done before it decides about the size.
-/

namespace Wlx

open X11Output (CommitOutcome)

namespace XdgSurface

/-! ## Scheduling -/

section Schedule

variable (x : XdgSurface)

/-- The idle source is added; that it is there already makes no difference. -/
@[simp] theorem scheduleConfigure_of_initialized {x : XdgSurface} (h : x.initialized = true) :
    x.scheduleConfigure = { x with configureIdle := true } := by
  simp [scheduleConfigure, h]

/-- `assert(surface->initialized)` fails. -/
@[simp] theorem scheduleConfigure_of_not_initialized {x : XdgSurface} (h : x.initialized = false) :
    x.scheduleConfigure = { x with aborted := true } := by
  simp [scheduleConfigure, h]

/-- Scheduling touches the idle source and the assertion flag only. -/
theorem scheduleConfigure_frame :
    { x.scheduleConfigure with configureIdle := x.configureIdle, aborted := x.aborted } = x := by
  unfold scheduleConfigure; split <;> rfl

@[simp] theorem scheduleConfigure_initialized :
    x.scheduleConfigure.initialized = x.initialized :=
  (congrArg initialized x.scheduleConfigure_frame :)

@[simp] theorem scheduleConfigure_scheduled : x.scheduleConfigure.scheduled = x.scheduled :=
  (congrArg scheduled x.scheduleConfigure_frame :)

@[simp] theorem scheduleConfigure_current : x.scheduleConfigure.current = x.current :=
  (congrArg current x.scheduleConfigure_frame :)

@[simp] theorem scheduleConfigure_pending : x.scheduleConfigure.pending = x.pending :=
  (congrArg pending x.scheduleConfigure_frame :)

@[simp] theorem scheduleConfigure_configureList :
    x.scheduleConfigure.configureList = x.configureList :=
  (congrArg configureList x.scheduleConfigure_frame :)

@[simp] theorem scheduleConfigure_geometry : x.scheduleConfigure.geometry = x.geometry :=
  (congrArg geometry x.scheduleConfigure_frame :)

@[simp] theorem scheduleConfigure_surfaceSize : x.scheduleConfigure.surfaceSize = x.surfaceSize :=
  (congrArg surfaceSize x.scheduleConfigure_frame :)

@[simp] theorem scheduleConfigure_mapped : x.scheduleConfigure.mapped = x.mapped :=
  (congrArg mapped x.scheduleConfigure_frame :)

@[simp] theorem scheduleConfigure_configured : x.scheduleConfigure.configured = x.configured :=
  (congrArg configured x.scheduleConfigure_frame :)

@[simp] theorem scheduleConfigure_hasBuffer : x.scheduleConfigure.hasBuffer = x.hasBuffer :=
  (congrArg hasBuffer x.scheduleConfigure_frame :)

end Schedule

/-! ## Scheduled changes -/

/-- `y` is `x` after handlers scheduled any number of configures: everything the client can observe
before the next one is sent, and everything a commit decides, is as before. -/
structure Scheduled (x y : XdgSurface) : Prop where
  frame : { y with
    scheduled := x.scheduled, configureIdle := x.configureIdle, aborted := x.aborted } = x
  ready : x.initialized = true → y.aborted = x.aborted
  blocked : x.initialized = false → y.configureIdle = x.configureIdle
  idle : x.configureIdle = true → y.configureIdle = true

/-- `y` is `x` after any number of `wlr_xdg_toplevel_set_size` calls. -/
structure SizeConfigured (x y : XdgSurface) : Prop extends Scheduled x y where
  scheduled : { y.scheduled with size := x.scheduled.size } = x.scheduled

namespace Scheduled

variable {x y z : XdgSurface}

theorem refl (x : XdgSurface) : Scheduled x x := ⟨rfl, fun _ => rfl, fun _ => rfl, id⟩

theorem initialized (h : Scheduled x y) : y.initialized = x.initialized :=
  (congrArg XdgSurface.initialized h.frame :)

theorem configured (h : Scheduled x y) : y.configured = x.configured :=
  (congrArg XdgSurface.configured h.frame :)

theorem configureList (h : Scheduled x y) : y.configureList = x.configureList :=
  (congrArg XdgSurface.configureList h.frame :)

theorem mapped (h : Scheduled x y) : y.mapped = x.mapped :=
  (congrArg XdgSurface.mapped h.frame :)

theorem hasBuffer (h : Scheduled x y) : y.hasBuffer = x.hasBuffer :=
  (congrArg XdgSurface.hasBuffer h.frame :)

theorem geometry (h : Scheduled x y) : y.geometry = x.geometry :=
  (congrArg XdgSurface.geometry h.frame :)

theorem surfaceSize (h : Scheduled x y) : y.surfaceSize = x.surfaceSize :=
  (congrArg XdgSurface.surfaceSize h.frame :)

theorem current (h : Scheduled x y) : y.current = x.current :=
  (congrArg XdgSurface.current h.frame :)

theorem pending (h : Scheduled x y) : y.pending = x.pending :=
  (congrArg XdgSurface.pending h.frame :)

theorem trans (hxy : Scheduled x y) (hyz : Scheduled y z) : Scheduled x z where
  frame := by
    have hy := hxy.frame
    rw [← hyz.frame] at hy
    exact hy
  ready := fun hx => (hyz.ready (hxy.initialized.trans hx)).trans (hxy.ready hx)
  blocked := fun hx => (hyz.blocked (hxy.initialized.trans hx)).trans (hxy.blocked hx)
  idle := fun hx => hyz.idle (hxy.idle hx)

end Scheduled

/-- The shape every `wlr_xdg_toplevel_set_*` has: change the scheduled state, then schedule. -/
theorem scheduleConfigure_scheduledWith (x : XdgSurface) (s : ToplevelState) :
    Scheduled x { x with scheduled := s }.scheduleConfigure := by
  unfold scheduleConfigure
  split
  · next h => exact ⟨rfl, fun _ => rfl, fun hx => absurd h (by simp [hx]), fun _ => rfl⟩
  · next h => exact ⟨rfl, fun hx => absurd hx h, fun _ => rfl, id⟩

theorem scheduleConfigure_keeps (x : XdgSurface) : Scheduled x x.scheduleConfigure :=
  scheduleConfigure_scheduledWith x x.scheduled

theorem setActivated_keeps (x : XdgSurface) (b : Bool) : Scheduled x (x.setActivated b) :=
  scheduleConfigure_scheduledWith x _

theorem setMaximized_keeps (x : XdgSurface) (b : Bool) : Scheduled x (x.setMaximized b) :=
  scheduleConfigure_scheduledWith x _

theorem setFullscreen_keeps (x : XdgSurface) (b : Bool) : Scheduled x (x.setFullscreen b) :=
  scheduleConfigure_scheduledWith x _

/-- The one call of the size policy on the xdg surface changes the scheduled size only. -/
theorem setSize_configured (x : XdgSurface) (size : Size) : SizeConfigured x (x.setSize size) :=
  ⟨scheduleConfigure_scheduledWith x _, by unfold setSize; simp⟩

namespace SizeConfigured

variable {x y z : XdgSurface}

theorem refl (x : XdgSurface) : SizeConfigured x x := ⟨.refl x, rfl⟩

theorem maximized (h : SizeConfigured x y) : y.scheduled.maximized = x.scheduled.maximized :=
  (congrArg ToplevelState.maximized h.scheduled :)

theorem fullscreen (h : SizeConfigured x y) : y.scheduled.fullscreen = x.scheduled.fullscreen :=
  (congrArg ToplevelState.fullscreen h.scheduled :)

theorem scheduled_tiled (h : SizeConfigured x y) : y.scheduled.tiled = x.scheduled.tiled := by
  simp only [ToplevelState.tiled, h.maximized, h.fullscreen]

theorem trans (hxy : SizeConfigured x y) (hyz : SizeConfigured y z) : SizeConfigured x z where
  toScheduled := hxy.toScheduled.trans hyz.toScheduled
  scheduled := by
    have hy := hxy.scheduled
    rw [← hyz.scheduled] at hy
    exact hy

end SizeConfigured

end XdgSurface

namespace Window

/-! ## Steps of the size policy -/

/-- `win'` is `win` after the size policy acted: sizes may have been configured, the output's mode
committed and the policy's bookkeeping updated. Whether there is an output, who owns the size, the
tracked margin, the decoration and the focus are as before. -/
structure SizeStep (win win' : Window) : Prop where
  xdg : win.xdg.SizeConfigured win'.xdg
  output : win'.output.isSome = win.output.isSome
  sizeFromWm : win'.sizeFromWm = win.sizeFromWm
  csdMargin : win'.csdMargin = win.csdMargin
  initialConfigureSent : win'.initialConfigureSent = win.initialConfigureSent
  decoration : win'.decoration = win.decoration
  pendingDecoration : win'.pendingDecoration = win.pendingDecoration
  focused : win'.focused = win.focused

namespace SizeStep

variable {win win' win'' : Window}

theorem refl (win : Window) : SizeStep win win := ⟨.refl _, rfl, rfl, rfl, rfl, rfl, rfl, rfl⟩

theorem trans (h : SizeStep win win') (h' : SizeStep win' win'') : SizeStep win win'' where
  xdg := h.xdg.trans h'.xdg
  output := h'.output.trans h.output
  sizeFromWm := h'.sizeFromWm.trans h.sizeFromWm
  csdMargin := h'.csdMargin.trans h.csdMargin
  initialConfigureSent := h'.initialConfigureSent.trans h.initialConfigureSent
  decoration := h'.decoration.trans h.decoration
  pendingDecoration := h'.pendingDecoration.trans h.pendingDecoration
  focused := h'.focused.trans h.focused

theorem tiled (h : SizeStep win win') : win'.tiled = win.tiled := by
  simp only [Window.tiled, h.xdg.current, h.xdg.pending]

end SizeStep

/-- `wlx_toplevel_set_size` is a size step. -/
theorem wlxToplevelSetSize_step (win : Window) (size : Size) :
    SizeStep win (win.wlxToplevelSetSize size) :=
  ⟨XdgSurface.setSize_configured _ _, rfl, rfl, rfl, rfl, rfl, rfl, rfl⟩

@[simp] theorem wlxToplevelSetSize_output (win : Window) (size : Size) :
    (win.wlxToplevelSetSize size).output = win.output := rfl

/-- **What `wlx_toplevel_fill_host` can do**: nothing, or configure the size that fills the output,
perhaps after noting the time of a re-assertion. -/
theorem wlxToplevelFillHost_cases [CInt] (cfg : Config) (now : Int) (win : Window) :
    wlxToplevelFillHost cfg now win = win ∨
      ∃ msec, wlxToplevelFillHost cfg now win =
        { win with fillHostLastMsec := msec }.wlxToplevelSetSize
          (wlxToplevelSizeForOutput cfg win) := by
  unfold wlxToplevelFillHost
  dsimp only
  split
  · exact Or.inl rfl
  split
  · exact Or.inl rfl
  split
  · split
    · exact Or.inl rfl
    · exact Or.inr ⟨now, rfl⟩
  · exact Or.inr ⟨win.fillHostLastMsec, rfl⟩

/-- Filling the host configures a size, or nothing. -/
theorem wlxToplevelFillHost_step [CInt] (cfg : Config) (now : Int) (win : Window) :
    SizeStep win (wlxToplevelFillHost cfg now win) := by
  rcases wlxToplevelFillHost_cases cfg now win with h | ⟨msec, h⟩ <;> rw [h]
  · exact .refl win
  · exact ⟨XdgSurface.setSize_configured _ _, rfl, rfl, rfl, rfl, rfl, rfl, rfl⟩

@[simp] theorem wlxToplevelFillHost_output [CInt] (cfg : Config) (now : Int) (win : Window) :
    (wlxToplevelFillHost cfg now win).output = win.output := by
  rcases wlxToplevelFillHost_cases cfg now win with h | ⟨msec, h⟩ <;> rw [h]
  rfl

/-- The commit listener notes the output's new size and fills it. -/
theorem outputCommit_step [CInt] (cfg : Config) (now : Int) (win : Window) :
    SizeStep win (outputCommit cfg now win) := by
  unfold outputCommit
  -- no output, one without a size, or the size the listener has seen already
  split
  · exact .refl win
  split
  · exact .refl win
  split
  · exact .refl win
  · refine SizeStep.trans ?_ (wlxToplevelFillHost_step cfg now _)
    exact ⟨.refl _, rfl, rfl, rfl, rfl, rfl, rfl, rfl⟩

/-- The listener reads the output and does not change it. -/
@[simp] theorem outputCommit_output [CInt] (cfg : Config) (now : Int) (win : Window) :
    (outputCommit cfg now win).output = win.output := by
  unfold outputCommit
  split
  · rfl
  split
  · rfl
  split
  · rfl
  · rw [wlxToplevelFillHost_output]

/-- Committing a mode replaces the output by the committed one. -/
theorem commitOutput_output [CInt] (cfg : Config) (now : Int) (size : Size) (outcome : CommitOutcome)
    (win : Window) :
    (commitOutput cfg now size outcome win).output =
      win.output.map fun out => (out.commitState size outcome).1 := by
  unfold commitOutput
  split
  · next h => rw [h]; rfl
  · next out h =>
    rw [h]
    dsimp only
    split
    · rw [outputCommit_output]; rfl
    · rfl

/-- A commit that fails leaves all else; one that succeeds runs the listener. -/
theorem commitOutput_step [CInt] (cfg : Config) (now : Int) (size : Size) (outcome : CommitOutcome)
    (win : Window) : SizeStep win (commitOutput cfg now size outcome win) := by
  unfold commitOutput
  split
  · exact .refl win
  · next out h =>
    have hset : SizeStep win { win with output := some (out.commitState size outcome).1 } :=
      ⟨.refl _, by rw [h]; rfl, rfl, rfl, rfl, rfl, rfl, rfl⟩
    dsimp only
    split
    · exact hset.trans (outputCommit_step cfg now _)
    · exact hset

/-- Besides the commit, `resize_output_to` notes the size only. -/
theorem resizeOutputTo_step [CInt] (cfg : Config) (now : Int) (size : Size) (outcome : CommitOutcome)
    (win : Window) : SizeStep win (resizeOutputTo cfg now size outcome win) := by
  unfold resizeOutputTo
  -- no output, a size below the minimum, or no change
  split
  · exact .refl win
  split
  · exact .refl win
  split
  · exact .refl win
  · obtain ⟨hx, ho, hs, hm, hi, hd, hp, hf⟩ := commitOutput_step cfg now size outcome win
    exact ⟨hx, ho, hs, hm, hi, hd, hp, hf⟩

/-- The fit history is written before the resize, whatever comes of it. -/
theorem fitHost_step [CInt] (cfg : Config) (now : Int) (outcome : CommitOutcome) (host conf : Size)
    (win : Window) : SizeStep win (fitHost cfg now outcome host conf win) := by
  have hresize : SizeStep win (resizeOutputTo cfg now host outcome
      { win with fitPrev := win.fitLast, fitLast := host, fitLastMsec := now }) := by
    refine SizeStep.trans ?_ (resizeOutputTo_step cfg now host outcome _)
    exact ⟨.refl _, rfl, rfl, rfl, rfl, rfl, rfl, rfl⟩
  unfold fitHost
  dsimp only
  split
  · exact hresize.trans (wlxToplevelSetSize_step _ conf)
  · exact hresize

/-- Whatever is decided is one size step. -/
theorem runDecision_step [CInt] (cfg : Config) (now : Int) (outcome : CommitOutcome) (win : Window)
    (d : FitDecision) : SizeStep win (runDecision cfg now outcome win d) := by
  cases d with
  | fit host conf => exact fitHost_step cfg now outcome host conf win
  | oscillation => exact .refl win
  | hold => exact wlxToplevelFillHost_step cfg now win
  | idle => exact .refl win

/-! ## What becomes of the output -/

end Window

/-- `out'` is what one mode commit with this outcome can make of `out`: nothing, or a commit of a
set size other than the current mode. -/
def X11Output.Evolves (out : X11Output) (outcome : CommitOutcome) (out' : X11Output) : Prop :=
  out' = out ∨
    ∃ size : Size, size.isSet = true ∧ size ≠ out.size ∧ out' = (out.commitState size outcome).1

namespace Window

/-- A size below the minimum or the size there is leaves the output; another is one mode commit. -/
theorem resizeOutputTo_output [CInt] (cfg : Config) (now : Int) (size : Size) (outcome : CommitOutcome)
    {win : Window} {out : X11Output} (ho : win.output = some out) :
    ∃ out', (resizeOutputTo cfg now size outcome win).output = some out' ∧
      out.Evolves outcome out' := by
  unfold resizeOutputTo
  rw [ho]
  dsimp only
  split
  · exact ⟨out, ho, Or.inl rfl⟩
  -- from the minimum on a size is set
  · next hmin =>
    split
    · exact ⟨out, ho, Or.inl rfl⟩
    · next hne =>
      have hset : size.isSet = true := by
        simp only [minOutputSize] at hmin
        rw [Size.isSet_iff]; omega
      refine ⟨(out.commitState size outcome).1, ?_, Or.inr ⟨size, hset, Ne.symm hne, rfl⟩⟩
      dsimp only
      rw [commitOutput_output, ho]
      rfl

/-- The history and the configured size are not the output's. -/
theorem fitHost_output [CInt] (cfg : Config) (now : Int) (outcome : CommitOutcome) (host conf : Size)
    {win : Window} {out : X11Output} (ho : win.output = some out) :
    ∃ out', (fitHost cfg now outcome host conf win).output = some out' ∧
      out.Evolves outcome out' := by
  have hout : ({ win with fitPrev := win.fitLast, fitLast := host, fitLastMsec := now } :
      Window).output = some out := ho
  obtain ⟨out', ho', hev⟩ := resizeOutputTo_output cfg now host outcome hout
  refine ⟨out', ?_, hev⟩
  unfold fitHost
  dsimp only
  split <;> exact ho'

/-- "Fit the X11 window" makes one mode commit at most. -/
theorem fitWindow_output [CInt] (cfg : Config) (now : Int) (outcome : CommitOutcome) {win : Window}
    {out : X11Output} (ho : win.output = some out) :
    ∃ out', (fitWindow cfg now outcome win).output = some out' ∧ out.Evolves outcome out' := by
  unfold fitWindow
  rw [ho]
  dsimp only
  cases fitDecision cfg now (releaseHostSize cfg win out) out with
  | fit host conf => exact fitHost_output cfg now outcome host conf ho
  | oscillation => exact ⟨out, ho, Or.inl rfl⟩
  | hold => exact ⟨out, (wlxToplevelFillHost_output cfg now _).trans ho, Or.inl rfl⟩
  | idle => exact ⟨out, ho, Or.inl rfl⟩

/-! ## Handlers in general -/

/-- `win'` is `win` after a handler that neither creates nor destroys anything: configures may have
been scheduled and the size policy may have acted, but the output, the decoration and the focus are
there as before. -/
structure HandlerStep (win win' : Window) : Prop where
  xdg : win.xdg.Scheduled win'.xdg
  output : win'.output.isSome = win.output.isSome
  initialConfigureSent : win'.initialConfigureSent = win.initialConfigureSent
  decoration : win'.decoration = win.decoration
  pendingDecoration : win'.pendingDecoration = win.pendingDecoration
  focused : win'.focused = win.focused

namespace HandlerStep

variable {win win' win'' : Window}

theorem refl (win : Window) : HandlerStep win win := ⟨.refl _, rfl, rfl, rfl, rfl, rfl⟩

theorem trans (h : HandlerStep win win') (h' : HandlerStep win' win'') : HandlerStep win win'' where
  xdg := h.xdg.trans h'.xdg
  output := h'.output.trans h.output
  initialConfigureSent := h'.initialConfigureSent.trans h.initialConfigureSent
  decoration := h'.decoration.trans h.decoration
  pendingDecoration := h'.pendingDecoration.trans h.pendingDecoration
  focused := h'.focused.trans h.focused

theorem tiled (h : HandlerStep win win') : win'.tiled = win.tiled := by
  simp only [Window.tiled, h.xdg.current, h.xdg.pending]

end HandlerStep

/-- A size step is what a handler may do. -/
theorem SizeStep.handlerStep {win win' : Window} (h : SizeStep win win') : HandlerStep win win' :=
  ⟨h.xdg.toScheduled, h.output, h.initialConfigureSent, h.decoration, h.pendingDecoration,
    h.focused⟩

/-! ## `surface_commit` -/

/-- **What "Fit the X11 window" can do.** Without an output it does nothing; otherwise it releases
`size_from_wm` or not, and then takes one size step. -/
theorem fitWindow_cases [CInt] (cfg : Config) (now : Int) (outcome : CommitOutcome) (win : Window) :
    (win.output = none ∧ fitWindow cfg now outcome win = win) ∨
      ∃ out, win.output = some out ∧
        SizeStep (releaseHostSize cfg win out) (fitWindow cfg now outcome win) := by
  unfold fitWindow
  split
  · next h => exact Or.inl ⟨h, rfl⟩
  · next out h => exact Or.inr ⟨out, h, runDecision_step cfg now outcome _ _⟩

/-- Releasing `size_from_wm` and one size step. -/
theorem fitWindow_step [CInt] (cfg : Config) (now : Int) (outcome : CommitOutcome) (win : Window) :
    HandlerStep win (fitWindow cfg now outcome win) := by
  rcases fitWindow_cases cfg now outcome win with ⟨-, h⟩ | ⟨out, -, h⟩
  · rw [h]; exact .refl win
  · have hrelease : HandlerStep win (releaseHostSize cfg win out) :=
      ⟨.refl _, rfl, rfl, rfl, rfl, rfl⟩
    exact hrelease.trans h.handlerStep

/-- `dropHold` changes `hold_present` only. -/
theorem dropHold_frame [CInt] (cfg : Config) (win : Window) :
    { dropHold cfg win with holdPresent := win.holdPresent } = win := by
  unfold dropHold
  split
  · rfl
  · dsimp only; split <;> split <;> rfl

/-- `trackCsdMargin` changes `csd_margin` only. -/
theorem trackCsdMargin_frame (win : Window) :
    { win.trackCsdMargin with csdMargin := win.csdMargin } = win := by
  unfold trackCsdMargin
  dsimp only
  split <;> rfl

/-- What `surface_commit` has done before it looks at sizes: the initial configure is sent, no
decoration waits, and everything the size decision reads but the margin is untouched. -/
structure Prepared (win win' : Window) : Prop where
  xdg : win.xdg.Scheduled win'.xdg
  scheduled : win'.xdg.scheduled = win.xdg.scheduled
  output : win'.output = win.output
  sizeFromWm : win'.sizeFromWm = win.sizeFromWm
  lastClientConf : win'.lastClientConf = win.lastClientConf
  decoration : win'.decoration = win.decoration
  focused : win'.focused = win.focused
  initialConfigureSent : win'.initialConfigureSent = true
  pendingDecoration : win'.pendingDecoration = false

/-- The four parts before the fit, from the last to the first. -/
theorem prepareCommit_prepared [CInt] (cfg : Config) (win : Window) :
    Prepared win (prepareCommit cfg win) := by
  have hmargin (w w' : Window) (h : Prepared w w') : Prepared w w'.trackCsdMargin := by
    rw [← trackCsdMargin_frame w'] at h
    exact ⟨h.xdg, h.scheduled, h.output, h.sizeFromWm, h.lastClientConf, h.decoration, h.focused,
      h.initialConfigureSent, h.pendingDecoration⟩
  have hhold (w w' : Window) (h : Prepared (dropHold cfg w) w') : Prepared w w' := by
    rw [← dropHold_frame cfg w]
    exact ⟨h.xdg, h.scheduled, h.output, h.sizeFromWm, h.lastClientConf, h.decoration, h.focused,
      h.initialConfigureSent, h.pendingDecoration⟩
  refine hhold _ _ (hmargin _ _ ?_)
  have htwice := (dropHold cfg win).xdg.scheduleConfigure_keeps.trans
    (XdgSurface.scheduleConfigure_keeps _)
  -- the initial configure, then the decoration that waited for it
  unfold applyPendingDecoration sendInitialConfigure
  by_cases hs : (dropHold cfg win).initialConfigureSent <;>
    by_cases hp : (dropHold cfg win).pendingDecoration <;>
    simp only [hs, hp, if_true, if_false, Bool.false_eq_true]
  · exact ⟨XdgSurface.scheduleConfigure_keeps _, by simp [XdgSurface.decorationSetMode],
      rfl, rfl, rfl, rfl, rfl, rfl, rfl⟩
  · exact ⟨.refl _, rfl, rfl, rfl, rfl, rfl, rfl, hs, by simpa using hp⟩
  · exact ⟨htwice.trans (XdgSurface.scheduleConfigure_keeps _),
      by simp [XdgSurface.setWmCapabilities, XdgSurface.decorationSetMode],
      rfl, rfl, rfl, rfl, rfl, rfl, rfl⟩
  · exact ⟨htwice, by simp [XdgSurface.setWmCapabilities],
      rfl, rfl, rfl, rfl, rfl, rfl, by simp⟩

/-- The initial configure is scheduled once the surface is initialized. -/
theorem prepareCommit_configureIdle [CInt] (cfg : Config) {win : Window}
    (hi : win.xdg.initialized = true) (hs : win.initialConfigureSent = false) :
    (prepareCommit cfg win).xdg.configureIdle = true := by
  have hsent : (dropHold cfg win).sendInitialConfigure.xdg.configureIdle = true := by
    have hframe := dropHold_frame cfg win
    have hi' : (dropHold cfg win).xdg.initialized = true :=
      (congrArg (fun w => w.xdg.initialized) hframe :).trans hi
    have hs' : (dropHold cfg win).initialConfigureSent = false :=
      (congrArg Window.initialConfigureSent hframe :).trans hs
    simp only [sendInitialConfigure, hs', Bool.false_eq_true, if_false,
      XdgSurface.setWmCapabilities]
    rw [XdgSurface.scheduleConfigure_of_initialized (by simpa using hi')]
  have hdeco : (dropHold cfg win).sendInitialConfigure.applyPendingDecoration.xdg.configureIdle =
      true := by
    unfold applyPendingDecoration
    split
    · exact (XdgSurface.scheduleConfigure_keeps _).idle hsent
    · exact hsent
  rw [← hdeco]
  exact (congrArg (fun w => w.xdg.configureIdle) (trackCsdMargin_frame _) :)

namespace Prepared

variable {win win' : Window}

theorem tiled (h : Prepared win win') : win'.tiled = win.tiled := by
  simp only [Window.tiled, h.xdg.current, h.xdg.pending]

end Prepared

/-- The parts of `surface_commit` that concern the life cycle: only configures are scheduled, the
initial configure is sent and no decoration waits. -/
theorem surfaceCommit_xdg [CInt] (cfg : Config) (now : Int) (outcome : CommitOutcome) (win : Window) :
    win.xdg.Scheduled (surfaceCommit cfg now outcome win).xdg :=
  (prepareCommit_prepared cfg win).xdg.trans (fitWindow_step cfg now outcome _).xdg

/-- No commit creates or destroys the output. -/
theorem surfaceCommit_output [CInt] (cfg : Config) (now : Int) (outcome : CommitOutcome) (win : Window) :
    (surfaceCommit cfg now outcome win).output.isSome = win.output.isSome :=
  (fitWindow_step cfg now outcome _).output.trans
    (congrArg Option.isSome (prepareCommit_prepared cfg win).output)

theorem surfaceCommit_focused [CInt] (cfg : Config) (now : Int) (outcome : CommitOutcome) (win : Window) :
    (surfaceCommit cfg now outcome win).focused = win.focused :=
  (fitWindow_step cfg now outcome _).focused.trans (prepareCommit_prepared cfg win).focused

/-- After any commit of its surface a toplevel has been sent its initial configure. -/
theorem surfaceCommit_initialConfigureSent [CInt] (cfg : Config) (now : Int) (outcome : CommitOutcome)
    (win : Window) : (surfaceCommit cfg now outcome win).initialConfigureSent = true :=
  (fitWindow_step cfg now outcome _).initialConfigureSent.trans
    (prepareCommit_prepared cfg win).initialConfigureSent

theorem surfaceCommit_pendingDecoration [CInt] (cfg : Config) (now : Int) (outcome : CommitOutcome)
    (win : Window) : (surfaceCommit cfg now outcome win).pendingDecoration = false :=
  (fitWindow_step cfg now outcome _).pendingDecoration.trans
    (prepareCommit_prepared cfg win).pendingDecoration

/-- `surface_commit` schedules sizes only: the client is not told to change its state. -/
theorem surfaceCommit_scheduled_tiled [CInt] (cfg : Config) (now : Int) (outcome : CommitOutcome)
    (win : Window) :
    (surfaceCommit cfg now outcome win).xdg.scheduled.tiled = win.xdg.scheduled.tiled := by
  have hprep : (prepareCommit cfg win).xdg.scheduled.tiled = win.xdg.scheduled.tiled :=
    congrArg ToplevelState.tiled (prepareCommit_prepared cfg win).scheduled
  rw [← hprep]
  rcases fitWindow_cases cfg now outcome (prepareCommit cfg win) with ⟨-, h⟩ | ⟨out, -, h⟩
  · rw [surfaceCommit, h]
  · exact h.xdg.scheduled_tiled

/-- Without an output, once the initial configure is sent and with no decoration waiting,
`surface_commit` schedules nothing. -/
theorem surfaceCommit_xdg_of_quiet [CInt] (cfg : Config) (now : Int) (outcome : CommitOutcome)
    (win : Window) (ho : win.output = none) (hs : win.initialConfigureSent = true)
    (hd : win.pendingDecoration = false) :
    (surfaceCommit cfg now outcome win).xdg = win.xdg := by
  have hhold : dropHold cfg win = win := by simp [dropHold, ho]
  have hprep : prepareCommit cfg win = win.trackCsdMargin := by
    simp [prepareCommit, hhold, sendInitialConfigure, hs, applyPendingDecoration, hd]
  have hframe := trackCsdMargin_frame win
  have hnone : (prepareCommit cfg win).output = none := by
    rw [hprep, ← ho]; exact (congrArg Window.output hframe :)
  rcases fitWindow_cases cfg now outcome (prepareCommit cfg win) with ⟨-, h⟩ | ⟨out, h, -⟩
  · rw [surfaceCommit, h, hprep]
    exact (congrArg Window.xdg hframe :)
  · rw [hnone] at h; cases h

/-! ## Map and unmap -/

/-- A map configures the size of the new output, if there is one. -/
theorem createOutputForWindow_xdg [CInt] (cfg : Config) (env : MapEnv) (win : Window) :
    win.xdg.Scheduled (createOutputForWindow cfg env win).xdg := by
  unfold createOutputForWindow
  split
  · exact (XdgSurface.setSize_configured _ _).toScheduled
  · exact .refl _

/-- Only a window that is not active is activated. -/
theorem setActiveWindow_xdg (win : Window) : win.xdg.Scheduled win.setActiveWindow.xdg := by
  unfold setActiveWindow
  split
  · exact .refl _
  · exact XdgSurface.setActivated_keeps _ _

/-- Only the active window is deactivated. -/
theorem setInactive_xdg (win : Window) : win.xdg.Scheduled win.setInactive.xdg := by
  unfold setInactive
  split
  · exact XdgSurface.setActivated_keeps _ _
  · exact .refl _

@[simp] theorem setActiveWindow_scheduled_tiled (win : Window) :
    win.setActiveWindow.xdg.scheduled.tiled = win.xdg.scheduled.tiled := by
  unfold setActiveWindow
  split
  · rfl
  · simp [XdgSurface.setActivated, ToplevelState.tiled]

@[simp] theorem setInactive_scheduled_tiled (win : Window) :
    win.setInactive.xdg.scheduled.tiled = win.xdg.scheduled.tiled := by
  unfold setInactive
  split
  · simp [XdgSurface.setActivated, ToplevelState.tiled]
  · rfl

/-- Mapping schedules configures; a window it focuses has an output to be focused on. -/
structure Mapped (win win' : Window) : Prop where
  xdg : win.xdg.Scheduled win'.xdg
  focused : (win.focused = true → win.output.isSome = true) →
    win'.focused = true → win'.output.isSome = true

/-- A map of a window that has an output does nothing, and one that gets no output focuses nothing. -/
theorem xdgToplevelMap_mapped [CInt] (cfg : Config) (env : MapEnv) (win : Window) :
    Mapped win (xdgToplevelMap cfg env win) := by
  have hcreate := createOutputForWindow_xdg cfg env win
  have hfocus : (createOutputForWindow cfg env win).focused = win.focused := by
    unfold createOutputForWindow; split <;> rfl
  unfold xdgToplevelMap
  split
  · exact ⟨.refl _, id⟩
  · next hnone =>
    dsimp only
    split
    · next hsome =>
      refine ⟨hcreate.trans (setActiveWindow_xdg _), fun _ _ => ?_⟩
      unfold setActiveWindow; split <;> exact hsome
    -- absurd (hf (hfocus ▸ hf')) hnone⟩ => no output: a window that was focused would have had one
    · exact ⟨hcreate, fun hf hf' => absurd (hf (hfocus ▸ hf')) hnone⟩

/-- A map that gets an output gets it with its first mode committed, if that succeeds. -/
theorem mapOnBuffer_output [CInt] (cfg : Config) (env : MapEnv) {win : Window} (hnone : win.output = none)
    (hsome : (win.mapOnBuffer cfg env).output.isSome = true) :
    ∃ size, (win.mapOnBuffer cfg env).output =
      some ((X11Output.create env.seq).commitState size env.outcome).1 := by
  have hactive (w : Window) : w.setActiveWindow.output = w.output := by
    unfold setActiveWindow; split <;> rfl
  revert hsome
  unfold mapOnBuffer xdgToplevelMap createOutputForWindow
  rw [hnone]
  -- `wlr_x11_output_create` can fail
  cases hc : env.created with
  | true =>
    split
    · intro _; exact ⟨_, hactive _⟩
    · intro h; simp [hnone] at h
  | false => split <;> intro h <;> simp [hnone] at h

/-! ## Host events -/

/-- A mirrored state takes the size for the host's, or gives it back. -/
theorem mirrorSize_step (on : Bool) (win : Window) : HandlerStep win (mirrorSize on win) := by
  cases on <;> exact ⟨.refl _, rfl, rfl, rfl, rfl, rfl⟩

@[simp] theorem mirrorSize_sizeFromWm (on : Bool) (win : Window) :
    (mirrorSize on win).sizeFromWm = on := by
  cases on <;> rfl

@[simp] theorem mirrorSize_output (on : Bool) (win : Window) :
    (mirrorSize on win).output = win.output := by
  cases on <;> rfl

/-- Only a state that differs is mirrored. -/
theorem mirrorMaximized_step (maximized : Bool) (win : Window) :
    HandlerStep win (mirrorMaximized maximized win) := by
  unfold mirrorMaximized
  split
  · exact .refl win
  · obtain ⟨-, ho, hi, hd, hp, hf⟩ := mirrorSize_step maximized win
    exact ⟨XdgSurface.setMaximized_keeps _ _, ho, hi, hd, hp, hf⟩

/-- The same of the other state. -/
theorem mirrorFullscreen_step (fullscreen : Bool) (win : Window) :
    HandlerStep win (mirrorFullscreen fullscreen win) := by
  unfold mirrorFullscreen
  split
  · exact .refl win
  · obtain ⟨-, ho, hi, hd, hp, hf⟩ := mirrorSize_step fullscreen win
    exact ⟨XdgSurface.setFullscreen_keeps _ _, ho, hi, hd, hp, hf⟩

/-- The host's state is mirrored into configures; the output stays. -/
@[simp] theorem winHandleNetWmStateNotify_output [CInt] (cfg : Config) (now : Int)
    (replies : List (Option (List NetWmAtom))) (win : Window) :
    (winHandleNetWmStateNotify cfg now replies win).output = win.output := by
  have hmirror (host : NetWmState) :
      ((mirrorMaximized host.maximized win).mirrorFullscreen host.fullscreen).output =
        win.output := by
    unfold mirrorFullscreen mirrorMaximized
    split <;> split <;> simp
  unfold winHandleNetWmStateNotify
  split
  -- before the initial configure the property is not even read
  · split
    · rfl
    · next host _ =>
      dsimp only
      split
      · rw [wlxToplevelFillHost_output, hmirror]
      · exact hmirror host
  · rfl

/-- Both states are mirrored, and the client fills a tiled window. -/
theorem winHandleNetWmStateNotify_step [CInt] (cfg : Config) (now : Int)
    (replies : List (Option (List NetWmAtom))) (win : Window) :
    HandlerStep win (winHandleNetWmStateNotify cfg now replies win) := by
  unfold winHandleNetWmStateNotify
  split
  · split
    · exact .refl win
    · next host _ =>
      have hmirror := (mirrorMaximized_step host.maximized win).trans
        (mirrorFullscreen_step host.fullscreen _)
      dsimp only
      split
      · exact hmirror.trans (wlxToplevelFillHost_step cfg now _).handlerStep
      · exact hmirror
  · exact .refl win

/-- The window becomes the host's, its state is read anew, and the mode is committed. -/
theorem outputRequestState_step [CInt] (cfg : Config) (now : Int)
    (replies : List (Option (List NetWmAtom))) (outcome : CommitOutcome) (req : Size)
    (win : Window) : HandlerStep win (outputRequestState cfg now replies outcome req win) := by
  unfold outputRequestState
  -- no output, no size, or no change: the state is not read either
  split
  · exact .refl win
  split
  · exact .refl win
  split
  · exact .refl win
  · refine HandlerStep.trans ?_ (commitOutput_step cfg now req outcome _).handlerStep
    refine HandlerStep.trans ?_ (winHandleNetWmStateNotify_step cfg now replies _)
    exact ⟨.refl _, rfl, rfl, rfl, rfl, rfl⟩

/-- What the backend filters changes its own account only. -/
theorem configureNotify_step [CInt] (cfg : Config) (now : Int) (replies : List (Option (List NetWmAtom)))
    (outcome : CommitOutcome) (ev : ConfigureNotify) (win : Window) :
    HandlerStep win (configureNotify cfg now replies outcome ev win) := by
  unfold configureNotify
  split
  · exact .refl win
  · next out h =>
    have hfilter : HandlerStep win
        { win with output := some (out.handleX11ConfigureNotify ev).1 } :=
      ⟨.refl _, by rw [h]; rfl, rfl, rfl, rfl, rfl⟩
    dsimp only
    split
    · exact hfilter
    · exact hfilter.trans (outputRequestState_step cfg now replies outcome _ _)

/-- The size a `ConfigureNotify` makes `output_request_state` commit, if it gets that far. -/
def hostResize (win : Window) (ev : ConfigureNotify) : Option Size :=
  win.output.bind fun out =>
    (out.handleX11ConfigureNotify ev).2.filter fun req =>
      0 < req.width && 0 < req.height && req ≠ out.size

/-- A `ConfigureNotify` that is filtered, or asks for nothing new, touches the backend only. -/
theorem configureNotify_of_none [CInt] (cfg : Config) (now : Int)
    (replies : List (Option (List NetWmAtom))) (outcome : CommitOutcome)
    {win : Window} {ev : ConfigureNotify}
    (h : hostResize win ev = none) :
    configureNotify cfg now replies outcome ev win =
      { win with output := win.output.map fun out => (out.handleX11ConfigureNotify ev).1 } := by
  unfold configureNotify
  cases ho : win.output with
  | none =>
    change win = { win with output := none }
    rw [← ho]
  | some out =>
    simp only [hostResize, ho, Option.bind_some] at h
    dsimp only [Option.map_some]
    cases hr : (out.handleX11ConfigureNotify ev).2 with
    | none => rfl
    | some req =>
      rw [hr, Option.filter_eq_none_iff] at h
      have hreq := h req rfl
      simp only [outputRequestState, X11Output.handleX11ConfigureNotify_size]
      by_cases h0 : req.width ≤ 0 ∨ req.height ≤ 0
      · rw [if_pos h0]
      · rw [if_neg h0, if_pos]
        -- the size is set, so it is the one the output has
        by_contra hne
        exact hreq (by simp [hne]; omega)

/-- Otherwise the window becomes the host's, its `_NET_WM_STATE` is mirrored, and the mode is
committed. -/
theorem configureNotify_of_some [CInt] (cfg : Config) (now : Int)
    (replies : List (Option (List NetWmAtom))) (outcome : CommitOutcome)
    {req : Size} {win : Window} {ev : ConfigureNotify}
    (h : hostResize win ev = some req) :
    configureNotify cfg now replies outcome ev win =
      commitOutput cfg now req outcome (winHandleNetWmStateNotify cfg now replies
        { win with
          output := win.output.map fun out => (out.handleX11ConfigureNotify ev).1
          sizeFromWm := true }) := by
  unfold configureNotify
  cases ho : win.output with
  | none => simp [hostResize, ho] at h
  | some out =>
    simp only [hostResize, ho, Option.bind_some, Option.filter_eq_some_iff] at h
    obtain ⟨hr, hok⟩ := h
    simp only [Bool.and_eq_true, decide_eq_true_eq] at hok
    simp only [hr, outputRequestState, X11Output.handleX11ConfigureNotify_size,
      Option.map_some]
    rw [if_neg (by omega), if_neg hok.2]

/-- The output goes through the backend's filter, and then through the commit of the host's size. -/
theorem configureNotify_output [CInt] (cfg : Config) (now : Int)
    (replies : List (Option (List NetWmAtom))) (outcome : CommitOutcome) {win : Window}
    {out : X11Output} (ev : ConfigureNotify) (ho : win.output = some out) :
    (configureNotify cfg now replies outcome ev win).output =
      some (match hostResize win ev with
        | none => (out.handleX11ConfigureNotify ev).1
        | some req => ((out.handleX11ConfigureNotify ev).1.commitState req outcome).1) := by
  cases h : hostResize win ev with
  | none => rw [configureNotify_of_none cfg now replies outcome h, ho]; rfl
  | some req =>
    rw [configureNotify_of_some cfg now replies outcome h, commitOutput_output,
      winHandleNetWmStateNotify_output, ho]
    rfl

/-- A drawable of another size is taken over, and the client is told. -/
theorem reparentSync_step [CInt] (cfg : Config) (now : Int) (outcome : CommitOutcome) (drawable : Size)
    (win : Window) : HandlerStep win (reparentSync cfg now outcome drawable win) := by
  unfold reparentSync
  split
  · exact .refl win
  split
  · exact ((resizeOutputTo_step cfg now drawable outcome win).trans
      (wlxToplevelSetSize_step _ _)).handlerStep
  · exact .refl win

end Window

end Wlx
