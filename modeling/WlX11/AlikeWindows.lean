import WlX11.CommitStanding
import WlX11.FitPolicy

/-!
# WlX11 — windows that decide alike about their sizes

What the size policy of a window decides shows in what it asks the host for and in what the client is
configured to. Two windows can differ in their decorations, in who has the focus, in states that do not
apply while they are unmapped, and still decide alike.

* **`SizeDecisions`** — what shows of the decisions.
* **`Alike`** — two windows agree on all these can depend on; a **`Quiet`** step leaves that alone.
* **`Alike.run`** — alike windows make the same decisions, whatever comes.
-/

namespace Wlx

open X11Output (CommitOutcome)
open Window (MapEnv NetWmAtom NetWmState)

/-- A configure, its focus apart. -/
def ToplevelState.unfocused (s : ToplevelState) : ToplevelState := { s with activated := false }

/-- What others see of the size policy: the output with all it has asked the host for, who owns its
size, and the configures the client has not acknowledged yet. -/
structure SizeDecisions where
  output : Option X11Output
  sizeFromWm : Bool
  configures : List ToplevelState
deriving DecidableEq

namespace Window

def sizeDecisions (win : Window) : SizeDecisions :=
  ⟨win.output, win.output.isSome && win.sizeFromWm, win.xdg.configureList.map (·.unfocused)⟩

end Window

/-! ## Windows that decide alike -/

/-- Two surfaces agree on all a decision about a size can depend on; the states apply while the window is
`shown`, and a configure that has been acknowledged will. -/
structure XdgSurface.Alike (shown : Bool) (x y : XdgSurface) : Prop where
  initialized : y.initialized = x.initialized
  configured : y.configured = x.configured
  mapped : y.mapped = x.mapped
  hasBuffer : y.hasBuffer = x.hasBuffer
  surfaceSize : y.surfaceSize = x.surfaceSize
  geometry : y.geometry = x.geometry
  configureList : y.configureList.map (·.unfocused) = x.configureList.map (·.unfocused)
  current : shown = true → y.current.unfocused = x.current.unfocused
  pending : shown = true ∨ x.configured = true → y.pending.unfocused = x.pending.unfocused
  scheduled : y.scheduled.unfocused = x.scheduled.unfocused

namespace Window

/-- Two windows agree on all a decision about a size can depend on. -/
structure Alike (win win' : Window) : Prop where
  xdg : win.xdg.Alike win.output.isSome win'.xdg
  output : win'.output = win.output
  lastOutputSize : win.output.isSome = true → win'.lastOutputSize = win.lastOutputSize
  csdMargin : win'.csdMargin = win.csdMargin
  sizeFromWm : win.output.isSome = true → win'.sizeFromWm = win.sizeFromWm
  lastClientConf : win'.lastClientConf = win.lastClientConf
  fitLast : win'.fitLast = win.fitLast
  fitPrev : win'.fitPrev = win.fitPrev
  fitLastMsec : win'.fitLastMsec = win.fitLastMsec
  fillHostLastMsec : win'.fillHostLastMsec = win.fillHostLastMsec

/-- The step is about configures, decorations, focus or the shown frame, not about sizes. -/
structure Quiet (win win' : Window) : Prop where
  xdg : win.xdg.Scheduled win'.xdg
  scheduled : win'.xdg.scheduled.unfocused = win.xdg.scheduled.unfocused
  output : win'.output = win.output
  lastOutputSize : win'.lastOutputSize = win.lastOutputSize
  csdMargin : win'.csdMargin = win.csdMargin
  sizeFromWm : win'.sizeFromWm = win.sizeFromWm
  lastClientConf : win'.lastClientConf = win.lastClientConf
  fitLast : win'.fitLast = win.fitLast
  fitPrev : win'.fitPrev = win.fitPrev
  fitLastMsec : win'.fitLastMsec = win.fitLastMsec
  fillHostLastMsec : win'.fillHostLastMsec = win.fillHostLastMsec

end Window

/-- The shape of `wlr_xdg_toplevel_set_maximized` and `_set_fullscreen`. -/
def XdgSurface.setState (f : ToplevelState → ToplevelState) (x : XdgSurface) : XdgSurface :=
  { x with scheduled := f x.scheduled }.scheduleConfigure

namespace XdgSurface

variable {f : ToplevelState → ToplevelState} {x : XdgSurface}

theorem setState_keeps (f : ToplevelState → ToplevelState) (x : XdgSurface) : x.Scheduled (x.setState f) :=
  scheduleConfigure_scheduledWith x _

theorem setState_scheduled : (x.setState f).scheduled = f x.scheduled :=
  scheduleConfigure_scheduled ..

theorem setState_aborted (hx : x.initialized = false) : (x.setState f).aborted = true := by
  rw [setState, scheduleConfigure_of_not_initialized (x := { x with scheduled := f x.scheduled }) hx]

theorem setState_of_initialized (hx : x.initialized = true) :
    x.setState f = { x with scheduled := f x.scheduled, configureIdle := true } := by
  rw [setState, scheduleConfigure_of_initialized (x := { x with scheduled := f x.scheduled }) hx]

end XdgSurface

/-- What only schedules a configure keeps two surfaces alike, if it schedules the same size for both. -/
theorem XdgSurface.Alike.of_scheduled {shown : Bool} {x y x' y' : XdgSurface} (h : x.Alike shown y)
    (hx : x.Scheduled x') (hy : y.Scheduled y')
    (hscheduled : y'.scheduled.unfocused = x'.scheduled.unfocused) : x'.Alike shown y' where
  initialized := by rw [hy.initialized, hx.initialized, h.initialized]
  configured := by rw [hy.configured, hx.configured, h.configured]
  mapped := by rw [hy.mapped, hx.mapped, h.mapped]
  hasBuffer := by rw [hy.hasBuffer, hx.hasBuffer, h.hasBuffer]
  surfaceSize := by rw [hy.surfaceSize, hx.surfaceSize, h.surfaceSize]
  geometry := by rw [hy.geometry, hx.geometry, h.geometry]
  configureList := by rw [hy.configureList, hx.configureList, h.configureList]
  current hshown := by rw [hy.current, hx.current, h.current hshown]
  -- `pending` is compared only if it was acknowledged or the surface is shown
  pending hor := by
    rw [hx.configured] at hor
    rw [hy.pending, hx.pending, h.pending hor]
  scheduled := hscheduled

namespace Window

namespace Quiet

variable {win win' win'' : Window}

theorem refl (win : Window) : Quiet win win := ⟨.refl _, rfl, rfl, rfl, rfl, rfl, rfl, rfl, rfl, rfl, rfl⟩

/-- Quiet steps one after the other are quiet, so that a handler is taken apart at its calls. -/
theorem trans (h : Quiet win win') (h' : Quiet win' win'') : Quiet win win'' where
  xdg := h.xdg.trans h'.xdg
  scheduled := h'.scheduled.trans h.scheduled
  output := h'.output.trans h.output
  lastOutputSize := h'.lastOutputSize.trans h.lastOutputSize
  csdMargin := h'.csdMargin.trans h.csdMargin
  sizeFromWm := h'.sizeFromWm.trans h.sizeFromWm
  lastClientConf := h'.lastClientConf.trans h.lastClientConf
  fitLast := h'.fitLast.trans h.fitLast
  fitPrev := h'.fitPrev.trans h.fitPrev
  fitLastMsec := h'.fitLastMsec.trans h.fitLastMsec
  fillHostLastMsec := h'.fillHostLastMsec.trans h.fillHostLastMsec

/-- A configure is scheduled that is no news. -/
theorem scheduleConfigure (win : Window) : Quiet win { win with xdg := win.xdg.scheduleConfigure } :=
  ⟨XdgSurface.scheduleConfigure_keeps _, by rw [XdgSurface.scheduleConfigure_scheduled], rfl, rfl, rfl, rfl,
    rfl, rfl, rfl, rfl, rfl⟩

theorem setActivated (win : Window) (activated : Bool) :
    Quiet win { win with xdg := win.xdg.setActivated activated } := by
  refine ⟨XdgSurface.setActivated_keeps _ _, ?_, rfl, rfl, rfl, rfl, rfl, rfl, rfl, rfl, rfl⟩
  simp only [XdgSurface.setActivated, XdgSurface.scheduleConfigure_scheduled, ToplevelState.unfocused]

/-- The hold is on the layer of the decoration, and no size is read from it. -/
theorem dropHold [CInt] (cfg : Config) (win : Window) : Quiet win (win.dropHold cfg) := by
  unfold Window.dropHold
  split
  · exact .refl win
  · dsimp only
    split
    · split
      · exact ⟨.refl _, rfl, rfl, rfl, rfl, rfl, rfl, rfl, rfl, rfl, rfl⟩
      · exact .refl win
    · split
      · exact ⟨.refl _, rfl, rfl, rfl, rfl, rfl, rfl, rfl, rfl, rfl, rfl⟩
      · exact .refl win

theorem sendInitialConfigure (win : Window) : Quiet win win.sendInitialConfigure := by
  unfold Window.sendInitialConfigure
  split
  · exact .refl win
  · refine ((scheduleConfigure win).trans (scheduleConfigure _)).trans ?_
    exact ⟨.refl _, rfl, rfl, rfl, rfl, rfl, rfl, rfl, rfl, rfl, rfl⟩

theorem applyPendingDecoration (win : Window) : Quiet win win.applyPendingDecoration := by
  unfold Window.applyPendingDecoration
  split
  · refine (scheduleConfigure win).trans ?_
    exact ⟨.refl _, rfl, rfl, rfl, rfl, rfl, rfl, rfl, rfl, rfl, rfl⟩
  · exact .refl win

theorem setActiveWindow (win : Window) : Quiet win win.setActiveWindow := by
  unfold Window.setActiveWindow
  split
  · exact .refl win
  · refine (setActivated win true).trans ?_
    exact ⟨.refl _, rfl, rfl, rfl, rfl, rfl, rfl, rfl, rfl, rfl, rfl⟩

theorem setInactive (win : Window) : Quiet win win.setInactive := by
  unfold Window.setInactive
  split
  · refine (setActivated win false).trans ?_
    exact ⟨.refl _, rfl, rfl, rfl, rfl, rfl, rfl, rfl, rfl, rfl, rfl⟩
  · exact .refl win

theorem wlxDecorationApplyMode (win : Window) : Quiet win win.wlxDecorationApplyMode := by
  unfold Window.wlxDecorationApplyMode
  split
  · exact scheduleConfigure win
  · exact ⟨.refl _, rfl, rfl, rfl, rfl, rfl, rfl, rfl, rfl, rfl, rfl⟩

end Quiet

namespace Alike

variable {cfg : Config} {now : Int} {outcome : CommitOutcome} {win win' v v' : Window}

/-- Quiet steps, even different ones, keep two windows alike. -/
theorem of_quiet (h : Alike win win') (hq : Quiet win v) (hq' : Quiet win' v') : Alike v v' where
  -- what a quiet step may change is what alike windows may differ in
  xdg := by
    rw [hq.output]
    exact h.xdg.of_scheduled hq.xdg hq'.xdg (hq'.scheduled.trans (h.xdg.scheduled.trans hq.scheduled.symm))
  output := by rw [hq'.output, hq.output, h.output]
  lastOutputSize ho := by
    rw [hq.output] at ho
    rw [hq'.lastOutputSize, hq.lastOutputSize, h.lastOutputSize ho]
  csdMargin := by rw [hq'.csdMargin, hq.csdMargin, h.csdMargin]
  sizeFromWm ho := by
    rw [hq.output] at ho
    rw [hq'.sizeFromWm, hq.sizeFromWm, h.sizeFromWm ho]
  lastClientConf := by rw [hq'.lastClientConf, hq.lastClientConf, h.lastClientConf]
  fitLast := by rw [hq'.fitLast, hq.fitLast, h.fitLast]
  fitPrev := by rw [hq'.fitPrev, hq.fitPrev, h.fitPrev]
  fitLastMsec := by rw [hq'.fitLastMsec, hq.fitLastMsec, h.fitLastMsec]
  fillHostLastMsec := by rw [hq'.fillHostLastMsec, hq.fillHostLastMsec, h.fillHostLastMsec]

/-- What was decided is read from fields that alike windows share. -/
theorem sizeDecisions (h : Alike win win') : win.sizeDecisions = win'.sizeDecisions := by
  unfold Window.sizeDecisions
  rw [h.output, h.xdg.configureList]
  congr 1
  cases ho : win.output.isSome with
  | false => rfl
  | true => rw [h.sizeFromWm ho]

/-- Both windows take the same branch, since the test is on what they share. -/
theorem ite {c : Prop} [Decidable c] {u u' : Window} (hthen : c → Alike win win') (helse : ¬c → Alike u u') :
    Alike (if c then win else u) (if c then win' else u') := by
  split
  · exact hthen ‹_›
  · exact helse ‹_›

/-- Whether the client is tiled is read of a window with an output only. -/
theorem tiled (h : Alike win win') (ho : win.output.isSome = true) : win'.tiled = win.tiled := by
  have hstate {s t : ToplevelState} (heq : s.unfocused = t.unfocused) : s.tiled = t.tiled :=
    (congrArg ToplevelState.tiled heq :)
  unfold Window.tiled
  rw [hstate (h.xdg.current ho), hstate (h.xdg.pending (.inl ho))]

/-- The fit of an alike window decides on the same numbers, once there is a host window. -/
theorem fitAgrees (h : Alike win win') (ho : win.output.isSome = true) : FitAgrees win win' :=
  ⟨h.output, h.lastClientConf, h.fitLast, h.fitPrev, h.fitLastMsec, h.xdg.geometry, h.xdg.surfaceSize,
    h.tiled ho⟩

/-- The size for the output is computed from the host window, the margin and the geometry. -/
theorem wlxToplevelSizeForOutput [CInt] (h : Alike win win') :
    Window.wlxToplevelSizeForOutput cfg win' = Window.wlxToplevelSizeForOutput cfg win := by
  unfold Window.wlxToplevelSizeForOutput
  rw [h.output, h.csdMargin]
  cases ho : win.output with
  | none => rfl
  | some out =>
    rw [h.tiled (by rw [ho]; rfl)]

theorem wlxToplevelSetSize (h : Alike win win') (size : Size) :
    Alike (win.wlxToplevelSetSize size) (win'.wlxToplevelSetSize size) := by
  have hscheduled (x : XdgSurface) : (x.setSize size).scheduled.unfocused =
      { x.scheduled.unfocused with size := size } := by
    rw [XdgSurface.setSize, XdgSurface.scheduleConfigure_scheduled]
    rfl
  have hxdg := h.xdg.of_scheduled (XdgSurface.setSize_configured win.xdg size).toScheduled
    (XdgSurface.setSize_configured win'.xdg size).toScheduled (by
      rw [hscheduled, hscheduled, h.xdg.scheduled])
  refine { h with xdg := hxdg, lastClientConf := ?_ }
  show (if size.isSet then size else win'.lastClientConf) = if size.isSet then size else win.lastClientConf
  rw [h.lastClientConf]

/-- The fill is held back by its own clock, which alike windows share. -/
theorem wlxToplevelFillHost [CInt] (h : Alike win win') (now : Int) :
    Alike (win.wlxToplevelFillHost cfg now) (win'.wlxToplevelFillHost cfg now) := by
  have hconf (size : Size) : win'.confOk size = win.confOk size := by
    unfold confOk geometryOrZero
    rw [h.xdg.geometry]
  have hlast (size : Size) : win'.lastOk size = win.lastOk size := by
    unfold lastOk
    rw [h.lastClientConf]
  -- what the client has, what it was told last and when it was told again
  unfold Window.wlxToplevelFillHost
  dsimp only
  rw [h.wlxToplevelSizeForOutput, hconf, hlast, h.fillHostLastMsec]
  refine ite (fun _ => h) fun _ => ite (fun _ => h) fun _ =>
    ite (fun _ => ite (fun _ => h) fun _ => ?_) fun _ =>
    h.wlxToplevelSetSize _
  have hnoted : Alike { win with fillHostLastMsec := now } { win' with fillHostLastMsec := now } :=
    { h with fillHostLastMsec := rfl }
  exact hnoted.wlxToplevelSetSize _

theorem outputCommit [CInt] (h : Alike win win') (now : Int) :
    Alike (win.outputCommit cfg now) (win'.outputCommit cfg now) := by
  unfold Window.outputCommit
  rw [h.output]
  cases ho : win.output with
  | none => exact h
  | some out =>
    have hsome : win.output.isSome = true := by rw [ho]; rfl
    have hxdg := h.xdg
    rw [hsome] at hxdg
    -- both compare with the same last size, so they fill or return together
    dsimp only
    rw [h.lastOutputSize hsome]
    refine ite (fun _ => h) fun _ => ite (fun _ => h) fun _ => wlxToplevelFillHost ?_ now
    exact { h with
      xdg := hxdg
      output := rfl
      lastOutputSize := fun _ => rfl
      sizeFromWm := fun _ => h.sizeFromWm hsome }

theorem withOutput (h : Alike win win') (ho : win.output.isSome = true) (out : X11Output) :
    Alike { win with output := some out } { win' with output := some out } := by
  have hxdg := h.xdg
  rw [ho] at hxdg
  exact { h with
    xdg := hxdg
    output := rfl
    lastOutputSize := fun _ => h.lastOutputSize ho
    sizeFromWm := fun _ => h.sizeFromWm ho }

/-- The host's answer comes from outside, the same for both. -/
theorem commitOutput [CInt] (h : Alike win win') (now : Int) (size : Size) (outcome : CommitOutcome) :
    Alike (win.commitOutput cfg now size outcome) (win'.commitOutput cfg now size outcome) := by
  unfold Window.commitOutput
  rw [h.output]
  cases ho : win.output with
  | none => exact h
  | some out =>
    have hset := h.withOutput (by rw [ho]; rfl) (out.commitState size outcome).1
    dsimp only
    exact ite (fun _ => hset.outputCommit now) fun _ => hset

theorem resizeOutputTo [CInt] (h : Alike win win') (cfg : Config) (now : Int) (size : Size)
    (outcome : CommitOutcome) :
    Alike (win.resizeOutputTo cfg now size outcome) (win'.resizeOutputTo cfg now size outcome) := by
  unfold Window.resizeOutputTo
  rw [h.output]
  cases ho : win.output with
  | none => exact h
  | some out =>
    -- too small and unchanged sizes are refused by both
    dsimp only
    refine ite (fun _ => h) fun _ => ite (fun _ => h) fun _ => ?_
    have hcommit : Alike (win.commitOutput cfg now size outcome) (win'.commitOutput cfg now size outcome) :=
      h.commitOutput now size outcome
    refine { hcommit with lastOutputSize := fun hsome => ?_ }
    have hsome' : (win.commitOutput cfg now size outcome).output.isSome = true := hsome
    rw [hcommit.output]
    obtain ⟨out', hout'⟩ := Option.isSome_iff_exists.mp hsome'
    rw [hout']

theorem fitHost [CInt] (h : Alike win win') (now : Int) (outcome : CommitOutcome) (host conf : Size) :
    Alike (win.fitHost cfg now outcome host conf) (win'.fitHost cfg now outcome host conf) := by
  have hnoted : Alike { win with fitPrev := win.fitLast, fitLast := host, fitLastMsec := now }
      { win' with fitPrev := win'.fitLast, fitLast := host, fitLastMsec := now } :=
    { h with fitPrev := h.fitLast, fitLast := rfl, fitLastMsec := rfl }
  have hresized := hnoted.resizeOutputTo cfg now host outcome
  unfold Window.fitHost
  dsimp only
  rw [hresized.lastClientConf]
  exact ite (fun _ => hresized.wlxToplevelSetSize conf) fun _ => hresized

theorem runDecision [CInt] (h : Alike win win') (now : Int) (outcome : CommitOutcome) (d : FitDecision) :
    Alike (win.runDecision cfg now outcome d) (win'.runDecision cfg now outcome d) := by
  cases d with
  | fit host conf => exact h.fitHost now outcome host conf
  | oscillation => exact h
  | hold => exact h.wlxToplevelFillHost now
  | idle => exact h

/-- The whole fit: the same decision, carried out on both. -/
theorem fitWindow [CInt] (h : Alike win win') (now : Int) (outcome : CommitOutcome) :
    Alike (win.fitWindow cfg now outcome) (win'.fitWindow cfg now outcome) := by
  unfold Window.fitWindow
  rw [h.output]
  cases ho : win.output with
  | none => exact h
  | some out =>
    have hsome : win.output.isSome = true := by rw [ho]; rfl
    have hagrees := h.fitAgrees hsome
    have hrelease : Alike (win.releaseHostSize cfg out) (win'.releaseHostSize cfg out) := by
      refine { h with sizeFromWm := fun _ => ?_ }
      show (win'.sizeFromWm && !assertShrink cfg win' out) = (win.sizeFromWm && !assertShrink cfg win out)
      rw [h.sizeFromWm hsome, hagrees.assertShrink]
    -- both have given the size back or neither has, and the rest of the decision reads what agrees
    dsimp only
    rw [hagrees.releaseHostSize.fitDecision (hrelease.sizeFromWm hsome)]
    exact hrelease.runDecision now outcome _

theorem trackCsdMargin (h : Alike win win') : Alike win.trackCsdMargin win'.trackCsdMargin := by
  unfold Window.trackCsdMargin
  dsimp only
  rw [h.xdg.geometry, h.xdg.surfaceSize]
  refine ite (fun _ => ?_) fun _ => h
  exact { h with csdMargin := rfl }

theorem surfaceCommit [CInt] (h : Alike win win') (now : Int) (outcome : CommitOutcome) :
    Alike (win.surfaceCommit cfg now outcome) (win'.surfaceCommit cfg now outcome) := by
  have hquiet (w : Window) : Quiet w (w.dropHold cfg).sendInitialConfigure.applyPendingDecoration :=
    ((Quiet.dropHold cfg w).trans (.sendInitialConfigure _)).trans (.applyPendingDecoration _)
  exact ((h.of_quiet (hquiet win) (hquiet win')).trackCsdMargin).fitWindow now outcome

/-! ### Commits -/

/-- What a commit does to the role depends on the commit and on what it finds acknowledged. -/
theorem roleCommitted (h : Alike win win') (c : SurfaceCommit) :
    Alike (win.roleCommitted c) (win'.roleCommitted c) := by
  refine { h with
    xdg := { h.xdg with
      initialized := rfl, hasBuffer := ?_, surfaceSize := ?_, geometry := ?_, current := ?_ } }
  · show win'.xdg.hasBufferAfter c = win.xdg.hasBufferAfter c
    simp only [XdgSurface.hasBufferAfter, h.xdg.hasBuffer]
  · show win'.xdg.surfaceSizeAfter c = win.xdg.surfaceSizeAfter c
    simp only [XdgSurface.surfaceSizeAfter, h.xdg.surfaceSize]
  · exact congrArg c.geometry.getD h.xdg.geometry
  · exact fun hshown => h.xdg.pending (.inl hshown)

/-- A new output is the same for both, and from then on the states that apply are. -/
theorem createOutputForWindow [CInt] (h : Alike win win') (env : MapEnv)
    (hcurrent : win'.xdg.current.unfocused = win.xdg.current.unfocused)
    (hpending : win'.xdg.pending.unfocused = win.xdg.pending.unfocused) :
    Alike (win.createOutputForWindow cfg env) (win'.createOutputForWindow cfg env) := by
  have hpref : toplevelPreferredSize cfg win'.xdg = toplevelPreferredSize cfg win.xdg := by
    unfold toplevelPreferredSize committedSize
    rw [h.xdg.geometry, h.xdg.surfaceSize]
  unfold Window.createOutputForWindow
  rw [hpref]
  -- the mode and its owner are new in both, whatever they were
  refine ite (fun _ => wlxToplevelSetSize ?_ _) fun _ => ?_
  · exact { h with
      xdg := { h.xdg with current := fun _ => hcurrent, pending := fun _ => hpending }
      output := rfl
      lastOutputSize := fun _ => rfl
      sizeFromWm := fun _ => rfl }
  · exact { h with sizeFromWm := fun _ => rfl }

/-- The map reads the states of the client, and these have to agree here. -/
theorem xdgToplevelMap [CInt] (h : Alike win win') (env : MapEnv)
    (hcurrent : win'.xdg.current.unfocused = win.xdg.current.unfocused)
    (hpending : win'.xdg.pending.unfocused = win.xdg.pending.unfocused) :
    Alike (win.xdgToplevelMap cfg env) (win'.xdgToplevelMap cfg env) := by
  have hcreate : Alike (win.createOutputForWindow cfg env) (win'.createOutputForWindow cfg env) :=
    h.createOutputForWindow env hcurrent hpending
  unfold Window.xdgToplevelMap
  dsimp only
  rw [h.output, hcreate.output]
  refine ite (fun _ => h) fun _ => ite (fun _ => ?_) fun _ => hcreate
  exact hcreate.of_quiet (.setActiveWindow _) (.setActiveWindow _)

theorem mapOnBuffer [CInt] (h : Alike win win') (env : MapEnv)
    (hcurrent : win.xdg.hasBuffer = true → win'.xdg.current.unfocused = win.xdg.current.unfocused)
    (hpending : win.xdg.hasBuffer = true → win'.xdg.pending.unfocused = win.xdg.pending.unfocused) :
    Alike (win.mapOnBuffer cfg env) (win'.mapOnBuffer cfg env) := by
  unfold Window.mapOnBuffer
  rw [h.xdg.mapped, h.xdg.hasBuffer]
  refine ite (fun hmap => xdgToplevelMap ?_ env ?_ ?_) fun _ => h
  · exact { h with xdg := { h.xdg with mapped := rfl } }
  · exact hcurrent (Bool.and_eq_true _ _ ▸ hmap).2
  · exact hpending (Bool.and_eq_true _ _ ▸ hmap).2

/-- A commit. One that unmaps resets both surfaces, whatever was acknowledged. -/
theorem applyCommit [CInt] (h : Alike win win') (hinv : Inv win) (hinv' : Inv win') (env : MapEnv)
    {c : SurfaceCommit} (hallowed : win.xdg.commitAllowed c = true) :
    Alike (win.applyCommit cfg env c) (win'.applyCommit cfg env c) := by
  have hsame : win'.xdg.unmapCommit c = win.xdg.unmapCommit c := by
    unfold XdgSurface.unmapCommit
    rw [h.xdg.mapped]
  have hrole := h.roleCommitted c
  cases hunmap : win.xdg.unmapCommit c with
  | true =>
    -- nothing is shown, and no configure is acknowledged any more
    rw [applyCommit_of_unmap cfg env hinv hunmap, applyCommit_of_unmap cfg env hinv' (hsame.trans hunmap)]
    exact { hrole with
      xdg := { hrole.xdg with
        initialized := rfl
        configured := rfl
        mapped := rfl
        configureList := rfl
        current := fun hshown => nomatch hshown
        pending := fun hor => nomatch hor
        scheduled := h.xdg.scheduled }
      output := rfl
      lastOutputSize := fun hsome => nomatch hsome
      sizeFromWm := fun hsome => nomatch hsome }
  | false =>
    rw [applyCommit_of_not_unmap cfg env hunmap, applyCommit_of_not_unmap cfg env (hsame.trans hunmap)]
    -- a buffer comes after an acknowledgement, and what was acknowledged is the same
    have hpending (hbuf : win.xdg.hasBufferAfter c = true) :
        win'.xdg.pending.unfocused = win.xdg.pending.unfocused :=
      h.xdg.pending (.inr (XdgSurface.configured_of_hasBufferAfter hallowed hbuf))
    exact hrole.mapOnBuffer env hpending hpending

/-! ### Host events -/

theorem mirrorSize (h : Alike win win') (on : Bool) : Alike (win.mirrorSize on) (win'.mirrorSize on) := by
  cases on
  · exact { h with sizeFromWm := fun _ => rfl }
  · exact { h with sizeFromWm := fun _ => rfl, csdMargin := rfl }

/-- A state other than the size is set in both. -/
theorem setState (h : Alike win win') {f : ToplevelState → ToplevelState}
    (hf : ∀ s, (f s).unfocused = f s.unfocused) :
    Alike { win with xdg := win.xdg.setState f } { win' with xdg := win'.xdg.setState f } := by
  have hxdg := h.xdg.of_scheduled (XdgSurface.setState_keeps f win.xdg)
    (XdgSurface.setState_keeps f win'.xdg) (by
    rw [XdgSurface.setState_scheduled, XdgSurface.setState_scheduled, hf, hf, h.xdg.scheduled])
  exact { h with xdg := hxdg }

/-- The window manager maximizes both windows, or none. -/
theorem mirrorMaximized (h : Alike win win') (ho : win.output.isSome = true) (maximized : Bool) :
    Alike (win.mirrorMaximized maximized) (win'.mirrorMaximized maximized) := by
  have hcurrent : win'.xdg.current.maximized = win.xdg.current.maximized :=
    (congrArg ToplevelState.maximized (h.xdg.current ho) :)
  have hpending : win'.xdg.pending.maximized = win.xdg.pending.maximized :=
    (congrArg ToplevelState.maximized (h.xdg.pending (.inl ho)) :)
  unfold Window.mirrorMaximized
  rw [hcurrent, hpending]
  refine ite (fun _ => h) fun _ => ?_
  have hset := h.setState (f := ({ · with maximized := maximized })) fun _ => rfl
  have hmirror := hset.mirrorSize maximized
  cases maximized <;> exact hmirror

theorem mirrorFullscreen (h : Alike win win') (ho : win.output.isSome = true) (fullscreen : Bool) :
    Alike (win.mirrorFullscreen fullscreen) (win'.mirrorFullscreen fullscreen) := by
  have hcurrent : win'.xdg.current.fullscreen = win.xdg.current.fullscreen :=
    (congrArg ToplevelState.fullscreen (h.xdg.current ho) :)
  have hpending : win'.xdg.pending.fullscreen = win.xdg.pending.fullscreen :=
    (congrArg ToplevelState.fullscreen (h.xdg.pending (.inl ho)) :)
  unfold Window.mirrorFullscreen
  rw [hcurrent, hpending]
  refine ite (fun _ => h) fun _ => ?_
  have hset := h.setState (f := ({ · with fullscreen := fullscreen })) fun _ => rfl
  have hmirror := hset.mirrorSize fullscreen
  cases fullscreen <;> exact hmirror

/-- The states of `_NET_WM_STATE` are mirrored, and then the frame is dropped or kept. -/
theorem winHandleNetWmStateNotify [CInt] (h : Alike win win') (ho : win.output.isSome = true)
    (hsent : win.initialConfigureSent = true) (hsent' : win'.initialConfigureSent = true) (now : Int)
    (replies : List (Option (List NetWmAtom))) :
    Alike (win.winHandleNetWmStateNotify cfg now replies)
      (win'.winHandleNetWmStateNotify cfg now replies) := by
  unfold Window.winHandleNetWmStateNotify
  rw [if_pos hsent, if_pos hsent']
  -- both read the same reply
  cases readNetWmState replies with
  | none => exact h
  | some host =>
    have hmax := h.mirrorMaximized ho host.maximized
    have hmirror := hmax.mirrorFullscreen ((mirrorMaximized_step host.maximized win).output.trans ho)
      host.fullscreen
    dsimp only
    rw [hmirror.output]
    exact ite (fun _ => hmirror.wlxToplevelFillHost now) fun _ => hmirror

/-- A notification from the host passes the filter in both windows or in none. -/
theorem configureNotify [CInt] (h : Alike win win') (hsent : win.initialConfigureSent = true)
    (hsent' : win'.initialConfigureSent = true) (now : Int) (replies : List (Option (List NetWmAtom)))
    (outcome : CommitOutcome) (ev : ConfigureNotify) :
    Alike (win.configureNotify cfg now replies outcome ev)
      (win'.configureNotify cfg now replies outcome ev) := by
  unfold Window.configureNotify
  rw [h.output]
  cases ho : win.output with
  | none => exact h
  | some out =>
    have hset := h.withOutput (by rw [ho]; rfl) (out.handleX11ConfigureNotify ev).1
    dsimp only
    cases (out.handleX11ConfigureNotify ev).2 with
    | none => exact hset
    | some req =>
      unfold outputRequestState
      dsimp only
      refine ite (fun _ => hset) fun _ => ite (fun _ => hset) fun _ => commitOutput ?_ now req outcome
      -- the host owns the size in both, before its states are read
      have howned : Alike { win with output := some (out.handleX11ConfigureNotify ev).1, sizeFromWm := true }
          { win' with output := some (out.handleX11ConfigureNotify ev).1, sizeFromWm := true } :=
        { hset with sizeFromWm := fun _ => rfl }
      exact howned.winHandleNetWmStateNotify rfl hsent hsent' now replies

theorem reparentSync [CInt] (h : Alike win win') (now : Int) (outcome : CommitOutcome) (drawable : Size) :
    Alike (win.reparentSync cfg now outcome drawable) (win'.reparentSync cfg now outcome drawable) := by
  unfold Window.reparentSync
  rw [h.output]
  cases ho : win.output with
  | none => exact h
  | some out =>
    dsimp only
    exact ite (fun _ => (h.resizeOutputTo cfg now drawable outcome).wlxToplevelSetSize _) fun _ => h

/-! ### Configures and requests -/

/-- What is sent differs at most in the focus. -/
theorem sendConfigure (h : Alike win win') :
    Alike { win with xdg := win.xdg.sendConfigure } { win' with xdg := win'.xdg.sendConfigure } := by
  refine { h with xdg := { h.xdg with configureList := ?_ } }
  simp only [XdgSurface.sendConfigure, List.map_append, List.map_cons, List.map_nil, h.xdg.configureList,
    h.xdg.scheduled]

/-- The client acknowledges the configure at the same place of both lists. -/
theorem ackConfigure (h : Alike win win') (n : Nat) :
    Alike { win with xdg := win.xdg.ackConfigure n } { win' with xdg := win'.xdg.ackConfigure n } := by
  have hlist := h.xdg.configureList
  have hnth : win'.xdg.configureList[n]?.map (·.unfocused) = win.xdg.configureList[n]?.map (·.unfocused) := by
    rw [← List.getElem?_map, ← List.getElem?_map, hlist]
  unfold XdgSurface.ackConfigure
  -- the lists have the same lengths, and the configures differ in focus at most
  cases hn : win.xdg.configureList[n]? with
  | none =>
    rw [hn, Option.map_none, Option.map_eq_none_iff] at hnth
    rw [hnth]
    exact h
  | some configure =>
    rw [hn, Option.map_some] at hnth
    obtain ⟨configure', hn', hsame⟩ := Option.map_eq_some_iff.mp hnth
    rw [hn']
    refine { h with xdg := { h.xdg with configured := rfl, configureList := ?_, pending := fun _ => hsame } }
    show (win'.xdg.configureList.drop (n + 1)).map _ = (win.xdg.configureList.drop (n + 1)).map _
    rw [List.map_drop, List.map_drop, hlist]

end Alike

/-- The client asks for a state, and is configured to it, except before the initial configure. -/
def request (f : ToplevelState → ToplevelState) (win : Window) : Window :=
  if win.initialConfigureSent then { win with xdg := win.xdg.setState f } else win

section Request

variable {win win' : Window} {f : ToplevelState → ToplevelState}

theorem handle_requestMaximize [CInt] (cfg : Config) (want : Bool) (win : Window) :
    handle cfg win (.requestMaximize want) = win.request ({ · with maximized := want }) := rfl

theorem handle_requestFullscreen [CInt] (cfg : Config) (want : Bool) (win : Window) :
    handle cfg win (.requestFullscreen want) = win.request ({ · with fullscreen := want }) := rfl

/-- A request for a state goes no further than the schedule. -/
theorem request_keeps (f : ToplevelState → ToplevelState) (win : Window) :
    win.xdg.Scheduled (win.request f).xdg := by
  unfold request
  split
  · exact XdgSurface.setState_keeps f win.xdg
  · exact .refl _

/-- It decides on no size by itself. -/
theorem request_sizeDecisions (win : Window) : (win.request f).sizeDecisions = win.sizeDecisions := by
  have hlist := (request_keeps f win).configureList
  unfold sizeDecisions
  rw [hlist]
  unfold request
  split <;> rfl

/-- A window that awaits its initial commit again fails an assertion; as long as none does, the windows
remain alike. -/
theorem request_alike (h : Alike win win') (hinv : Inv win) (hinv' : Inv win')
    (hf : ∀ s, (f s).unfocused = f s.unfocused) (halive : (win.request f).xdg.aborted = false)
    (halive' : (win'.request f).xdg.aborted = false) : Alike (win.request f) (win'.request f) := by
  cases hi : win.xdg.initialized with
  | true =>
    unfold request
    rw [if_pos (hinv.sent hi), if_pos (hinv'.sent (h.xdg.initialized.trans hi))]
    exact h.setState hf
  | false =>
    -- a request that schedules a configure now has failed the assertion
    have hunchanged {w : Window} (hw : w.xdg.initialized = false)
        (hlive : (w.request f).xdg.aborted = false) :
        w.request f = w := by
      unfold request at hlive ⊢
      split
      · rename_i hsent
        rw [if_pos hsent, XdgSurface.setState_aborted hw] at hlive
        cases hlive
      · rfl
    rw [hunchanged hi halive, hunchanged (h.xdg.initialized.trans hi) halive']
    exact h

end Request

section Step

variable {cfg : Config} {win win' v v' : Window}

/-- Two windows that are alike, unless an assertion has failed for one. -/
def AlikeWhileAlive (win win' : Window) : Prop :=
  win.sizeDecisions = win'.sizeDecisions ∧
    (win.xdg.aborted = false → win'.xdg.aborted = false → Alike win win')

/-- Alike windows are alike as long as both live. -/
theorem Alike.whileAlive (h : Alike win win') : AlikeWhileAlive win win' := ⟨h.sizeDecisions, fun _ _ => h⟩

/-- Only one of two windows may be aborted by a request: it is the one that is not initialized. -/
theorem Alike.request (h : Alike win win') (hinv : Inv win) (hinv' : Inv win')
    {f : ToplevelState → ToplevelState}
    (hf : ∀ s, (f s).unfocused = f s.unfocused) : AlikeWhileAlive (win.request f) (win'.request f) := by
  refine ⟨?_, request_alike h hinv hinv' hf⟩
  rw [request_sizeDecisions, request_sizeDecisions, h.sizeDecisions]

/-- **Alike windows take alike steps.** One case per event. -/
theorem Alike.step [CInt] (h : Alike win win') (hinv : Inv win) (hinv' : Inv win') {a : Action}
    (hstep : Wlx.step cfg win a = some v) (hstep' : Wlx.step cfg win' a = some v') :
    AlikeWhileAlive v v' := by
  obtain ⟨-, hen, rfl⟩ := step_eq_some.mp hstep
  obtain ⟨-, -, rfl⟩ := step_eq_some.mp hstep'
  have hsent (ho : win.output.isSome = true) :
      win.initialConfigureSent = true ∧ win'.initialConfigureSent = true :=
    ⟨hinv.sent (hinv.ready_of_output ho), hinv'.sent (hinv'.ready_of_output (h.output ▸ ho))⟩
  cases a with
  | commit c now env outcome =>
    exact ((h.applyCommit hinv hinv' env hen).surfaceCommit now outcome).whileAlive
  | ackConfigure n => exact (h.ackConfigure n).whileAlive
  | sendConfigure => exact h.sendConfigure.whileAlive
  | requestMaximize want =>
    exact h.request (f := ({ · with maximized := want })) hinv hinv' fun _ => rfl
  | requestFullscreen want =>
    exact h.request (f := ({ · with fullscreen := want })) hinv hinv' fun _ => rfl
  | newDecoration =>
    have hnew : Alike { win with decoration := true } { win' with decoration := true } := { h with }
    exact (hnew.of_quiet (.wlxDecorationApplyMode _) (.wlxDecorationApplyMode _)).whileAlive
  | requestDecorationMode =>
    exact (h.of_quiet (.wlxDecorationApplyMode _) (.wlxDecorationApplyMode _)).whileAlive
  | destroyDecoration =>
    have hgone : Alike win.decorationDestroy win'.decorationDestroy := { h with }
    exact hgone.whileAlive
  | focusIn => exact (h.of_quiet (.setActiveWindow _) (.setActiveWindow _)).whileAlive
  | focusOut => exact (h.of_quiet (.setInactive _) (.setInactive _)).whileAlive
  | netWmState replies now =>
    obtain ⟨hs, hs'⟩ := hsent hen
    exact (h.winHandleNetWmStateNotify hen hs hs' now replies).whileAlive
  | configureNotify ev replies now outcome =>
    obtain ⟨hs, hs'⟩ := hsent hen
    exact (h.configureNotify hs hs' now replies outcome ev).whileAlive
  | reparent drawable now outcome => exact (h.reparentSync now outcome drawable).whileAlive
  -- other traffic only moves the request number of the host window
  | otherRequests n =>
    refine Alike.whileAlive ?_
    show Alike { win with output := win.output.map (·.otherRequests n) }
      { win' with output := win'.output.map (·.otherRequests n) }
    cases ho : win.output with
    | none =>
      have hsame (w : Window) (hw : w.output = none) :
          { w with output := w.output.map (·.otherRequests n) } = w := by
        rw [hw, Option.map_none, ← hw]
      rw [← ho, hsame win ho, hsame win' (h.output.trans ho)]
      exact h
    | some out =>
      rw [h.output, ho]
      exact h.withOutput (by rw [ho]; rfl) (out.otherRequests n)

/-- **Alike windows make the same decisions**, whatever comes. -/
theorem Alike.run [CInt] (h : Alike win win') (hinv : Inv win) (hinv' : Inv win') {as : List Action}
    (hrun : Run.run (Wlx.step cfg) win as = some v) (hrun' : Run.run (Wlx.step cfg) win' as = some v') :
    v.sizeDecisions = v'.sizeDecisions := by
  have hall : (Inv v ∧ Inv v') ∧ AlikeWhileAlive v v' := by
    -- both invariants are carried along: a step needs them to know what was configured
    refine Run.run_related (R := fun w w' => (Inv w ∧ Inv w') ∧ AlikeWhileAlive w w') ?_
      ⟨⟨hinv, hinv'⟩, h.whileAlive⟩ hrun hrun'
    rintro w w' a u u' ⟨⟨hw, hw'⟩, -, halike⟩ hstep hstep'
    have halive := (step_eq_some.mp hstep).1
    have halive' := (step_eq_some.mp hstep').1
    exact ⟨⟨hw.step hstep, hw'.step hstep'⟩, (halike halive halive').step hw hw' hstep hstep'⟩
  exact hall.2.1

end Step

end Window

end Wlx
