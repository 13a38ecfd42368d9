import WlX11.FitPolicy
import WlX11.ModeRecord

/-!
# WlX11 — one round trip between host and client

While a window's size is the host's, the client is configured with the size that fills the host window,
commits it, and there the exchange should end: the same commit once more has nothing to answer. The
configured size is the host size unscaled less the CSD margin; the committed size is compared after the
margin is added and the sum is scaled, so the two sizes may differ. What ends the exchange then is
`conf_ok` of `wlx_toplevel_fill_host`, and that looks at the window geometry only.

* **`Repeats`** — the commit applies nothing the surface does not have already.
* **`Rests`** / **`Talks`** — the two kinds of state a round trip leaves: in the first the commit may be
  repeated at any time without effect, in the second there is a time at which it is answered.
* **`round_trip_settles_iff`** — which round trip leaves which.
-/

namespace Wlx

open X11Output (CommitOutcome)
open Window (MapEnv)

/-! ## Repeated commits -/

/-- The commit applies nothing new: buffer, geometry and acknowledged state are those of the surface,
which is mapped and stays so. -/
structure Repeats (c : SurfaceCommit) (x : XdgSurface) : Prop where
  mapped : x.mapped = true
  initialized : x.initialized = true
  initialCommit : x.initialCommit = false
  attached : c.buffer ≠ .detach
  hasBuffer : x.hasBufferAfter c = x.hasBuffer
  surfaceSize : x.surfaceSizeAfter c = x.surfaceSize
  geometry : c.geometry.getD x.geometry = x.geometry
  current : x.current = x.pending

namespace Repeats

variable {c : SurfaceCommit} {x y : XdgSurface}

/-- A commit that has been applied repeats itself. -/
theorem roleCommit (hm : x.mapped = true) (hi : x.initialized = true) (hu : c.buffer ≠ .detach) :
    Repeats c ((x.applyPending c).roleCommit false) where
  mapped := hm
  initialized := rfl
  initialCommit := by simp [XdgSurface.roleCommit, XdgSurface.applyPending, hi]
  attached := hu
  hasBuffer := by
    cases hb : c.buffer <;>
      simp [XdgSurface.roleCommit, XdgSurface.applyPending, XdgSurface.hasBufferAfter, hb]
  surfaceSize := by
    cases hb : c.buffer <;>
      simp [XdgSurface.roleCommit, XdgSurface.applyPending, XdgSurface.surfaceSizeAfter, hb]
  geometry := by
    cases hg : c.geometry <;> simp [XdgSurface.roleCommit, XdgSurface.applyPending, hg]
  current := rfl

/-- Scheduling a configure leaves what the commit carries. -/
theorem scheduled (h : Repeats c x) (hs : x.Scheduled y) : Repeats c y := by
  obtain ⟨hm, hi, hic, hu, hb, hsz, hg, hcur⟩ := h
  -- only what is scheduled may be another
  have hframe := hs.frame
  have hbuffer : y.hasBufferAfter c = x.hasBufferAfter c := by
    unfold XdgSurface.hasBufferAfter
    rw [hs.hasBuffer]
  have hsize : y.surfaceSizeAfter c = x.surfaceSizeAfter c := by
    unfold XdgSurface.surfaceSizeAfter
    rw [hs.surfaceSize]
  refine ⟨hs.mapped.trans hm, hs.initialized.trans hi, ?_, hu, ?_, ?_, ?_, ?_⟩
  · exact (congrArg XdgSurface.initialCommit hframe :).trans hic
  · rw [hbuffer, hb, hs.hasBuffer]
  · rw [hsize, hsz, hs.surfaceSize]
  · rw [hs.geometry]
    exact hg
  · rw [hs.current, hs.pending]
    exact hcur

/-- So does sending one. -/
theorem sendConfigure (h : Repeats c x) : Repeats c x.sendConfigure :=
  ⟨h.mapped, h.initialized, h.initialCommit, h.attached, h.hasBuffer, h.surfaceSize, h.geometry,
    h.current⟩

/-- wlroots changes nothing for such a commit. -/
theorem roleCommitted_eq {win : Window} (h : Repeats c win.xdg) : win.roleCommitted c = win := by
  -- the flags an initial commit sets are set already
  have hsame (x : XdgSurface) (hi : x.initialized = true) (hic : x.initialCommit = false) :
      { x with initialCommit := false, initialized := true } = x := by
    cases x
    subst hi hic
    rfl
  have hx : (win.xdg.applyPending c).roleCommit false = win.xdg := by
    show { win.xdg with
      initialCommit := !win.xdg.initialized
      initialized := true
      hasBuffer := win.xdg.hasBufferAfter c
      surfaceSize := win.xdg.surfaceSizeAfter c
      geometry := c.geometry.getD win.xdg.geometry
      current := win.xdg.pending } = win.xdg
    rw [h.hasBuffer, h.surfaceSize, h.geometry, ← h.current, h.initialized]
    exact hsame win.xdg h.initialized h.initialCommit
  unfold Window.roleCommitted
  rw [hx]

/-- A repeated commit has a buffer, if the first one had. -/
theorem not_unmap {win : Window} (h : Repeats c win.xdg) : win.xdg.unmapCommit c = false := by
  simp [XdgSurface.unmapCommit, h.attached]

end Repeats

/-- A commit drops the hold or keeps it. -/
theorem Window.dropHold_eq [CInt] (cfg : Config) (win : Window) :
    ∃ hold, Window.dropHold cfg win = { win with holdPresent := hold } := by
  unfold Window.dropHold
  split
  · exact ⟨win.holdPresent, rfl⟩
  · dsimp only
    split <;> split <;> exact ⟨_, rfl⟩

/-- The margin is the surface without its geometry. -/
theorem Window.trackCsdMargin_csdMargin (win : Window) :
    win.trackCsdMargin.csdMargin =
      if win.xdg.geometry.size.isSet && win.xdg.surfaceSize.isSet then
        ⟨max 0 (win.xdg.surfaceSize.width - win.xdg.geometry.width),
          max 0 (win.xdg.surfaceSize.height - win.xdg.geometry.height)⟩
      else win.csdMargin := by
  unfold Window.trackCsdMargin
  dsimp only
  split <;> rfl

/-- A window at which the commit is repeated: nothing of the map is left to do, and the margin is
tracked. -/
structure Settled (c : SurfaceCommit) (win : Window) : Prop where
  repeats : Repeats c win.xdg
  sent : win.initialConfigureSent = true
  deferred : win.pendingDecoration = false
  margin : win.trackCsdMargin.csdMargin = win.csdMargin

namespace Settled

variable {cfg : Config} {c : SurfaceCommit} {win win' : Window}

/-- The size policy acts on the scheduled size only. -/
theorem handled (h : Settled c win) (hs : win.HandlerStep win') (hm : win'.csdMargin = win.csdMargin) :
    Settled c win' := by
  refine ⟨h.repeats.scheduled hs.xdg, hs.initialConfigureSent.trans h.sent,
    hs.pendingDecoration.trans h.deferred, ?_⟩
  rw [Window.trackCsdMargin_csdMargin, hs.xdg.geometry, hs.xdg.surfaceSize, hm]
  rw [← Window.trackCsdMargin_csdMargin]
  exact h.margin

/-- It has been tracked already. -/
theorem trackCsdMargin_eq (h : Settled c win) : win.trackCsdMargin = win := by
  have hframe := Window.trackCsdMargin_frame win
  rw [← h.margin] at hframe
  exact hframe

/-- The hold is no part of it. -/
theorem held (h : Settled c win) (hold : Bool) : Settled c { win with holdPresent := hold } :=
  h.handled ⟨.refl _, rfl, rfl, rfl, rfl, rfl⟩ rfl

/-- Nor is the fit. -/
theorem fitWindow [CInt] (h : Settled c win) (cfg : Config) (now : Int) (outcome : CommitOutcome) :
    Settled c (Window.fitWindow cfg now outcome win) := by
  refine h.handled (Window.fitWindow_step cfg now outcome win) ?_
  rcases Window.fitWindow_cases cfg now outcome win with ⟨-, hw⟩ | ⟨out, -, hs⟩
  · rw [hw]
  · exact hs.csdMargin

/-- A repeated commit drops the hold, or does not, and is left with the fit. -/
theorem commit_eq [CInt] (h : Settled c win) (cfg : Config) (now : Int) (env : MapEnv)
    (outcome : CommitOutcome) :
    ∃ hold, win.wlSurfaceCommit cfg now env outcome c =
      Window.fitWindow cfg now outcome { win with holdPresent := hold } := by
  obtain ⟨hold, hdrop⟩ := Window.dropHold_eq cfg win
  have hheld := h.held hold
  refine ⟨hold, ?_⟩
  rw [Window.wlSurfaceCommit_of_mapped cfg now env outcome h.repeats.mapped h.repeats.not_unmap,
    h.repeats.roleCommitted_eq, Window.surfaceCommit, Window.prepareCommit, hdrop]
  have hprep : { win with holdPresent := hold
      }.sendInitialConfigure.applyPendingDecoration.trackCsdMargin =
        { win with holdPresent := hold } := by
    -- the initial configure is sent, no decoration waits, and the margin is known
    unfold Window.sendInitialConfigure
    rw [if_pos hheld.sent]
    unfold Window.applyPendingDecoration
    rw [if_neg (by simp [h.deferred])]
    exact hheld.trackCsdMargin_eq
  rw [hprep]

end Settled

/-! ## At rest, or not -/

namespace Window

/-- Everything the size policy reads of `win` reads the same in `win'`. -/
structure SameReads (win win' : Window) : Prop where
  geometry : win'.xdg.geometry = win.xdg.geometry
  surfaceSize : win'.xdg.surfaceSize = win.xdg.surfaceSize
  tiled : win'.tiled = win.tiled
  output : win'.output = win.output
  csdMargin : win'.csdMargin = win.csdMargin
  sizeFromWm : win'.sizeFromWm = win.sizeFromWm
  lastClientConf : win'.lastClientConf = win.lastClientConf

/-- States in which the commit can be repeated at any time: what it asks for is what the output has;
or the host owns the size and what the client was configured with, and has, is what fills it; or the
client owns the size, and the one it asks for cannot be had and has been answered. -/
inductive Rests [CInt] (cfg : Config) (win : Window) (out : X11Output) : Prop
  | agrees (h : sizeMismatch cfg win out = false)
  | filled (authority : win.sizeFromWm = true ∨ win.tiled = true)
      (unreleased : assertShrink cfg win out = false)
      (last : win.lastOk (wlxToplevelSizeForOutput cfg win) = true)
      (conf : win.confOk (wlxToplevelSizeForOutput cfg win) = true)
  | refused (owned : win.sizeFromWm = false) (floating : win.tiled = false)
      (small : takes (wantedHost cfg win) .ok = false)
      (answered : win.lastClientConf = geometryOrPreferred cfg win.xdg)

/-- States in which a repeated commit is answered sooner or later. In both the client has set no window
geometry, so `conf_ok` fails whatever it commits: the host owns the size, and the size configured last
is asserted again; or the client owns the size, and the output is fitted to it. -/
inductive Talks [CInt] (cfg : Config) (win : Window) (out : X11Output) : Prop
  | lags (mismatch : sizeMismatch cfg win out = true)
      (authority : win.sizeFromWm = true ∨ win.tiled = true)
      (unreleased : assertShrink cfg win out = false)
      (last : win.lastOk (wlxToplevelSizeForOutput cfg win) = true)
      (set : out.size.isSet = true)
  | fits (mismatch : sizeMismatch cfg win out = true) (owned : win.sizeFromWm = false)
      (floating : win.tiled = false)
      (unanswered : takes (wantedHost cfg win) .ok = true ∨
        win.lastClientConf ≠ geometryOrPreferred cfg win.xdg)
      (mode : win.lastOutputSize = out.size)

section Decisions

variable {cfg : Config} {win : Window} {out : X11Output}

/-- The host keeps the size unless the client asserts a smaller one. -/
theorem releaseHostSize_of_unreleased [CInt] (h : assertShrink cfg win out = false) :
    releaseHostSize cfg win out = win := by
  unfold releaseHostSize
  rw [h, Bool.not_false, Bool.and_true]

/-- A size that agrees asserts nothing. -/
theorem assertShrink_of_agrees [CInt] (h : sizeMismatch cfg win out = false) :
    assertShrink cfg win out = false := by
  simp [assertShrink, h]

/-- The fit, of a window that has an output. -/
theorem fitWindow_eq [CInt] (now : Int) (outcome : CommitOutcome) (ho : win.output = some out) :
    fitWindow cfg now outcome win = runDecision cfg now outcome (releaseHostSize cfg win out)
      (fitDecision cfg now (releaseHostSize cfg win out) out) := by
  simp only [fitWindow, ho]

/-- It has nothing to do where sizes agree. -/
theorem fitWindow_of_agrees [CInt] (now : Int) (outcome : CommitOutcome) (ho : win.output = some out)
    (h : sizeMismatch cfg win out = false) : fitWindow cfg now outcome win = win := by
  have hidle : fitDecision cfg now win out = .idle := by
    simp [fitDecision, wantFit, h]
  rw [fitWindow_eq now outcome ho, releaseHostSize_of_unreleased (assertShrink_of_agrees h), hidle]
  rfl

/-- Host authority over a window that does not match: the client is made to fill it. -/
theorem fitWindow_of_held [CInt] (now : Int) (outcome : CommitOutcome) (ho : win.output = some out)
    (hmismatch : sizeMismatch cfg win out = true) (hauth : win.sizeFromWm = true ∨ win.tiled = true)
    (hkept : assertShrink cfg win out = false) :
    fitWindow cfg now outcome win = wlxToplevelFillHost cfg now win := by
  have hnofit : wantFit cfg win out = false := by
    rcases hauth with h | h <;> simp [wantFit, h]
  have hhold : fitDecision cfg now win out = .hold := by
    simp [fitDecision, hnofit, hmismatch, hauth]
  rw [fitWindow_eq now outcome ho, releaseHostSize_of_unreleased hkept, hhold]
  rfl

/-- A client that owns the size of its floating window, and wants another one. -/
theorem fitWindow_of_owned [CInt] (now : Int) (outcome : CommitOutcome) (ho : win.output = some out)
    (hmismatch : sizeMismatch cfg win out = true) (howned : win.sizeFromWm = false)
    (hfloating : win.tiled = false) :
    fitWindow cfg now outcome win =
      if oscillates now win (wantedHost cfg win) then win
      else fitHost cfg now outcome (wantedHost cfg win) (geometryOrPreferred cfg win.xdg) win := by
  -- there is no host size to release
  have hreleased : releaseHostSize cfg win out = win := by
    unfold releaseHostSize
    rw [howned, Bool.false_and, ← howned]
  have hfit : wantFit cfg win out = true := by
    rw [wantFit_eq, hmismatch, howned, hfloating]
    rfl
  rw [fitWindow_eq now outcome ho, hreleased]
  unfold fitDecision
  dsimp only
  rw [if_pos hfit]
  show runDecision cfg now outcome win (if oscillates now win (wantedHost cfg win) then _ else _) = _
  split <;> rfl

/-- A mismatch wants another size of the host. -/
theorem wantedHost_ne [CInt] (h : sizeMismatch cfg win out = true) : wantedHost cfg win ≠ out.size := by
  intro heq
  unfold sizeMismatch at h
  rw [show cfg.scale (toplevelPreferredSize cfg win.xdg) = out.size from heq,
    Size.differs_self (by decide)] at h
  cases h

/-- A size that cannot be had is not tried. -/
theorem fitHost_of_refused [CInt] (now : Int) (outcome : CommitOutcome) {host : Size} (conf : Size)
    (h : takes host .ok = false) :
    fitHost cfg now outcome host conf win =
      let fitted := { win with fitPrev := win.fitLast, fitLast := host, fitLastMsec := now }
      if win.lastClientConf ≠ conf then fitted.wlxToplevelSetSize conf else fitted := by
  have hsmall : host.width < minOutputSize ∨ host.height < minOutputSize := by
    simp only [takes, decide_true, Bool.and_true, Bool.and_eq_false_iff, decide_eq_false_iff_not] at h
    omega
  -- whether there is an output or not
  have hrefuse : resizeOutputTo cfg now host outcome
      { win with fitPrev := win.fitLast, fitLast := host, fitLastMsec := now } =
        { win with fitPrev := win.fitLast, fitLast := host, fitLastMsec := now } := by
    unfold resizeOutputTo
    split
    · rfl
    · rw [if_pos hsmall]
  unfold fitHost
  dsimp only
  rw [hrefuse]

/-- The A→B→A guard is over after `WLX_FIT_OSCILLATION_MS`. -/
theorem oscillates_of_late {now : Int} {win : Window} (h : win.fitLastMsec + fitOscillationMs ≤ now)
    (host : Size) : oscillates now win host = false := by
  have hsince : ¬ (0 ≤ sinceFit now win ∧ sinceFit now win < fitOscillationMs) := by
    unfold sinceFit
    split <;> omega
  unfold oscillates
  simp only [Bool.and_eq_false_iff, decide_eq_false_iff_not]
  omega

end Decisions

/-! ## At rest -/

section Rest

variable {cfg : Config} {win win' : Window} {out : X11Output}

/-- A window reads as itself. -/
theorem SameReads.refl (win : Window) : SameReads win win := ⟨rfl, rfl, rfl, rfl, rfl, rfl, rfl⟩

/-- To rest depends on what the policy reads. -/
theorem Rests.congr [CInt] (h : Rests cfg win out) (hs : SameReads win win') : Rests cfg win' out := by
  obtain ⟨hgeo, hsurface, htiled, hout, hmargin, hown, hlast⟩ := hs
  have hpref : toplevelPreferredSize cfg win'.xdg = toplevelPreferredSize cfg win.xdg := by
    simp only [toplevelPreferredSize, committedSize, hgeo, hsurface]
    rfl
  have hconf : geometryOrPreferred cfg win'.xdg = geometryOrPreferred cfg win.xdg := by
    simp only [geometryOrPreferred, hpref, hgeo]
  have hfill : wlxToplevelSizeForOutput cfg win' = wlxToplevelSizeForOutput cfg win := by
    simp only [wlxToplevelSizeForOutput, hout, htiled, hmargin]
  cases h with
  -- each way to rest is read from the same fields
  | agrees h =>
    apply Rests.agrees
    rw [sizeMismatch, hpref]
    exact h
  | filled hauth hkept hl hc =>
    apply Rests.filled
    · rw [hown, htiled]
      exact hauth
    · rw [← hkept]
      simp only [assertShrink, sizeMismatch, confDiffers, hpref, hconf, htiled, hlast]
    · rw [lastOk, hfill, hlast]
      exact hl
    · rw [confOk, hfill, geometryOrZero, hgeo]
      exact hc
  | refused howned hfloating hsmall hanswered =>
    apply Rests.refused
    · exact hown.trans howned
    · exact htiled.trans hfloating
    · rw [wantedHost, hpref]
      exact hsmall
    · rw [hlast, hconf]
      exact hanswered

/-- **At rest, a fit does nothing**, except perhaps to record itself. -/
theorem Rests.fitWindow [CInt] (h : Rests cfg win out) (ho : win.output = some out) (now : Int)
    (outcome : CommitOutcome) :
    (Window.fitWindow cfg now outcome win).xdg = win.xdg ∧
      SameReads win (Window.fitWindow cfg now outcome win) := by
  cases hmismatch : sizeMismatch cfg win out with
  | false =>
    rw [fitWindow_of_agrees now outcome ho hmismatch]
    exact ⟨rfl, .refl win⟩
  | true =>
    cases h with
    | agrees h =>
      rw [hmismatch] at h
      cases h
    | filled hauth hkept hl hc =>
      have hquiet : wlxToplevelFillHost cfg now win = win := by
        unfold wlxToplevelFillHost
        dsimp only
        split
        · rfl
        · rw [if_pos ⟨hl, hc⟩]
      rw [fitWindow_of_held now outcome ho hmismatch hauth hkept, hquiet]
      exact ⟨rfl, .refl win⟩
    -- the size is refused as before, and the client has been told
    | refused howned hfloating hsmall hanswered =>
      rw [fitWindow_of_owned now outcome ho hmismatch howned hfloating]
      split
      · exact ⟨rfl, .refl win⟩
      · rw [fitHost_of_refused now outcome _ hsmall]
        dsimp only
        rw [if_neg (not_not_intro hanswered)]
        exact ⟨rfl, rfl, rfl, rfl, rfl, rfl, rfl, rfl⟩

end Rest

/-! ## Not at rest -/

section Talk

variable {cfg : Config} {win : Window} {out : X11Output} {now : Int}

/-- A size that is set is configured in the next idle. -/
theorem wlxToplevelSetSize_idle (hi : win.xdg.initialized = true) (size : Size) :
    (win.wlxToplevelSetSize size).xdg.configureIdle = true := by
  simp [wlxToplevelSetSize, XdgSurface.setSize, hi]

/-- A client without window geometry never passes `conf_ok`. -/
theorem confOk_of_no_geometry (h : (geometryOrZero win.xdg).isSet = false) (size : Size) :
    win.confOk size = false := by
  unfold confOk
  rw [h, Bool.false_and]

/-- For such a client the limiter is all that holds `wlx_toplevel_fill_host` back. -/
theorem wlxToplevelFillHost_idle [CInt] (hi : win.xdg.initialized = true)
    (hgeo : (geometryOrZero win.xdg).isSet = false) (ho : win.output = some out)
    (hset : out.size.isSet = true) (hnow : win.fillHostLastMsec + 500 ≤ now) :
    (wlxToplevelFillHost cfg now win).xdg.configureIdle = true := by
  have hfill := Size.isSet_iff.mp (wlxToplevelSizeForOutput_isSet cfg ho hset)
  unfold wlxToplevelFillHost
  dsimp only
  rw [if_neg (by omega), confOk_of_no_geometry hgeo, if_neg (by simp)]
  split
  · -- the limiter has run out
    rw [if_neg (by omega)]
    exact wlxToplevelSetSize_idle hi _
  · exact wlxToplevelSetSize_idle hi _

/-- Fitting the output to a client without window geometry configures it once the limiter has run out:
`output_commit` has it fill the new size. -/
theorem resizeOutputTo_idle [CInt] {size : Size} (hi : win.xdg.initialized = true)
    (hgeo : (geometryOrZero win.xdg).isSet = false) (ho : win.output = some out)
    (htakes : takes size .ok = true) (hmode : win.lastOutputSize = out.size) (hne : size ≠ out.size)
    (hnow : win.fillHostLastMsec + 500 ≤ now) :
    (resizeOutputTo cfg now size .ok win).xdg.configureIdle = true := by
  have hmin : minOutputSize ≤ size.width ∧ minOutputSize ≤ size.height := by
    simpa [takes] using htakes
  have hpos : (32 : Int) ≤ size.width ∧ (32 : Int) ≤ size.height := hmin
  have hsize : (out.commitState size .ok).1.size = size := X11Output.commitState_ok_size out size
  unfold resizeOutputTo
  rw [ho]
  dsimp only
  rw [if_neg (by omega), if_neg (Ne.symm hne)]
  -- the size can be had and is another one, so it is committed
  show (commitOutput cfg now size .ok win).xdg.configureIdle = true
  unfold commitOutput
  rw [ho]
  dsimp only
  rw [if_pos (X11Output.commitState_snd.mpr rfl)]
  unfold outputCommit
  dsimp only
  rw [hsize, if_neg (by omega), if_neg (by rw [hmode]; exact hne)]
  exact wlxToplevelFillHost_idle (by exact hi) hgeo rfl
    (by rw [hsize, Size.isSet_iff]; omega) (by exact hnow)

/-- **Not at rest, a late commit is answered.** -/
theorem Talks.fitWindow_idle [CInt] (h : Talks cfg win out) (hi : win.xdg.initialized = true)
    (hgeo : (geometryOrZero win.xdg).isSet = false) (ho : win.output = some out)
    (hfit : win.fitLastMsec + fitOscillationMs ≤ now) (hfill : win.fillHostLastMsec + 500 ≤ now) :
    (fitWindow cfg now .ok win).xdg.configureIdle = true := by
  cases h with
  | lags hmismatch hauth hkept _ hset =>
    rw [fitWindow_of_held now .ok ho hmismatch hauth hkept]
    exact wlxToplevelFillHost_idle hi hgeo ho hset hfill
  | fits hmismatch howned hfloating hunanswered hmode =>
    have hne := wantedHost_ne hmismatch
    rw [fitWindow_of_owned now .ok ho hmismatch howned hfloating, oscillates_of_late hfit,
      if_neg Bool.false_ne_true]
    cases htakes : takes (wantedHost cfg win) .ok with
    | false =>
      -- the size is refused, but the client is told
      rw [fitHost_of_refused now .ok _ htakes]
      dsimp only
      rw [htakes] at hunanswered
      rw [if_pos (hunanswered.resolve_left Bool.false_ne_true)]
      exact wlxToplevelSetSize_idle (by exact hi) _
    | true =>
      let fitted : Window :=
        { win with fitPrev := win.fitLast, fitLast := wantedHost cfg win, fitLastMsec := now }
      have hresized : (resizeOutputTo cfg now (wantedHost cfg win) .ok fitted).xdg.configureIdle = true :=
        resizeOutputTo_idle hi hgeo ho htakes hmode hne hfill
      have hready : (resizeOutputTo cfg now (wantedHost cfg win) .ok fitted).xdg.initialized = true :=
        (resizeOutputTo_step cfg now _ .ok fitted).xdg.initialized.trans hi
      unfold fitHost
      dsimp only
      split
      · exact wlxToplevelSetSize_idle hready _
      · exact hresized

end Talk

/-! ## The answering commit -/

/-- What `surface_commit` reads once it has prepared a commit that answers the last configure: the
window's size is the host's, the last configure is for the size that fills it, and the client has exactly
that size, as its window geometry or, when it sets none, as its surface. -/
structure Answered [CInt] (win : Window) (cfg : Config) (out : X11Output) : Prop where
  output : win.output = some out
  recorded : ModeRecorded win
  authority : win.sizeFromWm = true ∨ win.tiled = true
  last : win.lastOk (wlxToplevelSizeForOutput cfg win) = true
  size : win.xdg.geometry.size = win.lastClientConf ∨
    win.xdg.geometry = Box.zero ∧ win.xdg.surfaceSize = win.lastClientConf

/-- The answering commit ends the exchange: the client sets a window geometry; or the sizes agree anyhow;
or the client asserts a shrink, and gets it at once or cannot get it at all. -/
def Settles [CInt] (cfg : Config) (now : Int) (outcome : CommitOutcome) (win : Window)
    (out : X11Output) : Prop :=
  win.xdg.geometry.size.isSet = true ∨ sizeMismatch cfg win out = false ∨
    assertShrink cfg win out = true ∧ oscillates now win (wantedHost cfg win) = false ∧
      (takes (wantedHost cfg win) .ok = true → outcome = .ok)

section Answer

variable {cfg : Config} {win : Window} {out : X11Output}

/-- A size that was answered was no empty one. -/
theorem lastClientConf_isSet [CInt] (h : win.Answered cfg out) : win.lastClientConf.isSet = true :=
  (lastOk_iff.mp h.last).1

/-- The host's size was the one the fill was for, -/
theorem Answered.mode [CInt] (h : win.Answered cfg out) : win.lastOutputSize = out.size :=
  (h.recorded out h.output).1

/-- and no empty one either. -/
theorem Answered.set [CInt] (h : win.Answered cfg out) : out.size.isSet = true :=
  (h.recorded out h.output).2

/-- A client without a geometry answers with its surface. -/
theorem Answered.unset [CInt] (h : win.Answered cfg out) (hgeo : win.xdg.geometry.size.isSet = false) :
    win.xdg.geometry = Box.zero ∧ win.xdg.surfaceSize = win.lastClientConf := by
  refine h.size.resolve_left fun heq => ?_
  rw [heq, lastClientConf_isSet h] at hgeo
  cases hgeo

/-- A client that has the configured geometry is at rest. -/
theorem Answered.rests_of_geometry [CInt] (h : win.Answered cfg out)
    (hgeo : win.xdg.geometry.size.isSet = true) : Rests cfg win out := by
  have hlast : win.xdg.geometry.size = win.lastClientConf := by
    refine h.size.resolve_right fun hzero => ?_
    rw [hzero.1] at hgeo
    cases hgeo
  have hset := lastClientConf_isSet h
  have hpos : 0 < win.xdg.geometry.width ∧ 0 < win.xdg.geometry.height := Size.isSet_iff.mp hgeo
  have hconf : geometryOrPreferred cfg win.xdg = win.lastClientConf := by
    unfold geometryOrPreferred
    rw [if_pos hpos.1, if_pos hpos.2]
    exact hlast
  have hzero : geometryOrZero win.xdg = win.lastClientConf := by
    unfold geometryOrZero
    rw [if_pos hpos.1, if_pos hpos.2]
    exact hlast
  apply Rests.filled h.authority
  -- no shrink is asserted by a client that did as it was told
  · have hsame : confDiffers cfg win = false := by
      unfold confDiffers
      rw [hset, hconf, Size.differs_self (by decide)]
      rfl
    simp [assertShrink, hsame]
  · exact h.last
  · unfold confOk
    rw [hzero]
    exact h.last

/-- The preferred size of a client without window geometry is its surface's, unless a side is so small
that it is replaced. -/
theorem Answered.preferred [CInt] (h : win.Answered cfg out) (hgeo : win.xdg.geometry.size.isSet = false) :
    geometryOrPreferred cfg win.xdg = toplevelPreferredSize cfg win.xdg ∧
      committedSize cfg win.xdg = win.lastClientConf := by
  obtain ⟨hzero, hsurface⟩ := h.unset hgeo
  constructor
  · unfold geometryOrPreferred
    rw [hzero]
    rfl
  · unfold committedSize
    rw [hgeo, Bool.and_false, if_neg Bool.false_ne_true, hsurface, if_pos (lastClientConf_isSet h)]

/-- The defaults are far from what they replace. -/
theorem toplevelPreferredSize_eq_of_near {x : XdgSurface}
    (h : (toplevelPreferredSize cfg x).differs 1 (committedSize cfg x) = false) :
    toplevelPreferredSize cfg x = committedSize cfg x := by
  simp only [Size.differs, Bool.or_eq_false_iff, decide_eq_false_iff_not, not_lt, abs_le] at h
  unfold toplevelPreferredSize at h ⊢
  dsimp only at h ⊢
  -- a side below 32 would be 1024 or 720
  have hw : ¬ (committedSize cfg x).width < minOutputSize := by
    intro hlt
    rw [if_pos hlt] at h
    unfold minOutputSize at hlt
    unfold defaultWidth at h
    omega
  have hh : ¬ (committedSize cfg x).height < minOutputSize := by
    intro hlt
    rw [if_pos hlt] at h
    unfold minOutputSize at hlt
    unfold defaultHeight at h
    omega
  rw [if_neg hw, if_neg hh]

/-- The preferred size is the client's. -/
theorem SizeStep.preferred (cfg : Config) {win' : Window} (h : win.SizeStep win') :
    toplevelPreferredSize cfg win'.xdg = toplevelPreferredSize cfg win.xdg ∧
      geometryOrPreferred cfg win'.xdg = geometryOrPreferred cfg win.xdg := by
  have hpref : toplevelPreferredSize cfg win'.xdg = toplevelPreferredSize cfg win.xdg := by
    simp only [toplevelPreferredSize, committedSize, h.xdg.geometry, h.xdg.surfaceSize]
    rfl
  refine ⟨hpref, ?_⟩
  simp only [geometryOrPreferred, hpref, h.xdg.geometry]

/-- A configure of the exact size makes no shrink of what was none: the client's size is within 1 of
both, or far from both. -/
theorem Answered.unreleased_again [CInt] (h : win.Answered cfg out)
    (hgeo : win.xdg.geometry.size.isSet = false)
    (hkept : assertShrink cfg win out = false) {win' : Window} (hs : win.SizeStep win')
    (hexact : win'.lastClientConf = wlxToplevelSizeForOutput cfg win) :
    assertShrink cfg win' out = false := by
  obtain ⟨hpref, hconf⟩ := hs.preferred cfg
  obtain ⟨hsurface, hcommitted⟩ := h.preferred hgeo
  obtain ⟨hl, hnear⟩ := lastOk_iff.mp h.last
  have hset := wlxToplevelSizeForOutput_isSet cfg h.output h.set
  unfold assertShrink confDiffers sizeMismatch at hkept ⊢
  rw [hs.tiled, hpref, hconf, hexact, hset]
  rw [hl] at hkept
  dsimp only at hkept ⊢
  rw [Bool.not_true, Bool.false_or] at hkept ⊢
  cases hdiff : (geometryOrPreferred cfg win.xdg).differs 1 win.lastClientConf with
  | false =>
    -- the committed size is the one configured before
    rw [hsurface, ← hcommitted] at hdiff
    have hsame : (geometryOrPreferred cfg win.xdg).differs 1 (wlxToplevelSizeForOutput cfg win) =
        false := by
      rw [hsurface, toplevelPreferredSize_eq_of_near hdiff, hcommitted, Size.differs_comm]
      exact hnear
    simp [hsame]
  | true =>
    rw [hdiff] at hkept
    simp only [Bool.and_true, Bool.and_eq_false_iff] at hkept ⊢
    rcases hkept with (hagrees | htiled) | hlarge
    · exact Or.inl (Or.inl (Or.inl hagrees))
    · exact Or.inl (Or.inr htiled)
    · exact Or.inr hlarge

/-- **A client without window geometry lags for ever.** Its sizes do not agree with the output's, and it
asserts no shrink: the host is filled again and again. -/
theorem Answered.talks_of_held [CInt] (h : win.Answered cfg out)
    (hgeo : win.xdg.geometry.size.isSet = false) (hmismatch : sizeMismatch cfg win out = true)
    (hkept : assertShrink cfg win out = false) (now : Int) (outcome : CommitOutcome) :
    (Window.fitWindow cfg now outcome win).output = some out ∧
      Talks cfg (Window.fitWindow cfg now outcome win) out := by
  rw [fitWindow_of_held now outcome h.output hmismatch h.authority hkept]
  have hs := wlxToplevelFillHost_step cfg now win
  have hout := (wlxToplevelFillHost_output cfg now win).trans h.output
  have hset := wlxToplevelSizeForOutput_isSet cfg h.output h.set
  refine ⟨hout, ?_⟩
  rcases wlxToplevelFillHost_cases cfg now win with hquiet | ⟨msec, hsent⟩
  · rw [hquiet]
    exact .lags hmismatch h.authority hkept h.last h.set
  · -- the configure asks for the exact size
    have hexact : (wlxToplevelFillHost cfg now win).lastClientConf =
        wlxToplevelSizeForOutput cfg win := by
      rw [hsent]
      exact if_pos hset
    apply Talks.lags
    · unfold sizeMismatch
      rw [(hs.preferred cfg).1]
      exact hmismatch
    · rw [hs.sizeFromWm, hs.tiled]
      exact h.authority
    · exact h.unreleased_again hgeo hkept hs hexact
    · rw [wlxToplevelSizeForOutput_congr cfg hs (wlxToplevelFillHost_output cfg now win)]
      apply lastOk_iff.mpr
      rw [hexact]
      exact ⟨hset, Size.differs_self (by decide) _⟩
    · exact h.set

/-- Releasing the size once is releasing it for good. -/
theorem fitWindow_of_released [CInt] (now : Int) (outcome : CommitOutcome) (ho : win.output = some out)
    (hs : assertShrink cfg win out = true) :
    Window.fitWindow cfg now outcome win =
      Window.fitWindow cfg now outcome { win with sizeFromWm := false } := by
  have hrelease : releaseHostSize cfg win out = { win with sizeFromWm := false } := by
    unfold releaseHostSize
    rw [hs, Bool.not_true, Bool.and_false]
  have hagain : releaseHostSize cfg { win with sizeFromWm := false } out =
      { win with sizeFromWm := false } := by
    unfold releaseHostSize
    rw [Bool.false_and]
  have ho' : ({ win with sizeFromWm := false } : Window).output = some out := ho
  rw [fitWindow_eq now outcome ho, fitWindow_eq now outcome ho', hrelease, hagain]

/-- A fit to a size the output never takes is not tried again: the client has been told. -/
theorem fitHost_rests_of_refused [CInt] (now : Int) (outcome : CommitOutcome) (ho : win.output = some out)
    (howned : win.sizeFromWm = false) (hfloating : win.tiled = false)
    (htakes : takes (wantedHost cfg win) .ok = false)
    (hnew : win.lastClientConf ≠ geometryOrPreferred cfg win.xdg) :
    let after := fitHost cfg now outcome (wantedHost cfg win) (geometryOrPreferred cfg win.xdg) win
    after.output = some out ∧ Rests cfg after out := by
  intro after
  have hs : win.SizeStep after := fitHost_step ..
  obtain ⟨hpref, hconf⟩ := hs.preferred cfg
  have hafter : after = { win with
      fitPrev := win.fitLast, fitLast := wantedHost cfg win, fitLastMsec := now
        }.wlxToplevelSetSize (geometryOrPreferred cfg win.xdg) :=
    (fitHost_of_refused now outcome _ htakes).trans (if_pos hnew)
  -- what it is told is what it prefers
  have hanswered : after.lastClientConf = geometryOrPreferred cfg win.xdg := by
    rw [hafter]
    exact if_pos (geometryOrPreferred_isSet cfg win.xdg)
  constructor
  · rw [hafter]
    exact ho
  · apply Rests.refused
    · exact hs.sizeFromWm.trans howned
    · exact hs.tiled.trans hfloating
    · show takes (cfg.scale (toplevelPreferredSize cfg after.xdg)) .ok = false
      rw [hpref]
      exact htakes
    · rw [hanswered, hconf]

/-- A fit to a size the output takes gives it that size, if the commit does not fail. -/
theorem fitHost_resized [CInt] (now : Int) (outcome : CommitOutcome) (ho : win.output = some out)
    (hrecorded : ModeRecorded win) (htakes : takes (wantedHost cfg win) .ok = true) :
    let after := fitHost cfg now outcome (wantedHost cfg win) (geometryOrPreferred cfg win.xdg) win
    ∃ out', after.output = some out' ∧ after.lastOutputSize = out'.size ∧
      out'.size = if outcome = .ok then wantedHost cfg win else out.size := by
  intro after
  let fitted : Window :=
    { win with fitPrev := win.fitLast, fitLast := wantedHost cfg win, fitLastMsec := now }
  have hsize : (resizeOutputTo cfg now (wantedHost cfg win) outcome fitted).outputSize =
      some (if takes (wantedHost cfg win) outcome then wantedHost cfg win else out.size) :=
    resizeOutputTo_size (wantedHost cfg win) ho
  obtain ⟨out', ho', -⟩ := resizeOutputTo_output cfg now (wantedHost cfg win) outcome
    (show fitted.output = some out from ho)
  have hfitted : ModeRecorded fitted := hrecorded.congr rfl rfl
  -- the mode that is committed is recorded in `last_output_size`
  have hmode := (hfitted.resizeOutputTo now (wantedHost cfg win) outcome out' ho').1
  have hafter : after.output = some out' ∧ after.lastOutputSize = out'.size := by
    show (fitHost _ _ _ _ _ _).output = _ ∧ (fitHost _ _ _ _ _ _).lastOutputSize = _
    unfold fitHost
    dsimp only
    split <;> exact ⟨ho', hmode⟩
  have htakes' : takes (wantedHost cfg win) outcome = decide (outcome = .ok) := by
    unfold takes at htakes ⊢
    simp only [decide_true, Bool.and_true] at htakes
    rw [htakes, Bool.true_and]
  refine ⟨out', hafter.1, hafter.2, ?_⟩
  rw [outputSize, ho', htakes'] at hsize
  simpa using hsize

/-- **A fit** ends the exchange if the output takes the size, or never will; a commit that fails is tried
again. -/
theorem fitHost_leaves [CInt] (now : Int) (outcome : CommitOutcome) (ho : win.output = some out)
    (hrecorded : ModeRecorded win) (howned : win.sizeFromWm = false) (hfloating : win.tiled = false)
    (hmismatch : sizeMismatch cfg win out = true)
    (hnew : win.lastClientConf ≠ geometryOrPreferred cfg win.xdg) :
    let after := fitHost cfg now outcome (wantedHost cfg win) (geometryOrPreferred cfg win.xdg) win
    ∃ out', after.output = some out' ∧
      if takes (wantedHost cfg win) .ok = true → outcome = .ok then Rests cfg after out'
      else Talks cfg after out' := by
  intro after
  cases htakes : takes (wantedHost cfg win) .ok with
  -- the host takes no size this small: the configure is answered, and that is all
  | false =>
    refine ⟨out, ?_⟩
    rw [if_pos nofun]
    exact fitHost_rests_of_refused now outcome ho howned hfloating htakes hnew
  | true =>
    have hs : win.SizeStep after := fitHost_step ..
    have hwant : wantedHost cfg after = wantedHost cfg win := congrArg cfg.scale (hs.preferred cfg).1
    obtain ⟨out', ho', hmode, hsize⟩ := fitHost_resized now outcome ho hrecorded htakes
    refine ⟨out', ho', ?_⟩
    -- otherwise it takes the size, and the commit to it may still fail
    by_cases hok : outcome = .ok
    · rw [if_pos fun _ => hok]
      rw [if_pos hok] at hsize
      apply Rests.agrees
      show (wantedHost cfg after).differs 1 out'.size = false
      rw [hwant, hsize]
      exact Size.differs_self (by decide) _
    · rw [if_neg fun h => hok (h rfl)]
      rw [if_neg hok] at hsize
      apply Talks.fits
      · show (wantedHost cfg after).differs 1 out'.size = true
        rw [hwant, hsize]
        exact hmismatch
      · exact hs.sizeFromWm.trans howned
      · exact hs.tiled.trans hfloating
      · rw [hwant]
        exact Or.inl htakes
      · exact hmode

/-- **A released client** gets its size, or will never get it, or asks for it again. -/
theorem Answered.released [CInt] (h : win.Answered cfg out)
    (hshrink : assertShrink cfg win out = true) (now : Int) (outcome : CommitOutcome) :
    ∃ out', (Window.fitWindow cfg now outcome win).output = some out' ∧
      if oscillates now win (wantedHost cfg win) = false ∧
          (takes (wantedHost cfg win) .ok = true → outcome = .ok) then
        Rests cfg (Window.fitWindow cfg now outcome win) out'
      else Talks cfg (Window.fitWindow cfg now outcome win) out' := by
  have hreads : sizeMismatch cfg win out = true ∧ confDiffers cfg win = true ∧ win.tiled = false := by
    unfold assertShrink at hshrink
    simp only [Bool.and_eq_true, Bool.not_eq_true'] at hshrink
    exact ⟨hshrink.1.1.1, hshrink.1.1.2, hshrink.1.2⟩
  obtain ⟨hmismatch, hdiffers, hfloating⟩ := hreads
  -- to assert a smaller size the client must have been configured another one
  have hnew : win.lastClientConf ≠ geometryOrPreferred cfg win.xdg := by
    intro heq
    unfold confDiffers at hdiffers
    rw [lastClientConf_isSet h, ← heq, Size.differs_self (by decide)] at hdiffers
    cases hdiffers
  let owned : Window := { win with sizeFromWm := false }
  have hfit : Window.fitWindow cfg now outcome owned =
      if oscillates now win (wantedHost cfg win) then owned
      else fitHost cfg now outcome (wantedHost cfg owned) (geometryOrPreferred cfg owned.xdg) owned :=
    fitWindow_of_owned now outcome h.output hmismatch rfl hfloating
  rw [fitWindow_of_released now outcome h.output hshrink]
  show ∃ out', (Window.fitWindow cfg now outcome owned).output = some out' ∧ _
  rw [hfit]
  -- the guard against oscillation keeps the host's size this time
  cases oscillates now win (wantedHost cfg win) with
  | true =>
    refine ⟨out, h.output, ?_⟩
    rw [if_neg fun hboth => Bool.noConfusion hboth.1]
    exact .fits hmismatch rfl hfloating (Or.inr hnew) h.mode
  | false =>
    rw [if_neg Bool.false_ne_true]
    obtain ⟨out', ho', hends⟩ := fitHost_leaves now outcome
      (show owned.output = some out from h.output) (h.recorded.congr rfl rfl) rfl hfloating hmismatch
      hnew
    refine ⟨out', ho', ?_⟩
    by_cases hok : takes (wantedHost cfg win) .ok = true → outcome = .ok
    · rw [if_pos ⟨rfl, hok⟩]
      rw [if_pos (by exact hok)] at hends
      exact hends
    · rw [if_neg fun hboth => hok hboth.2]
      rw [if_neg (by exact hok)] at hends
      exact hends

/-- **The answering commit ends the exchange, or does not.** -/
theorem Answered.fitWindow [CInt] (h : win.Answered cfg out) (now : Int) (outcome : CommitOutcome) :
    ∃ out', (Window.fitWindow cfg now outcome win).output = some out' ∧
      (Settles cfg now outcome win out → Rests cfg (Window.fitWindow cfg now outcome win) out') ∧
      (¬ Settles cfg now outcome win out →
        Talks cfg (Window.fitWindow cfg now outcome win) out' ∧
          win.xdg.geometry.size.isSet = false) := by
  -- a window at rest settles whatever comes
  have hrest (hrests : Rests cfg win out) (hsettles : Settles cfg now outcome win out) :
      ∃ out', (Window.fitWindow cfg now outcome win).output = some out' ∧
        (Settles cfg now outcome win out → Rests cfg (Window.fitWindow cfg now outcome win) out') ∧
        (¬ Settles cfg now outcome win out →
          Talks cfg (Window.fitWindow cfg now outcome win) out' ∧
            win.xdg.geometry.size.isSet = false) := by
    obtain ⟨-, hreads⟩ := hrests.fitWindow h.output now outcome
    exact ⟨out, hreads.output.trans h.output, fun _ => hrests.congr hreads,
      fun hnot => absurd hsettles hnot⟩
  cases hgeo : win.xdg.geometry.size.isSet with
  -- a client with a geometry answered with it
  | true => exact hgeo ▸ hrest (h.rests_of_geometry hgeo) (Or.inl hgeo)
  | false =>
    cases hmismatch : sizeMismatch cfg win out with
    | false => exact hgeo ▸ hrest (.agrees hmismatch) (Or.inr (Or.inl hmismatch))
    | true =>
      have hiff : Settles cfg now outcome win out ↔ assertShrink cfg win out = true ∧
          oscillates now win (wantedHost cfg win) = false ∧
            (takes (wantedHost cfg win) .ok = true → outcome = .ok) := by
        unfold Settles
        rw [hgeo, hmismatch]
        simp
      -- without one, a size that is held back keeps the client asking
      cases hshrink : assertShrink cfg win out with
      | false =>
        obtain ⟨ho', htalks⟩ := h.talks_of_held hgeo hmismatch hshrink now outcome
        refine ⟨out, ho', fun hsettles => ?_, fun _ => ⟨htalks, rfl⟩⟩
        rw [hiff, hshrink] at hsettles
        exact absurd hsettles.1 Bool.false_ne_true
      | true =>
        obtain ⟨out', ho', hends⟩ := h.released hshrink now outcome
        rw [hshrink] at hiff
        refine ⟨out', ho', fun hsettles => ?_, fun hnot => ⟨?_, rfl⟩⟩
        · rwa [if_pos (hiff.mp hsettles).2] at hends
        · rwa [if_neg fun hboth => hnot (hiff.mpr ⟨rfl, hboth⟩)] at hends

end Answer

end Window

/-! ## The round trip -/

/-- The commit answers the last configure of a window whose size is the host's: it has a buffer, the last
configure is for the size that fills the host (given the margin of the commit, which is the one tracked
before if the margin is constant), and the window geometry has exactly the configured size, or the
surface when the client sets no geometry. -/
structure Answers [CInt] (cfg : Config) (win : Window) (out : X11Output) (c : SurfaceCommit) : Prop where
  output : win.output = some out
  attached : c.buffer ≠ .detach
  authority : win.sizeFromWm = true ∨ win.xdg.pending.tiled = true
  last : (win.roleCommitted c).trackCsdMargin.lastOk
    (Window.wlxToplevelSizeForOutput cfg (win.roleCommitted c).trackCsdMargin) = true
  size : (win.xdg.applyPending c).geometry.size = win.lastClientConf ∨
    (win.xdg.applyPending c).geometry = Box.zero ∧
      (win.xdg.applyPending c).surfaceSize = win.lastClientConf

/-- What may follow the answer: the same commit, and the idle callback that sends configures. -/
def Again (c : SurfaceCommit) : Action → Prop
  | .commit c' .. => c' = c
  | .sendConfigure => True
  | _ => False

/-- The step sends no `ConfigureWindow` and schedules no configure. -/
def StaysQuiet [CInt] (cfg : Config) (win : Window) (a : Action) : Prop :=
  ∀ win', step cfg win a = some win' →
    win'.output.map (·.sent) = win.output.map (·.sent) ∧
      (win'.xdg.configureIdle = true → win.xdg.configureIdle = true)

instance [CInt] (cfg : Config) (win : Window) (a : Action) : Decidable (StaysQuiet cfg win a) :=
  decidable_of_iff ((step cfg win a).all fun win' =>
      decide (win'.output.map (·.sent) = win.output.map (·.sent) ∧
        (win'.xdg.configureIdle = true → win.xdg.configureIdle = true))) (by
    cases h : step cfg win a with
    | none => simp [StaysQuiet, h]
    | some next =>
      simp only [StaysQuiet, h, Option.all_some, decide_eq_true_eq, Option.some.injEq, forall_eq'])

section RoundTrip

variable {cfg : Config} {win win' : Window} {out : X11Output} {c : SurfaceCommit}

/-- At rest under repeated commits. -/
structure Resting [CInt] (cfg : Config) (c : SurfaceCommit) (win : Window) : Prop where
  settled : Settled c win
  rests : ∃ out, win.output = some out ∧ Window.Rests cfg win out

/-- At rest, whether the hold is on does not matter. -/
theorem Resting.held [CInt] (h : Resting cfg c win) (hold : Bool) :
    Resting cfg c { win with holdPresent := hold } := by
  obtain ⟨out, ho, hrests⟩ := h.rests
  exact ⟨h.settled.held hold, out, ho, hrests.congr ⟨rfl, rfl, rfl, rfl, rfl, rfl, rfl⟩⟩

/-- **At rest, the commit changes nothing the client or the host could see.** -/
theorem Resting.commit [CInt] (h : Resting cfg c win) (now : Int) (env : MapEnv) (outcome : CommitOutcome) :
    Resting cfg c (win.wlSurfaceCommit cfg now env outcome c) ∧
      (win.wlSurfaceCommit cfg now env outcome c).output = win.output ∧
      (win.wlSurfaceCommit cfg now env outcome c).xdg = win.xdg := by
  obtain ⟨hold, heq⟩ := h.settled.commit_eq cfg now env outcome
  have hheld := h.held hold
  obtain ⟨out, ho, hrests⟩ := hheld.rests
  obtain ⟨hxdg, hreads⟩ := hrests.fitWindow ho now outcome
  rw [heq]
  exact ⟨⟨hheld.settled.fitWindow cfg now outcome, out, hreads.output.trans ho, hrests.congr hreads⟩,
    hreads.output, hxdg⟩

/-- A step that repeats the commit leaves the window at rest. -/
theorem Resting.step [CInt] (h : Resting cfg c win) {a : Action} (hagain : Again c a)
    (hstep : step cfg win a = some win') : Resting cfg c win' := by
  obtain ⟨-, -, rfl⟩ := step_eq_some.mp hstep
  cases a with
  | commit c' now env outcome =>
    cases hagain
    exact (h.commit now env outcome).1
  | sendConfigure =>
    obtain ⟨hsettled, out, ho, hrests⟩ := h
    refine ⟨⟨hsettled.repeats.sendConfigure, hsettled.sent, hsettled.deferred, ?_⟩, out, ho,
      hrests.congr ⟨rfl, rfl, rfl, rfl, rfl, rfl, rfl⟩⟩
    exact (Window.trackCsdMargin_csdMargin _).trans
      ((Window.trackCsdMargin_csdMargin win).symm.trans hsettled.margin)
  | _ => exact absurd hagain id

/-- A step at rest is quiet. -/
theorem Resting.quiet [CInt] (h : Resting cfg c win) {a : Action} (hagain : Again c a) :
    StaysQuiet cfg win a := by
  intro win' hstep
  obtain ⟨-, -, rfl⟩ := step_eq_some.mp hstep
  cases a with
  | commit c' now env outcome =>
    cases hagain
    obtain ⟨-, hout, hxdg⟩ := h.commit now env outcome
    simp only [handle]
    rw [hout, hxdg]
    exact ⟨rfl, id⟩
  | sendConfigure => exact ⟨rfl, fun hidle => Bool.noConfusion hidle⟩
  | _ => exact absurd hagain id

/-- The answering commit, as it comes to the fit: the pending state is applied, the margin tracked. -/
theorem answer_eq [CInt] (hinv : Inv win) (hrecorded : ModeRecorded win) (hans : Answers cfg win out c)
    (now : Int) (env : MapEnv) (outcome : CommitOutcome) :
    ∃ seen, win.wlSurfaceCommit cfg now env outcome c = Window.fitWindow cfg now outcome seen ∧
      Settled c seen ∧ seen.Answered cfg out ∧
      (Window.Settles cfg now outcome seen out ↔
        Window.Settles cfg now outcome (win.roleCommitted c) out) ∧
      seen.xdg = (win.roleCommitted c).xdg := by
  have hm := hinv.mapped (by rw [hans.output]; rfl)
  have hi := hinv.initialized hm
  have hsent := hinv.sent hi
  have hdeferred := hinv.deferred hsent
  have hu : win.xdg.unmapCommit c = false := by simp [XdgSurface.unmapCommit, hans.attached]
  -- hold and margin are all that the commit changes before the fit
  obtain ⟨hold, hdrop⟩ := Window.dropHold_eq cfg (win.roleCommitted c)
  obtain ⟨margin, hmargin⟩ : ∃ margin, (win.roleCommitted c).trackCsdMargin =
      { win.roleCommitted c with csdMargin := margin } := by
    unfold Window.trackCsdMargin
    dsimp only
    split
    · exact ⟨_, rfl⟩
    · exact ⟨win.csdMargin, rfl⟩
  have hlast := hans.last
  rw [hmargin] at hlast
  refine ⟨{ win.roleCommitted c with csdMargin := margin, holdPresent := hold }, ?_, ?_, ?_, .rfl, rfl⟩
  · rw [Window.wlSurfaceCommit_of_mapped cfg now env outcome hm hu, Window.surfaceCommit,
      Window.prepareCommit, hdrop]
    have hprep : { win.roleCommitted c with holdPresent := hold
        }.sendInitialConfigure.applyPendingDecoration =
          { win.roleCommitted c with holdPresent := hold } := by
      unfold Window.sendInitialConfigure
      rw [if_pos (by exact hsent)]
      unfold Window.applyPendingDecoration
      rw [if_neg (by simpa [Window.roleCommitted] using hdeferred)]
    have htrack : { win.roleCommitted c with holdPresent := hold }.trackCsdMargin =
        { (win.roleCommitted c).trackCsdMargin with holdPresent := hold } := by
      unfold Window.trackCsdMargin
      dsimp only
      split <;> rfl
    rw [hprep, htrack, hmargin]
  · refine ⟨Repeats.roleCommit hm hi hans.attached, hsent, hdeferred, ?_⟩
    rw [Window.trackCsdMargin_csdMargin]
    have htracked := congrArg Window.csdMargin hmargin
    rw [Window.trackCsdMargin_csdMargin] at htracked
    dsimp only at htracked ⊢
    split
    · next hset =>
      rw [if_pos hset] at htracked
      exact htracked
    · rfl
  · refine ⟨hans.output, hrecorded.congr rfl rfl, ?_, hlast, hans.size⟩
    refine hans.authority.imp id fun htiled => ?_
    show (win.xdg.pending.tiled || win.xdg.pending.tiled) = true
    rw [htiled]
    rfl

/-- Not at rest, there is a time at which the commit is answered. -/
theorem talks_commit [CInt] (h : Window.Talks cfg win out) (hsettled : Settled c win)
    (ho : win.output = some out) (hgeo : win.xdg.geometry = Box.zero)
    (hready : win.xdg.aborted = false) (hallowed : win.xdg.commitAllowed c = true) (env : MapEnv) :
    ∃ now win', step cfg win (.commit c now env .ok) = some win' ∧
      win'.xdg.configureIdle = true := by
  -- late enough for the guard and for the limiter
  let now := max (win.fitLastMsec + fitOscillationMs) (win.fillHostLastMsec + 500)
  obtain ⟨hold, heq⟩ := hsettled.commit_eq cfg now env .ok
  have hheld : Window.Talks cfg { win with holdPresent := hold } out := by
    cases h with
    | lags hmismatch hauth hkept hlast hset => exact .lags hmismatch hauth hkept hlast hset
    | fits hmismatch howned hfloating hunanswered hmode =>
      exact .fits hmismatch howned hfloating hunanswered hmode
  have hzero : (Window.geometryOrZero win.xdg).isSet = false := by
    unfold Window.geometryOrZero
    rw [hgeo]
    rfl
  refine ⟨now, _, step_eq_some.mpr ⟨hready, hallowed, rfl⟩, ?_⟩
  show (win.wlSurfaceCommit cfg now env .ok c).xdg.configureIdle = true
  rw [heq]
  exact hheld.fitWindow_idle hsettled.repeats.initialized hzero ho (le_max_left _ _) (le_max_right _ _)

/-- So a window that is not at rest does not stay quiet, once the configures of the answering commit are
sent. -/
theorem not_quiet_of_talks [CInt] (h : Window.Talks cfg win out) (hsettled : Settled c win)
    (ho : win.output = some out) (hgeo : win.xdg.geometry = Box.zero)
    (hready : win.xdg.aborted = false) (hallowed : win.xdg.commitAllowed c = true) (env : MapEnv) :
    ∃ as, (∀ a ∈ as, Again c a) ∧ ¬ Run.Along (step cfg) (StaysQuiet cfg) win as := by
  cases hidle : win.xdg.configureIdle with
  | false =>
    obtain ⟨now, win', hstep, hsent⟩ := talks_commit h hsettled ho hgeo hready hallowed env
    refine ⟨[.commit c now env .ok], by simp [Again], fun halong => ?_⟩
    have hquiet := (halong.1 win' hstep).2 hsent
    rw [hidle] at hquiet
    cases hquiet
  | true =>
    -- the configures of the answer go out first
    let sent : Window := { win with xdg := win.xdg.sendConfigure }
    have hsend : step cfg win .sendConfigure = some sent := step_eq_some.mpr ⟨hready, hidle, rfl⟩
    have htalks : Window.Talks cfg sent out := by
      cases h with
      | lags hmismatch hauth hkept hlast hset => exact .lags hmismatch hauth hkept hlast hset
      | fits hmismatch howned hfloating hunanswered hmode =>
        exact .fits hmismatch howned hfloating hunanswered hmode
    have hsettled' : Settled c sent :=
      ⟨hsettled.repeats.sendConfigure, hsettled.sent, hsettled.deferred,
        (Window.trackCsdMargin_csdMargin _).trans
          ((Window.trackCsdMargin_csdMargin win).symm.trans hsettled.margin)⟩
    obtain ⟨now, win', hstep, hsent⟩ :=
      talks_commit htalks hsettled' ho hgeo hready hallowed env
    refine ⟨[.sendConfigure, .commit c now env .ok], by simp [Again], fun halong => ?_⟩
    have hrest := ((Run.along_cons hsend).mp halong).2
    have hquiet := (hrest.1 win' hstep).2 hsent
    cases hquiet

/-- **The round trip between host and client.** In every reachable state, for every commit that answers
the last configure under host authority: any number of repetitions, at any times and with configures sent
in between, sends no `ConfigureWindow` and schedules no configure exactly if the client sets a window
geometry, or its size agrees with the output's, or it asserts a shrink that ends there. -/
theorem round_trip_settles_iff [CInt] (hreach : Run.Reachable (step cfg) .fresh win)
    (hans : Answers cfg win out c) {now : Int} {env : MapEnv} {outcome : CommitOutcome}
    (hstep : step cfg win (.commit c now env outcome) = some win') :
    (∀ as, (∀ a ∈ as, Again c a) → Run.Along (step cfg) (StaysQuiet cfg) win' as) ↔
      Window.Settles cfg now outcome (win.roleCommitted c) out := by
  obtain ⟨hinv, hrecorded⟩ := ModeRecorded.of_reachable hreach
  obtain ⟨hready, hallowed, rfl⟩ := step_eq_some.mp hstep
  obtain ⟨seen, heq, hsettled, hanswered, hiff, hxdg⟩ := answer_eq hinv hrecorded hans now env outcome
  obtain ⟨out', ho', hrests, htalks⟩ := hanswered.fitWindow now outcome
  rw [← hiff]
  have hafter : handle cfg win (.commit c now env outcome) = Window.fitWindow cfg now outcome seen := heq
  rw [hafter]
  have hsettled' := hsettled.fitWindow cfg now outcome
  constructor
  -- if it does not settle, the same commit once more fits again
  · intro hquiet
    by_contra hnot
    obtain ⟨htalk, hunset⟩ := htalks hnot
    have hs := Window.fitWindow_step cfg now outcome seen
    have hseen : seen.xdg.initialized = true := hsettled.repeats.initialized
    have hgeo : (Window.fitWindow cfg now outcome seen).xdg.geometry = Box.zero :=
      hs.xdg.geometry.trans (hanswered.unset hunset).1
    have habort : (Window.fitWindow cfg now outcome seen).xdg.aborted = false := by
      rw [hs.xdg.ready hseen, hxdg]
      exact hready
    have hallowed' : (Window.fitWindow cfg now outcome seen).xdg.commitAllowed c = true := by
      have hbuffer : (Window.fitWindow cfg now outcome seen).xdg.hasBufferAfter c =
          win.xdg.hasBufferAfter c := by
        rw [hsettled'.repeats.hasBuffer, hs.xdg.hasBuffer, hxdg]
        rfl
      have hconfigured : (Window.fitWindow cfg now outcome seen).xdg.configured = win.xdg.configured := by
        rw [hs.xdg.configured, hxdg]
        rfl
      unfold XdgSurface.commitAllowed
      rw [hbuffer, hconfigured]
      exact hallowed
    obtain ⟨as, hagain, hloud⟩ :=
      not_quiet_of_talks htalk hsettled' ho' hgeo habort hallowed' env
    exact hloud (hquiet as hagain)
  · intro hsettles as hagain
    exact Run.along_of_invariant (fun _ _ _ hs hp ha => Resting.step hs hp ha)
      (fun _ _ hs hp => Resting.quiet hs hp) ⟨hsettled', out', ho', hrests hsettles⟩
      (Run.along_of_mem hagain)

end RoundTrip

/-- At scale 4, map at 200×150, which is 800×600 on the host; then the host resizes the window to 802×602,
and the client has acknowledged the 201×151 it was configured with. -/
def hostResizesScaled (geometry : Option Box) : List Action :=
  [.commit ⟨.keep, none⟩ 1 ⟨true, 0, .ok⟩ .ok, .sendConfigure, .ackConfigure 0,
    .commit ⟨.attach ⟨200, 150⟩, geometry⟩ 2 ⟨true, 0, .ok⟩ .ok,
    .configureNotify ⟨1, ⟨800, 600⟩⟩ [some []] 3 .ok,
    .configureNotify ⟨1, ⟨802, 602⟩⟩ [some []] 4 .ok, .sendConfigure, .ackConfigure 0]

/-- A client with a window geometry answers once. -/
theorem round_trip_settles_with_geometry :
    ∃ win win', Run.Reachable (step ⟨4, false⟩) .fresh win ∧
      step ⟨4, false⟩ win (.commit ⟨.attach ⟨201, 151⟩, some ⟨0, 0, 201, 151⟩⟩ 5 ⟨true, 0, .ok⟩ .ok) =
        some win' ∧
      ∀ as, (∀ a ∈ as, Again ⟨.attach ⟨201, 151⟩, some ⟨0, 0, 201, 151⟩⟩ a) →
        Run.Along (step ⟨4, false⟩) (StaysQuiet ⟨4, false⟩) win' as := by
  have hany : (Run.run (step ⟨4, false⟩) .fresh (hostResizesScaled (some ⟨0, 0, 200, 150⟩))).any
      (fun win => decide (win.output.isSome = true ∧ win.sizeFromWm = true ∧
        win.lastClientConf = ⟨201, 151⟩ ∧
        (win.roleCommitted ⟨.attach ⟨201, 151⟩, some ⟨0, 0, 201, 151⟩⟩).trackCsdMargin.lastOk
          (Window.wlxToplevelSizeForOutput ⟨4, false⟩
            (win.roleCommitted ⟨.attach ⟨201, 151⟩, some ⟨0, 0, 201, 151⟩⟩).trackCsdMargin) = true ∧
        (step ⟨4, false⟩ win (.commit ⟨.attach ⟨201, 151⟩, some ⟨0, 0, 201, 151⟩⟩ 5
          ⟨true, 0, .ok⟩ .ok)).isSome = true)) = true := by decide +kernel
  obtain ⟨win, hwin, hchecks⟩ := (Option.any_eq_true ..).mp hany
  obtain ⟨hsome, hown, hconf, hlast, hstep⟩ := of_decide_eq_true hchecks
  obtain ⟨out, ho⟩ := Option.isSome_iff_exists.mp hsome
  obtain ⟨win', hstep⟩ := Option.isSome_iff_exists.mp hstep
  exact ⟨win, win', ⟨_, hwin⟩, hstep, (round_trip_settles_iff ⟨_, hwin⟩
    ⟨ho, by simp, Or.inl hown, hlast, Or.inl hconf.symm⟩ hstep).mpr (Or.inl rfl)⟩

/-- A client without one is asked again 595 ms after its answer: its 201×151 is 804×604 on the host. -/
theorem answered_client_asked_again :
    ¬ ∀ (cfg : Config) (win win' : Window) (out : X11Output) (c : SurfaceCommit) (now : Int)
      (env : MapEnv) (outcome : CommitOutcome) (as : List Action),
      Run.Reachable (step cfg) .fresh win → Answers cfg win out c →
        step cfg win (.commit c now env outcome) = some win' → (∀ a ∈ as, Again c a) →
          Run.Along (step cfg) (StaysQuiet cfg) win' as := by
  intro h
  have hany : (Run.run (step ⟨4, false⟩) .fresh (hostResizesScaled none)).any
      (fun win => decide (win.output.isSome = true ∧ win.sizeFromWm = true ∧
        win.lastClientConf = ⟨201, 151⟩ ∧ win.xdg.geometry = Box.zero ∧
        (win.roleCommitted ⟨.attach ⟨201, 151⟩, none⟩).trackCsdMargin.lastOk
          (Window.wlxToplevelSizeForOutput ⟨4, false⟩
            (win.roleCommitted ⟨.attach ⟨201, 151⟩, none⟩).trackCsdMargin) = true ∧
        (step ⟨4, false⟩ win (.commit ⟨.attach ⟨201, 151⟩, none⟩ 5 ⟨true, 0, .ok⟩ .ok)).any
          (fun win' => !decide (Run.Along (step ⟨4, false⟩) (StaysQuiet ⟨4, false⟩) win'
            [.sendConfigure, .commit ⟨.attach ⟨201, 151⟩, none⟩ 600 ⟨true, 0, .ok⟩ .ok])) =
              true)) = true := by decide +kernel
  obtain ⟨win, hwin, hchecks⟩ := (Option.any_eq_true ..).mp hany
  obtain ⟨hsome, hown, hconf, hzero, hlast, hloud⟩ := of_decide_eq_true hchecks
  obtain ⟨out, ho⟩ := Option.isSome_iff_exists.mp hsome
  obtain ⟨win', hstep, hloud⟩ := (Option.any_eq_true ..).mp hloud
  -- at scale 4 the client's 201x151 is not the host's size in pixels
  rw [Bool.not_eq_true', decide_eq_false_iff_not] at hloud
  exact hloud (h _ win win' out _ 5 _ _ _ ⟨_, hwin⟩
    ⟨ho, by simp, Or.inl hown, hlast, Or.inr ⟨hzero, hconf.symm⟩⟩ hstep (by simp [Again]))

end Wlx
