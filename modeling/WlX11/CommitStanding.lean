import WlX11.ModeRecord
import WlX11.MirroredState

/-!
# WlX11 — what a commit leaves of the window's size

Three things describe the size of a toplevel between events: who owns it (`size_from_wm`), the mode
of its output, and the size the client was last configured with. This module says what a commit
makes of the three.

* **`Standing`** — the three as one value; **`Window.standing`** reads them off a window.
* **`FitAgrees`** — two windows that agree on everything `surface_commit` decides a size by, apart
  from who owns it.
* **`wlSurfaceCommit_standing`** — a commit leaves two such windows standing alike once neither is
  the host's any more: the times, the throttle and the scheduled configures play no part.
-/

namespace Wlx

open X11Output (CommitOutcome)
open Window (MapEnv NetWmAtom NetWmState hostResize)

/-- `size_from_wm`, the output's mode and the last configured client size. -/
structure Standing where
  sizeFromWm : Bool
  outputSize : Option Size
  lastClientConf : Size
deriving DecidableEq, Repr

namespace Window

def standing (win : Window) : Standing := ⟨win.sizeFromWm, win.outputSize, win.lastClientConf⟩

/-! ## Filling the host -/

/-- `wlx_toplevel_fill_host` finds the client already configured with exactly the size that fills
the host, or with one it can tell from it. In between its time limit decides. -/
def Exact (win : Window) (size : Size) : Prop := win.lastOk size = true → win.lastClientConf = size

instance (win : Window) (size : Size) : Decidable (win.Exact size) := by
  unfold Exact; infer_instance

theorem Exact.congr {win win' : Window} {size : Size} (h : win.Exact size)
    (hl : win'.lastClientConf = win.lastClientConf) : win'.Exact size := by
  intro hok
  rw [hl]
  apply h
  rw [← hok]
  simp only [lastOk, hl]

/-- A tiled client fills the whole output: its CSD margin is not taken off. -/
theorem sizeForOutput_of_tiled [CInt] (cfg : Config) {win : Window} {out : X11Output}
    (ho : win.output = some out) (ht : win.tiled = true) :
    wlxToplevelSizeForOutput cfg win = cfg.unscale out.size := by
  simp [wlxToplevelSizeForOutput, ho, ht]

/-- Filling the host with no room for the time limit ends in the size that fills it. -/
theorem fillHost_lastClientConf [CInt] (cfg : Config) (now : Int) {win : Window}
    (hset : (wlxToplevelSizeForOutput cfg win).isSet = true)
    (hexact : win.Exact (wlxToplevelSizeForOutput cfg win)) :
    (wlxToplevelFillHost cfg now win).lastClientConf = wlxToplevelSizeForOutput cfg win := by
  have hpos := Size.isSet_iff.mp hset
  have hsent (w : Window) :
      (w.wlxToplevelSetSize (wlxToplevelSizeForOutput cfg win)).lastClientConf =
        wlxToplevelSizeForOutput cfg win := by
    simp [wlxToplevelSetSize, hset]
  unfold wlxToplevelFillHost
  dsimp only
  split
  · omega
  split
  -- nothing is sent where this size was asked for last
  · next hlast => exact hexact hlast.1
  split
  · next hlast =>
    split
    · exact hexact hlast
    · exact hsent _
  · exact hsent _

/-- Filling the host changes the last configured size at most. -/
theorem fillHost_standing [CInt] (cfg : Config) (now : Int) (win : Window) :
    (wlxToplevelFillHost cfg now win).standing =
      { win.standing with lastClientConf := (wlxToplevelFillHost cfg now win).lastClientConf } := by
  rcases wlxToplevelFillHost_cases cfg now win with h | ⟨msec, h⟩ <;> rw [h] <;> rfl

/-- A client configured to fill the host stays so. -/
theorem fillHost_standing_of_filled [CInt] (cfg : Config) (now : Int) {win : Window}
    (h : win.lastClientConf = wlxToplevelSizeForOutput cfg win) :
    (wlxToplevelFillHost cfg now win).standing = win.standing := by
  rcases wlxToplevelFillHost_cases cfg now win with heq | ⟨msec, heq⟩
  · rw [heq]
  · rw [heq]
    simp only [standing, wlxToplevelSetSize, ← h, ite_self]
    rfl

/-! ## Windows a commit treats alike -/

/-- The two windows agree on all that `surface_commit` decides a size by, except its owner. -/
structure FitAgrees (win win' : Window) : Prop where
  output : win'.output = win.output
  lastClientConf : win'.lastClientConf = win.lastClientConf
  fitLast : win'.fitLast = win.fitLast
  fitPrev : win'.fitPrev = win.fitPrev
  fitLastMsec : win'.fitLastMsec = win.fitLastMsec
  geometry : win'.xdg.geometry = win.xdg.geometry
  surfaceSize : win'.xdg.surfaceSize = win.xdg.surfaceSize
  tiled : win'.tiled = win.tiled

/-- The A→B→A record is not touched before the decision. -/
theorem prepareCommit_fit [CInt] (cfg : Config) (win : Window) :
    (prepareCommit cfg win).fitLast = win.fitLast ∧ (prepareCommit cfg win).fitPrev = win.fitPrev ∧
      (prepareCommit cfg win).fitLastMsec = win.fitLastMsec := by
  -- neither the initial configure nor the decoration's writes to the record
  have hframe (w : Window) : w.sendInitialConfigure.applyPendingDecoration.fitLast = w.fitLast ∧
      w.sendInitialConfigure.applyPendingDecoration.fitPrev = w.fitPrev ∧
      w.sendInitialConfigure.applyPendingDecoration.fitLastMsec = w.fitLastMsec := by
    unfold applyPendingDecoration sendInitialConfigure
    split <;> split <;> exact ⟨rfl, rfl, rfl⟩
  obtain ⟨hl, hp, hm⟩ := hframe (dropHold cfg win)
  have hhold := dropHold_frame cfg win
  have hmargin := trackCsdMargin_frame (dropHold cfg win).sendInitialConfigure.applyPendingDecoration
  unfold prepareCommit
  refine ⟨?_, ?_, ?_⟩
  · exact ((congrArg Window.fitLast hmargin :).trans hl).trans (congrArg Window.fitLast hhold :)
  · exact ((congrArg Window.fitPrev hmargin :).trans hp).trans (congrArg Window.fitPrev hhold :)
  · exact ((congrArg Window.fitLastMsec hmargin :).trans hm).trans
      (congrArg Window.fitLastMsec hhold :)

namespace FitAgrees

variable {cfg : Config} {now : Int} {outcome : CommitOutcome} {win win' : Window} {out : X11Output}

theorem prepareCommit [CInt] (h : FitAgrees win win') (cfg : Config) :
    FitAgrees (win.prepareCommit cfg) (win'.prepareCommit cfg) := by
  have hp := prepareCommit_prepared cfg win
  have hp' := prepareCommit_prepared cfg win'
  obtain ⟨hl, hv, hm⟩ := prepareCommit_fit cfg win
  obtain ⟨hl', hv', hm'⟩ := prepareCommit_fit cfg win'
  constructor
  · rw [hp'.output, hp.output, h.output]
  · rw [hp'.lastClientConf, hp.lastClientConf, h.lastClientConf]
  · rw [hl', hl, h.fitLast]
  · rw [hv', hv, h.fitPrev]
  · rw [hm', hm, h.fitLastMsec]
  · rw [hp'.xdg.geometry, hp.xdg.geometry, h.geometry]
  · rw [hp'.xdg.surfaceSize, hp.xdg.surfaceSize, h.surfaceSize]
  · rw [hp'.tiled, hp.tiled, h.tiled]

theorem preferredSize (h : FitAgrees win win') :
    toplevelPreferredSize cfg win'.xdg = toplevelPreferredSize cfg win.xdg := by
  unfold toplevelPreferredSize committedSize
  rw [h.geometry, h.surfaceSize]

theorem geometryOrPreferred (h : FitAgrees win win') :
    Window.geometryOrPreferred cfg win'.xdg = Window.geometryOrPreferred cfg win.xdg := by
  unfold Window.geometryOrPreferred
  rw [h.preferredSize, h.geometry]

/-- Who asserts a shrink does not depend on who owns the size. -/
theorem assertShrink [CInt] (h : FitAgrees win win') :
    Window.assertShrink cfg win' out = Window.assertShrink cfg win out := by
  unfold Window.assertShrink sizeMismatch confDiffers
  rw [h.preferredSize, h.geometryOrPreferred, h.lastClientConf, h.tiled]

theorem releaseHostSize [CInt] (h : FitAgrees win win') :
    FitAgrees (win.releaseHostSize cfg out) (win'.releaseHostSize cfg out) :=
  ⟨h.output, h.lastClientConf, h.fitLast, h.fitPrev, h.fitLastMsec, h.geometry, h.surfaceSize,
    h.tiled⟩

theorem fitDecision [CInt] (h : FitAgrees win win') (hs : win'.sizeFromWm = win.sizeFromWm) :
    Window.fitDecision cfg now win' out = Window.fitDecision cfg now win out := by
  unfold Window.fitDecision wantFit sizeMismatch oscillates sinceFit
  rw [h.preferredSize, h.geometryOrPreferred, h.fitLast, h.fitPrev, h.fitLastMsec, h.tiled, hs]

end FitAgrees

/-- The mode `resize_output_to` leaves. -/
def resizedMode (out : X11Output) (size : Size) (outcome : CommitOutcome) : Size :=
  if size.width < minOutputSize ∨ size.height < minOutputSize then out.size
  else if out.size = size then out.size
  else (out.commitState size outcome).1.size

theorem resizeOutputTo_outputSize [CInt] (cfg : Config) (now : Int) (size : Size)
    (outcome : CommitOutcome) {win : Window} {out : X11Output} (ho : win.output = some out) :
    (resizeOutputTo cfg now size outcome win).outputSize = some (resizedMode out size outcome) := by
  have hkeep : win.outputSize = some out.size := by rw [outputSize, ho]; rfl
  unfold resizeOutputTo resizedMode
  rw [ho]
  dsimp only
  split
  · exact hkeep
  · split
    · exact hkeep
    · show (commitOutput cfg now size outcome win).output.map (·.size) = _
      rw [commitOutput_output, ho]
      rfl

/-- **A fit leaves nothing to the listener it runs**: whatever `output_commit` configured, the
client's own size is configured last. -/
theorem fitHost_standing [CInt] (cfg : Config) (now : Int) (outcome : CommitOutcome) (host : Size)
    {conf : Size} {win : Window} {out : X11Output} (ho : win.output = some out)
    (hset : conf.isSet = true) :
    (fitHost cfg now outcome host conf win).standing =
      ⟨win.sizeFromWm, some (resizedMode out host outcome), conf⟩ := by
  have hnoted : ({ win with fitPrev := win.fitLast, fitLast := host, fitLastMsec := now } :
      Window).output = some out := ho
  have hsize := resizeOutputTo_outputSize cfg now host outcome hnoted
  have howner := (resizeOutputTo_step cfg now host outcome
    { win with fitPrev := win.fitLast, fitLast := host, fitLastMsec := now }).sizeFromWm
  unfold fitHost
  dsimp only
  -- the client is configured once more, unless it was for this size
  split
  · simp only [standing, wlxToplevelSetSize, hset, if_true]
    exact congrArg₂ (Standing.mk · · conf) howner hsize
  · next hconf =>
    have hconf' := not_not.mp hconf
    rw [← hconf']
    exact congrArg₂ (Standing.mk · · _) howner hsize

/-- **The decision determines the standing**, for a window that is not the host's and, if tiled, is
configured to fill it. -/
theorem runDecision_standing_congr [CInt] (cfg : Config) (now : Int) (outcome : CommitOutcome)
    {win win' : Window} {out : X11Output} (ho : win.output = some out) (h : FitAgrees win win')
    (hs : win.sizeFromWm = false) (hs' : win'.sizeFromWm = false)
    (hfilled : win.tiled = true → win.lastClientConf = cfg.unscale out.size) :
    (runDecision cfg now outcome win' (fitDecision cfg now win' out)).standing =
      (runDecision cfg now outcome win (fitDecision cfg now win out)).standing := by
  have ho' : win'.output = some out := h.output.trans ho
  have hstand : win'.standing = win.standing := by
    simp only [standing, outputSize, hs, hs', h.output, h.lastClientConf]
  rw [h.fitDecision (hs'.trans hs.symm)]
  unfold fitDecision
  dsimp only
  split
  · split
    · exact hstand
    · have hset := geometryOrPreferred_isSet cfg win.xdg
      show (fitHost cfg now outcome _ _ win').standing = (fitHost cfg now outcome _ _ win).standing
      rw [fitHost_standing cfg now outcome _ ho' hset, fitHost_standing cfg now outcome _ ho hset,
        hs, hs']
  · split
    · next hhold =>
      -- nobody but a tiled client is held any more
      have ht : win.tiled = true := by
        simp only [hs, Bool.false_or, Bool.and_eq_true] at hhold
        exact hhold.2
      have hfill := hfilled ht
      show (wlxToplevelFillHost cfg now win').standing = (wlxToplevelFillHost cfg now win).standing
      rw [fillHost_standing_of_filled, fillHost_standing_of_filled, hstand]
      · rw [hfill, sizeForOutput_of_tiled cfg ho ht]
      · rw [h.lastClientConf, hfill, sizeForOutput_of_tiled cfg ho' (h.tiled.trans ht)]
    · exact hstand

/-- A tiled client is held or left alone, never fitted. -/
theorem runDecision_standing_of_tiled [CInt] (cfg : Config) (now : Int) (outcome : CommitOutcome)
    {win : Window} {out : X11Output} (ho : win.output = some out) (ht : win.tiled = true)
    (hfilled : win.lastClientConf = cfg.unscale out.size) :
    (runDecision cfg now outcome win (fitDecision cfg now win out)).standing = win.standing := by
  have hnofit : wantFit cfg win out = false := by simp [wantFit, ht]
  unfold fitDecision
  dsimp only
  rw [hnofit, if_neg (by simp)]
  split
  · apply fillHost_standing_of_filled
    rw [hfilled, sizeForOutput_of_tiled cfg ho ht]
  · rfl

/-! ## Commits -/

/-- The window is not the host's when the size decision is taken: it was given back before the
commit, or the commit asserts a shrink. -/
def GivesUpSize [CInt] (cfg : Config) (c : SurfaceCommit) (win : Window) : Prop :=
  win.sizeFromWm = false ∨ win.xdg.unmapCommit c = false ∧
    win.output.any (assertShrink cfg (prepareCommit cfg (win.roleCommitted c))) = true

instance [CInt] (cfg : Config) (c : SurfaceCommit) (win : Window) : Decidable (GivesUpSize cfg c win) := by
  unfold GivesUpSize; infer_instance

/-- Two windows whose next commit applies the same states. -/
structure CommitAgrees (win win' : Window) : Prop where
  output : win'.output = win.output
  lastClientConf : win'.lastClientConf = win.lastClientConf
  fitLast : win'.fitLast = win.fitLast
  fitPrev : win'.fitPrev = win.fitPrev
  fitLastMsec : win'.fitLastMsec = win.fitLastMsec
  geometry : win'.xdg.geometry = win.xdg.geometry
  surfaceSize : win'.xdg.surfaceSize = win.xdg.surfaceSize
  maximized : win'.xdg.pending.maximized = win.xdg.pending.maximized
  fullscreen : win'.xdg.pending.fullscreen = win.xdg.pending.fullscreen

theorem CommitAgrees.roleCommitted {win win' : Window} (h : CommitAgrees win win')
    (c : SurfaceCommit) : FitAgrees (win.roleCommitted c) (win'.roleCommitted c) where
  output := h.output
  lastClientConf := h.lastClientConf
  fitLast := h.fitLast
  fitPrev := h.fitPrev
  fitLastMsec := h.fitLastMsec
  geometry := congrArg c.geometry.getD h.geometry
  surfaceSize := by
    show win'.xdg.surfaceSizeAfter c = win.xdg.surfaceSizeAfter c
    simp only [XdgSurface.surfaceSizeAfter, h.surfaceSize]
  tiled := by
    show (win'.xdg.pending.tiled || win'.xdg.pending.tiled) =
      (win.xdg.pending.tiled || win.xdg.pending.tiled)
    simp only [ToplevelState.tiled, h.maximized, h.fullscreen]

/-- Without an output there is nothing to size. -/
theorem surfaceCommit_standing_of_none [CInt] (cfg : Config) (now : Int) (outcome : CommitOutcome)
    {win : Window} (ho : win.output = none) :
    (surfaceCommit cfg now outcome win).standing = win.standing := by
  have hp := prepareCommit_prepared cfg win
  have hnone : (prepareCommit cfg win).output = none := hp.output.trans ho
  rcases fitWindow_cases cfg now outcome (prepareCommit cfg win) with ⟨-, heq⟩ | ⟨out, hout, -⟩
  · rw [surfaceCommit, heq]
    simp only [standing, outputSize, hp.sizeFromWm, hp.output, hp.lastClientConf]
  · rw [hnone] at hout
    cases hout

/-- A window that gives up its size is not the host's when the decision is taken. -/
theorem GivesUpSize.released [CInt] {cfg : Config} {c : SurfaceCommit} {win : Window} {out : X11Output}
    (h : GivesUpSize cfg c win) (ho : win.output = some out) :
    (releaseHostSize cfg (prepareCommit cfg (win.roleCommitted c)) out).sizeFromWm = false := by
  have hp := (prepareCommit_prepared cfg (win.roleCommitted c)).sizeFromWm
  show ((prepareCommit cfg (win.roleCommitted c)).sizeFromWm && !_) = false
  rcases h with hfree | ⟨-, hshrink⟩
  · rw [hp]
    show (win.sizeFromWm && !_) = false
    rw [hfree, Bool.false_and]
  · rw [ho, Option.any_some] at hshrink
    rw [hshrink, Bool.not_true, Bool.and_false]

/-- **A commit leaves two windows standing alike** that it finds agreeing and that both give up
their size, if a client it leaves tiled is configured to fill the host. -/
theorem wlSurfaceCommit_standing [CInt] (cfg : Config) (now : Int) (env : MapEnv) (outcome : CommitOutcome)
    (c : SurfaceCommit) {win win' : Window} {out : X11Output} (hinv : Inv win) (hinv' : Inv win')
    (ho : win.output = some out) (h : CommitAgrees win win')
    (hgive : GivesUpSize cfg c win) (hgive' : GivesUpSize cfg c win')
    (hfilled : win.xdg.pending.tiled = true → win.lastClientConf = cfg.unscale out.size) :
    (wlSurfaceCommit cfg now env outcome c win').standing =
      (wlSurfaceCommit cfg now env outcome c win).standing := by
  have ho' : win'.output = some out := h.output.trans ho
  have hm : win.xdg.mapped = true := hinv.mapped (by rw [ho]; rfl)
  have hm' : win'.xdg.mapped = true := hinv'.mapped (by rw [ho']; rfl)
  have hu' : win'.xdg.unmapCommit c = win.xdg.unmapCommit c := by
    simp only [XdgSurface.unmapCommit, hm, hm']
  cases hu : win.xdg.unmapCommit c with
  | true =>
    -- a window that asserts no shrink has been given back before
    have howner (w : Window) (hw : w.xdg.unmapCommit c = true) (hg : GivesUpSize cfg c w) :
        w.sizeFromWm = false := by
      rcases hg with hfree | ⟨hkeep, -⟩
      · exact hfree
      · rw [hw] at hkeep
        cases hkeep
    have hfree := howner win hu hgive
    have hfree' := howner win' (hu'.trans hu) hgive'
    unfold wlSurfaceCommit
    rw [applyCommit_of_unmap cfg env hinv hu, applyCommit_of_unmap cfg env hinv' (hu'.trans hu),
      surfaceCommit_standing_of_none cfg now outcome rfl,
      surfaceCommit_standing_of_none cfg now outcome rfl]
    simp only [standing, hfree, hfree', h.lastClientConf]
    rfl
  | false =>
    have hagree := (h.roleCommitted c).prepareCommit cfg
    have hout := (prepareCommit_prepared cfg (win.roleCommitted c)).output.trans ho
    have hout' := (prepareCommit_prepared cfg (win'.roleCommitted c)).output.trans ho'
    rw [wlSurfaceCommit_of_mapped cfg now env outcome hm hu,
      wlSurfaceCommit_of_mapped cfg now env outcome hm' (hu'.trans hu), surfaceCommit,
      surfaceCommit, fitWindow, fitWindow, hout, hout']
    have hreleased : (releaseHostSize cfg (prepareCommit cfg (win.roleCommitted c)) out).output =
      some out := hout
    refine runDecision_standing_congr cfg now outcome hreleased hagree.releaseHostSize
      (hgive.released ho) (hgive'.released ho') fun ht => ?_
    have hpending : win.xdg.pending.tiled = true := by
      have hcommitted : (win.roleCommitted c).tiled = true :=
        (prepareCommit_prepared cfg (win.roleCommitted c)).tiled.symm.trans ht
      simpa [Window.tiled, roleCommitted, XdgSurface.roleCommit, XdgSurface.applyPending]
        using hcommitted
    exact (prepareCommit_prepared cfg (win.roleCommitted c)).lastClientConf.trans
      (hfilled hpending)

/-- A commit makes the acknowledged state the current one; the size policy leaves both. -/
theorem wlSurfaceCommit_states [CInt] (cfg : Config) (now : Int) (env : MapEnv) (outcome : CommitOutcome)
    (c : SurfaceCommit) {win : Window} (hinv : Inv win) (ho : win.output.isSome = true) :
    (wlSurfaceCommit cfg now env outcome c win).xdg.current = win.xdg.pending ∧
      (wlSurfaceCommit cfg now env outcome c win).xdg.pending = win.xdg.pending := by
  have hm := hinv.mapped ho
  cases hu : win.xdg.unmapCommit c with
  | true =>
    unfold wlSurfaceCommit
    rw [applyCommit_of_unmap cfg env hinv hu, (surfaceCommit_xdg cfg now outcome _).current,
      (surfaceCommit_xdg cfg now outcome _).pending]
    exact ⟨rfl, rfl⟩
  | false =>
    rw [wlSurfaceCommit_of_mapped cfg now env outcome hm hu,
      (surfaceCommit_xdg cfg now outcome _).current, (surfaceCommit_xdg cfg now outcome _).pending]
    exact ⟨rfl, rfl⟩

/-- A commit that leaves the client tiled leaves the mode, and a client configured to fill it. -/
theorem wlSurfaceCommit_filled [CInt] (cfg : Config) (now : Int) (env : MapEnv) (outcome : CommitOutcome)
    (c : SurfaceCommit) {win : Window} {out : X11Output} (hinv : Inv win)
    (ho : win.output = some out) (ht : win.xdg.pending.tiled = true)
    (hfilled : win.lastClientConf = cfg.unscale out.size)
    {out' : X11Output} (ho' : (wlSurfaceCommit cfg now env outcome c win).output = some out') :
    (wlSurfaceCommit cfg now env outcome c win).lastClientConf = cfg.unscale out'.size := by
  have hm : win.xdg.mapped = true := hinv.mapped (by rw [ho]; rfl)
  cases hu : win.xdg.unmapCommit c with
  | true =>
    have hnone : (wlSurfaceCommit cfg now env outcome c win).output.isSome = false := by
      rw [wlSurfaceCommit, applyCommit_of_unmap cfg env hinv hu, surfaceCommit_output]
      rfl
    rw [ho'] at hnone
    cases hnone
  | false =>
    have hp := prepareCommit_prepared cfg (win.roleCommitted c)
    have hout : (prepareCommit cfg (win.roleCommitted c)).output = some out := hp.output.trans ho
    have htiled : (prepareCommit cfg (win.roleCommitted c)).tiled = true := by
      rw [hp.tiled]
      show (win.xdg.pending.tiled || win.xdg.pending.tiled) = true
      rw [ht, Bool.true_or]
    have hlast : (prepareCommit cfg (win.roleCommitted c)).lastClientConf = cfg.unscale out.size :=
      hp.lastClientConf.trans hfilled
    -- a tiled client is not fitted, and one configured for this size is not filled
    have hkeep : (wlSurfaceCommit cfg now env outcome c win).standing =
        (releaseHostSize cfg (prepareCommit cfg (win.roleCommitted c)) out).standing := by
      rw [wlSurfaceCommit_of_mapped cfg now env outcome hm hu, surfaceCommit, fitWindow, hout]
      exact runDecision_standing_of_tiled cfg now outcome hout htiled hlast
    have hsize : some out'.size = some out.size := by
      have := congrArg Standing.outputSize hkeep
      simp only [standing, outputSize, ho'] at this
      refine this.trans ?_
      show (prepareCommit cfg (win.roleCommitted c)).output.map (·.size) = _
      rw [hout]
      rfl
    rw [Option.some.inj hsize]
    exact (congrArg Standing.lastClientConf hkeep).trans hlast

end Window

end Wlx
