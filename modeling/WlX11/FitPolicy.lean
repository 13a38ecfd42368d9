import WlX11.HostAuthority

/-!
# WlX11 — what one commit does to the size of a window

`surface_commit` resizes the output in one branch only, the fit. This module says when that branch is
taken (`Window.fitsHost`), what becomes of the output's size and of the history of fits
(`surfaceCommit_fitted`), and draws two conclusions.

* **`within_host_iff`** — a window whose size is the host's should never be made larger by its client.
  The release of `size_from_wm` asks whether the client wants to be smaller in *some* dimension; the
  fit that follows takes both.
* **`fit_settles_iff`** — a client that owns its size should get it, or everything should stay as it
  was. A side below `WLX_MIN_OUTPUT_SIZE` is replaced by a default, and the history is written before
  the resize, which can refuse the size or fail.
-/

namespace Wlx

open X11Output (CommitOutcome)
open Window (NetWmAtom MapEnv)

/-- What `surface_commit` remembers of its fits. -/
structure FitHistory where
  last : Size
  prev : Size
  lastMsec : Int
deriving DecidableEq

namespace Window

/-- `fit_last`, `fit_prev` and `fit_last_msec`. -/
def fitHistory (win : Window) : FitHistory := ⟨win.fitLast, win.fitPrev, win.fitLastMsec⟩

section AnyInt

variable [CInt]

/-- The history after a fit to `host` at time `now`. -/
def recordFit (now : Int) (host : Size) (h : FitHistory) : FitHistory := ⟨host, h.last, now⟩

/-- The host size the client's committed size asks for. -/
def wantedHost (cfg : Config) (win : Window) : Size := cfg.scale (toplevelPreferredSize cfg win.xdg)

/-- The commit resizes the output: the wanted size is another one, the window is neither maximized nor
fullscreen, the client owns the size or asserts a shrink, and the guard lets the fit pass. -/
def fitsHost (cfg : Config) (now : Int) (win : Window) (out : X11Output) : Bool :=
  sizeMismatch cfg win out && !win.tiled && (!win.sizeFromWm || assertShrink cfg win out) &&
    !oscillates now win (wantedHost cfg win)

/-- `resize_output_to` takes the size: it is not too small, and the commit succeeds. -/
def takes (host : Size) (outcome : CommitOutcome) : Bool :=
  (minOutputSize ≤ host.width && minOutputSize ≤ host.height : Bool) && outcome = .ok

/-! ## Who writes the history -/

section History

variable (cfg : Config) (now : Int) (outcome : CommitOutcome) (win : Window)

omit [CInt] in
@[simp] theorem wlxToplevelSetSize_fitHistory (size : Size) :
    (win.wlxToplevelSetSize size).fitHistory = win.fitHistory := rfl

@[simp] theorem wlxToplevelFillHost_fitHistory :
    (wlxToplevelFillHost cfg now win).fitHistory = win.fitHistory := by
  rcases wlxToplevelFillHost_cases cfg now win with h | ⟨msec, h⟩ <;> rw [h]
  rfl

@[simp] theorem outputCommit_fitHistory :
    (outputCommit cfg now win).fitHistory = win.fitHistory := by
  unfold outputCommit
  split
  · rfl
  split
  · rfl
  split
  · rfl
  · rw [wlxToplevelFillHost_fitHistory]
    rfl

@[simp] theorem commitOutput_fitHistory (size : Size) :
    (commitOutput cfg now size outcome win).fitHistory = win.fitHistory := by
  unfold commitOutput
  split
  · rfl
  · dsimp only
    split
    · rw [outputCommit_fitHistory]
      rfl
    · rfl

@[simp] theorem resizeOutputTo_fitHistory (size : Size) :
    (resizeOutputTo cfg now size outcome win).fitHistory = win.fitHistory := by
  unfold resizeOutputTo
  split
  · rfl
  split
  · rfl
  split
  · rfl
  · exact commitOutput_fitHistory cfg now outcome win size

@[simp] theorem prepareCommit_fitHistory : (prepareCommit cfg win).fitHistory = win.fitHistory := by
  have hhold : (dropHold cfg win).fitHistory = win.fitHistory :=
    (congrArg fitHistory (dropHold_frame cfg win) :)
  have hsent (w : Window) : w.sendInitialConfigure.fitHistory = w.fitHistory := by
    unfold sendInitialConfigure
    split <;> rfl
  have hdeco (w : Window) : w.applyPendingDecoration.fitHistory = w.fitHistory := by
    unfold applyPendingDecoration
    split <;> rfl
  have hmargin (w : Window) : w.trackCsdMargin.fitHistory = w.fitHistory :=
    (congrArg fitHistory (trackCsdMargin_frame w) :)
  unfold prepareCommit
  rw [hmargin, hdeco, hsent, hhold]

end History

/-! ## The spec of `surface_commit` -/

section Spec

variable {cfg : Config} {now : Int} {outcome : CommitOutcome} {win : Window} {out : X11Output}

theorem wantFit_eq :
    wantFit cfg win out = (sizeMismatch cfg win out && !win.tiled && !win.sizeFromWm) := by
  have hset (side default : Int) (h : minOutputSize ≤ default) :
      minOutputSize ≤ if side < minOutputSize then default else side := by
    split <;> omega
  have hw : minOutputSize ≤ (toplevelPreferredSize cfg win.xdg).width := hset _ _ (by decide)
  have hh : minOutputSize ≤ (toplevelPreferredSize cfg win.xdg).height := hset _ _ (by decide)
  unfold wantFit
  simp [hw, hh]

/-- The sizes a preparation leaves alone. -/
theorem prepareCommit_reads (cfg : Config) (now : Int) (ho : win.output = some out) :
    (prepareCommit cfg win).output = some out ∧
      fitsHost cfg now (prepareCommit cfg win) out = fitsHost cfg now win out ∧
      wantedHost cfg (prepareCommit cfg win) = wantedHost cfg win := by
  have hprep := prepareCommit_prepared cfg win
  have hhistory := prepareCommit_fitHistory cfg win
  have hpref : toplevelPreferredSize cfg (prepareCommit cfg win).xdg =
      toplevelPreferredSize cfg win.xdg := by
    simp only [toplevelPreferredSize, committedSize, hprep.xdg.geometry, hprep.xdg.surfaceSize]
    rfl
  have hgeo : geometryOrPreferred cfg (prepareCommit cfg win).xdg =
      geometryOrPreferred cfg win.xdg := by
    simp only [geometryOrPreferred, hpref, hprep.xdg.geometry]
  -- the wanted size is made of the preferred one, the rest of the record
  have hwant : wantedHost cfg (prepareCommit cfg win) = wantedHost cfg win := by
    rw [wantedHost, wantedHost, hpref]
  obtain ⟨hlast, hprev, hmsec⟩ :
      (prepareCommit cfg win).fitLast = win.fitLast ∧ (prepareCommit cfg win).fitPrev = win.fitPrev ∧
        (prepareCommit cfg win).fitLastMsec = win.fitLastMsec := by
    simpa [fitHistory] using hhistory
  refine ⟨hprep.output.trans ho, ?_, hwant⟩
  simp only [fitsHost, assertShrink, sizeMismatch, confDiffers, oscillates, sinceFit, hpref, hgeo,
    hprep.tiled, hprep.sizeFromWm, hprep.lastClientConf, hlast, hprev, hmsec, hwant]
  rfl

/-- The size decision, told by `fitsHost`. -/
theorem fitDecision_of_fits (h : fitsHost cfg now win out = true) :
    fitDecision cfg now (releaseHostSize cfg win out) out =
      .fit (wantedHost cfg win) (geometryOrPreferred cfg win.xdg) := by
  unfold fitsHost at h
  rw [Bool.and_eq_true, Bool.not_eq_true'] at h
  have hwant : wantFit cfg (releaseHostSize cfg win out) out = true := by
    rw [wantFit_eq]
    show (sizeMismatch cfg win out && !win.tiled && !(win.sizeFromWm && !assertShrink cfg win out)) =
      true
    rw [Bool.not_and, Bool.not_not]
    exact h.1
  have hpasses : oscillates now (releaseHostSize cfg win out) (wantedHost cfg win) = false := h.2
  unfold fitDecision
  dsimp only
  rw [if_pos hwant]
  exact if_neg (Bool.eq_false_iff.mp hpasses)

theorem fitDecision_of_not_fits (h : fitsHost cfg now win out = false) (host conf : Size) :
    fitDecision cfg now (releaseHostSize cfg win out) out ≠ .fit host conf := by
  -- what keeps a wanted fit from happening is the guard against oscillation
  have hwant : wantFit cfg (releaseHostSize cfg win out) out = true →
      oscillates now (releaseHostSize cfg win out) (wantedHost cfg win) = true := by
    intro hw
    rw [wantFit_eq] at hw
    have hw' : (sizeMismatch cfg win out && !win.tiled &&
        !(win.sizeFromWm && !assertShrink cfg win out)) = true := hw
    rw [Bool.not_and, Bool.not_not] at hw'
    unfold fitsHost at h
    rw [hw', Bool.true_and, Bool.not_eq_false'] at h
    exact h
  unfold fitDecision
  dsimp only
  split
  · next hw =>
    have hosc : oscillates now (releaseHostSize cfg win out)
        (cfg.scale (toplevelPreferredSize cfg (releaseHostSize cfg win out).xdg)) = true := hwant hw
    rw [if_pos hosc]
    nofun
  · split <;> nofun

/-- What `resize_output_to` makes of the mode. -/
theorem resizeOutputTo_size (size : Size) (ho : win.output = some out) :
    (resizeOutputTo cfg now size outcome win).outputSize =
      some (if takes size outcome then size else out.size) := by
  unfold resizeOutputTo takes
  rw [ho]
  dsimp only
  by_cases hmin : size.width < minOutputSize ∨ size.height < minOutputSize
  · rw [if_pos hmin, if_neg (by simp; omega), outputSize, ho]
    rfl
  · rw [if_neg hmin]
    -- the size it has already is not asked for
    by_cases hsame : out.size = size
    · rw [if_pos hsame, outputSize, ho, ← hsame, ite_self]
      rfl
    · rw [if_neg hsame]
      have hmap : (commitOutput cfg now size outcome win).outputSize =
          some (out.commitState size outcome).1.size := by
        rw [outputSize, commitOutput_output, ho]
        rfl
      show (commitOutput cfg now size outcome win).outputSize = _
      rw [hmap]
      -- from here on it is the backend that decides
      by_cases hok : outcome = .ok
      · rw [if_pos (by simp [hok]; omega), hok, X11Output.commitState_ok_size]
      · rw [if_neg (by simp [hok]), X11Output.commitState_size_of_ne_ok out size hok]

/-- **What one commit does to the size.** A fit records the wanted size, and the output takes it if it
can. Every other commit leaves output size and history as they are. -/
theorem surfaceCommit_fitted (cfg : Config) (now : Int) (outcome : CommitOutcome)
    (ho : win.output = some out) :
    let after := surfaceCommit cfg now outcome win
    if fitsHost cfg now win out then
      after.fitHistory = recordFit now (wantedHost cfg win) win.fitHistory ∧
        after.outputSize =
          some (if takes (wantedHost cfg win) outcome then wantedHost cfg win else out.size)
    else after.fitHistory = win.fitHistory ∧ after.outputSize = some out.size := by
  obtain ⟨hout, hfits, hwant⟩ := prepareCommit_reads cfg now ho
  have hhistory := prepareCommit_fitHistory cfg win
  intro after
  have hafter : after = fitWindow cfg now outcome (prepareCommit cfg win) := rfl
  unfold fitWindow at hafter
  rw [hout] at hafter
  dsimp only at hafter
  rw [hafter, ← hfits, ← hwant, ← hhistory]
  have hreleased : (releaseHostSize cfg (prepareCommit cfg win) out).output = some out := hout
  cases hf : fitsHost cfg now (prepareCommit cfg win) out with
  | true =>
    rw [if_pos rfl, fitDecision_of_fits hf]
    simp only [runDecision, fitHost]
    -- the configure that may follow touches neither
    have hconf (w : Window) (conf : Size) :
        (if w.lastClientConf ≠ conf then w.wlxToplevelSetSize conf else w).fitHistory = w.fitHistory ∧
          (if w.lastClientConf ≠ conf then w.wlxToplevelSetSize conf else w).outputSize =
            w.outputSize := by
      split <;> exact ⟨rfl, rfl⟩
    rw [(hconf _ _).1, (hconf _ _).2]
    constructor
    · rw [resizeOutputTo_fitHistory]
      rfl
    · exact resizeOutputTo_size (wantedHost cfg (prepareCommit cfg win)) hreleased
  | false =>
    rw [if_neg (by simp)]
    cases hd : fitDecision cfg now (releaseHostSize cfg (prepareCommit cfg win) out) out with
    | fit host conf => exact absurd hd (fitDecision_of_not_fits hf host conf)
    | oscillation =>
      refine ⟨rfl, ?_⟩
      show (releaseHostSize cfg (prepareCommit cfg win) out).output.map _ = _
      rw [hreleased]
      rfl
    | idle =>
      refine ⟨rfl, ?_⟩
      show (releaseHostSize cfg (prepareCommit cfg win) out).output.map _ = _
      rw [hreleased]
      rfl
    -- the client is told the host's size, nothing more
    | hold =>
      refine ⟨wlxToplevelFillHost_fitHistory cfg now _, ?_⟩
      show (wlxToplevelFillHost cfg now _).output.map _ = _
      rw [wlxToplevelFillHost_output, hreleased]
      rfl

end Spec

/-! ## A window whose size is the host's -/

section HostSized

variable {cfg : Config} {now : Int} {outcome : CommitOutcome} {win : Window} {out : X11Output}

/-- **A commit keeps within the host size.** For a window whose size is the host's, neither maximized
nor fullscreen: one `surface_commit` leaves the output no larger in either dimension exactly if a
client that asserts a shrink, whose fit is let pass and taken, wants no side larger than the host's. -/
theorem within_host_iff (ho : win.output = some out) (hhost : win.sizeFromWm = true)
    (hfloating : win.tiled = false) :
    (∀ size ∈ (surfaceCommit cfg now outcome win).outputSize,
        size.width ≤ out.size.width ∧ size.height ≤ out.size.height) ↔
      (assertShrink cfg win out = true → oscillates now win (wantedHost cfg win) = false →
        takes (wantedHost cfg win) outcome = true →
          (wantedHost cfg win).width ≤ out.size.width ∧
            (wantedHost cfg win).height ≤ out.size.height) := by
  have hspec := surfaceCommit_fitted cfg now outcome ho
  have hfits : fitsHost cfg now win out = true ↔
      assertShrink cfg win out = true ∧ oscillates now win (wantedHost cfg win) = false := by
    unfold fitsHost
    rw [hhost, hfloating]
    constructor
    · intro h
      simpa using (show (assertShrink cfg win out && !oscillates now win (wantedHost cfg win)) = true by
        simp only [Bool.and_eq_true] at h ⊢
        exact ⟨by simpa using h.1.2, h.2⟩)
    · rintro ⟨hshrink, hpasses⟩
      -- a shrink is a mismatch
      have hmismatch : sizeMismatch cfg win out = true := by
        unfold assertShrink at hshrink
        simp only [Bool.and_eq_true] at hshrink
        exact hshrink.1.1.1
      simp [hmismatch, hshrink, hpasses]
  dsimp only at hspec
  cases hf : fitsHost cfg now win out with
  | false =>
    rw [hf, if_neg (by simp)] at hspec
    refine iff_of_true ?_ fun hshrink hpasses _ => ?_
    · rw [hspec.2]
      rintro size ⟨⟩
      exact ⟨le_rfl, le_rfl⟩
    · rw [hfits.mpr ⟨hshrink, hpasses⟩] at hf
      cases hf
  | true =>
    rw [hf, if_pos rfl] at hspec
    obtain ⟨hshrink, hpasses⟩ := hfits.mp hf
    rw [hspec.2]
    simp only [Option.mem_some_iff, forall_eq']
    cases takes (wantedHost cfg win) outcome with
    | false => exact iff_of_true ⟨le_rfl, le_rfl⟩ fun _ _ h => nomatch h
    | true => exact ⟨fun h _ _ _ => h, fun h => h hshrink hpasses rfl⟩

end HostSized

end AnyInt

/-- A window of the host's: 500x350, as the client was configured. -/
def resizedByHost (geometry : Box) : Window :=
  { fresh with
    xdg := { XdgSurface.fresh with
      initialized := true, mapped := true, configured := true, hasBuffer := true
      surfaceSize := geometry.size, geometry := geometry }
    output := some ((X11Output.create 0).commitState ⟨500, 350⟩ .ok).1
    lastOutputSize := ⟨500, 350⟩
    sizeFromWm := true
    lastClientConf := ⟨500, 350⟩
    initialConfigureSent := true }

/-- A client that wants to be smaller gets its size. -/
theorem within_host_smaller :
    (resizedByHost ⟨0, 0, 400, 300⟩).outputSize = some ⟨500, 350⟩ ∧
      ∀ size ∈ (surfaceCommit ⟨1, false⟩ 1000 .ok (resizedByHost ⟨0, 0, 400, 300⟩)).outputSize,
        size.width ≤ 500 ∧ size.height ≤ 350 :=
  ⟨rfl, (within_host_iff
    (rfl : Window.output _ = some ((X11Output.create 0).commitState ⟨500, 350⟩ .ok).1) rfl
    rfl).mpr (by decide +kernel)⟩

/-- A client that wants to be narrower and taller grows the window beyond the host's size. -/
theorem taller_client_outgrows_host :
    ¬ ∀ (cfg : Config) (now : Int) (outcome : CommitOutcome) (win : Window) (out : X11Output),
      win.output = some out → win.sizeFromWm = true → win.tiled = false →
        ∀ size ∈ (surfaceCommit cfg now outcome win).outputSize,
          size.width ≤ out.size.width ∧ size.height ≤ out.size.height := by
  intro h
  have hgrown := h ⟨1, false⟩ 1000 .ok (resizedByHost ⟨0, 0, 400, 600⟩)
    ((X11Output.create 0).commitState ⟨500, 350⟩ .ok).1 rfl rfl rfl ⟨400, 600⟩ (by decide +kernel)
  exact absurd hgrown.2 (by decide +kernel)

/-! ## A client that owns its size

Here an `int` has 32 bits: a scaled size that it does not hold is stored as another one. -/

section Int32

attribute [local instance] CInt.int32

section ClientSized

/-- A side in host pixels, whether an `int` holds it or not. -/
def exactSide (cfg : Config) (side : Int) : Int := @wlxScaleSize CInt.unbounded cfg side

variable {cfg : Config} {now : Int} {outcome : CommitOutcome} {win : Window} {out : X11Output}

theorem exactSide_eq (hscale : 0 < cfg.contentScale) (side : Int) :
    exactSide cfg side = max 1 (lround (side * cfg.contentScale)) :=
  wlxScaleSize_of_pos (not_le.mpr hscale) side

/-- A default that is large enough for the host, and fits an `int`, is far from the side it stands for. -/
theorem scaled_default_far (hscale : 0 < cfg.contentScale) {side default : Int}
    (hside : side < minOutputSize) (hdefault : 64 ≤ default)
    (hfits : CInt.Fits (lround (default * cfg.contentScale)))
    (htaken : minOutputSize ≤ wlxScaleSize cfg default) :
    1 < |wlxScaleSize cfg default - exactSide cfg side| := by
  have hpos : ¬ cfg.contentScale ≤ 0 := not_le.mpr hscale
  have hstored : wlxScaleSize cfg default = max 1 (lround (default * cfg.contentScale)) :=
    (wlxScaleSize_int32 hfits).trans (wlxScaleSize_of_pos hpos default)
  rw [hstored] at htaken ⊢
  rw [exactSide_eq hscale]
  unfold minOutputSize at hside htaken
  have hlarge : 32 ≤ lround (default * cfg.contentScale) := by omega
  have hlarge' : (32 : ℚ) ≤ lround (default * cfg.contentScale) := by exact_mod_cast hlarge
  obtain ⟨hlow, hhigh⟩ := lround_bounds (default * cfg.contentScale)
  obtain ⟨-, hsmall⟩ := lround_bounds (side * cfg.contentScale)
  have hside' : (side : ℚ) * cfg.contentScale ≤ 31 * cfg.contentScale := by
    apply mul_le_mul_of_nonneg_right _ hscale.le
    exact_mod_cast (by omega : side ≤ 31)
  have hdefault' : 64 * cfg.contentScale ≤ (default : ℚ) * cfg.contentScale := by
    apply mul_le_mul_of_nonneg_right _ hscale.le
    exact_mod_cast hdefault
  -- the two products are 33 scales apart, and the larger is 32 at least
  have hgap : (lround (side * cfg.contentScale) : ℚ) + 2 ≤ lround (default * cfg.contentScale) := by
    linarith
  have hgap' : lround (side * cfg.contentScale) + 2 ≤ lround (default * cfg.contentScale) := by
    exact_mod_cast hgap
  rw [abs_of_pos (by omega)]
  omega

/-- A side that no `int` holds is stored as one that is far from it. -/
theorem exactSide_agrees_iff (hscale : 0 < cfg.contentScale) {side : Int} (hside : minOutputSize ≤ side) :
    |wlxScaleSize cfg side - exactSide cfg side| ≤ 1 ↔
      CInt.Fits (lround (side * cfg.contentScale)) := by
  have hstored : wlxScaleSize cfg side =
      max 1 (CInt.int32.store (lround (side * cfg.contentScale))) := if_neg (not_le.mpr hscale)
  rw [hstored, exactSide_eq hscale]
  constructor
  -- a product that wraps lands below zero or far under what it should be
  · intro hnear
    by_contra hfits
    have hside' : (0 : ℚ) ≤ side := by
      unfold minOutputSize at hside
      exact_mod_cast (by omega : 0 ≤ side)
    have hfar := CInt.store_lt_of_not_fits (lround_nonneg (mul_nonneg hside' hscale.le)) hfits
    rw [abs_le] at hnear
    omega
  · intro hfits
    rw [CInt.store_of_fits hfits, sub_self, abs_zero]
    exact zero_le_one

/-- The output has the client's size to within a pixel, or the resize left it and the history as they
were. -/
def FitSettled (cfg : Config) (before after : Window) : Prop :=
  (∃ size, after.outputSize = some size ∧
      size.differs 1 (cfg.exactScale (committedSize cfg before.xdg)) = false) ∨
    (after.outputSize = before.outputSize ∧ after.fitHistory = before.fitHistory)

/-- A committed side can be taken: it is not replaced by a default, and an `int` holds the scaled side.
Otherwise it takes a default that no `int` holds, and that wraps around to the side by accident. -/
def SideTaken (cfg : Config) (default side : Int) : Prop :=
  if minOutputSize ≤ side then CInt.Fits (lround (side * cfg.contentScale))
  else ¬ CInt.Fits (lround (default * cfg.contentScale)) ∧
    |wlxScaleSize cfg default - exactSide cfg side| ≤ 1

instance (cfg : Config) (default side : Int) : Decidable (SideTaken cfg default side) := by
  unfold SideTaken
  infer_instance

/-- What a fit needs. Where the resize is taken, so are both committed sides; and where it is not, the
output has the committed size already, or the history happens to read as the fit writes it. -/
def FitSound (cfg : Config) (now : Int) (outcome : CommitOutcome) (win : Window)
    (out : X11Output) : Prop :=
  sizeMismatch cfg win out = true →
    if takes (wantedHost cfg win) outcome then
      SideTaken cfg defaultWidth (committedSize cfg win.xdg).width ∧
        SideTaken cfg defaultHeight (committedSize cfg win.xdg).height
    else
      out.size.differs 1 (cfg.exactScale (committedSize cfg win.xdg)) = false ∨
        (win.fitLast = wantedHost cfg win ∧ win.fitPrev = win.fitLast ∧ win.fitLastMsec = now)

instance : Decidable (FitSound cfg now outcome win out) := by
  unfold FitSound
  infer_instance

/-- One side of a host size that is taken. -/
theorem sideTaken_iff (hscale : 0 < cfg.contentScale) {default side : Int} (hdefault : 64 ≤ default)
    (htaken : minOutputSize ≤ wlxScaleSize cfg (if side < minOutputSize then default else side)) :
    |wlxScaleSize cfg (if side < minOutputSize then default else side) - exactSide cfg side| ≤ 1 ↔
      SideTaken cfg default side := by
  unfold SideTaken
  by_cases hside : minOutputSize ≤ side
  · rw [if_neg (not_lt.mpr hside), if_pos hside]
    exact exactSide_agrees_iff hscale hside
  · rw [if_pos (not_le.mp hside)] at htaken ⊢
    rw [if_neg hside]
    refine ⟨fun hnear => ⟨fun hfits => ?_, hnear⟩, fun h => h.2⟩
    exact absurd hnear (not_le.mpr (scaled_default_far hscale (not_le.mp hside) hdefault hfits htaken))

/-- A host size that is taken is the committed one exactly if both sides are. -/
theorem wantedHost_agrees_iff (hscale : 0 < cfg.contentScale)
    (htakes : takes (wantedHost cfg win) outcome = true) :
    (wantedHost cfg win).differs 1 (cfg.exactScale (committedSize cfg win.xdg)) = false ↔
      SideTaken cfg defaultWidth (committedSize cfg win.xdg).width ∧
        SideTaken cfg defaultHeight (committedSize cfg win.xdg).height := by
  unfold takes at htakes
  simp only [Bool.and_eq_true, decide_eq_true_eq] at htakes
  obtain ⟨⟨htaken_w, htaken_h⟩, -⟩ := htakes
  rw [← Bool.not_eq_true, Size.differs_iff, not_or, not_lt, not_lt]
  exact and_congr (sideTaken_iff hscale (by decide) htaken_w) (sideTaken_iff hscale (by decide) htaken_h)

end ClientSized

/-- A window of the client's, whose client has committed another size. -/
def resizedByClient (geometry : Box) : Window :=
  { resizedByHost geometry with sizeFromWm := false }

/-- A width of four times as many pixels as an `int` holds is fitted to a window of 900x700. -/
example : (surfaceCommit ⟨4, false⟩ 1000 .ok (resizedByClient ⟨0, 0, 1073742049, 175⟩)).outputSize =
    some ⟨900, 700⟩ := by decide +kernel

end Int32

end Window

end Wlx
