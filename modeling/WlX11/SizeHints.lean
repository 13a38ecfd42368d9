import WlX11.PopupUnconstrain
import WlX11.Handlers

/-!
# WlX11 — the size limits of a client

A client sets the smallest and the largest size it wants, in logical pixels, and 0 for no limit.
`win_sync_size_hints` publishes both, scaled, as `WM_NORMAL_HINTS`, and what the host then makes of the
window is unscaled again, less the margin of a client that draws its own shadow, by
`wlx_toplevel_size_for_output`.

* **`wlxUnscaleSize_scale`** — from a scale of 1 on, what is scaled is unscaled to itself.
* **`hintsSound_iff`** — sizes that meet the hints make configures that meet the limits exactly if both
  maxima are set or none, and no margin is taken off a client that has a minimum.
-/

namespace Wlx

/-- `min_width` to `max_height` of an `xdg_toplevel`; a commit with others is a protocol error
(`handle_xdg_toplevel_client_commit`). -/
structure SizeLimits where
  min : Size
  max : Size
  min_nonneg : 0 ≤ min.width ∧ 0 ≤ min.height
  max_nonneg : 0 ≤ max.width ∧ 0 ≤ max.height
  ordered : (max.width ≠ 0 → min.width ≤ max.width) ∧ (max.height ≠ 0 → min.height ≤ max.height)
deriving DecidableEq

/-- The part of `WM_NORMAL_HINTS` that is not always zero: `PSize`, `PMinSize`, and `PMaxSize` if the
flag is set. -/
structure SizeHints where
  size : Size
  min : Size
  max : Option Size
deriving DecidableEq

namespace SizeLimits

/-- No limits. -/
def none : SizeLimits := ⟨⟨0, 0⟩, ⟨0, 0⟩, by decide, by decide, by decide⟩

/-- The size is within the limits. -/
def Admits (l : SizeLimits) (s : Size) : Prop :=
  (l.min.width ≤ s.width ∧ (l.max.width ≠ 0 → s.width ≤ l.max.width)) ∧
    (l.min.height ≤ s.height ∧ (l.max.height ≠ 0 → s.height ≤ l.max.height))

instance (l : SizeLimits) (s : Size) : Decidable (l.Admits s) := inferInstanceAs (Decidable (_ ∧ _))

/-- The width has a maximum if the height has. -/
def Paired (l : SizeLimits) : Prop := l.max.width = 0 ↔ l.max.height = 0

instance (l : SizeLimits) : Decidable l.Paired := inferInstanceAs (Decidable (_ ↔ _))

end SizeLimits

namespace SizeHints

/-- The host may give the window this size. -/
def Admits (hints : SizeHints) (s : Size) : Prop :=
  (hints.min.width ≤ s.width ∧ hints.min.height ≤ s.height) ∧
    ∀ max ∈ hints.max, s.width ≤ max.width ∧ s.height ≤ max.height

instance (hints : SizeHints) (s : Size) : Decidable (hints.Admits s) :=
  inferInstanceAs (Decidable (_ ∧ ∀ max ∈ hints.max, _))

end SizeHints

/-- `xwin_set_size_hints`: what is written, if anything is. -/
def xwinSetSizeHints (size min max : Size) : Option SizeHints :=
  if size.width ≤ 0 ∨ size.height ≤ 0 then none
  else
    some
      { size := size
        min := ⟨if 0 < min.width then min.width else 1, if 0 < min.height then min.height else 1⟩
        max := if 0 < max.width ∧ 0 < max.height then some max else none }

namespace Window

/-- The size `win_sync_size_hints` publishes: the last one of the output, or the output's. -/
def hintedSize (win : Window) : Size :=
  { width := if 0 < win.lastOutputSize.width then win.lastOutputSize.width
      else (win.outputSize.map (·.width)).getD 0
    height := if 0 < win.lastOutputSize.height then win.lastOutputSize.height
      else (win.outputSize.map (·.height)).getD 0 }

/-- `win_sync_size_hints`: what is written to the window and, if that is another one, to the content
window. -/
def winSyncSizeHints (cfg : Config) (limits : SizeLimits) (win : Window) : Option SizeHints :=
  let size := win.hintedSize
  if size.width ≤ 0 ∨ size.height ≤ 0 then none
  else
    xwinSetSizeHints size
      ⟨if 0 < limits.min.width then wlxScaleSize cfg limits.min.width else 1,
        if 0 < limits.min.height then wlxScaleSize cfg limits.min.height else 1⟩
      (if 0 < limits.max.width ∧ 0 < limits.max.height then cfg.scale limits.max else ⟨0, 0⟩)

/-- The host gives the window this size, and its output takes it. -/
def atHost (host : Size) (win : Window) : Window :=
  { win with output := win.output.map fun out => { out with size := host } }

/-- `surface_commit` has clamped the margin. -/
def MarginClamped (win : Window) : Prop := 0 ≤ win.csdMargin.width ∧ 0 ≤ win.csdMargin.height

/-- The margin is taken off the size a floating client is configured to. -/
def MarginTaken (cfg : Config) (win : Window) : Prop :=
  cfg.preferCsd = true ∧ (0 < win.csdMargin.width ∨ 0 < win.csdMargin.height)

instance (win : Window) : Decidable win.MarginClamped := inferInstanceAs (Decidable (_ ∧ _))

instance (cfg : Config) (win : Window) : Decidable (win.MarginTaken cfg) :=
  inferInstanceAs (Decidable (_ ∧ _))

/-- What the host may do within the hints, the client can take. -/
def HintsSound (cfg : Config) (limits : SizeLimits) (hints : SizeHints) (win : Window) : Prop :=
  ∀ host, hints.Admits host → limits.Admits (wlxToplevelSizeForOutput cfg (win.atHost host))

/-- Both maxima are set or none, and what the client wants at least is not made less by a margin. -/
def LimitsKept (cfg : Config) (limits : SizeLimits) (win : Window) : Prop :=
  limits.Paired ∧
    (win.MarginTaken cfg →
      (limits.min.width ≤ 1 ∨ win.csdMargin.width = 0) ∧
        (limits.min.height ≤ 1 ∨ win.csdMargin.height = 0))

instance (cfg : Config) (limits : SizeLimits) (win : Window) : Decidable (win.LimitsKept cfg limits) :=
  inferInstanceAs (Decidable (_ ∧ (_ → _)))

end Window

/-! ## Scaling and unscaling -/

section Scaling

variable {cfg : Config}

theorem wlxUnscaleSize_mono {m n : Int} (h : m ≤ n) : wlxUnscaleSize cfg m ≤ wlxUnscaleSize cfg n := by
  unfold wlxUnscaleSize
  split
  · exact h
  · rename_i hpos
    refine max_le_max_left 1 (lround_nearest.mono ?_)
    exact div_le_div_of_nonneg_right (by exact_mod_cast h) (not_le.mp hpos).le

theorem one_le_wlxUnscaleSize (hscale : 1 ≤ cfg.contentScale) (n : Int) : 1 ≤ wlxUnscaleSize cfg n := by
  rw [wlxUnscaleSize_of_pos (by linarith)]
  exact le_max_left 1 _

/-- A number that is less than half away from a whole one is rounded to that. -/
theorem lround_eq_of_near {q : ℚ} {n : Int} (hlow : (n : ℚ) - 1 / 2 < q)
    (hhigh : q < n + 1 / 2) : lround q = n := by
  obtain ⟨hdown, hup⟩ := lround_bounds q
  have hlt : (lround q : ℚ) < n + 1 := by linarith
  have hgt : (n : ℚ) - 1 < lround q := by linarith
  have hlt : lround q < n + 1 := by exact_mod_cast hlt
  have hgt : n - 1 < lround q := by exact_mod_cast hgt
  omega

/-- **There and back.** With a scale of 1 or more a host pixel is at most a logical one, and half of it
is made up for. -/
theorem wlxUnscaleSize_scale (hscale : 1 ≤ cfg.contentScale) {n : Int} (hn : 1 ≤ n) :
    wlxUnscaleSize cfg (wlxScaleSize cfg n) = n := by
  have hpos : 0 < cfg.contentScale := by linarith
  have hnq : (1 : ℚ) ≤ n := by exact_mod_cast hn
  have hscaled : wlxScaleSize cfg n = lround (n * cfg.contentScale) := by
    rw [wlxScaleSize_of_pos (not_le.mpr hpos), max_eq_right]
    have hle : lround ((1 : Int) : ℚ) ≤ lround (n * cfg.contentScale) := by
      refine lround_nearest.mono ?_
      push_cast
      nlinarith
    rwa [lround_intCast] at hle
  -- rounding moves the product by half a pixel, which the division by the scale shrinks
  have hround : lround ((lround (n * cfg.contentScale) : ℚ) / cfg.contentScale) = n := by
    rcases hscale.eq_or_lt with hone | hmore
    · rw [← hone, mul_one, lround_intCast, div_one, lround_intCast]
    · obtain ⟨hdown, hup⟩ := lround_bounds (n * cfg.contentScale)
      refine lround_eq_of_near ?_ ?_
      · rw [lt_div_iff₀ hpos]
        linarith
      · rw [div_lt_iff₀ hpos]
        linarith
  rw [wlxUnscaleSize_of_pos (not_le.mpr hpos), hscaled, hround]
  exact max_eq_right hn

end Scaling

/-! ## One dimension -/

/-- The least a hint asks for. -/
def hintedMin (cfg : Config) (min : Int) : Int := if 0 < min then wlxScaleSize cfg min else 1

/-- The configured side for a side of the host window. -/
def sideForOutput (cfg : Config) (margin host : Int) : Int := max 1 (wlxUnscaleSize cfg host - margin)

section Side

variable {cfg : Config} {margin min max host : Int}

theorem sideForOutput_mono (margin : Int) {host host' : Int} (h : host ≤ host') :
    sideForOutput cfg margin host ≤ sideForOutput cfg margin host' := by
  have hle : wlxUnscaleSize cfg _ ≤ wlxUnscaleSize cfg _ := wlxUnscaleSize_mono h
  exact max_le_max_left 1 (by omega)

/-- The smallest host window that is admitted is large enough exactly if there is no minimum, or
nothing is taken off it. -/
theorem min_le_sideForOutput_iff (hscale : 1 ≤ cfg.contentScale) (hmin : 0 ≤ min) (hmargin : 0 ≤ margin) :
    min ≤ sideForOutput cfg margin (hintedMin cfg min) ↔ min ≤ 1 ∨ margin = 0 := by
  unfold sideForOutput hintedMin
  rcases hmin.eq_or_lt with rfl | hpos
  · refine iff_of_true ?_ (.inl (by decide))
    exact le_trans (by decide) (le_max_left _ _)
  · rw [if_pos hpos, wlxUnscaleSize_scale hscale hpos]
    omega

theorem hintedMin_le_scale (hmax : 0 < max) (h : min ≤ max) :
    hintedMin cfg min ≤ wlxScaleSize cfg max := by
  unfold hintedMin
  split
  · exact wlxScaleSize_mono h
  · exact wlxScaleSize_pos cfg hmax

/-- A published maximum is kept. -/
theorem sideForOutput_le (hscale : 1 ≤ cfg.contentScale) (hmax : 0 < max) (hmargin : 0 ≤ margin)
    (h : host ≤ wlxScaleSize cfg max) : sideForOutput cfg margin host ≤ max := by
  have hle : wlxUnscaleSize cfg _ ≤ wlxUnscaleSize cfg _ := wlxUnscaleSize_mono h
  rw [wlxUnscaleSize_scale hscale hmax] at hle
  exact max_le hmax (by omega)

/-- One that is not published is exceeded by some host window that is large enough. -/
theorem exists_sideForOutput_gt (hscale : 1 ≤ cfg.contentScale) (hmargin : 0 ≤ margin) (hmax : 0 ≤ max)
    (min : Int) : ∃ host, hintedMin cfg min ≤ host ∧ max < sideForOutput cfg margin host := by
  refine ⟨wlxScaleSize cfg (Max.max min (max + 1 + margin)), ?_, ?_⟩
  · unfold hintedMin
    split
    · exact wlxScaleSize_mono (le_max_left _ _)
    · have hpos : 0 < Max.max min (max + 1 + margin) := lt_max_of_lt_right (by omega)
      exact wlxScaleSize_pos cfg hpos
  · have hside : Max.max min (max + 1 + margin) - margin ≤ sideForOutput cfg margin
        (wlxScaleSize cfg (Max.max min (max + 1 + margin))) := by
      unfold sideForOutput
      rw [wlxUnscaleSize_scale hscale (le_max_of_le_right (by omega))]
      exact le_max_right _ _
    have hright := le_max_right min (max + 1 + margin)
    omega

end Side

namespace Window

variable {cfg : Config} {limits : SizeLimits} {hints : SizeHints} {win : Window}

theorem trackCsdMargin_clamped (h : win.MarginClamped) : win.trackCsdMargin.MarginClamped := by
  unfold trackCsdMargin
  dsimp only
  split
  · exact ⟨le_max_left 0 _, le_max_left 0 _⟩
  · exact h

/-- **What is published.** -/
theorem winSyncSizeHints_eq_some (h : winSyncSizeHints cfg limits win = some hints) :
    hints.min = ⟨hintedMin cfg limits.min.width, hintedMin cfg limits.min.height⟩ ∧
      hints.max = if 0 < limits.max.width ∧ 0 < limits.max.height then some (cfg.scale limits.max)
        else none := by
  unfold winSyncSizeHints at h
  dsimp only at h
  split at h
  · cases h
  · unfold xwinSetSizeHints at h
    rw [if_neg ‹_›] at h
    obtain rfl := Option.some.inj h
    -- the setter's own test of the minimum never fails
    have hside : ∀ min, (if 0 < if 0 < min then wlxScaleSize cfg min else 1 then
        if 0 < min then wlxScaleSize cfg min else 1 else 1) = hintedMin cfg min := by
      intro min
      unfold hintedMin
      by_cases hmin : 0 < min
      · rw [if_pos hmin, if_pos (wlxScaleSize_pos cfg hmin)]
      · rw [if_neg hmin, if_pos Int.one_pos]
    refine ⟨?_, ?_⟩
    · dsimp only
      rw [hside, hside]
    · dsimp only
      by_cases hmax : 0 < limits.max.width ∧ 0 < limits.max.height
      · rw [if_pos hmax, if_pos hmax,
          if_pos ⟨wlxScaleSize_pos cfg hmax.1, wlxScaleSize_pos cfg hmax.2⟩]
      · rw [if_neg hmax, if_neg hmax]
        rfl

/-- What is taken off each side. -/
def takenMargin (cfg : Config) (win : Window) : Size :=
  if win.MarginTaken cfg then win.csdMargin else ⟨0, 0⟩

/-- The size a floating client is configured to. -/
theorem sizeForOutput_atHost (hscale : 1 ≤ cfg.contentScale) {out : X11Output} (hout : win.output = some out)
    (hfloating : win.tiled = false) (host : Size) :
    wlxToplevelSizeForOutput cfg (win.atHost host) =
      ⟨sideForOutput cfg (win.takenMargin cfg).width host.width,
        sideForOutput cfg (win.takenMargin cfg).height host.height⟩ := by
  have hw := one_le_wlxUnscaleSize hscale host.width
  have hh := one_le_wlxUnscaleSize hscale host.height
  have htiled : (win.atHost host).tiled = false := hfloating
  unfold wlxToplevelSizeForOutput takenMargin sideForOutput
  rw [htiled]
  simp only [atHost, hout, Option.map_some, Bool.not_false, Bool.and_true]
  -- the margin is taken off both sides or off neither
  by_cases htaken : win.MarginTaken cfg
  · rw [if_pos htaken, if_pos (by simpa [MarginTaken] using htaken)]
    rfl
  · rw [if_neg htaken, if_neg (by simpa [MarginTaken] using htaken)]
    simp only [Int.sub_zero, max_eq_right hw, max_eq_right hh]
    rfl

/-- **Hints and limits.** For every scale of at least 1, all limits a client may set and all margins,
each host size that meets the published hints configures a floating client within its limits if and only
if the client sets both maxima or none, and has no minimum above one pixel in a dimension in which a
margin is taken off. -/
theorem hintsSound_iff (hscale : 1 ≤ cfg.contentScale) {out : X11Output} (hout : win.output = some out)
    (hfloating : win.tiled = false) (hmargin : win.MarginClamped)
    (hhints : winSyncSizeHints cfg limits win = some hints) :
    win.HintsSound cfg limits hints ↔ win.LimitsKept cfg limits := by
  obtain ⟨hmin, hmax⟩ := winSyncSizeHints_eq_some hhints
  have htaken : 0 ≤ (win.takenMargin cfg).width ∧ 0 ≤ (win.takenMargin cfg).height := by
    unfold takenMargin
    split
    · exact hmargin
    · exact ⟨le_rfl, le_rfl⟩
  -- the condition, read side by side
  have hkept : win.LimitsKept cfg limits ↔ limits.Paired ∧
      (limits.min.width ≤ 1 ∨ (win.takenMargin cfg).width = 0) ∧
        (limits.min.height ≤ 1 ∨ (win.takenMargin cfg).height = 0) := by
    unfold LimitsKept takenMargin
    by_cases h : win.MarginTaken cfg
    · rw [if_pos h]
      simp only [h, true_imp_iff]
    · rw [if_neg h]
      simp only [h, false_imp_iff, or_true, and_self]
  rw [hkept]
  unfold HintsSound SizeHints.Admits
  simp only [sizeForOutput_atHost hscale hout hfloating, hmin, hmax]
  obtain ⟨hminw, hminh⟩ := limits.min_nonneg
  obtain ⟨hmaxw, hmaxh⟩ := limits.max_nonneg
  obtain ⟨hordw, hordh⟩ := limits.ordered
  constructor
  · intro h
    refine ⟨?_, ?_⟩
    · -- a maximum of its own is not published
      by_contra hpaired
      have hnot : ¬(0 < limits.max.width ∧ 0 < limits.max.height) := fun hboth =>
        hpaired (iff_of_false hboth.1.ne' hboth.2.ne')
      simp only [if_neg hnot] at h
      rcases Decidable.eq_or_ne limits.max.width 0 with hzero | hne
      · have hne : limits.max.height ≠ 0 := fun hzero' => hpaired (iff_of_true hzero hzero')
        obtain ⟨host, hle, hgt⟩ := exists_sideForOutput_gt hscale htaken.2 hmaxh limits.min.height
        have hadmits := h ⟨hintedMin cfg limits.min.width, host⟩ ⟨⟨le_rfl, hle⟩, by simp⟩
        exact absurd (hadmits.2.2 hne) (not_le.mpr hgt)
      · obtain ⟨host, hle, hgt⟩ :=
          exists_sideForOutput_gt hscale htaken.1 hmaxw limits.min.width
        have hadmits := h ⟨host, hintedMin cfg limits.min.height⟩ ⟨⟨hle, le_rfl⟩, by simp⟩
        exact absurd (hadmits.1.2 hne) (not_le.mpr hgt)
    · -- the smallest host window
      have hsmallest := h ⟨hintedMin cfg limits.min.width, hintedMin cfg limits.min.height⟩
        ⟨⟨le_rfl, le_rfl⟩, fun max hmem => ?_⟩
      · exact ⟨(min_le_sideForOutput_iff hscale hminw htaken.1).mp hsmallest.1.1,
          (min_le_sideForOutput_iff hscale hminh htaken.2).mp hsmallest.2.1⟩
      · split at hmem
        · obtain rfl := Option.some.inj hmem
          have hboth : 0 < limits.max.width ∧ 0 < limits.max.height := ‹_›
          exact ⟨hintedMin_le_scale hboth.1 (hordw hboth.1.ne'),
            hintedMin_le_scale hboth.2 (hordh hboth.2.ne')⟩
        · cases hmem
  -- the other direction: each side on its own, the minimum by monotony
  · rintro ⟨hpaired, hw, hh⟩ host ⟨⟨hlew, hleh⟩, hmaxs⟩
    refine ⟨⟨?_, fun hne => ?_⟩, ?_, fun hne => ?_⟩
    · exact le_trans ((min_le_sideForOutput_iff hscale hminw htaken.1).mpr hw)
        (sideForOutput_mono _ hlew)
    · have hboth : 0 < limits.max.width ∧ 0 < limits.max.height :=
        ⟨lt_of_le_of_ne hmaxw hne.symm, lt_of_le_of_ne hmaxh (Ne.symm (mt hpaired.mpr hne))⟩
      exact sideForOutput_le hscale hboth.1 htaken.1 (hmaxs _ (if_pos hboth)).1
    · exact le_trans ((min_le_sideForOutput_iff hscale hminh htaken.2).mpr hh)
        (sideForOutput_mono _ hleh)
    · have hboth : 0 < limits.max.width ∧ 0 < limits.max.height :=
        ⟨lt_of_le_of_ne hmaxw (Ne.symm (mt hpaired.mp hne)), lt_of_le_of_ne hmaxh hne.symm⟩
      exact sideForOutput_le hscale hboth.2 htaken.2 (hmaxs _ (if_pos hboth)).2

/-- A client without a shadow of its own asks for a width between 100 and 400. -/
def boundedLimits : SizeLimits := ⟨⟨100, 0⟩, ⟨400, 300⟩, by decide, by decide, by decide⟩

/-- A mapped client, and what its shadow takes. -/
def shadowed (margin : Size) : Window :=
  { fresh with output := some { X11Output.create 0 with size := ⟨300, 200⟩ }, csdMargin := margin }

theorem boundedLimits_sound :
    (shadowed ⟨0, 0⟩).HintsSound ⟨3 / 2, false⟩ boundedLimits ⟨⟨300, 200⟩, ⟨150, 1⟩, some ⟨600, 450⟩⟩ :=
  (hintsSound_iff (by norm_num) rfl rfl (by decide) (by decide +kernel)).mpr (by decide +kernel)

/-- A client has a maximum width only. -/
def widthLimit : SizeLimits := ⟨⟨0, 0⟩, ⟨400, 0⟩, by decide, by decide, by decide⟩

/-- The host may make it as wide as it likes. -/
theorem widthLimit_unsound : ¬ ∀ (cfg : Config) (limits : SizeLimits) (hints : SizeHints) (win : Window)
    (out : X11Output), 1 ≤ cfg.contentScale → win.output = some out → win.tiled = false →
      win.MarginClamped → winSyncSizeHints cfg limits win = some hints →
        win.HintsSound cfg limits hints := by
  intro h
  have hsound := h ⟨1, false⟩ widthLimit ⟨⟨300, 200⟩, ⟨1, 1⟩, none⟩ (shadowed ⟨0, 0⟩)
    { X11Output.create 0 with size := ⟨300, 200⟩ } le_rfl rfl rfl (by decide) (by decide +kernel)
  have hadmits := hsound ⟨500, 200⟩ (by decide)
  exact absurd hadmits (by decide +kernel)

end Window

end Wlx
