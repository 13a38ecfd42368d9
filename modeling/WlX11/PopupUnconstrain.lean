import WlX11.Lib.Nearest
import WlX11.PopupOrigin

/-!
# WlX11 — the room a popup has

On a popup's first commit the program tells wlroots in which box to keep it: the work area of the X
screen, taken back through the popup's placement (`popup_unconstrain_box`). wlroots takes the box to
be in the coordinates of the toplevel's surface and moves it to where it counts the popup's position
from (`wlr_xdg_popup_unconstrain_from_box`).

* **`popupConstraint`** — the rectangle the positioner finally uses.
* **`ConstraintInverts`** — its place on the root window is the work area, up to rounding, and what is
  kept inside it is shown there.
* **`constraint_inverts_iff`** — for any chain of parents, exactly when.
-/

namespace Wlx

/-! ## The rectangle -/

/-- What `popup_unconstrain_box` reads of the X screen. -/
structure RootScreen where
  /-- `width_in_pixels`, `height_in_pixels` -/
  size : Size
  /-- the first four CARDINALs of `_NET_WORKAREA`, if it has as many -/
  workarea : Option Box
  sized : size.isSet = true

/-- `wa_x` to `wa_h`. -/
def RootScreen.workArea (screen : RootScreen) : Box :=
  match screen.workarea with
  | none => ⟨0, 0, screen.size.width, screen.size.height⟩
  | some v =>
    { v with
      width := if v.width < 1 then screen.size.width else v.width
      height := if v.height < 1 then screen.size.height else v.height }

/-- `popup_unconstrain_box`: "Unconstrain box in parent-surface coordinates". `parent` is the parent
popup's root box, if the parent is a popup. -/
def popupUnconstrainBox (cfg : Config) (screen : Option RootScreen) (win : PopupWindow)
    (parent : Option (Option Box)) : Box :=
  match screen with
  | none => ⟨-2000, -2000, 8000, 8000⟩
  | some screen =>
    let wa := screen.workArea
    let lw := max 1 (wlxUnscaleSize cfg wa.width)
    let lh := max 1 (wlxUnscaleSize cfg wa.height)
    match parent.join, win.contentRoot with
    | some b, _ => ⟨wlxUnscaleSize cfg (wa.x - b.x), wlxUnscaleSize cfg (wa.y - b.y), lw, lh⟩
    | none, some o =>
      -- "SSD toplevel: content window origin is geometry origin"
      let d := win.contentOrigin cfg
      ⟨wlxUnscaleSize cfg (wa.x - o.x) + d.x, wlxUnscaleSize cfg (wa.y - o.y) + d.y, lw, lh⟩
    | none, none => ⟨0, 0, lw, lh⟩

/-- `wlr_xdg_popup_get_toplevel_coords` of a popup's own origin: the places of the popups it hangs on
and the toplevel's window geometry. -/
def ShellWindow.toplevelCoords (top : ShellWindow) : List HostedPopup → Point
  | [] => top.origin
  | p :: ps => (top.toplevelCoords ps).add ⟨p.popup.geometry.x, p.popup.geometry.y⟩

/-- `popup_constraint` of `wlr_xdg_popup_unconstrain_from_box`. -/
def wlrXdgPopupUnconstrainFromBox (coords : Point) (box : Box) : Box :=
  { box with x := box.x - coords.x, y := box.y - coords.y }

/-- The rectangle the positioner keeps a popup in, on its first commit. -/
def popupConstraint (cfg : Config) (screen : Option RootScreen) (top : ShellWindow)
    (ancestors : List HostedPopup) : Box :=
  wlrXdgPopupUnconstrainFromBox (top.toplevelCoords ancestors)
    (popupUnconstrainBox cfg screen top.win (parentBox cfg top.win ancestors))

/-! ## The way back -/

/-- Where a placement that starts at a root position, with a point taken off first, shows a box at a
popup's offset. -/
def placeBox (cfg : Config) (start : Point × Point) (g : Box) : Box :=
  ⟨start.1.x + wlxScaleSize cfg (g.x - start.2.x), start.1.y + wlxScaleSize cfg (g.y - start.2.y),
    wlxScaleSize cfg g.width, wlxScaleSize cfg g.height⟩

/-- A box as X keeps it. -/
def Box.onRoot (b : Box) : Box := { b with x := toInt16 b.x, y := toInt16 b.y }

theorem presentBox_eq_placeBox (cfg : Config) (win : PopupWindow) (parent : Option (Option Box))
    (p : XdgPopup) :
    presentBox cfg win parent p = (placementStart cfg win parent).map fun start =>
      (placeBox cfg start ⟨p.offset.x, p.offset.y, p.shownSize.width, p.shownSize.height⟩).onRoot :=
  presentBox_eq cfg win parent p

/-- Host pixels in logical ones, to the nearest. -/
def Config.logicalOffset (cfg : Config) (n : Int) : Int := lround (n / cfg.drawScale)

/-- Host pixels rounded to logical ones and back. -/
def Config.snapped (cfg : Config) (n : Int) : Int := cfg.drawnOffset (cfg.logicalOffset n)

/-- The work area up to rounding: its corner is as far from `o` as whole logical pixels tell, its
sides are one logical and one host pixel at least. -/
def Config.roundedArea (cfg : Config) (o : Point) (area : Box) : Box :=
  ⟨o.x + cfg.snapped (area.x - o.x), o.y + cfg.snapped (area.y - o.y),
    wlxScaleSize cfg (wlxUnscaleSize cfg area.width), wlxScaleSize cfg (wlxUnscaleSize cfg area.height)⟩

/-- A box inside another one, to `tol` pixels at the far edges. -/
structure Box.Within (tol : Int) (g c : Box) : Prop where
  left : c.x ≤ g.x
  top : c.y ≤ g.y
  right : g.x + g.width ≤ c.x + c.width + tol
  bottom : g.y + g.height ≤ c.y + c.height + tol

/-- The constraint is the work area's inverse image under the placement: it is shown as the work area
is, up to rounding, and a popup kept inside it is shown inside that, but for the two pixels its own
two roundings and the constraint's may make. -/
def ConstraintInverts (cfg : Config) (screen : RootScreen) (top : ShellWindow)
    (ancestors : List HostedPopup) : Prop :=
  let c := popupConstraint cfg (some screen) top ancestors
  ∀ start ∈ placementStart cfg top.win (parentBox cfg top.win ancestors),
    let area := cfg.roundedArea start.1 screen.workArea
    placeBox cfg start c = area ∧
      ∀ g : Box, g.size.isSet = true → g.Within 0 c → (placeBox cfg start g).Within 2 area

/-- One axis. The edge of the work area is `a` root pixels from the parent's origin, and `t` are the
toplevel coordinates wlroots takes off. The edge has to be a pixel or more to the right of the origin,
or below, and what is taken off has to be lost in rounding. -/
def EdgeKept (cfg : Config) (a t : Int) : Prop :=
  if cfg.contentScale ≤ 0 then t = 0
  else
    1 ≤ cfg.snapped a ∧
      (cfg.drawnOffset (cfg.logicalOffset a - t) = cfg.snapped a ∨
        -- what is less than a pixel is made one
        cfg.snapped a = 1 ∧ cfg.drawnOffset (cfg.logicalOffset a - t) < 1)

/-! ## Rounding -/

theorem lround_nearest : Rounding.Nearest lround := by
  intro q
  obtain ⟨hlow, hhigh⟩ := lround_bounds q
  rw [abs_le]
  constructor <;> linarith

section Rounding

variable {cfg : Config}

theorem Config.drawnOffset_mono {m n : Int} (hmn : m ≤ n) : cfg.drawnOffset m ≤ cfg.drawnOffset n := by
  apply lround_nearest.mono
  exact mul_le_mul_of_nonneg_right (by exact_mod_cast hmn) cfg.drawScale_pos.le

/-- Half a logical pixel and half a host pixel at most. -/
theorem Config.snapped_near (cfg : Config) (n : Int) :
    |(cfg.snapped n : ℚ) - n| ≤ (cfg.drawScale + 1) / 2 :=
  lround_nearest.snap_near cfg.drawScale_pos n

theorem Config.drawnOffset_zero (cfg : Config) : cfg.drawnOffset 0 = 0 := by
  unfold Config.drawnOffset
  rw [Int.cast_zero, zero_mul]
  exact lround_intCast 0

theorem Config.logicalOffset_unscaled (hscale : cfg.contentScale ≤ 0) (n : Int) :
    cfg.logicalOffset n = n := by
  unfold Config.logicalOffset Config.drawScale
  rw [if_neg (by linarith), div_one]
  exact lround_intCast n

theorem wlxUnscaleSize_eq_max (hscale : ¬ cfg.contentScale ≤ 0) (n : Int) :
    wlxUnscaleSize cfg n = max 1 (cfg.logicalOffset n) := by
  rw [wlxUnscaleSize_of_pos hscale, Config.logicalOffset, Config.drawScale, if_pos (by linarith)]

/-- What is shown a pixel to the right is a logical pixel to the right. -/
theorem Config.logicalOffset_pos_of_snapped {n : Int} (h : 1 ≤ cfg.snapped n) :
    1 ≤ cfg.logicalOffset n := by
  by_contra hneg
  have hle : cfg.snapped n ≤ cfg.drawnOffset 0 := Config.drawnOffset_mono (by omega)
  rw [cfg.drawnOffset_zero] at hle
  omega

/-- A side of the rounded work area. -/
theorem wlxScaleSize_wlxUnscaleSize_near {n : Int} (hn : 0 < n) :
    |(wlxScaleSize cfg (wlxUnscaleSize cfg n) : ℚ) - n| ≤ cfg.drawScale + 1 / 2 := by
  have hpos := cfg.drawScale_pos
  have hn' : (1 : ℚ) ≤ n := by exact_mod_cast hn
  by_cases hscale : cfg.contentScale ≤ 0
  · unfold wlxScaleSize wlxUnscaleSize
    rw [if_pos hscale, if_pos hscale, sub_self, abs_zero]
    linarith
  · rw [Config.wlxScaleSize_eq_max hscale, wlxUnscaleSize_eq_max hscale]
    -- a side of one logical pixel or more is off by the rounding alone
    by_cases hlogical : 1 ≤ cfg.logicalOffset n
    · rw [max_eq_right hlogical]
      have hnear := abs_le.mp (cfg.snapped_near n)
      show |((max 1 (cfg.snapped n) : Int) : ℚ) - n| ≤ _
      rcases max_choice 1 (cfg.snapped n) with h | h <;> rw [h, abs_le]
      · have hleast : (cfg.snapped n : ℚ) ≤ 1 := by exact_mod_cast max_eq_left_iff.mp h
        push_cast
        constructor <;> linarith
      · constructor <;> linarith
    · -- less than half a logical pixel is made one
      rw [show max 1 (cfg.logicalOffset n) = 1 by omega]
      have hthin : cfg.logicalOffset n ≤ 0 := by omega
      have hthin' : (cfg.logicalOffset n : ℚ) ≤ 0 := by exact_mod_cast hthin
      obtain ⟨hlow, -⟩ := lround_bounds (n / cfg.drawScale)
      unfold Config.logicalOffset at hthin'
      have hhalf : (n : ℚ) ≤ 1 / 2 * cfg.drawScale := (div_le_iff₀ hpos).mp (by linarith)
      obtain ⟨hone, hone'⟩ := lround_bounds ((1 : Int) * cfg.drawScale)
      show |((max 1 (lround ((1 : Int) * cfg.drawScale)) : Int) : ℚ) - n| ≤ _
      rw [Int.cast_one, one_mul] at hone hone' ⊢
      rcases max_choice 1 (lround cfg.drawScale) with h | h <;> rw [h, abs_le]
      · push_cast
        constructor <;> linarith
      · constructor <;> linarith

/-- The rounded work area is the work area: its corner to half a pixel of either kind, its sides to a
logical pixel and half a host pixel. -/
theorem Config.roundedArea_near (cfg : Config) (o : Point) {area : Box}
    (hset : area.size.isSet = true) :
    (|((cfg.roundedArea o area).x : ℚ) - area.x| ≤ (cfg.drawScale + 1) / 2 ∧
        |((cfg.roundedArea o area).y : ℚ) - area.y| ≤ (cfg.drawScale + 1) / 2) ∧
      |((cfg.roundedArea o area).width : ℚ) - area.width| ≤ cfg.drawScale + 1 / 2 ∧
        |((cfg.roundedArea o area).height : ℚ) - area.height| ≤ cfg.drawScale + 1 / 2 := by
  have hcorner : ∀ p q : Int, |((p + cfg.snapped (q - p) : Int) : ℚ) - q| ≤ (cfg.drawScale + 1) / 2 := by
    intro p q
    have hnear := cfg.snapped_near (q - p)
    push_cast at hnear ⊢
    rwa [show (p : ℚ) + cfg.snapped (q - p) - q = cfg.snapped (q - p) - (q - p) by ring]
  obtain ⟨hw, hh⟩ := Size.isSet_iff.mp hset
  exact ⟨⟨hcorner _ _, hcorner _ _⟩, wlxScaleSize_wlxUnscaleSize_near hw,
    wlxScaleSize_wlxUnscaleSize_near hh⟩

theorem wlxScaleSize_mono {m n : Int} (hmn : m ≤ n) : wlxScaleSize cfg m ≤ wlxScaleSize cfg n := by
  by_cases hscale : cfg.contentScale ≤ 0
  · unfold wlxScaleSize
    rw [if_pos hscale, if_pos hscale]
    exact hmn
  · rw [Config.wlxScaleSize_eq_max hscale, Config.wlxScaleSize_eq_max hscale]
    exact max_le_max le_rfl (Config.drawnOffset_mono hmn)

/-- A piece `w` at `u` inside a length `c`: shown, it ends two pixels too far at most. -/
theorem wlxScaleSize_add_le (k : Int) {u w c : Int} (hu : 0 ≤ u) (hw : 1 ≤ w) (hc : u + w ≤ c) :
    wlxScaleSize cfg (k + u) + wlxScaleSize cfg w ≤ wlxScaleSize cfg k + wlxScaleSize cfg c + 2 := by
  by_cases hscale : cfg.contentScale ≤ 0
  · unfold wlxScaleSize
    simp only [if_pos hscale]
    omega
  · have hside : wlxScaleSize cfg w ≤ wlxScaleSize cfg c := wlxScaleSize_mono (by omega)
    simp only [Config.wlxScaleSize_eq_max hscale] at hside ⊢
    by_cases hleast : cfg.drawnOffset (k + u) < 1
    · omega
    · have hscale₀ := cfg.drawScale_pos
      -- four roundings, and the least pixel of a side
      obtain ⟨-, hend⟩ := lround_bounds ((k + u : Int) * cfg.drawScale)
      obtain ⟨hstart, -⟩ := lround_bounds (k * cfg.drawScale)
      obtain ⟨-, hpiece⟩ := lround_bounds (w * cfg.drawScale)
      obtain ⟨hwhole, -⟩ := lround_bounds (c * cfg.drawScale)
      have hlen : ((u : ℚ) + w) * cfg.drawScale ≤ c * cfg.drawScale :=
        mul_le_mul_of_nonneg_right (by exact_mod_cast hc) hscale₀.le
      have hw₀ : 0 ≤ (w : ℚ) * cfg.drawScale :=
        mul_nonneg (by exact_mod_cast (by omega : 0 ≤ w)) hscale₀.le
      have hshown : ((max 1 (cfg.drawnOffset w) : Int) : ℚ) ≤ w * cfg.drawScale + 1 := by
        rcases max_choice 1 (cfg.drawnOffset w) with h | h
        · rw [h]
          push_cast
          linarith
        · rw [h]
          unfold Config.drawnOffset
          linarith
      have hsum : (cfg.drawnOffset (k + u) : ℚ) + (max 1 (cfg.drawnOffset w) : Int) <
          cfg.drawnOffset k + cfg.drawnOffset c + 3 := by
        unfold Config.drawnOffset at hshown ⊢
        push_cast at hend hshown ⊢
        linarith
      have hsum' : cfg.drawnOffset (k + u) + max 1 (cfg.drawnOffset w) <
          cfg.drawnOffset k + cfg.drawnOffset c + 3 := by exact_mod_cast hsum
      omega

end Rounding

/-! ## The constraint, axis by axis -/

section Constraint

variable {cfg : Config} {screen : RootScreen}

theorem RootScreen.workArea_isSet (screen : RootScreen) : screen.workArea.size.isSet = true := by
  obtain ⟨hw, hh⟩ := Size.isSet_iff.mp screen.sized
  rw [Size.isSet_iff]
  unfold workArea Box.size
  cases screen.workarea with
  | none => exact ⟨hw, hh⟩
  | some v => dsimp only; constructor <;> split <;> omega

theorem wlxUnscaleSize_pos {n : Int} (hn : 0 < n) : 1 ≤ wlxUnscaleSize cfg n := by
  unfold wlxUnscaleSize
  split <;> omega

/-- Where a placement starts, the box starts as well. -/
theorem popupUnconstrainBox_eq {win : PopupWindow} {parent : Option (Option Box)} {b d : Point}
    (hstart : placementStart cfg win parent = some (b, d)) :
    let wa := screen.workArea
    popupUnconstrainBox cfg (some screen) win parent =
      ⟨wlxUnscaleSize cfg (wa.x - b.x) + d.x, wlxUnscaleSize cfg (wa.y - b.y) + d.y,
        wlxUnscaleSize cfg wa.width, wlxUnscaleSize cfg wa.height⟩ := by
  obtain ⟨hw, hh⟩ := Size.isSet_iff.mp screen.workArea_isSet
  have hw' : 1 ≤ wlxUnscaleSize cfg screen.workArea.width := wlxUnscaleSize_pos hw
  have hh' : 1 ≤ wlxUnscaleSize cfg screen.workArea.height := wlxUnscaleSize_pos hh
  unfold placementStart at hstart
  unfold popupUnconstrainBox
  -- the first popup starts at the content, a nested one at its parent's box
  cases parent with
  | none =>
    obtain ⟨o, hroot, hpair⟩ := Option.map_eq_some_iff.mp hstart
    obtain ⟨rfl, rfl⟩ := Prod.mk.inj hpair
    simp only [Option.join_none, hroot, max_eq_right hw', max_eq_right hh']
  | some box =>
    obtain ⟨pb, rfl, hpair⟩ := Option.map_eq_some_iff.mp hstart
    obtain ⟨rfl, rfl⟩ := Prod.mk.inj hpair
    simp only [Option.join_some, max_eq_right hw', max_eq_right hh', add_zero]

/-- One axis of the constraint, shown. -/
theorem edgeKept_iff {a t : Int} :
    wlxScaleSize cfg (wlxUnscaleSize cfg a - t) = cfg.snapped a ↔ EdgeKept cfg a t := by
  unfold EdgeKept
  by_cases hscale : cfg.contentScale ≤ 0
  · rw [if_pos hscale, Config.snapped, Config.drawnOffset_unscaled hscale,
      Config.logicalOffset_unscaled hscale]
    unfold wlxScaleSize wlxUnscaleSize
    rw [if_pos hscale, if_pos hscale]
    omega
  · rw [if_neg hscale, Config.wlxScaleSize_eq_max hscale, wlxUnscaleSize_eq_max hscale]
    constructor
    · intro h
      have hpos : 1 ≤ cfg.snapped a := by
        rw [← h]
        exact le_max_left _ _
      have hlogical := Config.logicalOffset_pos_of_snapped hpos
      rw [max_eq_right hlogical] at h
      refine ⟨hpos, ?_⟩
      by_cases hleast : cfg.drawnOffset (cfg.logicalOffset a - t) < 1
      · exact Or.inr ⟨by omega, hleast⟩
      · exact Or.inl (by omega)
    -- and back: the box ends at the edge, or is one pixel by force
    · rintro ⟨hpos, h⟩
      rw [max_eq_right (Config.logicalOffset_pos_of_snapped hpos)]
      rcases h with h | ⟨hone, hleast⟩ <;> omega

/-- What is kept inside a box is shown inside it, to two pixels. -/
theorem placeBox_within {start : Point × Point} {g c : Box} (hset : g.size.isSet = true)
    (h : g.Within 0 c) : (placeBox cfg start g).Within 2 (placeBox cfg start c) := by
  obtain ⟨hw, hh⟩ := Size.isSet_iff.mp hset
  obtain ⟨hleft, htop, hright, hbottom⟩ := h
  -- an edge is rounded twice, once for the place and once for the length
  have hx : wlxScaleSize cfg (c.x - start.2.x + (g.x - c.x)) + wlxScaleSize cfg g.width ≤
      wlxScaleSize cfg (c.x - start.2.x) + wlxScaleSize cfg c.width + 2 :=
    wlxScaleSize_add_le _ (by omega) hw (by omega)
  have hy : wlxScaleSize cfg (c.y - start.2.y + (g.y - c.y)) + wlxScaleSize cfg g.height ≤
      wlxScaleSize cfg (c.y - start.2.y) + wlxScaleSize cfg c.height + 2 :=
    wlxScaleSize_add_le _ (by omega) hh (by omega)
  rw [show c.x - start.2.x + (g.x - c.x) = g.x - start.2.x by omega] at hx
  rw [show c.y - start.2.y + (g.y - c.y) = g.y - start.2.y by omega] at hy
  have hx₀ : wlxScaleSize cfg (c.x - start.2.x) ≤ wlxScaleSize cfg (g.x - start.2.x) :=
    wlxScaleSize_mono (by omega)
  have hy₀ : wlxScaleSize cfg (c.y - start.2.y) ≤ wlxScaleSize cfg (g.y - start.2.y) :=
    wlxScaleSize_mono (by omega)
  unfold placeBox
  constructor <;> dsimp only <;> omega

end Constraint

/-- Any number of logical pixels the program takes off in vain is one too many where it magnifies. -/
theorem edgeKept_iff_of_magnified {cfg : Config} (hscale : 1 ≤ cfg.contentScale) {a t : Int} :
    EdgeKept cfg a t ↔
      1 ≤ cfg.logicalOffset a ∧ (t = 0 ∨ cfg.snapped a = 1 ∧ 0 ≤ t) := by
  have hdraw : cfg.drawScale = cfg.contentScale := if_pos (by linarith)
  -- one logical pixel more is seen where the scale is 1 or more
  have hlt : ∀ {m n : Int}, m < n → cfg.drawnOffset m < cfg.drawnOffset n := by
    intro m n hmn
    have hstep : (m : ℚ) + 1 ≤ n := by exact_mod_cast hmn
    exact lround_lt (by rw [hdraw]; nlinarith)
  have hpos : 1 ≤ cfg.snapped a ↔ 1 ≤ cfg.logicalOffset a := by
    refine ⟨Config.logicalOffset_pos_of_snapped, fun h => ?_⟩
    have hzero := hlt (show (0 : Int) < cfg.logicalOffset a by omega)
    rw [cfg.drawnOffset_zero] at hzero
    exact hzero
  unfold EdgeKept
  rw [if_neg (by linarith), hpos]
  refine and_congr_right fun hedge => ?_
  have hone := hpos.mpr hedge
  unfold Config.snapped at hone ⊢
  rcases lt_trichotomy t 0 with ht | rfl | ht
  · -- further to the right, and seen to be
    have hright := hlt (show cfg.logicalOffset a < cfg.logicalOffset a - t by omega)
    omega
  · rw [sub_zero]
    omega
  · have hleft := hlt (show cfg.logicalOffset a - t < cfg.logicalOffset a by omega)
    omega

section Placed

variable {cfg : Config} {screen : RootScreen} {top : ShellWindow} {ancestors : List HostedPopup}
  {b d : Point}

theorem placeBox_popupConstraint_iff
    (hstart : placementStart cfg top.win (parentBox cfg top.win ancestors) = some (b, d)) :
    placeBox cfg (b, d) (popupConstraint cfg (some screen) top ancestors) =
        cfg.roundedArea b screen.workArea ↔
      EdgeKept cfg (screen.workArea.x - b.x) (top.toplevelCoords ancestors).x ∧
        EdgeKept cfg (screen.workArea.y - b.y) (top.toplevelCoords ancestors).y := by
  -- the geometry origin the box adds is what the placement takes off
  have hback : ∀ l m n : Int, l + m - n - m = l - n := fun l m n => by omega
  unfold popupConstraint wlrXdgPopupUnconstrainFromBox placeBox Config.roundedArea
  rw [popupUnconstrainBox_eq hstart]
  simp only [Box.mk.injEq, hback, Int.add_right_inj, and_true, edgeKept_iff]

/-- No parent inside the work area leaves its popups the room to its left, or above it. -/
theorem not_constraintInverts_of_inside (hscale : 0 < cfg.contentScale)
    (hstart : placementStart cfg top.win (parentBox cfg top.win ancestors) = some (b, d))
    (hinside : screen.workArea.x ≤ b.x ∨ screen.workArea.y ≤ b.y) :
    ¬ ConstraintInverts cfg screen top ancestors := by
  -- an offset of zero or less is clamped to one pixel, so that edge does not come back
  have hedge : ∀ {a t : Int}, a ≤ 0 → ¬ EdgeKept cfg a t := by
    intro a t ha hkept
    unfold EdgeKept at hkept
    rw [if_neg (by linarith)] at hkept
    have hlogical := Config.logicalOffset_pos_of_snapped hkept.1
    have hnear : cfg.logicalOffset a ≤ lround ((0 : Int) : ℚ) := by
      apply lround_nearest.mono
      rw [Int.cast_zero]
      exact div_nonpos_of_nonpos_of_nonneg (by exact_mod_cast ha) cfg.drawScale_pos.le
    rw [lround_intCast] at hnear
    omega
  intro h
  obtain ⟨hx, hy⟩ := (placeBox_popupConstraint_iff hstart).mp (h (b, d) hstart).1
  rcases hinside with hinside | hinside
  · exact hedge (by omega) hx
  · exact hedge (by omega) hy

end Placed

/-- **The room of a popup.** At any depth, for any work area and any place of the parent: the
constraint is the inverse image of the work area exactly if, on both axes, the work area's edge is
right of, or below, the parent's origin and the toplevel coordinates are lost in rounding. -/
theorem constraint_inverts_iff (cfg : Config) (screen : RootScreen) (top : ShellWindow)
    (ancestors : List HostedPopup) :
    ConstraintInverts cfg screen top ancestors ↔
      ∀ b d, placementStart cfg top.win (parentBox cfg top.win ancestors) = some (b, d) →
        EdgeKept cfg (screen.workArea.x - b.x) (top.toplevelCoords ancestors).x ∧
          EdgeKept cfg (screen.workArea.y - b.y) (top.toplevelCoords ancestors).y := by
  constructor
  · intro h b d hstart
    exact (placeBox_popupConstraint_iff hstart).mp (h (b, d) hstart).1
  · rintro h ⟨b, d⟩ hstart
    have harea := (placeBox_popupConstraint_iff hstart).mpr (h b d hstart)
    refine ⟨harea, fun g hset hwithin => ?_⟩
    rw [← harea]
    exact placeBox_within hset hwithin

/-- A screen without panels. -/
def bareScreen : RootScreen := ⟨⟨1920, 1080⟩, none, rfl⟩

/-- A window in the middle of the screen: its menus are kept right of it and below. -/
theorem centred_confined : ¬ ∀ (cfg : Config) (screen : RootScreen) (top : ShellWindow)
    (ancestors : List HostedPopup), ConstraintInverts cfg screen top ancestors := by
  intro h
  have hmenu := h ⟨1, true⟩ bareScreen ⟨⟨some ⟨640, 300⟩, ⟨0, 0, 640, 480⟩⟩, ⟨0, 0⟩⟩ []
  have harea := (hmenu (⟨640, 300⟩, ⟨0, 0⟩) rfl).1
  exact absurd harea (by decide +kernel)

end Wlx
