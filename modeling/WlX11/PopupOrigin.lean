import WlX11.SubpresentPlacement

/-!
# WlX11 — popups and window geometries

xdg-shell counts a popup's position from its parent's window geometry to its own, and
`wlr_xdg_popup_get_position` makes a place in the parent's surface of it. The program places the
popup's present window by the position alone, less the geometry the toplevel's content window cuts
off, and takes it through `wlx_scale_size`.

* **`FollowsShell`** — the present window is, to a pixel, where the parent's surface and xdg-shell
  put it.
* **`followsShell_iff`** — for any chain of parents, exactly when it is.
-/

namespace Wlx

/-- A popup, and where in its surface its window geometry begins (`base->geometry`). -/
structure ShellPopup where
  host : HostedPopup
  origin : Point

/-- A toplevel, and where in its surface its window geometry begins (`base->geometry`). -/
structure ShellWindow where
  win : PopupWindow
  origin : Point

namespace ShellWindow

variable (cfg : Config) (top : ShellWindow)

/-- The geometry origin of the parent: the toplevel if there are no popups between. -/
def parentOrigin : List ShellPopup → Point
  | [] => top.origin
  | p :: _ => p.origin

/-- Where on the root window the parent's surface begins. A content window shows the toplevel's
surface from `contentOrigin` on, a present window shows a popup's whole surface. -/
def surfaceRoot : List ShellPopup → Option (ℚ × ℚ)
  | [] => top.win.contentRoot.map fun o =>
    let d := top.win.contentOrigin cfg
    (o.x - d.x * cfg.drawScale, o.y - d.y * cfg.drawScale)
  | p :: ps => (rootBox cfg top.win ((p :: ps).map (·.host))).map fun b => ((b.x : ℚ), (b.y : ℚ))

end ShellWindow

/-- `wlr_xdg_popup_get_position`, for a parent whose window geometry begins at `parent`. -/
def wlrXdgPopupGetPosition (parent : Point) (p : ShellPopup) : Point :=
  ⟨parent.x + p.host.popup.geometry.x - p.origin.x, parent.y + p.host.popup.geometry.y - p.origin.y⟩

/-- A root coordinate is `q` to a pixel, if X can express `q`. -/
def NearRoot (n : Int) (q : ℚ) : Prop := FitsInt16 (lround q) → |(n : ℚ) - q| ≤ 1

instance (n : Int) (q : ℚ) : Decidable (NearRoot n q) := inferInstanceAs (Decidable (_ → _))

/-- The present window of a popup is where its place in its parent's surface is. -/
def FollowsShell (cfg : Config) (top : ShellWindow) (p : ShellPopup) (ancestors : List ShellPopup) :
    Prop :=
  let pos := wlrXdgPopupGetPosition (top.parentOrigin ancestors) p
  ∀ s ∈ top.surfaceRoot cfg ancestors,
    ∀ box ∈ presentBox cfg top.win (parentBox cfg top.win (ancestors.map (·.host))) p.host.popup,
      NearRoot box.x (s.1 + pos.x * cfg.drawScale) ∧ NearRoot box.y (s.2 + pos.y * cfg.drawScale)

instance (cfg : Config) (top : ShellWindow) (p : ShellPopup) (ancestors : List ShellPopup) :
    Decidable (FollowsShell cfg top p ancestors) :=
  inferInstanceAs (Decidable (∀ s ∈ _, ∀ box ∈ _, _ ∧ _))

/-- One axis. The placement starts at `b` on the root window, the offset the program takes is `k`,
the one it should be is `r`. Scaled, rounded and, if it is less than a pixel, replaced by one pixel,
`k` is within a pixel of the scaled `r`, as far as 16 bits tell. -/
def AxisFollows (cfg : Config) (b k r : Int) : Prop :=
  FitsInt16 (lround (b + r * cfg.drawScale)) →
    ∃ j : Int,
      if cfg.contentScale ≤ 0 ∨ 1 ≤ cfg.drawnOffset k then
        FitsInt16 (b + cfg.drawnOffset k - 65536 * j) ∧
          |(cfg.drawnOffset k - 65536 * j : ℚ) - r * cfg.drawScale| ≤ 1
      else FitsInt16 (b + 1 - 65536 * j) ∧ |(1 - 65536 * j : ℚ) - r * cfg.drawScale| ≤ 1

/-! ## One axis -/

theorem exists_toInt16_eq (n : Int) : ∃ j : Int, toInt16 n = n - 65536 * j := by
  refine ⟨(n - toInt16 n) / 65536, ?_⟩
  have hmod : toInt16 n ≡ n [ZMOD 65536] := Int.bmod_emod
  obtain ⟨c, hc⟩ := hmod.dvd
  omega

theorem fitsInt16_toInt16 (n : Int) : FitsInt16 (toInt16 n) := by
  simp only [toInt16, Int.bmod_def, FitsInt16]
  split <;> omega

/-- Among the coordinates that are equal modulo `2^16`, X keeps the one that fits. -/
theorem toInt16_eq_sub_iff {n j : Int} : toInt16 n = n - 65536 * j ↔ FitsInt16 (n - 65536 * j) := by
  constructor
  · intro h
    rw [← h]
    exact fitsInt16_toInt16 n
  · intro hfits
    rw [toInt16_eq_iff]
    refine ⟨toInt16_eq_self_iff.mpr hfits, ?_⟩
    exact Int.modEq_iff_dvd.mpr ⟨-j, by omega⟩

theorem wlxScaleSize_eq_ite (cfg : Config) (k : Int) :
    wlxScaleSize cfg k =
      if cfg.contentScale ≤ 0 ∨ 1 ≤ cfg.drawnOffset k then cfg.drawnOffset k else 1 := by
  by_cases hscale : cfg.contentScale ≤ 0
  · rw [if_pos (Or.inl hscale), Config.drawnOffset_unscaled hscale, wlxScaleSize, if_pos hscale]
  · rw [Config.wlxScaleSize_eq_max hscale]
    split
    · rename_i h
      exact max_eq_right (h.resolve_left hscale)
    · rename_i h
      have : ¬ 1 ≤ cfg.drawnOffset k := fun hpos => h (Or.inr hpos)
      omega

/-- A coordinate `b + n`, cut to 16 bits, is within a pixel of `b + e`. -/
theorem near_toInt16_iff {b n : Int} {e : ℚ} :
    |((toInt16 (b + n) : Int) : ℚ) - (b + e)| ≤ 1 ↔
      ∃ j : Int, FitsInt16 (b + n - 65536 * j) ∧ |(n - 65536 * j : ℚ) - e| ≤ 1 := by
  have hmove : ∀ j : Int, ((b + n - 65536 * j : Int) : ℚ) - (b + e) = (n - 65536 * j : ℚ) - e := by
    intro j
    push_cast
    ring
  constructor
  · intro h
    obtain ⟨j, hj⟩ := exists_toInt16_eq (b + n)
    refine ⟨j, toInt16_eq_sub_iff.mp hj, ?_⟩
    rw [hj, hmove] at h
    exact h
  · rintro ⟨j, hfits, hnear⟩
    rw [toInt16_eq_sub_iff.mpr hfits, hmove]
    exact hnear

theorem axisFollows_iff {cfg : Config} {b k r : Int} :
    AxisFollows cfg b k r ↔
      NearRoot (toInt16 (b + wlxScaleSize cfg k)) (b + r * cfg.drawScale) := by
  unfold AxisFollows NearRoot
  refine forall_congr' fun _ => ?_
  rw [near_toInt16_iff, wlxScaleSize_eq_ite]
  refine exists_congr fun j => ?_
  split
  · exact Iff.rfl
  · rw [Int.cast_one]

/-! ## A chain of popups -/

/-- Where a placement starts, and what is taken from the offset: the parent's surface begins as much
before it. -/
theorem surfaceRoot_eq (cfg : Config) (top : ShellWindow) (ancestors : List ShellPopup) :
    top.surfaceRoot cfg ancestors =
      (placementStart cfg top.win (parentBox cfg top.win (ancestors.map (·.host)))).map
        fun (b, d) => (b.x - d.x * cfg.drawScale, b.y - d.y * cfg.drawScale) := by
  cases ancestors with
  | nil =>
    simp only [ShellWindow.surfaceRoot, parentBox, placementStart, List.map_nil, List.isEmpty_nil,
      if_true, Option.map_map]
    rfl
  | cons q qs =>
    simp only [ShellWindow.surfaceRoot, parentBox, placementStart, List.map_cons, List.isEmpty_cons,
      Bool.false_eq_true, if_false, Option.map_map]
    congr 1
    funext box
    simp [Function.comp]

/-- **Where a popup is, against xdg-shell.** At any depth, and whatever window geometries the parent
and the popup have: the present window follows exactly if on both axes the popup's position, less the
window geometry the content window cuts off, rounds to within a pixel of the place in the parent's
surface. -/
theorem followsShell_iff (cfg : Config) (top : ShellWindow) (p : ShellPopup)
    (ancestors : List ShellPopup) :
    FollowsShell cfg top p ancestors ↔
      ∀ b d, placementStart cfg top.win (parentBox cfg top.win (ancestors.map (·.host))) =
          some (b, d) →
        let pos := wlrXdgPopupGetPosition (top.parentOrigin ancestors) p
        AxisFollows cfg b.x (p.host.popup.offset.x - d.x) (pos.x - d.x) ∧
          AxisFollows cfg b.y (p.host.popup.offset.y - d.y) (pos.y - d.y) := by
  unfold FollowsShell
  rw [surfaceRoot_eq, presentBox_eq]
  cases placementStart cfg top.win (parentBox cfg top.win (ancestors.map (·.host))) with
  | none => simp
  | some start =>
    obtain ⟨b, d⟩ := start
    have hstart : ∀ o q r : ℚ, o - q * cfg.drawScale + r * cfg.drawScale =
        o + (r - q) * cfg.drawScale := fun o q r => by ring
    simp only [Option.map_some, Option.mem_def, Option.some.injEq, forall_eq', Prod.mk.injEq, hstart,
      axisFollows_iff, Int.cast_sub]
    constructor
    · rintro h _ _ ⟨rfl, rfl⟩
      exact h
    · intro h
      exact h b d ⟨rfl, rfl⟩

/-- A context menu with a shadow of ten pixels around it, opened by a client without one. -/
def shadowMenu : ShellPopup where
  host := ⟨⟨⟨60, 40, 200, 300⟩, ⟨60, 40, 200, 300⟩, ⟨220, 320⟩, some ⟨220, 320⟩, rfl, rfl⟩, true⟩
  origin := ⟨10, 10⟩

/-- The menu's shadow is where the menu should be. -/
theorem shadowMenu_displaced : ¬ ∀ (cfg : Config) (top : ShellWindow) (p : ShellPopup)
    (ancestors : List ShellPopup), FollowsShell cfg top p ancestors := by
  intro h
  have hmenu := h ⟨1, false⟩ ⟨⟨some ⟨100, 100⟩, ⟨0, 0, 640, 480⟩⟩, ⟨0, 0⟩⟩ shadowMenu []
  exact absurd hmenu (by decide +kernel)

end Wlx
