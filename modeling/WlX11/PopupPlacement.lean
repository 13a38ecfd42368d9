import Mathlib.Data.Int.ModEq
import WlX11.Scene

/-!
# WlX11 — where a popup is

A mapped `xdg_popup` has a present window of its own, or, when none could be created, is drawn as
part of its toplevel's window. Its place is computed three times: for the present window
(`popup_compute_root_placement`, `popup_position_and_map`), for the node in the toplevel's tree
(`popup_position_and_map`), and for the box a click is tested against when there is no present
window (`popup_update_root_box`).

* **`PlacedAlike`** — the three are the same rectangle of the root window.
* **`placedAlike_iff`** — exactly when they are.
* **`nested_apart`** — a popup of a popup never has one place, short of a wrapping X coordinate.
-/

namespace Wlx

/-- C's `(int16_t)`: a coordinate of the X root window. -/
def toInt16 (n : Int) : Int := n.bmod 65536

/-- A mapped `xdg_popup`, from what its client has committed. -/
structure XdgPopup where
  /-- `current.geometry`, relative to the parent surface -/
  geometry : Box
  /-- `scheduled.geometry` -/
  scheduled : Box
  /-- `base->surface->current` -/
  surface : Size
  /-- the size of `surface->buffer` -/
  buffer : Option Size
  /-- No popup maps before it has acked a configure, and none is sent with an empty box. -/
  configured : geometry.size.isSet = true
  /-- No surface is mapped without a size. -/
  sized : surface.isSet = true

/-- The toplevel at the root of a popup's chain. -/
structure PopupWindow where
  /-- `window_content_root_position`, if the X server answers -/
  contentRoot : Option Point
  /-- `toplevel->base->current.geometry` -/
  geometry : Box

/-- A popup, and whether its present window could be created. -/
structure HostedPopup where
  popup : XdgPopup
  hosted : Bool

/-- "SSD: parent content is window-geometry sized": the place in the surface where the content
window begins. -/
def PopupWindow.contentOrigin (cfg : Config) (win : PopupWindow) : Point :=
  if !cfg.preferCsd && win.geometry.size.isSet then ⟨win.geometry.x, win.geometry.y⟩ else ⟨0, 0⟩

/-- `popup_update_root_box`. -/
def popupUpdateRootBox (cfg : Config) (win : PopupWindow) (xpresent : Option Box) (p : XdgPopup) :
    Option Box :=
  match xpresent with
  | some box => if box.size.isSet then some box else none
  | none =>
    win.contentRoot.bind fun o =>
      let geo := if p.geometry.size.isSet then p.geometry else p.scheduled
      let gw := wlxScaleSize cfg (if 0 < geo.width then geo.width else p.surface.width)
      let gh := wlxScaleSize cfg (if 0 < geo.height then geo.height else p.surface.height)
      let d := win.contentOrigin cfg
      if gw ≤ 0 ∨ gh ≤ 0 then none
      else some ⟨toInt16 (o.x + wlxScaleSize cfg (geo.x - d.x)),
        toInt16 (o.y + wlxScaleSize cfg (geo.y - d.y)), gw, gh⟩

/-- "Position from xdg geometry": the acked one, unless that is the origin and another is on its
way. -/
def XdgPopup.offset (p : XdgPopup) : Point :=
  if p.geometry.x = 0 ∧ p.geometry.y = 0 ∧ (p.scheduled.x ≠ 0 ∨ p.scheduled.y ≠ 0) then
    ⟨p.scheduled.x, p.scheduled.y⟩
  else ⟨p.geometry.x, p.geometry.y⟩

/-- The root position a popup's offset is added to, and what is taken from the offset first. `parent`
is the parent popup's root box, if the parent is a popup. -/
def placementStart (cfg : Config) (win : PopupWindow) (parent : Option (Option Box)) :
    Option (Point × Point) :=
  match parent with
  | some box => box.map fun b => (⟨b.x, b.y⟩, ⟨0, 0⟩)
  | none => win.contentRoot.map fun o => (o, win.contentOrigin cfg)

/-- `popup_compute_root_placement`. -/
def popupComputeRootPlacement (cfg : Config) (win : PopupWindow) (parent : Option (Option Box))
    (p : XdgPopup) : Option Box :=
  let lw := if 0 < p.surface.width then p.surface.width
    else if 0 < p.geometry.width then p.geometry.width else p.scheduled.width
  let lh := if 0 < p.surface.height then p.surface.height
    else if 0 < p.geometry.height then p.geometry.height else p.scheduled.height
  if lw ≤ 0 ∨ lh ≤ 0 then none
  else
    let gw := wlxScaleSize cfg lw
    let gh := wlxScaleSize cfg lh
    (placementStart cfg win parent).map fun (o, d) =>
      ⟨toInt16 (o.x + wlxScaleSize cfg (p.offset.x - d.x)),
        toInt16 (o.y + wlxScaleSize cfg (p.offset.y - d.y)),
        if 0 < gw then gw else 1, if 0 < gh then gh else 1⟩

/-- How large a present window is once its surface is shown: where nothing is scaled it is made as
large as the buffer. -/
def shownBox (cfg : Config) (buffer : Option Size) (box : Box) : Box :=
  match buffer with
  | some b =>
    if (cfg.contentScale ≤ 0 ∨ cfg.contentScale = 1) ∧ b.isSet = true ∧ b ≠ box.size then
      { box with width := b.width, height := b.height }
    else box
  | none => box

/-- `popup_render_and_present`, as far as it changes the present window's box. -/
def popupRenderAndPresent (cfg : Config) (p : XdgPopup) (box : Box) : Box :=
  shownBox cfg p.buffer box

/-- The present window of a popup, as `popup_position_and_map` configures it. "Buffer size is
logical; present-window size is host pixels." -/
def presentBox (cfg : Config) (win : PopupWindow) (parent : Option (Option Box)) (p : XdgPopup) :
    Option Box :=
  (popupComputeRootPlacement cfg win parent p).map fun box =>
    popupRenderAndPresent cfg p <|
      match p.buffer with
      | some b =>
        if b.isSet then { box with width := wlxScaleSize cfg b.width
                                   height := wlxScaleSize cfg b.height }
        else box
      | none => box

/-- The root box of the first popup of a chain; each popup is followed by its parent, the last one is
a child of the toplevel. -/
def rootBox (cfg : Config) (win : PopupWindow) : List HostedPopup → Option Box
  | [] => none
  | p :: ps =>
    if p.hosted then
      presentBox cfg win (if ps.isEmpty then none else some (rootBox cfg win ps)) p.popup
    else popupUpdateRootBox cfg win none p.popup

/-- What the placement of a popup with these ancestors starts from. -/
def parentBox (cfg : Config) (win : PopupWindow) (ps : List HostedPopup) : Option (Option Box) :=
  if ps.isEmpty then none else some (rootBox cfg win ps)

/-- `content_scale` as the fallback of `popup_position_and_map` reads it. -/
def Config.drawScale (cfg : Config) : ℚ := if 0 < cfg.contentScale then cfg.contentScale else 1

theorem Config.drawScale_pos (cfg : Config) : 0 < cfg.drawScale := by
  unfold Config.drawScale
  split <;> linarith

/-- Where the toplevel's window shows a popup without a present window: its tree is a child of the
toplevel's, which begins where the window does. -/
def fallbackBox (cfg : Config) (win : PopupWindow) (p : XdgPopup) : Option Box :=
  win.contentRoot.map fun o =>
    let size := bufferNodeSize cfg p.surface (p.buffer.getD ⟨0, 0⟩)
    ⟨o.x + lround (p.geometry.x * cfg.drawScale), o.y + lround (p.geometry.y * cfg.drawScale),
      size.width, size.height⟩

/-- The three descriptions of where a popup is are one rectangle. -/
def PlacedAlike (cfg : Config) (win : PopupWindow) (p : XdgPopup) (ancestors : List HostedPopup) :
    Prop :=
  presentBox cfg win (parentBox cfg win ancestors) p = fallbackBox cfg win p ∧
    popupUpdateRootBox cfg win none p = fallbackBox cfg win p

instance (cfg : Config) (win : PopupWindow) (p : XdgPopup) (ancestors : List HostedPopup) :
    Decidable (PlacedAlike cfg win p ancestors) := inferInstanceAs (Decidable (_ ∧ _))

/-! ## Each description in one line -/

/-- The size the present window is made from. -/
def XdgPopup.shownSize (p : XdgPopup) : Size :=
  match p.buffer with
  | some b => if b.isSet then b else p.surface
  | none => p.surface

/-- Nothing is rounded where nothing is scaled. -/
theorem Config.scale_unscaled {cfg : Config} {s : Size}
    (h : cfg.contentScale ≤ 0 ∨ cfg.contentScale = 1) (hs : s.isSet = true) : cfg.scale s = s := by
  rw [Size.isSet_iff] at hs
  have hdim : ∀ n : Int, 0 < n → wlxScaleSize cfg n = n := by
    intro n hn
    rcases h with h | h
    · exact if_pos h
    · rw [wlxScaleSize_of_pos (by rw [h]; norm_num), h, mul_one, lround_intCast]
      exact max_eq_right hn
  cases s
  simp only [Config.scale, hdim _ hs.1, hdim _ hs.2]

/-- The second look at the buffer finds the window as large as it should be. -/
theorem popupRenderAndPresent_eq {cfg : Config} {p : XdgPopup} {box : Box}
    (h : ∀ b ∈ p.buffer, b.isSet = true → box.size = cfg.scale b) :
    popupRenderAndPresent cfg p box = box := by
  unfold popupRenderAndPresent shownBox
  cases hb : p.buffer with
  | none => rfl
  | some b =>
    dsimp only
    rw [if_neg]
    rintro ⟨hscale, hset, hne⟩
    rw [h b hb hset, Config.scale_unscaled hscale hset] at hne
    exact hne rfl

theorem presentBox_eq (cfg : Config) (win : PopupWindow) (parent : Option (Option Box))
    (p : XdgPopup) :
    presentBox cfg win parent p = (placementStart cfg win parent).map fun (o, d) =>
      ⟨toInt16 (o.x + wlxScaleSize cfg (p.offset.x - d.x)),
        toInt16 (o.y + wlxScaleSize cfg (p.offset.y - d.y)),
        wlxScaleSize cfg p.shownSize.width, wlxScaleSize cfg p.shownSize.height⟩ := by
  obtain ⟨hw, hh⟩ := Size.isSet_iff.mp p.sized
  have hgw := wlxScaleSize_pos cfg hw
  have hgh := wlxScaleSize_pos cfg hh
  unfold presentBox popupComputeRootPlacement
  simp only [if_pos hw, if_pos hh, if_pos hgw, if_pos hgh]
  rw [if_neg (by omega), Option.map_map]
  congr 1
  funext ⟨o, d⟩
  dsimp only [Function.comp]
  unfold XdgPopup.shownSize
  cases hb : p.buffer with
  | none => exact popupRenderAndPresent_eq (by simp [hb])
  | some b =>
    dsimp only
    split
    · refine popupRenderAndPresent_eq fun b' hb' _ => ?_
      obtain rfl : b = b' := by simpa [hb] using hb'
      rfl
    · rename_i hset
      refine popupRenderAndPresent_eq fun b' hb' hset' => ?_
      obtain rfl : b = b' := by simpa [hb] using hb'
      exact absurd hset' hset

theorem popupUpdateRootBox_eq (cfg : Config) (win : PopupWindow) (p : XdgPopup) :
    popupUpdateRootBox cfg win none p = win.contentRoot.map fun o =>
      ⟨toInt16 (o.x + wlxScaleSize cfg (p.geometry.x - (win.contentOrigin cfg).x)),
        toInt16 (o.y + wlxScaleSize cfg (p.geometry.y - (win.contentOrigin cfg).y)),
        wlxScaleSize cfg p.geometry.width, wlxScaleSize cfg p.geometry.height⟩ := by
  obtain ⟨hw, hh⟩ := Size.isSet_iff.mp p.configured
  have hgw := wlxScaleSize_pos cfg hw
  have hgh := wlxScaleSize_pos cfg hh
  simp only [Box.size] at hw hh hgw hgh
  unfold popupUpdateRootBox
  simp only [p.configured, if_true, if_pos hw, if_pos hh]
  cases win.contentRoot with
  | none => rfl
  | some o => simp only [Option.bind_some, Option.map_some]; rw [if_neg (by omega)]

/-- The popups of a chain have root boxes as soon as the toplevel's place is known. -/
theorem rootBox_isSome (cfg : Config) (win : PopupWindow) (p : HostedPopup) (ps : List HostedPopup) :
    (rootBox cfg win (p :: ps)).isSome = win.contentRoot.isSome := by
  induction ps generalizing p with
  | nil =>
    unfold rootBox
    split
    · rw [presentBox_eq]
      simp [placementStart]
    · rw [popupUpdateRootBox_eq, Option.isSome_map]
  | cons q qs ih =>
    unfold rootBox
    split
    · rw [presentBox_eq, Option.isSome_map]
      simpa [placementStart] using ih q
    · rw [popupUpdateRootBox_eq, Option.isSome_map]

theorem placementStart_isSome (cfg : Config) (win : PopupWindow) (ps : List HostedPopup) :
    (placementStart cfg win (parentBox cfg win ps)).isSome = win.contentRoot.isSome := by
  cases ps with
  | nil => simp [placementStart, parentBox]
  | cons p ps => simpa [placementStart, parentBox] using rootBox_isSome cfg win p ps

/-! ## When they are one rectangle -/

/-- The buffer, the acked box and what the scene draws of the surface are equally large. -/
def XdgPopup.ScalesAlike (cfg : Config) (p : XdgPopup) : Prop :=
  let drawn := bufferNodeSize cfg p.surface (p.buffer.getD ⟨0, 0⟩)
  cfg.scale p.shownSize = drawn ∧ cfg.scale p.geometry.size = drawn

/-- The scaled offset at which the fallback draws. -/
def Config.drawnOffset (cfg : Config) (l : Int) : Int := lround (l * cfg.drawScale)

/-- One axis. The window's content begins at `o` on the root window and at `d` in its surface, the
popup's acked offset is `l`; its placement takes `d'` from the offset `l'` and starts at `b`. -/
structure AxisAlike (cfg : Config) (o d l b d' l' : Int) : Prop where
  /-- the place drawn at is an X coordinate -/
  onRoot : toInt16 (o + cfg.drawnOffset l) = o + cfg.drawnOffset l
  /-- neither the window geometry nor the least size of a pixel moves the offset -/
  unmoved : wlxScaleSize cfg (l - d) ≡ cfg.drawnOffset l [ZMOD 65536]
  /-- the placement starts where the window's content does -/
  fromWindow : b + wlxScaleSize cfg (l' - d') ≡ o + cfg.drawnOffset l [ZMOD 65536]

theorem toInt16_eq_iff (n m : Int) : toInt16 n = m ↔ toInt16 m = m ∧ n ≡ m [ZMOD 65536] := by
  simp only [toInt16, Int.bmod_def, Int.ModEq]
  constructor
  · rintro rfl
    constructor <;> split <;> omega
  · rintro ⟨hm, hmod⟩
    split at hm <;> split <;> omega

theorem axisAlike_iff {cfg : Config} {o d l b d' l' : Int} :
    AxisAlike cfg o d l b d' l' ↔
      toInt16 (b + wlxScaleSize cfg (l' - d')) = o + cfg.drawnOffset l ∧
        toInt16 (o + wlxScaleSize cfg (l - d)) = o + cfg.drawnOffset l := by
  rw [toInt16_eq_iff (b + _), toInt16_eq_iff (o + wlxScaleSize _ _)]
  constructor
  · intro h
    exact ⟨⟨h.onRoot, h.fromWindow⟩, h.onRoot, h.unmoved.add_left o⟩
  · rintro ⟨⟨hroot, hfrom⟩, -, hmod⟩
    exact ⟨hroot, Int.ModEq.add_left_cancel' o hmod, hfrom⟩

/-- **The three descriptions of a popup's place.** They are one rectangle exactly if the three sizes
scale alike and, on both axes, the scaled offset is neither moved nor counted from elsewhere. -/
theorem placedAlike_iff (cfg : Config) (win : PopupWindow) (p : XdgPopup)
    (ancestors : List HostedPopup) :
    PlacedAlike cfg win p ancestors ↔
      ∀ o ∈ win.contentRoot, ∀ b d', placementStart cfg win (parentBox cfg win ancestors) = some (b, d') →
        let d := win.contentOrigin cfg
        p.ScalesAlike cfg ∧ AxisAlike cfg o.x d.x p.geometry.x b.x d'.x p.offset.x ∧
          AxisAlike cfg o.y d.y p.geometry.y b.y d'.y p.offset.y := by
  unfold PlacedAlike fallbackBox
  rw [presentBox_eq, popupUpdateRootBox_eq]
  cases hroot : win.contentRoot with
  | none =>
    have hstart := placementStart_isSome cfg win ancestors
    rw [hroot, Option.isSome_none, Option.isSome_eq_false_iff, Option.isNone_iff_eq_none] at hstart
    simp [hstart]
  | some o =>
    have hstart := placementStart_isSome cfg win ancestors
    rw [hroot, Option.isSome_some, Option.isSome_iff_exists] at hstart
    obtain ⟨⟨b, d'⟩, hstart⟩ := hstart
    simp only [hstart, Option.map_some, Option.some.injEq, Option.mem_def, Prod.mk.injEq, Box.mk.injEq]
    constructor
    · rintro ⟨⟨hx, hy, hw, hh⟩, hx', hy', hw', hh'⟩ _ rfl _ _ ⟨rfl, rfl⟩
      refine ⟨⟨?_, ?_⟩, axisAlike_iff.mpr ⟨hx, hx'⟩, axisAlike_iff.mpr ⟨hy, hy'⟩⟩
      · exact congrArg₂ Size.mk hw hh
      · exact congrArg₂ Size.mk hw' hh'
    · intro h
      obtain ⟨⟨hsize, hsize'⟩, hx, hy⟩ := h o rfl b d' ⟨rfl, rfl⟩
      obtain ⟨hx, hx'⟩ := axisAlike_iff.mp hx
      obtain ⟨hy, hy'⟩ := axisAlike_iff.mp hy
      exact ⟨⟨hx, hy, congrArg Size.width hsize, congrArg Size.height hsize⟩,
        hx', hy', congrArg Size.width hsize', congrArg Size.height hsize'⟩

/-- A menu at a corner of its parent surface. -/
def cornerMenu : XdgPopup where
  geometry := ⟨0, 20, 200, 300⟩
  scheduled := ⟨0, 20, 200, 300⟩
  surface := ⟨200, 300⟩
  buffer := some ⟨200, 300⟩
  configured := rfl
  sized := rfl

/-- The present window of a menu at the window's left edge misses by a pixel. -/
theorem cornerMenu_placed_apart : ¬ ∀ (cfg : Config) (win : PopupWindow) (p : XdgPopup)
    (ancestors : List HostedPopup), PlacedAlike cfg win p ancestors := by
  intro h
  have hmenu := h ⟨1, true⟩ ⟨some ⟨100, 100⟩, ⟨0, 0, 640, 480⟩⟩ cornerMenu []
  exact absurd hmenu (by decide +kernel)

/-- A popup of a popup has no one place, as long as its parent's place lies to the right of the
window's left edge. -/
theorem nested_apart {cfg : Config} {win : PopupWindow} {p : XdgPopup} {q : HostedPopup}
    {qs : List HostedPopup} {o : Point} {b : Box} (hscale : 0 < cfg.contentScale)
    (hroot : win.contentRoot = some o) (hparent : rootBox cfg win (q :: qs) = some b)
    (hright : o.x < b.x)
    (hwrap : toInt16 (b.x + wlxScaleSize cfg p.offset.x) = b.x + wlxScaleSize cfg p.offset.x)
    (hwrap' : toInt16 (o.x + wlxScaleSize cfg (p.geometry.x - (win.contentOrigin cfg).x)) =
      o.x + wlxScaleSize cfg (p.geometry.x - (win.contentOrigin cfg).x)) :
    ¬ PlacedAlike cfg win p (q :: qs) := by
  intro halike
  have hstart : placementStart cfg win (parentBox cfg win (q :: qs)) = some (⟨b.x, b.y⟩, ⟨0, 0⟩) := by
    simp [placementStart, parentBox, hparent]
  obtain ⟨-, hx, -⟩ := (placedAlike_iff cfg win p _).mp halike o hroot _ _ hstart
  obtain ⟨hplaced, hhit⟩ := axisAlike_iff.mp hx
  rw [sub_zero, hwrap] at hplaced
  rw [hwrap'] at hhit
  have hleast : ∀ n, 1 ≤ wlxScaleSize cfg n := by
    intro n
    unfold wlxScaleSize
    rw [if_neg (by linarith)]
    omega
  -- one pixel at least: the offset is not the origin, and the clamp does not move it
  have hshown : 1 ≤ cfg.drawnOffset p.geometry.x := by
    have := hleast (p.geometry.x - (win.contentOrigin cfg).x)
    omega
  have hoffset : p.offset.x = p.geometry.x := by
    unfold XdgPopup.offset
    split
    · rename_i hzero
      rw [hzero.1, Config.drawnOffset, Int.cast_zero, zero_mul] at hshown
      exact absurd hshown (by decide +kernel)
    · rfl
  have hsame : wlxScaleSize cfg p.offset.x = cfg.drawnOffset p.geometry.x := by
    rw [hoffset]
    rw [wlxScaleSize_of_pos (not_le.mpr hscale)]
    unfold Config.drawnOffset Config.drawScale at *
    rw [if_pos hscale] at *
    exact max_eq_right hshown
  omega

end Wlx
