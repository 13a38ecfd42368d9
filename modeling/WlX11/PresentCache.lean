import WlX11.SubpresentPlacement

/-!
# WlX11 — what a popup remembers of its present window

A popup or a subpresent remembers where its present window is: `root_x` to `root_h`, if
`root_box_valid`. The box is written when the window is placed, when the window is made as large as the
buffer, when the toplevel has moved, and when a popup without a valid one is asked for it; the window is
made and destroyed in other places still.

* **`X11PresentWindow`** — a present window, with what the X server has been asked for.
* **`PresentCache.Current`** — while there is a window, the box is valid, and where the window is.
* **`Current.popupPositionAndMap`** and its like — every function that writes one of the two keeps this.
* **`popupPositionAndMap_root`**, **`subpresentPositionAndPresent_root`** — the box is the one of
  `PopupPlacement` and of `Subpresent`.
-/

namespace Wlx

/-! ## The present window -/

/-- What `xcb_configure_window` makes of the place `host` of a window that is to go from `old` to `new`:
of the position and the size, only what changes is sent. -/
def Box.configured (old new host : Box) : Box :=
  let moved := if old.x ≠ new.x ∨ old.y ≠ new.y then { host with x := new.x, y := new.y } else host
  if old.size ≠ new.size then { moved with width := new.width, height := new.height } else moved

/-- What is not sent is so already. -/
theorem Box.configured_self (old new : Box) : Box.configured old new old = new := by
  obtain ⟨ox, oy, ow, oh⟩ := old
  obtain ⟨nx, ny, nw, nh⟩ := new
  simp only [configured, Box.size, ne_eq, Size.mk.injEq]
  split <;> split <;> simp_all

/-- A side of 1 is the least an X window has. -/
def Box.atLeastOne (b : Box) : Box := { b with width := max 1 b.width, height := max 1 b.height }

/-- Every present window is at least one pixel wide and high, -/
theorem Box.atLeastOne_isSet (b : Box) : b.atLeastOne.size.isSet = true := by
  simp only [atLeastOne, Box.size, Size.isSet_iff]
  omega

/-- which changes nothing for a box that is not empty. -/
theorem Box.atLeastOne_of_isSet {b : Box} (h : b.size.isSet = true) : b.atLeastOne = b := by
  rw [Size.isSet_iff] at h
  obtain ⟨x, y, width, height⟩ := b
  simp only [Box.size] at h
  simp only [atLeastOne, Box.mk.injEq, true_and]
  omega

/-- A window of one pixel. -/
theorem Box.onePixel_isSet : (Box.mk 0 0 1 1).size.isSet = true := rfl

/-- `struct wlr_x11_present_window`. -/
structure X11PresentWindow where
  win : Nat
  /-- `root_x`, `root_y`, `width`, `height` -/
  box : Box
  mapped : Bool
  /-- where the requests have put the X window -/
  host : Box
  sized : box.size.isSet = true
  recorded : host = box
deriving DecidableEq

namespace X11PresentWindow

/-- `wlr_x11_present_window_create`. -/
def create (win : Nat) : X11PresentWindow where
  win := win
  box := ⟨0, 0, 1, 1⟩
  mapped := false
  host := ⟨0, 0, 1, 1⟩
  sized := Box.onePixel_isSet
  recorded := rfl

/-- `wlr_x11_present_window_configure`. -/
def configure (box : Box) (w : X11PresentWindow) : X11PresentWindow :=
  -- `!pos_changed && !size_changed`
  if w.box = box.atLeastOne then w
  else
    { w with
      box := box.atLeastOne
      host := Box.configured w.box box.atLeastOne w.host
      sized := box.atLeastOne_isSet
      recorded := by rw [w.recorded, Box.configured_self] }

/-- `wlr_x11_present_window_map`. -/
def map (w : X11PresentWindow) : X11PresentWindow := { w with mapped := true }

@[simp] theorem map_mapped (w : X11PresentWindow) : w.map.mapped = true := rfl

@[simp] theorem map_host (w : X11PresentWindow) : w.map.host = w.host := rfl

@[simp] theorem map_win (w : X11PresentWindow) : w.map.win = w.win := rfl

@[simp] theorem configure_win (box : Box) (w : X11PresentWindow) : (w.configure box).win = w.win := by
  unfold configure
  split <;> rfl

@[simp] theorem configure_mapped (box : Box) (w : X11PresentWindow) :
    (w.configure box).mapped = w.mapped := by
  unfold configure
  split <;> rfl

/-- After it is configured the window is where it was to go. -/
theorem configure_host {box : Box} (h : box.size.isSet = true) (w : X11PresentWindow) :
    (w.configure box).host = box := by
  rw [(w.configure box).recorded]
  unfold configure
  split
  · rename_i hsame
    rw [hsame, Box.atLeastOne_of_isSet h]
  · exact Box.atLeastOne_of_isSet h

end X11PresentWindow

/-! ## Where a popup is -/

/-- An `xdg_popup` and its surface, as a handler finds them. -/
structure PopupSurface where
  mapped : Bool
  /-- `base->initial_commit` -/
  initialCommit : Bool
  /-- `current.geometry`, relative to the parent surface -/
  geometry : Box
  /-- `scheduled.geometry` -/
  scheduled : Box
  /-- `base->surface->current` -/
  size : Size
  /-- the size of `surface->buffer` -/
  buffer : Option Size

namespace PopupSurface

variable (cfg : Config) (win : PopupWindow) (p : PopupSurface)

/-- The "parent-relative geometry" of `popup_update_root_box`. -/
def parentRelativeBox : Option Box :=
  win.contentRoot.bind fun o =>
    let geo := if p.geometry.size.isSet then p.geometry else p.scheduled
    let gw := wlxScaleSize cfg (if 0 < geo.width then geo.width else p.size.width)
    let gh := wlxScaleSize cfg (if 0 < geo.height then geo.height else p.size.height)
    let d := win.contentOrigin cfg
    if gw ≤ 0 ∨ gh ≤ 0 then none
    else some ⟨toInt16 (o.x + wlxScaleSize cfg (geo.x - d.x)),
      toInt16 (o.y + wlxScaleSize cfg (geo.y - d.y)), gw, gh⟩

/-- "Position from xdg geometry". -/
def offset : Point :=
  if p.geometry.x = 0 ∧ p.geometry.y = 0 ∧ (p.scheduled.x ≠ 0 ∨ p.scheduled.y ≠ 0) then
    ⟨p.scheduled.x, p.scheduled.y⟩
  else ⟨p.geometry.x, p.geometry.y⟩

/-- "Size from the surface/buffer". -/
def logicalSize : Size where
  width := if 0 < p.size.width then p.size.width
    else if 0 < p.geometry.width then p.geometry.width else p.scheduled.width
  height := if 0 < p.size.height then p.size.height
    else if 0 < p.geometry.height then p.geometry.height else p.scheduled.height

/-- The end of `popup_compute_root_placement`: the popup's offset, less `d`, is counted from `o`. -/
def placedFrom (o d : Point) : Box :=
  let gw := wlxScaleSize cfg p.logicalSize.width
  let gh := wlxScaleSize cfg p.logicalSize.height
  ⟨toInt16 (o.x + wlxScaleSize cfg (p.offset.x - d.x)),
    toInt16 (o.y + wlxScaleSize cfg (p.offset.y - d.y)),
    if 0 < gw then gw else 1, if 0 < gh then gh else 1⟩

/-- "Buffer size is logical; present-window size is host pixels." -/
def windowBox (box : Box) : Box :=
  match p.buffer with
  | some b =>
    if b.isSet then { box with width := wlxScaleSize cfg b.width, height := wlxScaleSize cfg b.height }
    else box
  | none => box

/-- A popup's box is never empty, -/
theorem placedFrom_isSet (o d : Point) : (p.placedFrom cfg o d).size.isSet = true := by
  simp only [placedFrom, Box.size, Size.isSet_iff]
  constructor <;> split <;> omega

/-- nor is that of its window. -/
theorem windowBox_isSet {box : Box} (h : box.size.isSet = true) :
    (p.windowBox cfg box).size.isSet = true := by
  unfold windowBox
  split
  · split
    · rename_i hset
      rw [Size.isSet_iff] at hset
      exact Size.isSet_iff.mpr ⟨wlxScaleSize_pos cfg hset.1, wlxScaleSize_pos cfg hset.2⟩
    · exact h
  · exact h

end PopupSurface

/-- A mapped popup's surface. -/
def XdgPopup.toSurface (p : XdgPopup) : PopupSurface :=
  ⟨true, false, p.geometry, p.scheduled, p.surface, p.buffer⟩

/-- For a mapped popup this is where it is looked for without a present window. -/
theorem XdgPopup.parentRelativeBox_toSurface (cfg : Config) (win : PopupWindow) (p : XdgPopup) :
    p.toSurface.parentRelativeBox cfg win = popupUpdateRootBox cfg win none p := rfl

/-- And this is where its present window is put. -/
theorem XdgPopup.placedFrom_toSurface (cfg : Config) (win : PopupWindow)
    (parent : Option (Option Box)) (p : XdgPopup) :
    popupComputeRootPlacement cfg win parent p =
      (placementStart cfg win parent).map fun (o, d) => p.toSurface.placedFrom cfg o d := by
  obtain ⟨hw, hh⟩ := Size.isSet_iff.mp p.sized
  unfold popupComputeRootPlacement
  -- a surface with a size is placed by that
  rw [if_neg (by simp only [if_pos hw, if_pos hh]; omega)]
  rfl

/-! ## What is remembered of it -/

/-- What `struct wlx_popup` and `struct wlx_subpresent` have of a present window. -/
structure PresentCache where
  xpresent : Option X11PresentWindow
  /-- `root_x`, `root_y`, `root_w`, `root_h` -/
  root : Box
  rootBoxValid : Bool
deriving DecidableEq

namespace PresentCache

/-- As `calloc` leaves it. -/
def new : PresentCache := ⟨none, Box.zero, false⟩

/-- `popup_destroy_xpresent`, and `popup_handle_xpresent_destroy` when the window goes without that. -/
def popupDestroyXpresent (c : PresentCache) : PresentCache :=
  { c with xpresent := none, rootBoxValid := false }

/-- `subpresent_handle_xpresent_destroy`. -/
def subpresentHandleXpresentDestroy (c : PresentCache) : PresentCache := { c with xpresent := none }

/-- The present window there is, or `created`, which is what `wlr_x11_present_window_create` gives. -/
def createXpresent (created : Option Nat) (c : PresentCache) : Option X11PresentWindow :=
  c.xpresent.or (created.map .create)

/-- The present window `w` is configured and mapped, and its place remembered. -/
def placeAt (box : Box) (w : X11PresentWindow) : PresentCache where
  xpresent := some (w.configure box).map
  root := box
  rootBoxValid := true

section Geometry

variable (cfg : Config)

/-- `popup_render_and_present` and `subpresent_render_and_present`: "only match window to buffer when
scale is 1". -/
def renderAndPresent (buffer : Option Size) (c : PresentCache) : PresentCache :=
  match c.xpresent, buffer with
  | some w, some b =>
    -- the position is read from the window, the size from the buffer
    if w.box.size.isSet = true ∧ (cfg.contentScale ≤ 0 ∨ cfg.contentScale = 1) ∧ b.isSet = true ∧
        b ≠ w.box.size then
      { c with
        xpresent := some (w.configure { w.box with width := b.width, height := b.height })
        root := { c.root with width := b.width, height := b.height } }
    else c
  | _, _ => c

/-- `popup_update_root_box`. -/
def popupUpdateRootBox (win : PopupWindow) (p : PopupSurface) (c : PresentCache) : PresentCache :=
  match c.xpresent with
  | some w => { c with root := w.box, rootBoxValid := w.box.size.isSet }
  -- where none can be computed, the four fields keep what they had
  | none => match p.parentRelativeBox cfg win with
    | some box => { c with root := box, rootBoxValid := true }
    | none => { c with rootBoxValid := false }

/-- A root box that is not valid is computed before it is used. -/
def refreshed (win : PopupWindow) (p : PopupSurface) (c : PresentCache) : PresentCache :=
  if c.rootBoxValid then c else c.popupUpdateRootBox cfg win p

/-- `popup_position_and_map`, once it is known where to. "present_window create failed; falling back to
parent-scene (clipped)". -/
def popupPositionAndMap (win : PopupWindow) (p : PopupSurface) (created : Option Nat) (box : Box)
    (c : PresentCache) : PresentCache :=
  match c.createXpresent created with
  | some w => (placeAt (p.windowBox cfg box) w).renderAndPresent cfg p.buffer
  | none => c.popupUpdateRootBox cfg win p

/-- `wlx_reposition_popups_for_window`, for a popup that is to be at `box`. -/
def reposition (box : Box) (c : PresentCache) : PresentCache where
  xpresent := c.xpresent.map (.configure box)
  root := box
  rootBoxValid := true

/-- `subpresent_position_and_present`, once it is known where to. -/
def subpresentPositionAndPresent (surf : SurfaceState) (created : Option Nat) (box : Box)
    (c : PresentCache) : PresentCache :=
  match c.createXpresent created with
  | some w => (placeAt box w).renderAndPresent cfg surf.buffer
  | none => c

end Geometry

/-- The root box, if it is valid. -/
def rootBox (c : PresentCache) : Option Box := if c.rootBoxValid then some c.root else none

/-- Where there is a present window and a valid root box, they are one rectangle of the root. -/
def Accurate (c : PresentCache) : Prop := ∀ w ∈ c.xpresent, c.rootBoxValid = true → c.root = w.host

/-- A present window is mapped and has a valid root box, which is where the window is. -/
def Current (c : PresentCache) : Prop :=
  ∀ w ∈ c.xpresent, w.mapped = true ∧ c.rootBoxValid = true ∧ c.root = w.host

/-! ### Every function leaves the root box where the window is -/

/-- What is current is accurate, whatever is asked. -/
theorem Current.accurate {c : PresentCache} (h : c.Current) : c.Accurate :=
  fun w hw _ => (h w hw).2.2

/-- Without a window there is nothing to disagree with. -/
theorem current_of_none {c : PresentCache} (h : c.xpresent = none) : c.Current := by
  intro w hw
  rw [h] at hw
  cases hw

/-- A window that is configured to a box is in it. -/
theorem current_placeAt {box : Box} (h : box.size.isSet = true) (w : X11PresentWindow) :
    (placeAt box w).Current := by
  rintro _ ⟨⟩
  exact ⟨rfl, rfl, (w.configure_host h).symm⟩

section Geometry

variable {cfg : Config} {win : PopupWindow} {p : PopupSurface} {surf : SurfaceState}
  {created : Option Nat} {box : Box} {c : PresentCache}

/-- Where the window takes its buffer's size, the root box takes it too. -/
theorem Current.renderAndPresent (h : c.Current) (buffer : Option Size) :
    (c.renderAndPresent cfg buffer).Current := by
  unfold PresentCache.renderAndPresent
  split
  · rename_i w b hw
    split
    · rename_i hfit
      obtain ⟨hmapped, hvalid, hroot⟩ := h w hw
      rintro _ ⟨⟩
      -- both had one position, and both take the buffer's size
      refine ⟨by rw [X11PresentWindow.configure_mapped, hmapped], hvalid, ?_⟩
      have hset : (Box.size { w.box with width := b.width, height := b.height }).isSet = true :=
        hfit.2.2.1
      rw [X11PresentWindow.configure_host hset, hroot, w.recorded]
    · exact h
  · exact h

/-- A popup reads its window's place from the window. -/
theorem Current.popupUpdateRootBox (h : c.Current) (win : PopupWindow) (p : PopupSurface) :
    (c.popupUpdateRootBox cfg win p).Current := by
  unfold PresentCache.popupUpdateRootBox
  cases hx : c.xpresent with
  | some w =>
    rintro _ ⟨⟩
    exact ⟨(h w hx).1, w.sized, w.recorded.symm⟩
  | none =>
    cases p.parentRelativeBox cfg win <;> exact current_of_none rfl

/-- A missing root box is computed from where the window is. -/
theorem Current.refreshed (h : c.Current) (win : PopupWindow) (p : PopupSurface) :
    (c.refreshed cfg win p).Current := by
  unfold PresentCache.refreshed
  split
  · exact h
  · exact h.popupUpdateRootBox win p

/-- The window is configured to the box that is remembered. -/
theorem Current.popupPositionAndMap (h : c.Current) (hbox : box.size.isSet = true) :
    (c.popupPositionAndMap cfg win p created box).Current := by
  unfold PresentCache.popupPositionAndMap
  split
  -- whatever the cache was, it is written together with the window
  · exact (current_placeAt (p.windowBox_isSet cfg hbox) _).renderAndPresent p.buffer
  · exact h.popupUpdateRootBox win p

/-- So it is when the popup is moved. -/
theorem Current.reposition (h : c.Current) (hbox : box.size.isSet = true) :
    (c.reposition box).Current := by
  intro w hw
  obtain ⟨w₀, hw₀, rfl⟩ := Option.map_eq_some_iff.mp hw
  refine ⟨by rw [X11PresentWindow.configure_mapped, (h w₀ hw₀).1], rfl, ?_⟩
  exact (w₀.configure_host hbox).symm

/-- And so for a subpresent, up to the rounding of both. -/
theorem Current.subpresentPositionAndPresent (h : c.Current) (hbox : box.size.isSet = true) :
    (c.subpresentPositionAndPresent cfg surf created box).Current := by
  unfold PresentCache.subpresentPositionAndPresent
  split
  · exact (current_placeAt hbox _).renderAndPresent surf.buffer
  · exact h

end Geometry

/-! ### The boxes of the other modules -/

section Placement

variable {cfg : Config} {win : PopupWindow} {created : Option Nat} {box : Box} {c : PresentCache}
  {w : X11PresentWindow}

/-- Once its buffer is shown, the root box is `shownBox`. -/
theorem root_placeAt_renderAndPresent (cfg : Config) (h : box.size.isSet = true)
    (w : X11PresentWindow) (buffer : Option Size) :
    ((placeAt box w).renderAndPresent cfg buffer).root = shownBox cfg buffer box := by
  have hbox : (w.configure box).map.box = box := (w.configure box).recorded ▸ w.configure_host h
  unfold PresentCache.renderAndPresent shownBox placeAt
  cases buffer with
  | none => rfl
  | some b =>
    dsimp only
    simp only [hbox, h, true_and]
    split <;> rfl

/-- A popup remembers the place it is given in `presentBox`. -/
theorem popupPositionAndMap_root (p : XdgPopup) (parent : Option (Option Box))
    (hcreated : c.createXpresent created = some w) :
    (popupComputeRootPlacement cfg win parent p).map (fun box =>
      (c.popupPositionAndMap cfg win p.toSurface created box).root) = presentBox cfg win parent p := by
  unfold presentBox
  refine Option.map_congr fun box hbox => ?_
  have hset : box.size.isSet = true := by
    rw [XdgPopup.placedFrom_toSurface] at hbox
    obtain ⟨_, -, rfl⟩ := Option.map_eq_some_iff.mp hbox
    exact PopupSurface.placedFrom_isSet ..
  unfold PresentCache.popupPositionAndMap
  rw [hcreated]
  exact root_placeAt_renderAndPresent cfg (p.toSurface.windowBox_isSet cfg hset) w p.buffer

/-- It is the same window, wherever it is put. -/
theorem win_placeAt_renderAndPresent (buffer : Option Size) :
    ((placeAt box w).renderAndPresent cfg buffer).xpresent.map (·.win) = some w.win := by
  unfold PresentCache.renderAndPresent placeAt
  cases buffer with
  | none => simp
  | some b =>
    dsimp only
    split <;> simp

/-- A subpresent remembers what `renderAndPresent` leaves of its place. -/
theorem subpresentPositionAndPresent_root (cfg : Config) (surf : SurfaceState)
    (h : box.size.isSet = true) (hcreated : c.createXpresent created = some w) :
    (c.subpresentPositionAndPresent cfg surf created box).rootBox =
      some (Subpresent.renderAndPresent cfg surf box) := by
  have hroot := root_placeAt_renderAndPresent cfg h w surf.buffer
  have hvalid : ((placeAt box w).renderAndPresent cfg surf.buffer).rootBoxValid = true := by
    unfold PresentCache.renderAndPresent
    split
    · split <;> rfl
    · rfl
  unfold PresentCache.subpresentPositionAndPresent PresentCache.rootBox
  rw [hcreated]
  dsimp only
  rw [if_pos hvalid, hroot]
  rfl

end Placement

end PresentCache

end Wlx
