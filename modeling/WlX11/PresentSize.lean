import WlX11.SubpresentPlacement

/-!
# WlX11 — how large a present window is

The present window of a popup or subpresent is given its size when the surface is mapped, at each of
its commits, when its buffer is shown, and when its toplevel has moved. Some of these read the size of
the surface, some that of its buffer, which a client may choose larger (`set_buffer_scale`), turned
(`set_buffer_transform`) or of any size (`wp_viewport`).

* **`BufferedSurface.size`** — the surface's own size, from `wlr_compositor.c`.
* **`PresentPaths.Sized`** — in whatever order these happen, the window has one size.
* **`present_sized_iff`** — exactly when.
-/

namespace Wlx

/-- The state a mapped surface has committed, as far as its size goes. A client that commits another
is disconnected, by `surface_finalize_pending` or by the viewport. -/
structure BufferedSurface where
  /-- `buffer_width`, `buffer_height` -/
  buffer : Size
  /-- the buffer could be uploaded: `surface->buffer` is not NULL -/
  uploaded : Bool
  /-- `transform & WL_OUTPUT_TRANSFORM_90` -/
  transposed : Bool
  scale : Int
  /-- the size of `viewport.src`, if `has_src` -/
  src : Option (ℚ × ℚ)
  /-- `viewport.dst_width`, `viewport.dst_height`, if `has_dst` -/
  dst : Option Size
  attached : buffer.isSet = true
  scaled : 0 < scale
  /-- "Buffer size is not divisible by scale" -/
  divisible : src = none → scale ∣ buffer.width ∧ scale ∣ buffer.height
  /-- "width and height must be integers when the destination rectangle is unset" -/
  cropped : ∀ crop ∈ src, (0 < crop.1 ∧ 0 < crop.2) ∧
    (dst = none → (⌊crop.1⌋ : ℚ) = crop.1 ∧ (⌊crop.2⌋ : ℚ) = crop.2)
  stretched : ∀ size ∈ dst, size.isSet = true

namespace BufferedSurface

variable (s : BufferedSurface)

/-- `surface_state_transformed_buffer_size`. -/
def transformedBufferSize : Size :=
  if s.transposed then ⟨s.buffer.height, s.buffer.width⟩ else s.buffer

/-- `surface_state_viewport_src_size`. -/
def viewportSrcSize : Size :=
  match s.src with
  | some (w, h) => ⟨⌊w⌋, ⌊h⌋⟩
  | none => ⟨s.transformedBufferSize.width / s.scale, s.transformedBufferSize.height / s.scale⟩

/-- `current.width`, `current.height`, as `surface_finalize_pending` sets them. -/
def size : Size := s.dst.getD s.viewportSrcSize

/-- The size of `surface->buffer`. -/
def shown : Option Size := if s.uploaded then some s.buffer else none

theorem div_pos_of_dvd {n : Int} (hn : 0 < n) (h : s.scale ∣ n) : 0 < n / s.scale :=
  Int.ediv_pos_of_pos_of_dvd hn s.scaled.le h

theorem viewportSrcSize_isSet (hdst : s.dst = none) : s.viewportSrcSize.isSet = true := by
  rw [Size.isSet_iff]
  unfold viewportSrcSize
  cases hsrc : s.src with
  | some crop =>
    obtain ⟨⟨hw, hh⟩, hwhole⟩ := s.cropped crop hsrc
    obtain ⟨hw', hh'⟩ := hwhole hdst
    -- a whole number above zero is one at least
    rw [← hw'] at hw
    rw [← hh'] at hh
    exact ⟨by exact_mod_cast hw, by exact_mod_cast hh⟩
  | none =>
    obtain ⟨hw, hh⟩ := Size.isSet_iff.mp s.attached
    obtain ⟨hw', hh'⟩ := s.divisible hsrc
    show 0 < s.transformedBufferSize.width / s.scale ∧ 0 < s.transformedBufferSize.height / s.scale
    unfold transformedBufferSize
    split
    · exact ⟨s.div_pos_of_dvd hh hh', s.div_pos_of_dvd hw hw'⟩
    · exact ⟨s.div_pos_of_dvd hw hw', s.div_pos_of_dvd hh hh'⟩

/-- No mapped surface is empty. -/
theorem size_isSet : s.size.isSet = true := by
  unfold size
  cases hdst : s.dst with
  | some size => exact s.stretched size hdst
  | none => exact s.viewportSrcSize_isSet hdst

/-- A surface whose client leaves scale, transform and viewport alone is as large as its buffer. -/
theorem size_eq_buffer (hscale : s.scale = 1) (htransposed : s.transposed = false)
    (hsrc : s.src = none) (hdst : s.dst = none) : s.size = s.buffer := by
  unfold size viewportSrcSize transformedBufferSize
  simp only [hdst, hsrc, hscale, htransposed, Option.getD_none, Int.ediv_one]
  rfl

end BufferedSurface

/-! ## The ways a present window gets its size -/

/-- What the place of a popup depends on. -/
structure PopupPlace where
  win : PopupWindow
  /-- the parent popup's root box, if the parent is a popup -/
  parent : Option (Option Box)
  /-- `current.geometry` and `scheduled.geometry` -/
  geometry : Box
  scheduled : Box
  configured : geometry.size.isSet = true

/-- What the place of a subpresent depends on. -/
structure SubpresentPlace where
  win : PopupWindow
  /-- `sx`, `sy` -/
  offset : Point

/-- The paths on which a present window is configured; `α` is what its place depends on. -/
structure PresentPaths (α : Type) where
  /-- map and commit, up to the box the window is left with -/
  positionAndMap : α → Option Box
  renderAndPresent : Box → Box
  /-- the toplevel has moved -/
  reposition : α → Option Box

def PopupPlace.popup (s : BufferedSurface) (here : PopupPlace) : XdgPopup where
  geometry := here.geometry
  scheduled := here.scheduled
  surface := s.size
  buffer := s.shown
  configured := here.configured
  sized := s.size_isSet

/-- Popups: `popup_position_and_map`, `popup_render_and_present` and
`wlx_reposition_popups_for_window`. -/
def popupPaths (cfg : Config) (s : BufferedSurface) : PresentPaths PopupPlace where
  positionAndMap here := presentBox cfg here.win here.parent (here.popup s)
  renderAndPresent := shownBox cfg s.shown
  reposition here := popupComputeRootPlacement cfg here.win here.parent (here.popup s)

def BufferedSurface.state (s : BufferedSurface) : SurfaceState := ⟨true, s.size, s.shown⟩

def SubpresentPlace.subpresent (here : SubpresentPlace) : Subpresent :=
  ⟨0, 0, none, none, none, here.offset, none, false⟩

/-- Subpresents: `subpresent_position_and_present` on all paths. -/
def subpresentPaths (cfg : Config) (s : BufferedSurface) : PresentPaths SubpresentPlace where
  positionAndMap here := (here.subpresent.computeRoot cfg here.win s.state).map
    (Subpresent.renderAndPresent cfg s.state)
  renderAndPresent := Subpresent.renderAndPresent cfg s.state
  reposition here := (here.subpresent.computeRoot cfg here.win s.state).map
    (Subpresent.renderAndPresent cfg s.state)

/-- What a placement leaves in a subpresent is the box of its path. -/
theorem subpresentPaths_positionAndMap {cfg : Config} {s : BufferedSurface} {here : SubpresentPlace}
    {created : Option Nat} {sp sp' : Subpresent} (hoffset : sp.offset = here.offset)
    (h : sp.positionAndPresent cfg here.win s.state created = some sp') :
    sp'.rootBox = (subpresentPaths cfg s).positionAndMap here := by
  obtain ⟨-, -, -, box, hbox, hroot⟩ := Subpresent.positionAndPresent_rootBox h
  have hsame : here.subpresent.computeRoot cfg here.win s.state =
      sp.computeRoot cfg here.win s.state := by
    unfold Subpresent.computeRoot
    rw [hoffset]
    rfl
  show _ = (here.subpresent.computeRoot cfg here.win s.state).map _
  rw [hroot, hsame, hbox, Option.map_some]

/-- What happens to the present window of a surface that stays as it is. -/
inductive PresentAction (α : Type) where
  /-- `created`: `wlr_x11_present_window_create` gives a window, should one be needed -/
  | map (here : α) (created : Bool)
  | commit (here : α) (created : Bool)
  | render
  | reposition (here : α)
  /-- the X server has destroyed the window -/
  | destroyed

namespace PresentPaths

variable {α : Type} (paths : PresentPaths α)

/-- The window is configured, and created before if there is none; without one nothing is. -/
def place (present : Option Box) (here : α) (created : Bool) : Option Box :=
  match paths.positionAndMap here with
  | none => present
  | some box => if present.isSome || created then some box else none

/-- The present window's box, if there is a present window. -/
def step (present : Option Box) : PresentAction α → Option Box
  | .map here created => paths.place present here created
  | .commit here created => paths.place present here created
  | .render => present.map paths.renderAndPresent
  | .reposition here => present.map fun box => (paths.reposition here).getD box
  | .destroyed => none

def after (as : List (PresentAction α)) : Option Box := as.foldl paths.step none

/-- In whatever order the paths are taken, the present window has this size. -/
def Sized (size : Size) : Prop := ∀ as, ∀ box ∈ paths.after as, box.size = size

variable {paths} {size : Size}

/-- **Step lemma.** A size all paths give is kept. -/
theorem step_sized (hmap : ∀ here, ∀ box ∈ paths.positionAndMap here, box.size = size)
    (hrender : ∀ box, box.size = size → (paths.renderAndPresent box).size = size)
    (hreposition : ∀ here, ∀ box ∈ paths.reposition here, box.size = size)
    {present : Option Box} (h : ∀ box ∈ present, box.size = size) (a : PresentAction α) :
    ∀ box ∈ paths.step present a, box.size = size := by
  have hplaced : ∀ here created, ∀ box ∈ paths.place present here created, box.size = size := by
    intro here created box hbox
    unfold place at hbox
    cases hplace : paths.positionAndMap here with
    | none =>
      rw [hplace] at hbox
      exact h box hbox
    | some placed =>
      rw [hplace] at hbox
      obtain ⟨-, hbox⟩ := Option.ite_none_right_eq_some.mp hbox
      obtain rfl := Option.some.inj hbox
      exact hmap here placed hplace
  cases a with
  | map here created => exact hplaced here created
  | commit here created => exact hplaced here created
  | render =>
    intro box hbox
    obtain ⟨before, hbefore, rfl⟩ := Option.map_eq_some_iff.mp hbox
    exact hrender before (h before hbefore)
  | reposition here =>
    intro box hbox
    obtain ⟨before, hbefore, rfl⟩ := Option.map_eq_some_iff.mp hbox
    cases hplace : paths.reposition here with
    | none => exact h before hbefore
    | some placed => exact hreposition here placed hplace
  | destroyed =>
    intro box hbox
    cases hbox

/-- **Run lemma.** -/
theorem sized_of_paths (hmap : ∀ here, ∀ box ∈ paths.positionAndMap here, box.size = size)
    (hrender : ∀ box, box.size = size → (paths.renderAndPresent box).size = size)
    (hreposition : ∀ here, ∀ box ∈ paths.reposition here, box.size = size) : paths.Sized size := by
  intro as
  apply List.foldlRecOn as paths.step (motive := fun present => ∀ box ∈ present, box.size = size)
  · intro box hbox
    cases hbox
  · exact fun _ h a _ => step_sized hmap hrender hreposition h a

/-- The first window has the size it is placed with. -/
theorem Sized.placed (h : paths.Sized size) (here : α) {box : Box}
    (hbox : paths.positionAndMap here = some box) : box.size = size := by
  refine h [.map here true] box ?_
  show paths.place none here true = some box
  unfold place
  rw [hbox]
  rfl

end PresentPaths

/-! ## The sizes they give -/

/-- Nothing is scaled: `scale_1` of `popup_render_and_present` and its twin. -/
def Config.Unscaled (cfg : Config) : Prop := cfg.contentScale ≤ 0 ∨ cfg.contentScale = 1

/-- A scale of one or more keeps different sizes different. -/
theorem wlxScaleSize_lt {cfg : Config} (hscale : 1 ≤ cfg.contentScale) {m n : Int} (hm : 0 < m)
    (hlt : m < n) : wlxScaleSize cfg m < wlxScaleSize cfg n := by
  have hm' : (1 : ℚ) ≤ m := by exact_mod_cast hm
  have hstep : (m : ℚ) + 1 ≤ n := by exact_mod_cast hlt
  have hpos : lround (((0 : Int) : ℚ)) < lround (m * cfg.contentScale) :=
    lround_lt (by push_cast; nlinarith)
  have hround : lround (m * cfg.contentScale) < lround (n * cfg.contentScale) :=
    lround_lt (by nlinarith)
  rw [lround_intCast] at hpos
  rw [wlxScaleSize_of_pos (by linarith), wlxScaleSize_of_pos (by linarith)]
  omega

theorem Config.scale_inj {cfg : Config} (hscale : 1 ≤ cfg.contentScale) {a b : Size}
    (ha : a.isSet = true) (hb : b.isSet = true) : cfg.scale a = cfg.scale b ↔ a = b := by
  obtain ⟨haw, hah⟩ := Size.isSet_iff.mp ha
  obtain ⟨hbw, hbh⟩ := Size.isSet_iff.mp hb
  have hside : ∀ {m n : Int}, 0 < m → 0 < n → wlxScaleSize cfg m = wlxScaleSize cfg n → m = n := by
    intro m n hm hn hsame
    rcases lt_trichotomy m n with hlt | heq | hgt
    · exact absurd hsame (wlxScaleSize_lt hscale hm hlt).ne
    · exact heq
    · exact absurd hsame (wlxScaleSize_lt hscale hn hgt).ne'
  constructor
  · intro h
    have hw := hside haw hbw (congrArg Size.width h)
    have hh := hside hah hbh (congrArg Size.height h)
    cases a
    cases b
    exact congrArg₂ Size.mk hw hh
  · exact congrArg cfg.scale

theorem presentBox_size {cfg : Config} {win : PopupWindow} {parent : Option (Option Box)}
    {p : XdgPopup} {box : Box} (h : presentBox cfg win parent p = some box) :
    box.size = cfg.scale p.shownSize := by
  rw [presentBox_eq] at h
  obtain ⟨_, -, rfl⟩ := Option.map_eq_some_iff.mp h
  rfl

theorem PopupPlace.shownSize_popup {s : BufferedSurface} (here : PopupPlace) :
    (here.popup s).shownSize = if s.uploaded then s.buffer else s.size := by
  unfold XdgPopup.shownSize PopupPlace.popup BufferedSurface.shown
  cases s.uploaded with
  | false => rfl
  | true => simp only [if_true, s.attached]

theorem popupComputeRootPlacement_size {cfg : Config} {win : PopupWindow}
    {parent : Option (Option Box)} {p : XdgPopup} {box : Box}
    (h : popupComputeRootPlacement cfg win parent p = some box) : box.size = cfg.scale p.surface := by
  obtain ⟨hw, hh⟩ := Size.isSet_iff.mp p.sized
  unfold popupComputeRootPlacement at h
  simp only [if_pos hw, if_pos hh, if_pos (wlxScaleSize_pos cfg hw),
    if_pos (wlxScaleSize_pos cfg hh)] at h
  rw [if_neg (by omega)] at h
  obtain ⟨_, -, rfl⟩ := Option.map_eq_some_iff.mp h
  rfl

namespace BufferedSurface

variable {cfg : Config} {s : BufferedSurface}

theorem computeRoot_size {win : PopupWindow} {sp : Subpresent} {box : Box}
    (h : sp.computeRoot cfg win s.state = some box) : box.size = cfg.scale s.size := by
  obtain ⟨hw, hh⟩ := Size.isSet_iff.mp s.size_isSet
  have hgw := wlxScaleSize_pos cfg hw
  have hgh := wlxScaleSize_pos cfg hh
  obtain ⟨-, h⟩ := Option.ite_none_left_eq_some.mp h
  obtain ⟨_, -, rfl⟩ := Option.map_eq_some_iff.mp h
  show Size.mk (max 1 (wlxScaleSize cfg s.size.width)) (max 1 (wlxScaleSize cfg s.size.height)) = _
  rw [max_eq_right (by omega), max_eq_right (by omega)]
  rfl

/-- The buffer is looked at only where nothing is scaled. -/
theorem shownBox_size {box : Box} (hbox : box.size = cfg.scale s.size)
    (hagree : s.uploaded = true → cfg.Unscaled → s.buffer = s.size) :
    (shownBox cfg s.shown box).size = cfg.scale s.size := by
  unfold shownBox shown
  cases huploaded : s.uploaded with
  | false => exact hbox
  | true =>
    show (if _ then _ else box).size = _
    split
    · rename_i h
      obtain ⟨hunscaled, -, hne⟩ := h
      rw [hbox, Config.scale_unscaled hunscaled s.size_isSet] at hne
      exact absurd (hagree huploaded hunscaled) hne
    · exact hbox

/-- Where nothing is scaled the window is made as large as the buffer. -/
theorem shownBox_size_unscaled (huploaded : s.uploaded = true) (hunscaled : cfg.Unscaled) (box : Box) :
    (shownBox cfg s.shown box).size = s.buffer := by
  unfold shownBox shown
  rw [if_pos huploaded]
  dsimp only
  by_cases hsame : s.buffer = box.size
  · rw [if_neg fun h => h.2.2 hsame]
    exact hsame.symm
  · rw [if_pos ⟨hunscaled, s.attached, hsame⟩]
    rfl

theorem popup_sized (h : s.uploaded = true → cfg.scale s.buffer = cfg.scale s.size) :
    (popupPaths cfg s).Sized (cfg.scale s.size) := by
  apply PresentPaths.sized_of_paths
  · intro here box hbox
    rw [presentBox_size hbox, here.shownSize_popup]
    split
    · next huploaded => exact h huploaded
    · rfl
  · intro box hbox
    refine shownBox_size hbox fun huploaded hunscaled => ?_
    have hagree := h huploaded
    rwa [Config.scale_unscaled hunscaled s.attached, Config.scale_unscaled hunscaled s.size_isSet]
      at hagree
  · intro here box hbox
    exact popupComputeRootPlacement_size (p := here.popup s) hbox

theorem subpresent_sized (h : s.uploaded = true → cfg.Unscaled → s.buffer = s.size) :
    (subpresentPaths cfg s).Sized (cfg.scale s.size) := by
  have hplaced : ∀ here, ∀ box ∈ (subpresentPaths cfg s).positionAndMap here,
      box.size = cfg.scale s.size := by
    intro here box hbox
    obtain ⟨computed, hcomputed, rfl⟩ := Option.map_eq_some_iff.mp hbox
    exact shownBox_size (computeRoot_size hcomputed) h
  -- a toplevel that moves has its subpresents placed anew
  exact PresentPaths.sized_of_paths hplaced (fun box hbox => shownBox_size hbox h) hplaced

/-- A client that leaves scale, transform and viewport alone has windows of one size. -/
theorem sized_of_plain (hscale : s.scale = 1) (htransposed : s.transposed = false)
    (hsrc : s.src = none) (hdst : s.dst = none) :
    (popupPaths cfg s).Sized (cfg.scale s.size) ∧ (subpresentPaths cfg s).Sized (cfg.scale s.size) := by
  have hsame : s.size = s.buffer := s.size_eq_buffer hscale htransposed hsrc hdst
  constructor
  · apply popup_sized
    intro _
    rw [hsame]
  · apply subpresent_sized
    intro _ _
    exact hsame.symm

end BufferedSurface

/-- The left upper corner of a screen. -/
def cornerPlace : PopupPlace where
  win := ⟨some ⟨0, 0⟩, ⟨0, 0, 0, 0⟩⟩
  parent := none
  geometry := ⟨0, 0, 1, 1⟩
  scheduled := ⟨0, 0, 1, 1⟩
  configured := rfl

theorem popup_sized_iff (cfg : Config) (s : BufferedSurface) :
    (popupPaths cfg s).Sized (cfg.scale s.size) ↔
      (s.uploaded = true → cfg.scale s.buffer = cfg.scale s.size) := by
  refine ⟨fun h huploaded => ?_, BufferedSurface.popup_sized⟩
  have hshown : (cornerPlace.popup s).shownSize = s.buffer := by
    rw [cornerPlace.shownSize_popup, if_pos huploaded]
  obtain ⟨box, hbox⟩ : ∃ box, presentBox cfg cornerPlace.win none (cornerPlace.popup s) = some box :=
    ⟨_, presentBox_eq cfg cornerPlace.win none _⟩
  calc cfg.scale s.buffer = box.size := by rw [presentBox_size hbox, hshown]
    _ = cfg.scale s.size := h.placed cornerPlace hbox

theorem subpresent_sized_iff (cfg : Config) (s : BufferedSurface) :
    (subpresentPaths cfg s).Sized (cfg.scale s.size) ↔
      (s.uploaded = true → cfg.Unscaled → s.buffer = s.size) := by
  refine ⟨fun h huploaded hunscaled => ?_, BufferedSurface.subpresent_sized⟩
  obtain ⟨hw, hh⟩ := Size.isSet_iff.mp s.size_isSet
  obtain ⟨box, hbox⟩ : ∃ box, (SubpresentPlace.subpresent ⟨cornerPlace.win, ⟨0, 0⟩⟩).computeRoot cfg
      cornerPlace.win s.state = some box :=
    ⟨_, if_neg (show ¬ (s.size.width ≤ 0 ∨ s.size.height ≤ 0) by omega)⟩
  have hplaced : (subpresentPaths cfg s).positionAndMap ⟨cornerPlace.win, ⟨0, 0⟩⟩ =
      some (shownBox cfg s.shown box) := congrArg (Option.map _) hbox
  have hsize := h.placed _ hplaced
  rwa [BufferedSurface.shownBox_size_unscaled huploaded hunscaled,
    Config.scale_unscaled hunscaled s.size_isSet] at hsize

/-- Where the program magnifies, only a buffer of the surface's own size will do for a popup. -/
theorem popup_sized_iff_of_magnified {cfg : Config} (hscale : 1 ≤ cfg.contentScale)
    (s : BufferedSurface) :
    (popupPaths cfg s).Sized (cfg.scale s.size) ↔ (s.uploaded = true → s.buffer = s.size) := by
  rw [popup_sized_iff, Config.scale_inj hscale s.attached s.size_isSet]

/-- **The size of present windows.** Through every order of maps, commits, renders and moves of an
unchanged surface, a popup's window has the scaled size of the surface exactly if the buffer scales to
that size, too, a subpresent's exactly if the buffer has the surface's size or is scaled. -/
theorem present_sized_iff (cfg : Config) (s : BufferedSurface) :
    ((popupPaths cfg s).Sized (cfg.scale s.size) ↔
      (s.uploaded = true → cfg.scale s.buffer = cfg.scale s.size)) ∧
    ((subpresentPaths cfg s).Sized (cfg.scale s.size) ↔
      (s.uploaded = true → cfg.Unscaled → s.buffer = s.size)) :=
  ⟨popup_sized_iff cfg s, subpresent_sized_iff cfg s⟩

/-- A menu drawn for a screen of twice the resolution. -/
def doubledMenu : BufferedSurface where
  buffer := ⟨400, 300⟩
  uploaded := true
  transposed := false
  scale := 2
  src := none
  dst := none
  attached := rfl
  scaled := by decide
  divisible := fun _ => by decide
  cropped := by simp
  stretched := by simp

/-- The menu is mapped with twice its size, and has its own size after the toplevel has moved. -/
theorem doubledMenu_resized : ¬ ∀ (cfg : Config) (s : BufferedSurface),
    (popupPaths cfg s).Sized (cfg.scale s.size) ∧ (subpresentPaths cfg s).Sized (cfg.scale s.size) := by
  intro h
  have hpaths := (h ⟨3 / 2, true⟩ doubledMenu).1
  have hmapped := hpaths [.map cornerPlace true] ⟨1, 1, 600, 450⟩ (by decide +kernel)
  have hmoved := hpaths [.map cornerPlace true, .reposition cornerPlace] ⟨1, 1, 300, 225⟩
    (by decide +kernel)
  exact absurd (hmapped.trans hmoved.symm) (by decide)

end Wlx
