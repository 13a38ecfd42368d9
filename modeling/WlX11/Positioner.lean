import WlX11.Lib.Span
import WlX11.MoveResize
import WlX11.PopupUnconstrain

/-!
# WlX11 — the positioner

An `xdg_positioner` says where a popup is to be: a point of an anchor rectangle, the direction the popup
goes from there, an offset; and what may be done when it does not fit. wlroots computes the popup's
rectangle from it and, on the popup's first commit, brings that into the rectangle of
`popup_unconstrain_box`: it flips it, slides it and resizes it, as far as it may.

* **`XdgPositionerRules`** — the rules; **`getGeometry`** is where they put the popup.
* **`unconstrainBox`** — `wlr_xdg_positioner_rules_unconstrain_box`.
* **`unconstrainBox_getGeometry`** — what it does is done to each axis by itself, but for one test of both.
* **`unconstrainBox_inside`**, **`excess_unconstrainBox_le`**, **`unconstrainBox_unconstrainBox`** — where
  the popup ends up.
-/

namespace Wlx

open Confine (Span early late Inside excess slide clip)

/-! ## The rules -/

/-- `enum xdg_positioner_anchor`. "Gravity and edge enums are the same." -/
inductive XdgPositionerAnchor where
  | none | top | bottom | left | right | topLeft | bottomLeft | topRight | bottomRight
deriving DecidableEq

/-- A mask of `enum xdg_positioner_constraint_adjustment`. -/
structure ConstraintAdjustment where
  slideX : Bool
  slideY : Bool
  flipX : Bool
  flipY : Bool
  resizeX : Bool
  resizeY : Bool
deriving DecidableEq

/-- `struct wlr_xdg_positioner_rules`. -/
structure XdgPositionerRules where
  anchorRect : Box
  anchor : XdgPositionerAnchor
  gravity : XdgPositionerAnchor
  constraintAdjustment : ConstraintAdjustment
  size : Size
  offset : Point
  /-- `xdg_positioner.set_size` takes no other, and a popup is made of complete rules only -/
  sized : size.isSet = true
deriving DecidableEq

namespace XdgPositionerAnchor

/-- `xdg_positioner_anchor_to_wlr_edges`. -/
def toWlrEdges : XdgPositionerAnchor → WlrEdges
  | none => ⟨false, false, false, false⟩
  | top => ⟨true, false, false, false⟩
  | topLeft => ⟨true, false, true, false⟩
  | topRight => ⟨true, false, false, true⟩
  | bottom => ⟨false, true, false, false⟩
  | bottomLeft => ⟨false, true, true, false⟩
  | bottomRight => ⟨false, true, false, true⟩
  | left => ⟨false, false, true, false⟩
  | right => ⟨false, false, false, true⟩

/-- `xdg_positioner_anchor_invert_x`. -/
def invertX : XdgPositionerAnchor → XdgPositionerAnchor
  | left => right
  | right => left
  | topLeft => topRight
  | topRight => topLeft
  | bottomLeft => bottomRight
  | bottomRight => bottomLeft
  | a => a

/-- `xdg_positioner_anchor_invert_y`. -/
def invertY : XdgPositionerAnchor → XdgPositionerAnchor
  | top => bottom
  | bottom => top
  | topLeft => bottomLeft
  | bottomLeft => topLeft
  | topRight => bottomRight
  | bottomRight => topRight
  | a => a

@[simp] theorem invertX_toWlrEdges (a : XdgPositionerAnchor) :
    a.invertX.toWlrEdges =
      { a.toWlrEdges with left := a.toWlrEdges.right, right := a.toWlrEdges.left } := by
  cases a <;> rfl

@[simp] theorem invertY_toWlrEdges (a : XdgPositionerAnchor) :
    a.invertY.toWlrEdges =
      { a.toWlrEdges with top := a.toWlrEdges.bottom, bottom := a.toWlrEdges.top } := by
  cases a <;> rfl

end XdgPositionerAnchor

/-- The point of the anchor rectangle on one axis; `low` and `high` are the anchor's edges there. -/
def anchorPoint (low high : Bool) (start length : Int) : Int :=
  if low then start else if high then start + length else start + length.tdiv 2

/-- How far back from that point gravity puts the popup's start. -/
def gravityShift (low high : Bool) (length : Int) : Int :=
  if low then length else if high then 0 else length.tdiv 2

/-- `wlr_xdg_positioner_rules_get_geometry`. -/
def XdgPositionerRules.getGeometry (rules : XdgPositionerRules) : Box :=
  let anchor := rules.anchor.toWlrEdges
  let gravity := rules.gravity.toWlrEdges
  { x := rules.offset.x + anchorPoint anchor.left anchor.right rules.anchorRect.x rules.anchorRect.width -
      gravityShift gravity.left gravity.right rules.size.width
    y := rules.offset.y + anchorPoint anchor.top anchor.bottom rules.anchorRect.y rules.anchorRect.height -
      gravityShift gravity.top gravity.bottom rules.size.height
    width := rules.size.width
    height := rules.size.height }

/-! ## Into the constraint -/

/-- `struct constraint_offsets`. -/
structure ConstraintOffsets where
  top : Int
  bottom : Int
  left : Int
  right : Int
deriving DecidableEq

/-- `is_unconstrained`. -/
def ConstraintOffsets.isUnconstrained (o : ConstraintOffsets) : Bool :=
  o.top ≤ 0 && o.bottom ≤ 0 && o.left ≤ 0 && o.right ≤ 0

/-- `get_constrained_box_offsets`. -/
def getConstrainedBoxOffsets (constraint box : Box) : ConstraintOffsets where
  left := constraint.x - box.x
  right := box.x + box.width - constraint.x - constraint.width
  top := constraint.y - box.y
  bottom := box.y + box.height - constraint.y - constraint.height

/-- The two out parameters of the stages, and what a stage returns. -/
structure Unconstraining where
  box : Box
  offsets : ConstraintOffsets
  done : Bool
deriving DecidableEq

namespace XdgPositionerRules

variable (rules : XdgPositionerRules) (constraint : Box)

/-- `flipped`: the rules with the axes inverted that are to be. -/
def inverted (flipX flipY : Bool) : XdgPositionerRules :=
  let flipped := if flipX then
      { rules with anchor := rules.anchor.invertX, gravity := rules.gravity.invertX }
    else rules
  if flipY then { flipped with anchor := flipped.anchor.invertY, gravity := flipped.gravity.invertY }
  else flipped

/-- "Only apply flipping if it helps". -/
def takeFlipped (box : Box) (offsets : ConstraintOffsets) (flippedBox : Box) : Unconstraining :=
  let flippedOffsets := getConstrainedBoxOffsets constraint flippedBox
  let (box, offsets) := if flippedOffsets.left ≤ 0 ∧ flippedOffsets.right ≤ 0 then
      ({ box with x := flippedBox.x },
        { offsets with left := flippedOffsets.left, right := flippedOffsets.right })
    else (box, offsets)
  let (box, offsets) := if flippedOffsets.top ≤ 0 ∧ flippedOffsets.bottom ≤ 0 then
      ({ box with y := flippedBox.y },
        { offsets with top := flippedOffsets.top, bottom := flippedOffsets.bottom })
    else (box, offsets)
  ⟨box, offsets, offsets.isUnconstrained⟩

/-- `xdg_positioner_rules_unconstrain_by_flip`. -/
def unconstrainByFlip (box : Box) (offsets : ConstraintOffsets) : Unconstraining :=
  let flipX := (decide (0 < offsets.left) ^^ decide (0 < offsets.right)) && rules.constraintAdjustment.flipX
  let flipY := (decide (0 < offsets.top) ^^ decide (0 < offsets.bottom)) && rules.constraintAdjustment.flipY
  if !flipX && !flipY then ⟨box, offsets, false⟩
  else takeFlipped constraint box offsets (rules.inverted flipX flipY).getGeometry

/-- How far a box is slid on one axis, by its offsets at both ends; `back` is the gravity's edge. -/
def slideBy (back : Bool) (low high : Int) : Int :=
  if 0 < low ∧ 0 < high then if back then -high else low
  else
    let absLow := if 0 < low then low else -low
    let absHigh := if 0 < high then high else -high
    if absLow < absHigh then low else -high

/-- `xdg_positioner_rules_unconstrain_by_slide`. -/
def unconstrainBySlide (box : Box) (offsets : ConstraintOffsets) : Unconstraining :=
  let gravity := rules.gravity.toWlrEdges
  let slideX := (0 < offsets.left || 0 < offsets.right) && rules.constraintAdjustment.slideX
  let slideY := (0 < offsets.top || 0 < offsets.bottom) && rules.constraintAdjustment.slideY
  if !slideX && !slideY then ⟨box, offsets, false⟩
  else
    let box := if slideX then { box with x := box.x + slideBy gravity.left offsets.left offsets.right }
      else box
    let box := if slideY then { box with y := box.y + slideBy gravity.top offsets.top offsets.bottom }
      else box
    let offsets := getConstrainedBoxOffsets constraint box
    ⟨box, offsets, offsets.isUnconstrained⟩

/-- `xdg_positioner_rules_unconstrain_by_resize`. -/
def unconstrainByResize (box : Box) (offsets : ConstraintOffsets) : Unconstraining :=
  let resizeX := (0 < offsets.left || 0 < offsets.right) && rules.constraintAdjustment.resizeX
  let resizeY := (0 < offsets.top || 0 < offsets.bottom) && rules.constraintAdjustment.resizeY
  if !resizeX && !resizeY then ⟨box, offsets, false⟩
  else
    let offsets : ConstraintOffsets :=
      ⟨max 0 offsets.top, max 0 offsets.bottom, max 0 offsets.left, max 0 offsets.right⟩
    -- "Try to satisfy the constraints by clipping the box."
    let resized := if resizeX then
        { box with x := box.x + offsets.left, width := box.width - (offsets.left + offsets.right) }
      else box
    let resized := if resizeY then
        { resized with y := resized.y + offsets.top, height := resized.height - (offsets.top + offsets.bottom) }
      else resized
    if !resized.size.isSet then ⟨box, offsets, false⟩
    else
      let offsets := getConstrainedBoxOffsets constraint resized
      ⟨resized, offsets, offsets.isUnconstrained⟩

/-- `wlr_xdg_positioner_rules_unconstrain_box`. -/
def unconstrainBox (box : Box) : Box :=
  let offsets := getConstrainedBoxOffsets constraint box
  -- "Already unconstrained"
  if offsets.isUnconstrained then box
  else
    let flipped := rules.unconstrainByFlip constraint box offsets
    if flipped.done then flipped.box
    else
      let slid := rules.unconstrainBySlide constraint flipped.box flipped.offsets
      if slid.done then slid.box
      else (rules.unconstrainByResize constraint slid.box slid.offsets).box

end XdgPositionerRules

/-! ## Axis by axis -/

def Box.spanX (b : Box) : Span Int := ⟨b.x, b.width⟩

def Box.spanY (b : Box) : Span Int := ⟨b.y, b.height⟩

def Box.ofSpans (x y : Span Int) : Box := ⟨x.start, y.start, x.length, y.length⟩

theorem Box.ofSpans_spans (b : Box) : Box.ofSpans b.spanX b.spanY = b := rfl

@[simp] theorem Box.ofSpans_spanX (x y : Span Int) : (Box.ofSpans x y).spanX = x := rfl

@[simp] theorem Box.ofSpans_spanY (x y : Span Int) : (Box.ofSpans x y).spanY = y := rfl

/-- The offsets of a box, one axis at a time. -/
theorem getConstrainedBoxOffsets_eq (constraint b : Box) :
    getConstrainedBoxOffsets constraint b =
      ⟨early constraint.spanY b.spanY, late constraint.spanY b.spanY, early constraint.spanX b.spanX,
        late constraint.spanX b.spanX⟩ := rfl

/-- No offset is positive exactly if the box lies in the constraint on both axes. -/
theorem isUnconstrained_iff {constraint b : Box} :
    (getConstrainedBoxOffsets constraint b).isUnconstrained = true ↔
      Inside constraint.spanX b.spanX ∧ Inside constraint.spanY b.spanY := by
  rw [Confine.inside_iff, Confine.inside_iff, getConstrainedBoxOffsets_eq]
  unfold ConstraintOffsets.isUnconstrained
  rw [Bool.and_eq_true, Bool.and_eq_true, Bool.and_eq_true, decide_eq_true_iff, decide_eq_true_iff,
    decide_eq_true_iff, decide_eq_true_iff]
  tauto

/-- What the rules say about one axis. -/
structure PositionerAxis where
  /-- where they put the popup -/
  preferred : Span Int
  /-- where they put it with this axis inverted -/
  inverted : Span Int
  /-- gravity goes to the left, or up -/
  back : Bool
  flip : Bool
  slide : Bool
  resize : Bool

namespace PositionerAxis

variable (a : PositionerAxis) (room : Span Int)

/-- Out of the room at one end, and inverted not out at any. -/
def Flips : Prop :=
  ¬(0 < early room a.preferred ↔ 0 < late room a.preferred) ∧ a.flip = true ∧ Inside room a.inverted

instance : Decidable (a.Flips room) := inferInstanceAs (Decidable (_ ∧ _ ∧ _))

def afterFlip : Span Int := if a.Flips room then a.inverted else a.preferred

def afterSlide : Span Int :=
  if a.slide then Confine.slide room a.back (a.afterFlip room) else a.afterFlip room

def afterResize : Span Int := if a.resize then clip room (a.afterSlide room) else a.afterSlide room

variable {a room}

/-- `f` tells whether the axis is inverted; the result is kept if it is inside. -/
theorem afterFlip_eq {f : Bool}
    (hf : f = ((decide (0 < early room a.preferred) ^^ decide (0 < late room a.preferred)) && a.flip)) :
    a.afterFlip room =
      if Inside room (if f then a.inverted else a.preferred) then
        if f then a.inverted else a.preferred
      else a.preferred := by
  have hflips : a.Flips room ↔ f = true ∧ Inside room a.inverted := by
    unfold Flips
    rw [hf, Bool.and_eq_true, and_assoc, Bool.xor_iff_ne]
    simp
  unfold afterFlip
  cases f <;> simp [hflips]

/-- Inverted or not, it is as long. -/
structure Sized (a : PositionerAxis) : Prop where
  inverted : a.inverted.length = a.preferred.length
  pos : 0 < a.preferred.length

/-- An axis that is in the room, once inverted if need be, is left as it is. -/
theorem afterFlip_of_inside (h : Inside room a.preferred) : a.afterFlip room = a.preferred := by
  unfold afterFlip
  rw [if_neg]
  rintro ⟨hout, -⟩
  rw [Confine.inside_iff] at h
  omega

/-- What fits after the flip is not slid. -/
theorem afterSlide_of_inside (h : Inside room (a.afterFlip room)) :
    a.afterSlide room = a.afterFlip room := by
  unfold afterSlide
  rw [Confine.slide_of_inside h, ite_self]

/-- What fits after the slide is not cut. -/
theorem afterResize_of_inside (h : Inside room (a.afterSlide room)) :
    a.afterResize room = a.afterSlide room := by
  unfold afterResize
  rw [Confine.clip_of_inside h, ite_self]

/-- An inverted axis is as long as the preferred one. -/
theorem Sized.afterFlip_length (h : a.Sized) (room : Span Int) :
    (a.afterFlip room).length = a.preferred.length := by
  unfold PositionerAxis.afterFlip
  split_ifs
  · exact h.inverted
  · rfl

/-- Sliding moves a popup and keeps its size. -/
theorem Sized.afterSlide_length (h : a.Sized) (room : Span Int) :
    (a.afterSlide room).length = a.preferred.length := by
  unfold PositionerAxis.afterSlide
  split_ifs
  · rw [Confine.slide_length, h.afterFlip_length]
  · exact h.afterFlip_length room

/-- A flip is kept only if it fits, so that it never makes matters worse. -/
theorem excess_afterFlip_le (a : PositionerAxis) (room : Span Int) :
    excess room (a.afterFlip room) ≤ excess room a.preferred := by
  unfold afterFlip
  split_ifs with hflips
  · rw [Confine.excess_eq_zero_iff.mpr hflips.2.2]
    exact Confine.excess_nonneg room _
  · exact le_rfl

/-- Neither does a slide. -/
theorem Sized.excess_afterSlide_le (h : a.Sized) (room : Span Int) :
    excess room (a.afterSlide room) ≤ excess room a.preferred := by
  unfold PositionerAxis.afterSlide
  split_ifs
  · rw [Confine.excess_slide, h.afterFlip_length]
    exact Confine.le_excess room a.preferred
  · exact excess_afterFlip_le a room

/-- Nor does the cut, which brings the popup inside altogether. -/
theorem Sized.excess_afterResize_le (h : a.Sized) (room : Span Int) :
    excess room (a.afterResize room) ≤ excess room a.preferred := by
  unfold PositionerAxis.afterResize
  split_ifs
  · rw [Confine.excess_eq_zero_iff.mpr Confine.clip_inside]
    exact Confine.excess_nonneg room _
  · exact h.excess_afterSlide_le room

/-- A popup that may slide and is no longer than the room ends up in it. -/
theorem Sized.afterSlide_inside (h : a.Sized) (hslide : a.slide = true)
    (hfits : a.preferred.length ≤ room.length) : Inside room (a.afterSlide room) := by
  unfold PositionerAxis.afterSlide
  rw [if_pos hslide]
  apply Confine.slide_inside
  rw [h.afterFlip_length]
  exact hfits

/-- An axis that may be slid and resized is cut to the room, if it is not put in it. -/
theorem Sized.afterResize_length_pos (h : a.Sized) (hslide : a.slide = true) (hroom : 0 < room.length) :
    0 < (a.afterResize room).length := by
  have hlen := h.afterSlide_length room
  have hpos := h.pos
  rcases le_total a.preferred.length room.length with hfits | hlong
  · rw [afterResize_of_inside (h.afterSlide_inside hslide hfits)]
    omega
  · unfold PositionerAxis.afterResize
    split_ifs
    · obtain ⟨hearly, hlate, -⟩ := Confine.slide_covers a.back
        ((h.afterFlip_length room).symm ▸ hlong)
      have hcovers : a.afterSlide room = Confine.slide room a.back (a.afterFlip room) := if_pos hslide
      rw [hcovers, Confine.clip_of_covers hearly hlate]
      exact hroom
    · omega

/-- The resize only takes away. -/
theorem afterResize_length_le (a : PositionerAxis) (room : Span Int) :
    (a.afterResize room).length ≤ (a.afterSlide room).length := by
  unfold afterResize
  split_ifs
  · exact Confine.clip_length_le
  · exact le_rfl

/-- The axis may be slid, and it fits or may be resized as well. -/
structure Confinable (a : PositionerAxis) (room : Span Int) : Prop where
  slide : a.slide = true
  fits : a.preferred.length ≤ room.length ∨ a.resize = true

/-- Where the popup may slide and fits or may be cut, the axis ends inside. -/
theorem Sized.afterResize_inside (h : a.Sized) (hconf : a.Confinable room) :
    Inside room (a.afterResize room) := by
  -- a span that fits was slid inside; one that does not is cut
  rcases hconf.fits with hfits | hresize
  · have hinside := h.afterSlide_inside hconf.slide hfits
    rw [afterResize_of_inside hinside]
    exact hinside
  · unfold PositionerAxis.afterResize
    rw [if_pos hresize]
    exact Confine.clip_inside

/-! ### Done again -/

/-- What the axis may be at the end; a clipped rectangle that is empty is not taken. -/
def Settled (a : PositionerAxis) (room s : Span Int) : Prop :=
  s = a.afterResize room ∨ s = a.afterSlide room

variable {s : Span Int}

/-- If the flip was enough, it is what the axis settled on. -/
theorem Settled.of_flipped_inside (hs : a.Settled room s) (h : Inside room (a.afterFlip room)) :
    s = a.afterFlip room := by
  have hslide := afterSlide_of_inside h
  have hresize := afterResize_of_inside (hslide ▸ h)
  rcases hs with rfl | rfl
  · rw [hresize, hslide]
  · exact hslide

/-- A span that is out of the room is not out because the axis was not inverted. -/
theorem Sized.flipped_inside (h : a.Sized) (hflip : a.flip = true) (hinv : Inside room a.inverted) :
    Inside room (a.afterFlip room) := by
  by_cases hflips : a.Flips room
  · unfold PositionerAxis.afterFlip
    rw [if_pos hflips]
    exact hinv
  · -- not out at one end only, and what fits once fits at no end too much
    have hiff : 0 < early room a.preferred ↔ 0 < late room a.preferred := by
      by_contra hne
      exact hflips ⟨hne, hflip, hinv⟩
    unfold PositionerAxis.afterFlip
    rw [if_neg hflips]
    have hlen := Confine.early_add_late room a.preferred
    have hlen' := Confine.early_add_late room a.inverted
    rw [Confine.inside_iff] at hinv ⊢
    rw [h.inverted] at hlen'
    omega

/-- The flip stage finds nothing better. `f` tells whether it inverts the axis. -/
theorem Sized.flip_again (h : a.Sized) (hs : a.Settled room s) {f : Bool}
    (hf : f = ((decide (0 < early room s) ^^ decide (0 < late room s)) && a.flip))
    (hinside : Inside room (if f then a.inverted else a.preferred)) :
    (if f then a.inverted else a.preferred) = s := by
  cases f with
  | false =>
    have hflipped := afterFlip_of_inside hinside
    exact (hflipped.symm.trans (hs.of_flipped_inside (hflipped ▸ hinside)).symm)
  | true =>
    obtain ⟨hout, hflip⟩ := Bool.and_eq_true_iff.mp hf.symm
    have hflipped := h.flipped_inside hflip hinside
    obtain ⟨hearly, hlate⟩ := Confine.inside_iff.mp (hs.of_flipped_inside hflipped ▸ hflipped)
    simp [not_lt.mpr hearly, not_lt.mpr hlate] at hout

/-- A slid span is at the edge of the room already, and a clipped one inside. -/
theorem Settled.slide_again (hs : a.Settled room s) :
    (if a.slide then Confine.slide room a.back s else s) = s := by
  split_ifs with hslide
  -- cut or not, the axis was slid before
  · rcases hs with rfl | rfl
    · by_cases hresize : a.resize = true
      · apply Confine.slide_of_inside
        unfold afterResize
        rw [if_pos hresize]
        exact Confine.clip_inside
      · unfold afterResize afterSlide
        rw [if_neg hresize, if_pos hslide]
        exact Confine.slide_slide
    · unfold afterSlide
      rw [if_pos hslide]
      exact Confine.slide_slide
  · rfl

/-- Clipping twice clips once. -/
theorem resize_again (a : PositionerAxis) (room : Span Int) :
    (if a.resize then clip room (a.afterResize room) else a.afterResize room) = a.afterResize room := by
  unfold afterResize
  split_ifs
  · exact Confine.clip_clip
  · rfl

end PositionerAxis

namespace XdgPositionerRules

variable (rules : XdgPositionerRules) (constraint : Box)

def axisX : PositionerAxis where
  preferred := rules.getGeometry.spanX
  inverted := { rules with anchor := rules.anchor.invertX,
                           gravity := rules.gravity.invertX : XdgPositionerRules }.getGeometry.spanX
  back := rules.gravity.toWlrEdges.left
  flip := rules.constraintAdjustment.flipX
  slide := rules.constraintAdjustment.slideX
  resize := rules.constraintAdjustment.resizeX

def axisY : PositionerAxis where
  preferred := rules.getGeometry.spanY
  inverted := { rules with anchor := rules.anchor.invertY,
                           gravity := rules.gravity.invertY : XdgPositionerRules }.getGeometry.spanY
  back := rules.gravity.toWlrEdges.top
  flip := rules.constraintAdjustment.flipY
  slide := rules.constraintAdjustment.slideY
  resize := rules.constraintAdjustment.resizeY

/-! ### The stages -/

variable {rules constraint}

/-- Each axis is inverted by itself. -/
theorem inverted_getGeometry (rules : XdgPositionerRules) (flipX flipY : Bool) :
    (rules.inverted flipX flipY).getGeometry =
      Box.ofSpans (if flipX then rules.axisX.inverted else rules.axisX.preferred)
        (if flipY then rules.axisY.inverted else rules.axisY.preferred) := by
  cases flipX <;> cases flipY <;>
    simp [inverted, getGeometry, axisX, axisY, Box.spanX, Box.spanY, Box.ofSpans]

/-- A box that has come out of a stage, with its own offsets. -/
structure Stage (constraint b : Box) (u : Unconstraining) : Prop where
  box : u.box = b
  offsets : u.offsets = getConstrainedBoxOffsets constraint b
  done : u.done = true → Inside constraint.spanX b.spanX ∧ Inside constraint.spanY b.spanY

/-- The flipped box is taken axis by axis, each one that it brings inside. -/
theorem takeFlipped_stage (constraint : Box) {x x' y y' : Span Int} (hx : x'.length = x.length)
    (hy : y'.length = y.length) :
    Stage constraint
      (Box.ofSpans (if Inside constraint.spanX x' then x' else x)
        (if Inside constraint.spanY y' then y' else y))
      (takeFlipped constraint (Box.ofSpans x y) (getConstrainedBoxOffsets constraint (Box.ofSpans x y))
        (Box.ofSpans x' y')) := by
  have hcode : takeFlipped constraint (Box.ofSpans x y)
      (getConstrainedBoxOffsets constraint (Box.ofSpans x y)) (Box.ofSpans x' y') =
      let b := Box.ofSpans (if Inside constraint.spanX x' then x' else x)
        (if Inside constraint.spanY y' then y' else y)
      let o := getConstrainedBoxOffsets constraint b
      ⟨b, o, o.isUnconstrained⟩ := by
    unfold takeFlipped
    simp only [getConstrainedBoxOffsets_eq, Box.ofSpans_spanX, Box.ofSpans_spanY, ← Confine.inside_iff]
    -- each axis on its own: its candidate is inside or it is not
    by_cases hX : Inside constraint.spanX x' <;> by_cases hY : Inside constraint.spanY y' <;>
      simp [hX, hY, hx, hy, Box.ofSpans]
  rw [hcode]
  exact ⟨rfl, rfl, isUnconstrained_iff.mp⟩

/-- The first stage does to each axis what `afterFlip` says. -/
theorem unconstrainByFlip_stage (rules : XdgPositionerRules) (constraint : Box) :
    Stage constraint
      (Box.ofSpans (rules.axisX.afterFlip constraint.spanX) (rules.axisY.afterFlip constraint.spanY))
      (rules.unconstrainByFlip constraint rules.getGeometry
        (getConstrainedBoxOffsets constraint rules.getGeometry)) := by
  -- whether each axis is inverted, by a name the source's test can be replaced with
  obtain ⟨fX, hfX⟩ : ∃ fX, fX = ((decide (0 < early constraint.spanX rules.axisX.preferred) ^^
      decide (0 < late constraint.spanX rules.axisX.preferred)) && rules.axisX.flip) := ⟨_, rfl⟩
  obtain ⟨fY, hfY⟩ : ∃ fY, fY = ((decide (0 < early constraint.spanY rules.axisY.preferred) ^^
      decide (0 < late constraint.spanY rules.axisY.preferred)) && rules.axisY.flip) := ⟨_, rfl⟩
  rw [PositionerAxis.afterFlip_eq hfX, PositionerAxis.afterFlip_eq hfY]
  have hcode : rules.unconstrainByFlip constraint rules.getGeometry
      (getConstrainedBoxOffsets constraint rules.getGeometry) =
      if !fX && !fY then
        ⟨rules.getGeometry, getConstrainedBoxOffsets constraint rules.getGeometry, false⟩
      else takeFlipped constraint rules.getGeometry
        (getConstrainedBoxOffsets constraint rules.getGeometry) (rules.inverted fX fY).getGeometry := by
    rw [hfX, hfY]
    rfl
  rw [hcode, rules.inverted_getGeometry fX fY]
  -- with no axis to invert the source returns before it takes anything
  by_cases hnone : (!fX && !fY) = true
  · rw [if_pos hnone]
    obtain ⟨rfl, rfl⟩ : fX = false ∧ fY = false := by simpa using hnone
    simp only [Bool.false_eq_true, if_false, ite_self]
    exact ⟨rfl, rfl, by simp⟩
  · rw [if_neg hnone]
    apply takeFlipped_stage (x := rules.axisX.preferred) (y := rules.axisY.preferred)
    · cases fX <;> rfl
    · cases fY <;> rfl

/-- The distance the source computes is the one that brings the span to the edge. -/
theorem slideBy_eq {room s : Span Int} (back : Bool) (hout : 0 < early room s ∨ 0 < late room s) :
    slide room back s = { s with start := s.start + slideBy back (early room s) (late room s) } := by
  have habs : ∀ n : Int, |n| = if 0 < n then n else -n := by
    intro n
    split_ifs with h
    · exact abs_of_pos h
    · exact abs_of_nonpos (not_lt.mp h)
  unfold slideBy slide
  simp only [if_pos hout, habs]
  split_ifs <;> rfl

/-- The test of a stage, whether an axis is out of the constraint and may be moved. -/
theorem not_inside_iff {room s : Span Int} {allowed : Bool} :
    ((decide (0 < early room s) || decide (0 < late room s)) && allowed) = true ↔
      ¬ Inside room s ∧ allowed = true := by
  rw [Bool.and_eq_true, Bool.or_eq_true, decide_eq_true_iff, decide_eq_true_iff, Confine.inside_iff]
  refine and_congr_left fun _ => ?_
  omega

/-- The source's guard, out of the constraint and allowed to slide, costs nothing: inside, a slide is none. -/
theorem slide_eq_ite (room s : Span Int) (back allowed : Bool) :
    (if allowed then slide room back s else s) =
      if (decide (0 < early room s) || decide (0 < late room s)) && allowed then
        { s with start := s.start + slideBy back (early room s) (late room s) }
      else s := by
  by_cases h : Inside room s
  · rw [if_neg (fun hc => (not_inside_iff.mp hc).1 h), Confine.slide_of_inside h, ite_self]
  · have hout : 0 < early room s ∨ 0 < late room s := by
      rw [Confine.inside_iff] at h
      omega
    cases allowed with
    | false => simp
    | true => rw [if_pos rfl, if_pos (not_inside_iff.mpr ⟨h, rfl⟩), slideBy_eq back hout]

/-- The second stage slides each axis that may be slid. -/
theorem unconstrainBySlide_stage (rules : XdgPositionerRules) (constraint b : Box) :
    Stage constraint
      (Box.ofSpans
        (if rules.axisX.slide then slide constraint.spanX rules.axisX.back b.spanX else b.spanX)
        (if rules.axisY.slide then slide constraint.spanY rules.axisY.back b.spanY else b.spanY))
      (rules.unconstrainBySlide constraint b (getConstrainedBoxOffsets constraint b)) := by
  rw [slide_eq_ite, slide_eq_ite]
  obtain ⟨sX, hsX⟩ : ∃ sX, sX = ((decide (0 < early constraint.spanX b.spanX) ||
      decide (0 < late constraint.spanX b.spanX)) && rules.axisX.slide) := ⟨_, rfl⟩
  obtain ⟨sY, hsY⟩ : ∃ sY, sY = ((decide (0 < early constraint.spanY b.spanY) ||
      decide (0 < late constraint.spanY b.spanY)) && rules.axisY.slide) := ⟨_, rfl⟩
  have hcode : rules.unconstrainBySlide constraint b (getConstrainedBoxOffsets constraint b) =
      if !sX && !sY then ⟨b, getConstrainedBoxOffsets constraint b, false⟩
      else
        let dx := slideBy rules.axisX.back (early constraint.spanX b.spanX) (late constraint.spanX b.spanX)
        let dy := slideBy rules.axisY.back (early constraint.spanY b.spanY) (late constraint.spanY b.spanY)
        let box := if sX then { b with x := b.x + dx } else b
        let box := if sY then { box with y := box.y + dy } else box
        let offsets := getConstrainedBoxOffsets constraint box
        ⟨box, offsets, offsets.isUnconstrained⟩ := by
    rw [hsX, hsY]
    rfl
  rw [hcode, ← hsX, ← hsY]
  -- one case per pair of axes that are moved; only the first returns early
  cases sX <;> cases sY
  · exact ⟨rfl, rfl, nofun⟩
  all_goals exact ⟨rfl, rfl, isUnconstrained_iff.mp⟩

/-- What a resize may cut on one axis. -/
theorem clip_eq_ite (room s : Span Int) (allowed : Bool) :
    (if allowed then clip room s else s) =
      if (decide (0 < early room s) || decide (0 < late room s)) && allowed then clip room s else s := by
  by_cases h : Inside room s
  · rw [Confine.clip_of_inside h, ite_self, ite_self]
  · cases allowed with
    | false => simp
    | true => rw [if_pos rfl, if_pos (not_inside_iff.mpr ⟨h, rfl⟩)]

/-- The last stage cuts both axes, and keeps the box it was given if nothing would be left. -/
theorem unconstrainByResize_box (rules : XdgPositionerRules) (constraint b : Box)
    (hset : b.size.isSet = true) :
    (rules.unconstrainByResize constraint b (getConstrainedBoxOffsets constraint b)).box =
      let resized := Box.ofSpans
        (if rules.axisX.resize then clip constraint.spanX b.spanX else b.spanX)
        (if rules.axisY.resize then clip constraint.spanY b.spanY else b.spanY)
      if resized.size.isSet then resized else b := by
  rw [clip_eq_ite constraint.spanX, clip_eq_ite constraint.spanY]
  obtain ⟨rX, hrX⟩ : ∃ rX, rX = ((decide (0 < early constraint.spanX b.spanX) ||
      decide (0 < late constraint.spanX b.spanX)) && rules.axisX.resize) := ⟨_, rfl⟩
  obtain ⟨rY, hrY⟩ : ∃ rY, rY = ((decide (0 < early constraint.spanY b.spanY) ||
      decide (0 < late constraint.spanY b.spanY)) && rules.axisY.resize) := ⟨_, rfl⟩
  have hcode : rules.unconstrainByResize constraint b (getConstrainedBoxOffsets constraint b) =
      if !rX && !rY then ⟨b, getConstrainedBoxOffsets constraint b, false⟩
      else
        let o : ConstraintOffsets :=
          ⟨max 0 (early constraint.spanY b.spanY), max 0 (late constraint.spanY b.spanY),
            max 0 (early constraint.spanX b.spanX), max 0 (late constraint.spanX b.spanX)⟩
        let resized := if rX then { b with x := b.x + o.left, width := b.width - (o.left + o.right) } else b
        let resized := if rY then
            { resized with y := resized.y + o.top, height := resized.height - (o.top + o.bottom) }
          else resized
        if !resized.size.isSet then ⟨b, o, false⟩
        else
          ⟨resized, getConstrainedBoxOffsets constraint resized,
            (getConstrainedBoxOffsets constraint resized).isUnconstrained⟩ := by
    rw [hrX, hrY]
    rfl
  rw [hcode, ← hrX, ← hrY]
  -- whatever the axes, the last test is the one for an empty box
  have hbox : ∀ (r : Box) (o : ConstraintOffsets), (if !r.size.isSet then ⟨b, o, false⟩ else
      ⟨r, getConstrainedBoxOffsets constraint r,
        (getConstrainedBoxOffsets constraint r).isUnconstrained⟩ : Unconstraining).box =
      if r.size.isSet then r else b := by
    intro r o
    cases r.size.isSet <;> rfl
  cases rX <;> cases rY
  · exact (if_pos hset).symm
  all_goals exact hbox _ _

/-- Both spans of an axis have the size of the rules. -/
theorem axisX_sized (rules : XdgPositionerRules) : rules.axisX.Sized :=
  ⟨rfl, (Size.isSet_iff.mp rules.sized).1⟩

theorem axisY_sized (rules : XdgPositionerRules) : rules.axisY.Sized :=
  ⟨rfl, (Size.isSet_iff.mp rules.sized).2⟩

/-- Where the rules put the popup in a room. -/
def slid (rules : XdgPositionerRules) (constraint : Box) : Box :=
  Box.ofSpans (rules.axisX.afterSlide constraint.spanX) (rules.axisY.afterSlide constraint.spanY)

def resized (rules : XdgPositionerRules) (constraint : Box) : Box :=
  Box.ofSpans (rules.axisX.afterResize constraint.spanX) (rules.axisY.afterResize constraint.spanY)

/-- What was only flipped and slid has the size of the rules, which is positive. -/
theorem slid_isSet (rules : XdgPositionerRules) (constraint : Box) :
    (rules.slid constraint).size.isSet = true := by
  have hx := rules.axisX_sized
  have hy := rules.axisY_sized
  rw [Size.isSet_iff]
  constructor
  · show 0 < (rules.axisX.afterSlide constraint.spanX).length
    rw [hx.afterSlide_length]
    exact hx.pos
  · show 0 < (rules.axisY.afterSlide constraint.spanY).length
    rw [hy.afterSlide_length]
    exact hy.pos

/-- What is inside after a stage is not changed any more. -/
theorem slid_of_flipped_inside
    (h : Inside constraint.spanX (rules.axisX.afterFlip constraint.spanX) ∧
      Inside constraint.spanY (rules.axisY.afterFlip constraint.spanY)) :
    rules.slid constraint =
      Box.ofSpans (rules.axisX.afterFlip constraint.spanX) (rules.axisY.afterFlip constraint.spanY) := by
  unfold slid
  rw [PositionerAxis.afterSlide_of_inside h.1, PositionerAxis.afterSlide_of_inside h.2]

/-- Inside already, nothing is cut. -/
theorem resized_of_slid_inside
    (h : Inside constraint.spanX (rules.slid constraint).spanX ∧
      Inside constraint.spanY (rules.slid constraint).spanY) :
    rules.resized constraint = rules.slid constraint := by
  unfold resized slid
  rw [PositionerAxis.afterResize_of_inside h.1, PositionerAxis.afterResize_of_inside h.2]

/-- **The axes are independent.** The popup's rectangle is brought into the constraint one axis at a time;
the only test of both is that the clipped rectangle is not empty. -/
theorem unconstrainBox_getGeometry (rules : XdgPositionerRules) (constraint : Box) :
    rules.unconstrainBox constraint rules.getGeometry =
      if (rules.resized constraint).size.isSet then rules.resized constraint
      else rules.slid constraint := by
  have hset := rules.slid_isSet constraint
  -- a stage that is done has made the box what the later ones leave as it is
  have hdone : Inside constraint.spanX (rules.slid constraint).spanX ∧
      Inside constraint.spanY (rules.slid constraint).spanY →
      rules.slid constraint = if (rules.resized constraint).size.isSet then rules.resized constraint
        else rules.slid constraint := by
    intro h
    rw [resized_of_slid_inside h, ite_self]
  unfold unconstrainBox
  by_cases hfree : (getConstrainedBoxOffsets constraint rules.getGeometry).isUnconstrained = true
  · obtain ⟨hx, hy⟩ := isUnconstrained_iff.mp hfree
    have hflipX : rules.axisX.afterFlip constraint.spanX = rules.getGeometry.spanX :=
      PositionerAxis.afterFlip_of_inside (a := rules.axisX) hx
    have hflipY : rules.axisY.afterFlip constraint.spanY = rules.getGeometry.spanY :=
      PositionerAxis.afterFlip_of_inside (a := rules.axisY) hy
    have hslid : rules.slid constraint = rules.getGeometry := by
      rw [slid_of_flipped_inside (by rw [hflipX, hflipY]; exact ⟨hx, hy⟩), hflipX, hflipY,
        Box.ofSpans_spans]
    rw [if_pos hfree, ← hdone (by rw [hslid]; exact ⟨hx, hy⟩), hslid]
  rw [if_neg hfree]
  obtain ⟨hbox, hoffsets, hend⟩ := unconstrainByFlip_stage rules constraint
  by_cases hflipped : (rules.unconstrainByFlip constraint rules.getGeometry
      (getConstrainedBoxOffsets constraint rules.getGeometry)).done = true
  · have hslid := slid_of_flipped_inside (hend hflipped)
    rw [if_pos hflipped, hbox, ← hslid]
    exact hdone (by rw [hslid]; exact hend hflipped)
  rw [if_neg hflipped, hbox, hoffsets]
  obtain ⟨hbox, hoffsets, hend⟩ := unconstrainBySlide_stage rules constraint
    (Box.ofSpans (rules.axisX.afterFlip constraint.spanX) (rules.axisY.afterFlip constraint.spanY))
  by_cases hslid : (rules.unconstrainBySlide constraint
      (Box.ofSpans (rules.axisX.afterFlip constraint.spanX) (rules.axisY.afterFlip constraint.spanY))
      (getConstrainedBoxOffsets constraint (Box.ofSpans (rules.axisX.afterFlip constraint.spanX)
        (rules.axisY.afterFlip constraint.spanY)))).done = true
  · rw [if_pos hslid, hbox]
    exact hdone (hend hslid)
  rw [if_neg hslid, hbox, hoffsets]
  exact unconstrainByResize_box rules constraint (rules.slid constraint) hset

/-! ### Where the popup ends up -/

/-- The rectangle `wlr_xdg_popup_unconstrain_from_box` configures the popup with. -/
def confined (rules : XdgPositionerRules) (constraint : Box) : Box :=
  rules.unconstrainBox constraint rules.getGeometry

/-- Each axis of the result is at its end, cut or not. -/
theorem confined_settled (rules : XdgPositionerRules) (constraint : Box) :
    rules.axisX.Settled constraint.spanX (rules.confined constraint).spanX ∧
      rules.axisY.Settled constraint.spanY (rules.confined constraint).spanY := by
  unfold confined
  rw [unconstrainBox_getGeometry]
  split_ifs
  · exact ⟨.inl rfl, .inl rfl⟩
  · exact ⟨.inr rfl, .inr rfl⟩

/-- The result is never empty. -/
theorem confined_isSet (rules : XdgPositionerRules) (constraint : Box) :
    (rules.confined constraint).size.isSet = true := by
  unfold confined
  rw [unconstrainBox_getGeometry]
  split_ifs with hset
  · exact hset
  · exact rules.slid_isSet constraint

/-- **Inside the constraint.** Where both axes may be slid, and fit or may be resized, the popup ends up
inside the constraint. -/
theorem unconstrainBox_inside (hset : constraint.size.isSet = true)
    (hx : rules.axisX.Confinable constraint.spanX) (hy : rules.axisY.Confinable constraint.spanY) :
    Inside constraint.spanX (rules.confined constraint).spanX ∧
      Inside constraint.spanY (rules.confined constraint).spanY := by
  obtain ⟨hw, hh⟩ := Size.isSet_iff.mp hset
  have hresized : (rules.resized constraint).size.isSet = true :=
    Size.isSet_iff.mpr ⟨rules.axisX_sized.afterResize_length_pos hx.slide hw,
      rules.axisY_sized.afterResize_length_pos hy.slide hh⟩
  unfold confined
  rw [unconstrainBox_getGeometry, if_pos hresized]
  exact ⟨rules.axisX_sized.afterResize_inside hx, rules.axisY_sized.afterResize_inside hy⟩

/-- One axis: no further out than the rules put it, no longer, and left alone if it fits. -/
structure Improves (room preferred s : Span Int) : Prop where
  excess : excess room s ≤ excess room preferred
  length : s.length ≤ preferred.length
  kept : Inside room preferred → s = preferred

/-- Where an axis settles, it is out of the room by no more than where the rules preferred it. -/
theorem improves_of_settled {a : PositionerAxis} {room s : Span Int} (h : a.Sized)
    (hs : a.Settled room s) : Improves room a.preferred s where
  excess := by
    rcases hs with rfl | rfl
    · exact h.excess_afterResize_le room
    · exact h.excess_afterSlide_le room
  length := by
    have hlen := h.afterSlide_length room
    rcases hs with rfl | rfl
    · exact hlen ▸ a.afterResize_length_le room
    · exact hlen.le
  kept hin := by
    have hflipped := PositionerAxis.afterFlip_of_inside hin
    rw [hs.of_flipped_inside (hflipped ▸ hin), hflipped]

/-- The popup ends up no further out than it was asked to be, on either axis. -/
theorem excess_unconstrainBox_le (rules : XdgPositionerRules) (constraint : Box) :
    Improves constraint.spanX rules.getGeometry.spanX (rules.confined constraint).spanX ∧
      Improves constraint.spanY rules.getGeometry.spanY (rules.confined constraint).spanY :=
  ⟨improves_of_settled rules.axisX_sized (rules.confined_settled constraint).1,
    improves_of_settled rules.axisY_sized (rules.confined_settled constraint).2⟩

/-- A candidate that is no better on any axis changes nothing. -/
theorem takeFlipped_self {b candidate : Box}
    (hx : Inside constraint.spanX candidate.spanX → candidate.spanX = b.spanX)
    (hy : Inside constraint.spanY candidate.spanY → candidate.spanY = b.spanY) :
    Stage constraint b (takeFlipped constraint b (getConstrainedBoxOffsets constraint b) candidate) := by
  have hcode : takeFlipped constraint b (getConstrainedBoxOffsets constraint b) candidate =
      ⟨b, getConstrainedBoxOffsets constraint b, (getConstrainedBoxOffsets constraint b).isUnconstrained⟩ := by
    unfold takeFlipped
    simp only [getConstrainedBoxOffsets_eq, ← Confine.inside_iff]
    by_cases hX : Inside constraint.spanX candidate.spanX <;>
      by_cases hY : Inside constraint.spanY candidate.spanY
    -- where a candidate is inside it is the same span, so nothing moves
    · have hstartX : candidate.x = b.x := congrArg Span.start (hx hX)
      have hstartY : candidate.y = b.y := congrArg Span.start (hy hY)
      rw [if_pos hX, if_pos hY, hx hX, hy hY, hstartX, hstartY]
    · have hstartX : candidate.x = b.x := congrArg Span.start (hx hX)
      rw [if_pos hX, if_neg hY, hx hX, hstartX]
    · have hstartY : candidate.y = b.y := congrArg Span.start (hy hY)
      rw [if_neg hX, if_pos hY, hy hY, hstartY]
    · rw [if_neg hX, if_neg hY]
  rw [hcode]
  exact ⟨rfl, rfl, isUnconstrained_iff.mp⟩

/-- Run once more on its result, the flip stage changes nothing. -/
theorem unconstrainByFlip_again {b : Box} (hx : rules.axisX.Settled constraint.spanX b.spanX)
    (hy : rules.axisY.Settled constraint.spanY b.spanY) :
    Stage constraint b
      (rules.unconstrainByFlip constraint b (getConstrainedBoxOffsets constraint b)) := by
  -- on which axes the second run would flip
  obtain ⟨fX, hfX⟩ : ∃ fX, fX = ((decide (0 < early constraint.spanX b.spanX) ^^
      decide (0 < late constraint.spanX b.spanX)) && rules.axisX.flip) := ⟨_, rfl⟩
  obtain ⟨fY, hfY⟩ : ∃ fY, fY = ((decide (0 < early constraint.spanY b.spanY) ^^
      decide (0 < late constraint.spanY b.spanY)) && rules.axisY.flip) := ⟨_, rfl⟩
  have hcode : rules.unconstrainByFlip constraint b (getConstrainedBoxOffsets constraint b) =
      if !fX && !fY then ⟨b, getConstrainedBoxOffsets constraint b, false⟩
      else takeFlipped constraint b (getConstrainedBoxOffsets constraint b)
        (rules.inverted fX fY).getGeometry := by
    rw [hfX, hfY]
    rfl
  rw [hcode, rules.inverted_getGeometry fX fY]
  -- no axis flips, or the flipped box is no better than before
  by_cases hnone : (!fX && !fY) = true
  · rw [if_pos hnone]
    exact ⟨rfl, rfl, nofun⟩
  · rw [if_neg hnone]
    exact takeFlipped_self (rules.axisX_sized.flip_again hx hfX) (rules.axisY_sized.flip_again hy hfY)

/-- And neither does the slide stage. -/
theorem unconstrainBySlide_again {b : Box} (hx : rules.axisX.Settled constraint.spanX b.spanX)
    (hy : rules.axisY.Settled constraint.spanY b.spanY) :
    Stage constraint b
      (rules.unconstrainBySlide constraint b (getConstrainedBoxOffsets constraint b)) := by
  have h := unconstrainBySlide_stage rules constraint b
  rw [hx.slide_again, hy.slide_again, Box.ofSpans_spans] at h
  exact h

/-- Nor the resize: it cuts nothing, or it declines the empty box once more. -/
theorem unconstrainByResize_again (rules : XdgPositionerRules) (constraint : Box) :
    let b := rules.confined constraint
    (rules.unconstrainByResize constraint b (getConstrainedBoxOffsets constraint b)).box = b := by
  dsimp only
  rw [unconstrainByResize_box rules constraint _ (rules.confined_isSet constraint)]
  unfold confined
  rw [unconstrainBox_getGeometry]
  by_cases hset : (rules.resized constraint).size.isSet = true
  · rw [if_pos hset]
    have hagain : Box.ofSpans
        (if rules.axisX.resize then clip constraint.spanX (rules.resized constraint).spanX
          else (rules.resized constraint).spanX)
        (if rules.axisY.resize then clip constraint.spanY (rules.resized constraint).spanY
          else (rules.resized constraint).spanY) = rules.resized constraint :=
      congrArg₂ Box.ofSpans (rules.axisX.resize_again _) (rules.axisY.resize_again _)
    dsimp only
    rw [hagain, ite_self]
  · -- the same clip, as empty as before
    rw [if_neg hset]
    exact if_neg hset

/-- **Done once.** Brought into the constraint again, the popup stays where it is. -/
theorem unconstrainBox_unconstrainBox (rules : XdgPositionerRules) (constraint : Box) :
    rules.unconstrainBox constraint (rules.confined constraint) = rules.confined constraint := by
  obtain ⟨hx, hy⟩ := rules.confined_settled constraint
  obtain ⟨hflip, hflipOffsets, -⟩ := unconstrainByFlip_again hx hy
  obtain ⟨hslide, hslideOffsets, -⟩ := unconstrainBySlide_again hx hy
  unfold unconstrainBox
  dsimp only
  rw [hflip, hflipOffsets, hslide, hslideOffsets, unconstrainByResize_again]
  simp only [ite_self]

end XdgPositionerRules

/-! ## On the root window -/

/-- A popup that has acknowledged the rectangle of its first configure, drawn at that size. -/
structure XdgPopup.Settles (p : XdgPopup) (geometry : Box) : Prop where
  acked : p.geometry = geometry
  scheduled : p.scheduled = geometry
  drawn : p.shownSize = geometry.size

theorem Box.within_of_inside {c g : Box} (hx : Inside c.spanX g.spanX) (hy : Inside c.spanY g.spanY) :
    g.Within 0 c :=
  ⟨hx.start, hy.start, (add_zero (c.x + c.width)).symm ▸ hx.stop,
    (add_zero (c.y + c.height)).symm ▸ hy.stop⟩

section OnScreen

variable {cfg : Config} {screen : RootScreen} {top : ShellWindow} {ancestors : List HostedPopup}

/-- The work area with its border taken off is never empty. -/
theorem popupConstraint_isSet {b d : Point}
    (hstart : placementStart cfg top.win (parentBox cfg top.win ancestors) = some (b, d)) :
    (popupConstraint cfg (some screen) top ancestors).size.isSet = true := by
  obtain ⟨hw, hh⟩ := Size.isSet_iff.mp screen.workArea_isSet
  unfold popupConstraint wlrXdgPopupUnconstrainFromBox
  rw [popupUnconstrainBox_eq hstart, Size.isSet_iff]
  exact ⟨wlxUnscaleSize_pos hw, wlxUnscaleSize_pos hh⟩

/-- Unscaled, nothing is rounded. -/
theorem edgeKept_unscaled {a : Int} (hscale : cfg.contentScale ≤ 0) : EdgeKept cfg a 0 := by
  unfold EdgeKept
  rw [if_pos hscale]

/-- **On the screen.** A popup that may be slid, and fits or may be resized, is shown inside the work area,
to two pixels at its far edges, if on both axes the work area's edge is one the program does not lose: it
is right of, or below, the parent's origin. -/
theorem popup_shown_on_screen {rules : XdgPositionerRules} {p : XdgPopup} {b d : Point}
    (hstart : placementStart cfg top.win (parentBox cfg top.win ancestors) = some (b, d))
    (hedgeX : EdgeKept cfg (screen.workArea.x - b.x) (top.toplevelCoords ancestors).x)
    (hedgeY : EdgeKept cfg (screen.workArea.y - b.y) (top.toplevelCoords ancestors).y)
    (hx : rules.axisX.Confinable (popupConstraint cfg (some screen) top ancestors).spanX)
    (hy : rules.axisY.Confinable (popupConstraint cfg (some screen) top ancestors).spanY)
    (hp : p.Settles (rules.confined (popupConstraint cfg (some screen) top ancestors))) :
    ∃ box : Box, presentBox cfg top.win (parentBox cfg top.win ancestors) p = some box.onRoot ∧
      box.Within 2 (cfg.roundedArea b screen.workArea) := by
  -- the box is inside the popup's constraint, which is the work area less two pixels
  obtain ⟨hinX, hinY⟩ := XdgPositionerRules.unconstrainBox_inside (popupConstraint_isSet hstart) hx hy
  have harea := (placeBox_popupConstraint_iff hstart).mpr ⟨hedgeX, hedgeY⟩
  have hoffset : p.offset = ⟨p.geometry.x, p.geometry.y⟩ := by
    unfold XdgPopup.offset
    rw [hp.acked, hp.scheduled]
    split_ifs <;> rfl
  refine ⟨_, ?_, harea ▸ placeBox_within (rules.confined_isSet _) (Box.within_of_inside hinX hinY)⟩
  rw [presentBox_eq_placeBox, hstart, hoffset, hp.drawn, hp.acked]
  rfl

end OnScreen

theorem edgeMenu_isSet : Size.isSet ⟨400, 300⟩ = true := rfl

/-- A menu of a window near the right edge of the screen is moved to the left. -/
def edgeMenu : XdgPositionerRules where
  anchorRect := ⟨100, 20, 60, 24⟩
  anchor := .bottomLeft
  gravity := .bottomRight
  constraintAdjustment := ⟨true, true, false, false, false, false⟩
  size := ⟨400, 300⟩
  offset := ⟨0, 0⟩
  sized := edgeMenu_isSet

def edgeWindow : ShellWindow := ⟨⟨some ⟨1700, 300⟩, ⟨0, 0, 640, 480⟩⟩, ⟨0, 0⟩⟩

def edgeMenuPopup : XdgPopup :=
  ⟨⟨-180, 44, 400, 300⟩, ⟨-180, 44, 400, 300⟩, ⟨400, 300⟩, none, edgeMenu_isSet, edgeMenu_isSet⟩

/-- The menu that would hang over the right edge is moved back onto the screen. -/
theorem edgeMenu_shown_on_screen :
    ∃ box : Box,
      presentBox ⟨0, true⟩ edgeWindow.win (parentBox ⟨0, true⟩ edgeWindow.win []) edgeMenuPopup =
          some box.onRoot ∧
        box.Within 2 (Config.roundedArea ⟨0, true⟩ ⟨1700, 300⟩ bareScreen.workArea) := by
  have hp : edgeMenuPopup.Settles
      (edgeMenu.confined (popupConstraint ⟨0, true⟩ (some bareScreen) edgeWindow [])) :=
    ⟨by decide +kernel, by decide +kernel, by decide +kernel⟩
  exact popup_shown_on_screen rfl (edgeKept_unscaled rfl.le) (edgeKept_unscaled rfl.le)
    ⟨rfl, .inl (by decide +kernel)⟩ ⟨rfl, .inl (by decide +kernel)⟩ hp

end Wlx
