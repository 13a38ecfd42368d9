import Mathlib.Algebra.Order.Ring.Abs
import Mathlib.Tactic.Linarith
import Mathlib.Tactic.Ring

/-!
# Spans — keeping an interval inside another one

A span starts somewhere and has a length. It is to be kept inside a *room*, another span. Nothing in
this module is about any particular program; boxes are two spans, one for each axis.

* **`Inside`** — the span is in the room; **`excess`** — how much of it is not.
* **`slide`** — the least move that brings it in, or that leaves it out on one side only;
  **`slide_inside`**, **`slide_covers`**, **`slide_slide`**.
* **`clip`** — the part of it that is in the room; **`clip_inside`**.
-/

namespace Confine

universe u

variable {R : Type u} [CommRing R]

/-- A start and a length. -/
structure Span (R : Type u) where
  start : R
  length : R

/-- How far the span is out of the room at its start. -/
def early (room s : Span R) : R := room.start - s.start

/-- How far it is out at its end. -/
def late (room s : Span R) : R := s.start + s.length - room.start - room.length

theorem early_add_late (room s : Span R) : early room s + late room s = s.length - room.length := by
  unfold early late
  ring

variable [LinearOrder R]

structure Inside (room s : Span R) : Prop where
  start : room.start ≤ s.start
  stop : s.start + s.length ≤ room.start + room.length

instance (room s : Span R) : Decidable (Inside room s) :=
  decidable_of_iff (room.start ≤ s.start ∧ s.start + s.length ≤ room.start + room.length)
    ⟨fun h => ⟨h.1, h.2⟩, fun h => ⟨h.start, h.stop⟩⟩

/-- What is out of the room, at both ends. -/
def excess (room s : Span R) : R := max 0 (early room s) + max 0 (late room s)

/-- Move the span into the room. One that has no place in it goes to the room's end if `back`, else to its
start; one that is out at one end only goes the shorter way. -/
def slide (room : Span R) (back : Bool) (s : Span R) : Span R :=
  if 0 < early room s ∧ 0 < late room s then
    if back then { s with start := s.start - late room s }
    else { s with start := s.start + early room s }
  else if 0 < early room s ∨ 0 < late room s then
    if |early room s| < |late room s| then { s with start := s.start + early room s }
    else { s with start := s.start - late room s }
  else s

/-- Cut off what is out of the room. -/
def clip (room s : Span R) : Span R where
  start := s.start + max 0 (early room s)
  length := s.length - (max 0 (early room s) + max 0 (late room s))

variable {room s : Span R} {back : Bool}

@[simp] theorem slide_length : (slide room back s).length = s.length := by
  unfold slide
  split_ifs <;> rfl

/-- What covers the room is cut to the room. -/
theorem clip_of_covers (hearly : 0 ≤ early room s) (hlate : 0 ≤ late room s) : clip room s = room := by
  have hsum := early_add_late room s
  unfold clip
  rw [max_eq_right hearly, max_eq_right hlate, hsum]
  unfold early
  obtain ⟨start, length⟩ := room
  simp

variable [IsStrictOrderedRing R]

theorem inside_iff : Inside room s ↔ early room s ≤ 0 ∧ late room s ≤ 0 := by
  unfold early late
  constructor
  · rintro ⟨hstart, hstop⟩
    constructor <;> linarith
  · rintro ⟨hearly, hlate⟩
    constructor <;> linarith

theorem excess_nonneg (room s : Span R) : 0 ≤ excess room s :=
  add_nonneg (le_max_left _ _) (le_max_left _ _)

theorem excess_eq_zero_iff : excess room s = 0 ↔ Inside room s := by
  rw [inside_iff, excess]
  constructor
  · intro h
    have hearly := le_max_left 0 (early room s)
    have hlate := le_max_left 0 (late room s)
    have hearly' := le_max_right 0 (early room s)
    have hlate' := le_max_right 0 (late room s)
    constructor <;> linarith
  · rintro ⟨hearly, hlate⟩
    rw [max_eq_left hearly, max_eq_left hlate, add_zero]

theorem slide_of_inside (h : Inside room s) : slide room back s = s := by
  obtain ⟨hearly, hlate⟩ := inside_iff.mp h
  unfold slide
  rw [if_neg (by rintro ⟨h', -⟩; linarith), if_neg (by rintro (h' | h') <;> linarith)]

/-- **A span that has a place in the room is put there.** -/
theorem slide_inside (hfits : s.length ≤ room.length) : Inside room (slide room back s) := by
  have hsum := early_add_late room s
  by_cases hboth : 0 < early room s ∧ 0 < late room s
  · linarith [hboth.1, hboth.2]
  by_cases hout : 0 < early room s ∨ 0 < late room s
  · unfold slide
    rw [if_neg hboth, if_pos hout]
    unfold early late at *
    split_ifs with hshort
    · -- the room's start is nearer: the span is out at its start
      have hstart : 0 < room.start - s.start := by
        rcases hout with h | h
        · exact h
        · have hle : room.start - s.start ≤ 0 := by linarith
          rw [abs_of_nonpos hle, abs_of_pos h] at hshort
          linarith
      constructor <;> simp only <;> linarith
    · have hle : s.start + s.length - room.start - room.length ≤ |room.start - s.start| :=
        (le_abs_self _).trans (not_lt.mp hshort)
      constructor
      · simp only
        linarith
      · simp only
        linarith
  · rw [slide_of_inside]
    · push Not at hout
      exact inside_iff.mpr hout
    · push Not at hout
      exact inside_iff.mpr hout

/-- **A span that has no place in the room covers it.** -/
theorem slide_covers (back : Bool) (hlong : room.length ≤ s.length) :
    0 ≤ early room (slide room back s) ∧ 0 ≤ late room (slide room back s) ∧
      (early room (slide room back s) = 0 ∨ late room (slide room back s) = 0) := by
  have hsum := early_add_late room s
  by_cases hboth : 0 < early room s ∧ 0 < late room s
  · unfold slide
    rw [if_pos hboth]
    split_ifs
    · unfold early late at *
      refine ⟨by simp only; linarith, by simp only; linarith, .inr (by simp only; ring)⟩
    · unfold early late at *
      refine ⟨by simp only; linarith, by simp only; linarith, .inl (by simp only; ring)⟩
  by_cases hout : 0 < early room s ∨ 0 < late room s
  · unfold slide
    rw [if_neg hboth, if_pos hout]
    split_ifs with hshort
    · -- out at its end, and more so than it is in at its start
      have hearly : early room s ≤ 0 := by
        by_contra hpos
        have hlate : late room s ≤ 0 := by
          by_contra h
          exact hboth ⟨by linarith, by linarith⟩
        rw [abs_of_pos (by linarith), abs_of_nonpos hlate] at hshort
        linarith
      unfold early late at *
      refine ⟨by simp only; linarith, by simp only; linarith, .inl (by simp only; ring)⟩
    · have hlate : 0 ≤ early room s + late room s := by linarith
      unfold early late at *
      refine ⟨by simp only; linarith, by simp only; linarith, .inr (by simp only; ring)⟩
  · push Not at hout
    rw [slide_of_inside (inside_iff.mpr hout)]
    refine ⟨by linarith [hout.1, hout.2], by linarith [hout.1, hout.2], .inl ?_⟩
    linarith [hout.1, hout.2]

/-- Sliding again does nothing. -/
theorem slide_slide : slide room back (slide room back s) = slide room back s := by
  rcases le_total s.length room.length with hfits | hlong
  · exact slide_of_inside (slide_inside hfits)
  · obtain ⟨hearly, hlate, hone⟩ := slide_covers back hlong
    generalize slide room back s = t at *
    unfold slide
    rcases hone with hzero | hzero
    · rw [if_neg (by rintro ⟨h, -⟩; linarith)]
      split_ifs with hout hshort
      · rw [hzero, add_zero]
      · rw [hzero, abs_zero, abs_of_nonneg hlate] at hshort
        have hlate0 : late room t = 0 := le_antisymm (not_lt.mp hshort) hlate
        rw [hlate0, sub_zero]
      · rfl
    · rw [if_neg (by rintro ⟨-, h⟩; linarith)]
      split_ifs with hout hshort
      · rw [hzero, abs_zero] at hshort
        exact absurd (abs_nonneg (early room t)) (not_le.mpr hshort)
      · rw [hzero, sub_zero]
      · rfl

/-- A slide leaves no more out than there was, and no more than has to be. -/
theorem excess_slide : excess room (slide room back s) = max 0 (s.length - room.length) := by
  rcases le_total s.length room.length with hfits | hlong
  · rw [excess_eq_zero_iff.mpr (slide_inside hfits), max_eq_left (by linarith)]
  · obtain ⟨hearly, hlate, -⟩ := slide_covers back hlong
    have hsum := early_add_late room (slide room back s)
    rw [slide_length] at hsum
    rw [excess, max_eq_right hearly, max_eq_right hlate, hsum, max_eq_right (by linarith)]

theorem le_excess (room s : Span R) : max 0 (s.length - room.length) ≤ excess room s := by
  refine max_le (excess_nonneg room s) ?_
  rw [← early_add_late, excess]
  exact add_le_add (le_max_right _ _) (le_max_right _ _)

theorem clip_of_inside (h : Inside room s) : clip room s = s := by
  obtain ⟨hearly, hlate⟩ := inside_iff.mp h
  unfold clip
  rw [max_eq_left hearly, max_eq_left hlate, add_zero, add_zero, sub_zero]

theorem clip_inside : Inside room (clip room s) := by
  have hearly := le_max_right 0 (early room s)
  have hlate := le_max_right 0 (late room s)
  constructor
  · simp only [clip]
    unfold early at *
    linarith
  · simp only [clip]
    unfold early late at *
    linarith

theorem clip_length_le : (clip room s).length ≤ s.length := by
  have h := excess_nonneg room s
  simp only [clip]
  unfold excess at h
  linarith

/-- What is cut is cut at once. -/
theorem clip_clip : clip room (clip room s) = clip room s := clip_of_inside clip_inside

end Confine
