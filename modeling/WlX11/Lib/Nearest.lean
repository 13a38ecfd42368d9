import Mathlib.Algebra.Order.Field.Basic
import Mathlib.Algebra.Order.Ring.Cast
import Mathlib.Tactic.Linarith
import Mathlib.Tactic.Ring
import Mathlib.Tactic.FieldSimp
import Mathlib.Tactic.NormNum

/-!
# Rounding to a nearest integer

A function that takes each number to an integer at most one half away, whichever it takes of two
that are equally near. Nothing in this module is about any particular rounding mode.

* **`Nearest.mono`** — such a function is monotone, ties or not.
* **`snap`** — an integer to the nearest point of a grid of step `s`, and that to the nearest integer.
* **`Nearest.snap_near`** — how far that moves it.
-/

namespace Rounding

variable {K : Type*} [Field K] [LinearOrder K] [IsStrictOrderedRing K]

/-- No integer is nearer. -/
def Nearest (f : K → ℤ) : Prop := ∀ q, |(f q : K) - q| ≤ 1 / 2

/-- On the grid of step `s`, and off it again. -/
def snap (f : K → ℤ) (s : K) (n : ℤ) : ℤ := f (f (n / s) * s)

variable {f : K → ℤ}

theorem Nearest.mono (hf : Nearest f) {p q : K} (hpq : p ≤ q) : f p ≤ f q := by
  rcases eq_or_lt_of_le hpq with rfl | hlt
  · exact le_rfl
  · -- two halves do not make up for the step from `p` to `q`
    have hp := (abs_le.mp (hf p)).2
    have hq := (abs_le.mp (hf q)).1
    have hstep : (f p : K) < f q + 1 := by linarith
    have hstep' : f p < f q + 1 := by exact_mod_cast hstep
    omega

/-- Half a step of the grid, and half an integer. -/
theorem Nearest.snap_near (hf : Nearest f) {s : K} (hs : 0 < s) (n : ℤ) :
    |(snap f s n : K) - n| ≤ (s + 1) / 2 := by
  unfold snap
  have hgrid := abs_le.mp (hf (n / s))
  have hback := abs_le.mp (hf (f (n / s) * s))
  have hn : (n : K) = n / s * s := by field_simp
  have hlow : -(1 / 2) * s ≤ ((f (n / s) : K) - n / s) * s :=
    mul_le_mul_of_nonneg_right (by linarith [hgrid.1]) hs.le
  have hhigh : ((f (n / s) : K) - n / s) * s ≤ 1 / 2 * s :=
    mul_le_mul_of_nonneg_right hgrid.2 hs.le
  rw [sub_mul, ← hn] at hlow hhigh
  rw [abs_le]
  constructor <;> linarith [hback.1, hback.2]

end Rounding
