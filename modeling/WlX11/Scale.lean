import Mathlib.Data.Rat.Floor
import Mathlib.Tactic.Linarith

/-!
# WlX11 — sizes, boxes and `--scale`

The geometry every other module computes with: `Size` and `Box` (`struct wlr_box`), the two
command-line switches the size policy reads (`Config`), and `wlx_scale_size` / `wlx_unscale_size`
of `output.c`, which convert between the client's logical sizes and host pixels.

The C code keeps `content_scale` in a `double`; here it is an exact rational, and `lround` rounds
half away from zero. What becomes of a product that no `int` can hold is left open (`CInt`). What is proved
of the size of a toplevel holds whatever becomes of it, and the fit of a client's size is proved for 32-bit
`int`s, which wrap. Where scaled numbers have to be ordered as the numbers are (popups and subsurfaces, size
hints, sizes handed to and fro, a client that tells two windows apart by its sizes), integers have no bound;
`wlxScaleSize_int32` and `wlxUnscaleSize_int32` say when that makes no difference.
-/

namespace Wlx

/-- A width and a height. -/
structure Size where
  width : Int
  height : Int
deriving DecidableEq, Repr

/-- `struct wlr_box`. -/
structure Box where
  x : Int
  y : Int
  width : Int
  height : Int
deriving DecidableEq, Repr

/-- The zero box, what `calloc` leaves in a fresh `xdg_surface`. -/
def Box.zero : Box := ⟨0, 0, 0, 0⟩

def Box.size (b : Box) : Size := ⟨b.width, b.height⟩

/-- Both sides positive: the box is set (a client cannot set an empty window geometry). -/
def Size.isSet (s : Size) : Bool := 0 < s.width && 0 < s.height

@[simp] theorem Size.isSet_iff {s : Size} : s.isSet = true ↔ 0 < s.width ∧ 0 < s.height := by
  simp [Size.isSet]

/-- `|dw| > tol || |dh| > tol`, the comparison every size test of the policy is made of. -/
def Size.differs (tol : Int) (s t : Size) : Bool :=
  tol < |s.width - t.width| || tol < |s.height - t.height|

@[simp] theorem Size.differs_iff {tol : Int} {s t : Size} :
    s.differs tol t = true ↔ tol < |s.width - t.width| ∨ tol < |s.height - t.height| := by
  simp [Size.differs]

/-- The fields of `struct wlx_server` the size policy reads: `content_scale` (`--scale`) and
`prefer_csd` (`--csd`). -/
structure Config where
  contentScale : ℚ
  preferCsd : Bool
deriving DecidableEq

/-- C's `lround`: to the nearest integer, halves away from zero. -/
def lround (q : ℚ) : Int :=
  if 0 ≤ q then (q + 1 / 2).floor else -(-q + 1 / 2).floor

theorem floor_eq_of_le_of_lt {q : ℚ} {n : Int} (hle : (n : ℚ) ≤ q) (hlt : q < n + 1) :
    q.floor = n := by
  have hupper : q.floor < n + 1 := Rat.floor_lt_iff.mpr (by push_cast; exact hlt)
  have hlower : n ≤ q.floor := Rat.le_floor_iff.mpr hle
  omega

/-- A whole number is its own rounding. -/
@[simp] theorem lround_intCast (n : Int) : lround n = n := by
  unfold lround
  split
  · exact floor_eq_of_le_of_lt (by linarith) (by linarith)
  · rw [floor_eq_of_le_of_lt (n := -n) (by push_cast; linarith) (by push_cast; linarith), neg_neg]

/-- Rounding moves a number by half at most. -/
theorem lround_bounds (q : ℚ) : q - 1 / 2 ≤ lround q ∧ (lround q : ℚ) ≤ q + 1 / 2 := by
  unfold lround
  split
  · have hlt : q + 1 / 2 - 1 < (q + 1 / 2).floor := Rat.lt_floor
    have hle : ((q + 1 / 2).floor : ℚ) ≤ q + 1 / 2 := Rat.floor_le _
    constructor <;> linarith
  · have hlt : -q + 1 / 2 - 1 < (-q + 1 / 2).floor := Rat.lt_floor
    have hle : ((-q + 1 / 2).floor : ℚ) ≤ -q + 1 / 2 := Rat.floor_le _
    push_cast
    constructor <;> linarith

theorem lround_nonneg {q : ℚ} (h : 0 ≤ q) : 0 ≤ lround q := by
  unfold lround
  rw [if_pos h]
  exact Rat.le_floor_iff.mpr (by push_cast; linarith)

/-- A step of one or more is never lost. -/
theorem lround_lt {p q : ℚ} (h : p + 1 ≤ q) : lround p < lround q := by
  have hfloor : ∀ {x y : ℚ}, x + 1 ≤ y → (x + 1 / 2).floor + 1 ≤ (y + 1 / 2).floor := by
    intro x y hxy
    have hx := Rat.floor_le (x + 1 / 2)
    exact Rat.le_floor_iff.mpr (by push_cast; linarith)
  unfold lround
  split <;> split
  · exact Int.lt_of_add_one_le (hfloor h)
  · linarith
  · -- across zero one of the two is half a step away at least
    rename_i hp hq
    have hp₀ : 0 ≤ (-p + 1 / 2).floor := Rat.le_floor_iff.mpr (by push_cast; linarith)
    have hq₀ : 0 ≤ (q + 1 / 2).floor := Rat.le_floor_iff.mpr (by push_cast; linarith)
    rcases le_or_gt p (-1 / 2) with hhalf | hhalf
    · have hp₁ : 1 ≤ (-p + 1 / 2).floor := Rat.le_floor_iff.mpr (by push_cast; linarith)
      omega
    · have hq₁ : 1 ≤ (q + 1 / 2).floor := Rat.le_floor_iff.mpr (by push_cast; linarith)
      omega
  · have hback := hfloor (x := -q) (y := -p) (by linarith)
    omega

/-! ## Conversion to `int` -/

/-- What `(int)` makes of the `long` that `lround` gives. -/
class CInt where
  store : Int → Int

namespace CInt

/-- Integers without bound. -/
instance unbounded : CInt := ⟨id⟩

@[simp] theorem store_unbounded (n : Int) : unbounded.store n = n := rfl

/-- An `int` holds the number. -/
def Fits (n : Int) : Prop := -2 ^ 31 ≤ n ∧ n < 2 ^ 31

instance (n : Int) : Decidable (Fits n) := inferInstanceAs (Decidable (_ ∧ _))

/-- 32 bits, of a `long` of 64. Where `lround` has no value of its own it is `LONG_MIN`, as on x86-64. -/
@[reducible] def int32 : CInt := ⟨fun n => if -2 ^ 63 ≤ n ∧ n < 2 ^ 63 then n.bmod (2 ^ 32) else 0⟩

theorem store_int32 (n : Int) :
    int32.store n = if -2 ^ 63 ≤ n ∧ n < 2 ^ 63 then n.bmod (2 ^ 32) else 0 := rfl

theorem store_of_fits {n : Int} (h : Fits n) : int32.store n = n := by
  obtain ⟨hlow, hhigh⟩ := h
  have hlong : -2 ^ 63 ≤ n ∧ n < 2 ^ 63 := by omega
  rw [store_int32, if_pos hlong]
  exact Int.bmod_eq_of_le (by omega) (by omega)

/-- A number that does not fit is far from the size that is made of what is stored. -/
theorem store_lt_of_not_fits {n : Int} (hpos : 0 ≤ n) (h : ¬ Fits n) :
    max 1 (int32.store n) + 1 < n := by
  unfold Fits at h
  have hlarge : (2 : Int) ^ 31 ≤ n := by omega
  rw [store_int32]
  split
  · obtain ⟨k, hk⟩ := Int.dvd_bmod_sub_self (x := n) (m := 2 ^ 32)
    have hk : n.bmod (2 ^ 32) - n = 2 ^ 32 * k := hk
    have hhigh : n.bmod (2 ^ 32) < 2 ^ 31 := Int.bmod_lt (by decide)
    omega
  · omega

end CInt

section Conversions

variable [CInt]

/-- `wlx_scale_size`: logical to host pixels, at least 1. -/
def wlxScaleSize (cfg : Config) (logical : Int) : Int :=
  if cfg.contentScale ≤ 0 then logical
  else max 1 (CInt.store (lround (logical * cfg.contentScale)))

/-- `wlx_unscale_size`: host pixels to logical, at least 1. -/
def wlxUnscaleSize (cfg : Config) (outputPx : Int) : Int :=
  if cfg.contentScale ≤ 0 then outputPx
  else max 1 (CInt.store (lround (outputPx / cfg.contentScale)))

/-- `wlx_scale_size` in both dimensions. -/
def Config.scale (cfg : Config) (s : Size) : Size :=
  ⟨wlxScaleSize cfg s.width, wlxScaleSize cfg s.height⟩

/-- `wlx_unscale_size` in both dimensions. -/
def Config.unscale (cfg : Config) (s : Size) : Size :=
  ⟨wlxUnscaleSize cfg s.width, wlxUnscaleSize cfg s.height⟩

/-- A positive size stays positive in host pixels, whatever the scale. -/
theorem wlxScaleSize_pos (cfg : Config) {logical : Int} (h : 0 < logical) :
    0 < wlxScaleSize cfg logical := by
  unfold wlxScaleSize
  split <;> omega

theorem Config.scale_isSet (cfg : Config) {s : Size} (h : s.isSet) : (cfg.scale s).isSet := by
  rw [Size.isSet_iff] at h ⊢
  exact ⟨wlxScaleSize_pos cfg h.1, wlxScaleSize_pos cfg h.2⟩

end Conversions

section Unbounded

variable {cfg : Config}

theorem wlxScaleSize_of_pos (h : ¬ cfg.contentScale ≤ 0) (logical : Int) :
    wlxScaleSize cfg logical = max 1 (lround (logical * cfg.contentScale)) := if_neg h

theorem wlxUnscaleSize_of_pos (h : ¬ cfg.contentScale ≤ 0) (outputPx : Int) :
    wlxUnscaleSize cfg outputPx = max 1 (lround (outputPx / cfg.contentScale)) := if_neg h

end Unbounded

section Int32

variable {cfg : Config} {n : Int}

/-- Where an `int` holds the product, it is stored as it is. -/
theorem wlxScaleSize_int32 (h : CInt.Fits (lround (n * cfg.contentScale))) :
    @wlxScaleSize CInt.int32 cfg n = @wlxScaleSize CInt.unbounded cfg n := by
  unfold wlxScaleSize
  rw [CInt.store_of_fits h, CInt.store_unbounded]

theorem wlxUnscaleSize_int32 (h : CInt.Fits (lround (n / cfg.contentScale))) :
    @wlxUnscaleSize CInt.int32 cfg n = @wlxUnscaleSize CInt.unbounded cfg n := by
  unfold wlxUnscaleSize
  rw [CInt.store_of_fits h, CInt.store_unbounded]

end Int32

/-- The size in host pixels, whether an `int` holds it or not. -/
def Config.exactScale (cfg : Config) (s : Size) : Size := @Config.scale CInt.unbounded cfg s

end Wlx
