import Mathlib.Tactic.Ring
import Mathlib.Data.Int.ModEq

/-!
# Wrapped counters — comparing the low bits of two sequence numbers

A counter that is transmitted modulo `2^w` is compared by the sign of the `w`-bit difference. Nothing
here is about a particular protocol: `m` and `n` are the full counters, `BitVec.ofNat w` what is
left of them on the wire.

* **`sub_toInt_neg_iff`** — the difference is negative iff the true distance, reduced modulo `2^w`,
  lies in the upper half.
* **`sub_toInt_neg_iff_lt`** — within half the range, the comparison is the true order.
-/

namespace Serial

variable {w m n : Nat}

/-- The wire difference of two counters is their true distance modulo `2^w`. -/
theorem sub_toNat_cast (w m n : Nat) :
    ((BitVec.ofNat w m - BitVec.ofNat w n).toNat : Int) = ((m : Int) - n) % 2 ^ w := by
  have hpos : 0 < 2 ^ w := Nat.two_pow_pos w
  have hlt : n % 2 ^ w < 2 ^ w := Nat.mod_lt _ hpos
  rw [BitVec.toNat_sub, BitVec.toNat_ofNat, BitVec.toNat_ofNat, Int.natCast_mod, Nat.cast_add,
    Nat.cast_sub hlt.le, Int.natCast_mod, Int.natCast_mod]
  push_cast
  refine Int.ModEq.eq ?_
  -- 2^w − n % 2^w + m % 2^w ≡ m − n
  have hn : ((n : Int) % 2 ^ w) ≡ n [ZMOD 2 ^ w] := Int.mod_modEq _ _
  have hm : ((m : Int) % 2 ^ w) ≡ m [ZMOD 2 ^ w] := Int.mod_modEq _ _
  calc (2 ^ w : Int) - n % 2 ^ w + m % 2 ^ w
      ≡ 2 ^ w - n + m [ZMOD 2 ^ w] := ((Int.ModEq.refl _).sub hn).add hm
    _ ≡ 0 - n + m [ZMOD 2 ^ w] :=
        ((Int.modEq_zero_iff_dvd.mpr (dvd_refl _)).sub_right _).add_right _
    _ = (m : Int) - n := by ring

/-- **The wrapped comparison.** The `w`-bit difference is negative iff the true distance modulo
`2^w` is in the upper half of the range. -/
theorem sub_toInt_neg_iff (w m n : Nat) :
    (BitVec.ofNat w m - BitVec.ofNat w n).toInt < 0 ↔ (2 : Int) ^ w ≤ 2 * (((m : Int) - n) % 2 ^ w) := by
  rw [BitVec.toInt_neg_iff, ← sub_toNat_cast]
  norm_cast

/-- **Within half the range the comparison is right.** -/
theorem sub_toInt_neg_iff_lt (hm : 2 * m < 2 * n + 2 ^ w) (hn : 2 * n < 2 * m + 2 ^ w) :
    (BitVec.ofNat w m - BitVec.ofNat w n).toInt < 0 ↔ m < n := by
  rw [sub_toInt_neg_iff]
  have hm' : 2 * (m : Int) < 2 * n + 2 ^ w := by exact_mod_cast hm
  have hn' : 2 * (n : Int) < 2 * m + 2 ^ w := by exact_mod_cast hn
  have hpos : (0 : Int) < 2 ^ w := Int.pow_pos (by decide)
  rcases lt_or_ge m n with hlt | hge
  · have hlt' : (m : Int) < n := by exact_mod_cast hlt
    have hmod : ((m : Int) - n) % 2 ^ w = m - n + 2 ^ w := by
      rw [← Int.add_emod_right, Int.emod_eq_of_lt] <;> omega
    rw [hmod]
    constructor <;> intro <;> omega
  · have hge' : (n : Int) ≤ m := by exact_mod_cast hge
    have hmod : ((m : Int) - n) % 2 ^ w = m - n := Int.emod_eq_of_lt (by omega) (by omega)
    rw [hmod]
    constructor <;> intro <;> omega

end Serial
