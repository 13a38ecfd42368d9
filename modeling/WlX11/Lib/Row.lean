import Mathlib.Algebra.Group.Basic
import Mathlib.Algebra.Order.Monoid.Defs
import Mathlib.Data.List.Nodup
import Mathlib.Logic.Function.Basic

/-!
# Rows — things placed side by side

A row is a list of keys without repetition, each with a width; a key's `offset` is the total width of
the keys before it. Nothing here is about outputs or pixels.

* **`offset_append_of_mem`** — what is added at the end moves nothing.
* **`offset_filter_ne`** — taking a key out is giving it no width.
* **`offset_unchanged_iff`** / **`offset_filter_unchanged_iff`** — changing the width of one key, or
  taking it out, leaves every other one where it is iff the width does not change or it is the last.
* **`offset_apart`** — no two keys share a place.
-/

namespace Row

universe u v

variable {κ : Type u} {M : Type v} [DecidableEq κ] [AddCommGroup M]

/-- The total width of the keys before `k`. -/
def offset (w : κ → M) : List κ → κ → M
  | [], _ => 0
  | a :: as, k => if a = k then 0 else w a + offset w as k

variable {w w' : κ → M} {ks : List κ} {a i k : κ}

@[simp] theorem offset_cons_self : offset w (k :: ks) k = 0 := by simp [offset]

theorem offset_cons_of_ne (h : a ≠ k) : offset w (a :: ks) k = w a + offset w ks k := by
  simp [offset, h]

theorem offset_congr (h : ∀ a ∈ ks, w a = w' a) : offset w ks k = offset w' ks k := by
  induction ks with
  | nil => rfl
  | cons a as ih =>
    rw [offset, offset, h a List.mem_cons_self, ih fun b hb => h b (List.mem_cons_of_mem _ hb)]

/-- A key's own width does not move it. -/
theorem offset_self_congr (h : ∀ a, a ≠ k → w a = w' a) : offset w ks k = offset w' ks k := by
  induction ks with
  | nil => rfl
  | cons a as ih =>
    by_cases hak : a = k
    · rw [hak, offset_cons_self, offset_cons_self]
    · rw [offset_cons_of_ne hak, offset_cons_of_ne hak, h a hak, ih]

theorem offset_append_of_mem (h : k ∈ ks) (ls : List κ) :
    offset w (ks ++ ls) k = offset w ks k := by
  induction ks with
  | nil => cases h
  | cons a as ih =>
    rw [List.cons_append, offset, offset]
    split
    · rfl
    · next hak => rw [ih (List.mem_of_ne_of_mem (Ne.symm hak) h)]

theorem offset_nonneg [LinearOrder M] [IsOrderedAddMonoid M] (hw : ∀ a ∈ ks, 0 ≤ w a) :
    0 ≤ offset w ks k := by
  induction ks with
  | nil => exact le_rfl
  | cons a as ih =>
    rw [offset]
    split
    · exact le_rfl
    · exact add_nonneg (hw a List.mem_cons_self) (ih fun b hb => hw b (List.mem_cons_of_mem _ hb))

/-- **A key that is taken out is a key without width.** -/
theorem offset_filter_ne (h : k ≠ i) :
    offset w (ks.filter (· ≠ i)) k = offset (Function.update w i 0) ks k := by
  induction ks with
  | nil => rfl
  | cons a as ih =>
    by_cases hai : a = i
    · rw [List.filter_cons_of_neg (by simp [hai]), ih, hai, offset_cons_of_ne h.symm]
      simp
    · rw [List.filter_cons_of_pos (by simp [hai])]
      by_cases hak : a = k
      · rw [hak, offset_cons_self, offset_cons_self]
      · rw [offset_cons_of_ne hak, offset_cons_of_ne hak, ih, Function.update_of_ne hai]

/-- **One key changes its width.** Every other key stays where it is iff the width is the same or
the key is the last. -/
theorem offset_unchanged_iff (hnd : ks.Nodup) (hi : i ∈ ks) (hw : ∀ a, a ≠ i → w a = w' a) :
    (∀ k ∈ ks, k ≠ i → offset w' ks k = offset w ks k) ↔
      w' i = w i ∨ ks.getLast? = some i := by
  induction ks with
  | nil => cases hi
  | cons a as ih =>
    obtain ⟨ha, hnd'⟩ := List.nodup_cons.mp hnd
    by_cases hai : a = i
    · -- the keys after `i` move by the difference
      subst hai
      have htail : ∀ k ∈ as, offset w' (a :: as) k = offset w (a :: as) k ↔ w' a = w a := by
        intro k hk
        have hak : a ≠ k := fun h => ha (h ▸ hk)
        have hcongr : offset w' as k = offset w as k :=
          offset_congr fun b hb => (hw b fun h => ha (h ▸ hb)).symm
        rw [offset_cons_of_ne hak, offset_cons_of_ne hak, hcongr, add_left_inj]
      cases as with
      | nil => simp
      | cons b bs =>
        have hlast : (a :: b :: bs).getLast? ≠ some a := by
          rw [List.getLast?_cons_cons]
          exact fun h => ha (List.mem_of_getLast? h)
        rw [or_iff_left hlast]
        constructor
        · intro h
          have hb : b ∈ b :: bs := List.mem_cons_self
          exact (htail b hb).mp (h b (List.mem_cons_of_mem _ hb) fun hba => ha (hba ▸ hb))
        · intro h k hk hki
          exact (htail k (List.mem_of_ne_of_mem hki hk)).mpr h
    · -- `a` stands before `i` and moves nothing
      have hi' : i ∈ as := List.mem_of_ne_of_mem (Ne.symm hai) hi
      obtain ⟨b, bs, rfl⟩ := List.exists_cons_of_ne_nil (List.ne_nil_of_mem hi')
      rw [List.getLast?_cons_cons, ← ih hnd' hi']
      constructor
      · intro h k hk hki
        have hak : a ≠ k := fun heq => ha (heq ▸ hk)
        have hmove := h k (List.mem_cons_of_mem _ hk) hki
        rwa [offset_cons_of_ne hak, offset_cons_of_ne hak, hw a hai, add_right_inj] at hmove
      · intro h k hk hki
        by_cases hak : a = k
        · rw [hak, offset_cons_self, offset_cons_self]
        · rw [offset_cons_of_ne hak, offset_cons_of_ne hak, hw a hai,
            h k (List.mem_of_ne_of_mem (Ne.symm hak) hk) hki]

/-- **One key is taken out.** Every other key stays where it is iff the key has no width or is the
last. -/
theorem offset_filter_unchanged_iff (hnd : ks.Nodup) (hi : i ∈ ks) :
    (∀ k ∈ ks, k ≠ i → offset w (ks.filter (· ≠ i)) k = offset w ks k) ↔
      w i = 0 ∨ ks.getLast? = some i := by
  rw [eq_comm (a := w i), ← Function.update_self i (0 : M) w,
    ← offset_unchanged_iff hnd hi fun a ha => (Function.update_of_ne ha _ _).symm]
  refine forall₂_congr fun k _ => forall_congr' fun hki => ?_
  rw [offset_filter_ne hki]

/-- **Two keys do not share a place**, if no width is negative: one ends before the other begins. -/
theorem offset_apart [LinearOrder M] [IsOrderedAddMonoid M] (hw : ∀ a ∈ ks, 0 ≤ w a) (hi : i ∈ ks)
    (hk : k ∈ ks) (hne : i ≠ k) :
    offset w ks i + w i ≤ offset w ks k ∨ offset w ks k + w k ≤ offset w ks i := by
  induction ks with
  | nil => cases hi
  | cons a as ih =>
    have hnonneg : ∀ j, 0 ≤ offset w as j := fun j =>
      offset_nonneg fun b hb => hw b (List.mem_cons_of_mem _ hb)
    by_cases hai : a = i
    · subst hai
      left
      rw [offset_cons_self, offset_cons_of_ne hne, zero_add]
      exact le_add_of_nonneg_right (hnonneg k)
    · by_cases hak : a = k
      · subst hak
        right
        rw [offset_cons_self, offset_cons_of_ne hne.symm, zero_add]
        exact le_add_of_nonneg_right (hnonneg i)
      · rw [offset_cons_of_ne hai, offset_cons_of_ne hak, add_assoc, add_assoc, add_le_add_iff_left,
          add_le_add_iff_left]
        exact ih (fun b hb => hw b (List.mem_cons_of_mem _ hb)) (List.mem_of_ne_of_mem (Ne.symm hai) hi)
          (List.mem_of_ne_of_mem (Ne.symm hak) hk)

end Row
