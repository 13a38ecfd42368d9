import Mathlib.Algebra.BigOperators.Group.List.Basic
import Mathlib.Data.List.Nodup

/-!
# Tallies — amounts in rows, added up by owner

A list of rows, each with an owner and an amount; what an owner has is the sum over its rows. Rows are told
apart by a key. Nothing in this module is about any particular program.

* **`total`** — what an owner has.
* **`replace`** — another row for the one with a key; **`total_replace`** is what that does to the totals.
* **`total_erase`**, **`total_filter_ne`** — what taking rows out does.
-/

namespace Tally

universe u v w

variable {ρ : Type u} {ι : Type v} {κ : Type w} [DecidableEq ι] [DecidableEq κ]
  {owner : ρ → ι} {amount : ρ → Nat} {key : ρ → κ} {rows : List ρ} {r r' : ρ} {i j : ι}

def total (owner : ρ → ι) (amount : ρ → Nat) (i : ι) : List ρ → Nat
  | [] => 0
  | r :: rows => (if owner r = i then amount r else 0) + total owner amount i rows

/-- `r'` in place of the row with the key of `r`. -/
def replace (key : ρ → κ) (r r' : ρ) (rows : List ρ) : List ρ :=
  rows.map fun s => if key s = key r then r' else s

theorem le_total (hr : r ∈ rows) : amount r ≤ total owner amount (owner r) rows := by
  induction rows with
  | nil => cases hr
  | cons s rows ih =>
    rw [total]
    rcases List.mem_cons.mp hr with rfl | hr
    · rw [if_pos rfl]
      exact Nat.le_add_right _ _
    · have h := ih hr
      omega

theorem total_eq_zero (h : ∀ r ∈ rows, owner r = i → amount r = 0) : total owner amount i rows = 0 := by
  induction rows with
  | nil => rfl
  | cons s rows ih =>
    rw [total, ih fun r hr => h r (List.mem_cons_of_mem _ hr)]
    split_ifs with hs
    · rw [h s List.mem_cons_self hs]
    · rfl

/-- Rows of one owner are nothing to another. -/
theorem total_filter_ne (hij : j ≠ i) :
    total owner amount j (rows.filter fun r => owner r ≠ i) = total owner amount j rows := by
  induction rows with
  | nil => rfl
  | cons s rows ih =>
    by_cases hs : owner s = i
    · rw [List.filter_cons_of_neg (by simpa using hs), total, ih, if_neg (fun h => hij (h.symm.trans hs)),
        Nat.zero_add]
    · rw [List.filter_cons_of_pos (by simpa using hs), total, total, ih]

theorem total_erase [DecidableEq ρ] (owner : ρ → ι) (amount : ρ → Nat) (i : ι) (hr : r ∈ rows) :
    (if owner r = i then amount r else 0) + total owner amount i (rows.erase r) =
      total owner amount i rows := by
  induction rows with
  | nil => cases hr
  | cons s rows ih =>
    by_cases hs : s = r
    · subst hs
      rw [List.erase_cons_head, total]
    · rw [List.erase_cons_tail (by simpa using hs), total, total,
        ← ih ((List.mem_cons.mp hr).resolve_left (Ne.symm hs))]
      omega

theorem map_key_replace (key : ρ → κ) (hkey : key r' = key r) : (replace key r r' rows).map key = rows.map key := by
  unfold replace
  rw [List.map_map]
  refine List.map_congr_left fun s _ => ?_
  simp only [Function.comp]
  split_ifs with h
  · rw [hkey, h]
  · rfl

/-- The rows afterwards are the row put in and the other ones. -/
theorem mem_replace_iff (key : ρ → κ) (hr : r ∈ rows) {s : ρ} :
    s ∈ replace key r r' rows ↔ s = r' ∨ s ∈ rows ∧ key s ≠ key r := by
  unfold replace
  rw [List.mem_map]
  constructor
  · rintro ⟨t, ht, rfl⟩
    split_ifs with h
    · exact .inl rfl
    · exact .inr ⟨ht, h⟩
  · rintro (rfl | ⟨hs, hne⟩)
    · exact ⟨r, hr, if_pos rfl⟩
    · exact ⟨s, hs, if_neg hne⟩

theorem total_replace (hnd : (rows.map key).Nodup) (hr : r ∈ rows) (howner : owner r' = owner r) :
    (if owner r = i then amount r else 0) + total owner amount i (replace key r r' rows) =
      (if owner r = i then amount r' else 0) + total owner amount i rows := by
  induction rows with
  | nil => cases hr
  | cons s rows ih =>
    obtain ⟨hhead, htail⟩ := List.nodup_cons.mp hnd
    have hcons : replace key r r' (s :: rows) =
        (if key s = key r then r' else s) :: replace key r r' rows := rfl
    rcases List.mem_cons.mp hr with rfl | hr
    · -- the other rows have other keys
      have hrest : replace key r r' rows = rows := by
        unfold replace
        conv_rhs => rw [← List.map_id rows]
        refine List.map_congr_left fun t ht => if_neg fun heq => hhead ?_
        exact List.mem_map.mpr ⟨t, ht, heq⟩
      rw [hcons, if_pos rfl, hrest, total, total, howner]
      omega
    · have hne : key s ≠ key r := fun heq => hhead (List.mem_map.mpr ⟨r, hr, heq.symm⟩)
      rw [hcons, if_neg hne, total, total]
      have h := ih htail hr
      omega

end Tally
