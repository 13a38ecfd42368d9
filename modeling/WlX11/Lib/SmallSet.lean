import Mathlib.Data.List.Basic
import Mathlib.Data.Finset.Insert
import Mathlib.Data.Finset.Erase

/-!
# Small sets — a set in an array of fixed capacity

The members are the first entries of an array, in no order: a new one is put behind the last, and the last
takes the place of one that goes. A set that is full does not take another. Nothing in this module is about
any particular program.

* **`add`**, **`remove`** — the two operations; **`remove_perm`** says that nothing else moves out.
* **`Within`** — no member twice, and no more than fit; both operations keep it.
* **`toFinset_add`**, **`toFinset_remove`** — the set they make.
-/

namespace SmallSet

universe u

variable {α : Type u} [DecidableEq α]

def add (cap : Nat) (values : List α) (x : α) : List α :=
  if x ∈ values then values else if values.length = cap then values else values ++ [x]

def remove (values : List α) (x : α) : List α :=
  match values.getLast? with
  | none => values
  | some last => if x ∈ values then (values.set (values.idxOf x) last).dropLast else values

variable {cap : Nat} {values : List α} {x y : α}

theorem remove_of_notMem (h : x ∉ values) : remove values x = values := by
  unfold remove
  split
  · rfl
  · exact if_neg h

/-- The last member takes the place of the one that goes. -/
theorem remove_perm (values : List α) (x : α) : (remove values x).Perm (values.erase x) := by
  by_cases hx : x ∈ values
  · obtain ⟨before, after, hbefore, rfl, herase⟩ := List.exists_erase_eq hx
    have hidx : (before ++ x :: after).idxOf x = before.length := by
      rw [List.idxOf_append_of_notMem hbefore, List.idxOf_cons_self, Nat.add_zero]
    rw [herase]
    rcases List.eq_nil_or_concat after with rfl | ⟨after, last, rfl⟩
    · have hlast : (before ++ [x]).getLast? = some x := List.getLast?_concat
      unfold remove
      rw [hlast]
      dsimp only
      rw [if_pos hx, hidx, List.set_append_right _ _ le_rfl, Nat.sub_self]
      simp
    · have hlast : (before ++ x :: after.concat last).getLast? = some last := by
        rw [List.concat_eq_append, ← List.cons_append, ← List.append_assoc, List.getLast?_concat]
      unfold remove
      rw [hlast]
      dsimp only
      rw [if_pos hx, hidx, List.set_append_right _ _ le_rfl, Nat.sub_self]
      simp only [List.set_cons_zero, List.concat_eq_append]
      rw [← List.cons_append, ← List.append_assoc, List.dropLast_concat]
      refine List.Perm.append_left _ ?_
      exact (List.perm_append_singleton last after).symm
  · rw [remove_of_notMem hx, List.erase_of_not_mem hx]

structure Within (cap : Nat) (values : List α) : Prop where
  nodup : values.Nodup
  length : values.length ≤ cap

omit [DecidableEq α] in
theorem within_nil : Within cap ([] : List α) := ⟨List.nodup_nil, Nat.zero_le _⟩

theorem Within.add (h : Within cap values) (x : α) : Within cap (add cap values x) := by
  unfold SmallSet.add
  split_ifs with hx hfull
  · exact h
  · exact h
  · refine ⟨List.nodup_append.mpr ⟨h.nodup, List.nodup_singleton x, ?_⟩, ?_⟩
    · rintro a ha b hb rfl
      exact hx (List.mem_singleton.mp hb ▸ ha)
    · have := h.length
      rw [List.length_append, List.length_singleton]
      omega

theorem Within.remove (h : Within cap values) (x : α) : Within cap (remove values x) :=
  ⟨(remove_perm values x).nodup_iff.mpr (h.nodup.erase x),
    (remove_perm values x).length_eq ▸ (List.length_erase_le.trans h.length)⟩

/-- A set that is not full takes every member. -/
theorem toFinset_add (h : x ∈ values ∨ values.length ≠ cap) :
    (add cap values x).toFinset = insert x values.toFinset := by
  unfold add
  split_ifs with hx hfull
  · exact (Finset.insert_eq_of_mem (List.mem_toFinset.mpr hx)).symm
  · exact absurd hfull (h.resolve_left hx)
  · ext y
    rw [List.mem_toFinset, List.mem_append, List.mem_singleton, Finset.mem_insert, List.mem_toFinset]
    exact or_comm

theorem toFinset_remove (h : values.Nodup) (x : α) :
    (remove values x).toFinset = values.toFinset.erase x := by
  ext y
  rw [List.mem_toFinset, (remove_perm values x).mem_iff, h.mem_erase_iff, Finset.mem_erase,
    List.mem_toFinset]

end SmallSet
