import Mathlib.Data.List.Basic

/-!
# Preference — choosing among what is offered

A chooser has a list of preferences, the best one first, and somebody offers a list. Nothing in this
module is about any particular program.

* **`best`** — the best preference that is offered.
* **`firstAcceptable`** — the first offer that is a preference at all.
* **`firstAcceptable_eq_best_iff`** — the two are the same exactly if the acceptable offer that comes
  first is the best of them.
-/

namespace Preference

universe u

variable {α : Type u} [DecidableEq α]

/-- The best preference that is offered. -/
def best (prefs offers : List α) : Option α := prefs.find? (· ∈ offers)

/-- The first offer that is a preference. -/
def firstAcceptable (prefs offers : List α) : Option α := offers.find? (· ∈ prefs)

/-- Of the acceptable offers the first one has the best rank. -/
def RankedFirst (prefs offers : List α) : Prop :=
  ∀ a as, offers.filter (· ∈ prefs) = a :: as → ∀ b ∈ as, prefs.idxOf a ≤ prefs.idxOf b

section Best

variable {prefs offers offers' : List α} {a : α}

/-- The best preference depends on what is offered, not on its order. -/
theorem best_congr (h : ∀ a, a ∈ offers ↔ a ∈ offers') : best prefs offers = best prefs offers' := by
  unfold best
  congr 1
  funext a
  exact decide_eq_decide.mpr (h a)

theorem best_eq_none_iff : best prefs offers = none ↔ ∀ a ∈ prefs, a ∉ offers := by
  simp [best]

/-- **What is best** is acceptable, and nothing acceptable has a better rank. -/
theorem best_eq_some_iff :
    best prefs offers = some a ↔
      a ∈ prefs ∧ a ∈ offers ∧ ∀ b ∈ offers, b ∈ prefs → prefs.idxOf a ≤ prefs.idxOf b := by
  unfold best
  induction prefs with
  | nil => simp
  | cons p prefs ih =>
    by_cases hp : p ∈ offers
    · -- the first preference is offered: it has rank 0, and nothing else has
      rw [List.find?_cons_of_pos (by simpa using hp), Option.some.injEq]
      constructor
      · rintro rfl
        refine ⟨List.mem_cons_self, hp, fun b _ _ => ?_⟩
        rw [List.idxOf_cons_self]
        exact Nat.zero_le _
      · rintro ⟨-, -, hbest⟩
        have hzero := hbest p hp List.mem_cons_self
        rw [List.idxOf_cons_self, Nat.le_zero] at hzero
        by_contra hne
        rw [List.idxOf_cons_ne prefs hne] at hzero
        cases hzero
    · rw [List.find?_cons_of_neg (by simpa using hp), ih]
      constructor
      · rintro ⟨ha, hoffered, hbest⟩
        refine ⟨List.mem_cons_of_mem p ha, hoffered, fun b hb hacc => ?_⟩
        have hpa : p ≠ a := fun h => hp (h ▸ hoffered)
        have hpb : p ≠ b := fun h => hp (h ▸ hb)
        rw [List.idxOf_cons_ne prefs hpa, List.idxOf_cons_ne prefs hpb]
        exact Nat.succ_le_succ (hbest b hb (List.mem_of_ne_of_mem hpb.symm hacc))
      · rintro ⟨ha, hoffered, hbest⟩
        have hpa : p ≠ a := fun h => hp (h ▸ hoffered)
        refine ⟨List.mem_of_ne_of_mem hpa.symm ha, hoffered, fun b hb hacc => ?_⟩
        have hpb : p ≠ b := fun h => hp (h ▸ hb)
        have hle := hbest b hb (List.mem_cons_of_mem p hacc)
        rw [List.idxOf_cons_ne prefs hpa, List.idxOf_cons_ne prefs hpb] at hle
        exact Nat.le_of_succ_le_succ hle

/-- The first acceptable offer is the head of the acceptable ones. -/
theorem firstAcceptable_eq_head? :
    firstAcceptable prefs offers = (offers.filter (· ∈ prefs)).head? :=
  List.head?_filter.symm

/-- **First come, best served.** Taking the first acceptable offer is taking the best exactly if the
first has the best rank. -/
theorem firstAcceptable_eq_best_iff :
    firstAcceptable prefs offers = best prefs offers ↔ RankedFirst prefs offers := by
  have hmem : ∀ b, b ∈ offers.filter (· ∈ prefs) ↔ b ∈ offers ∧ b ∈ prefs := by simp
  rw [firstAcceptable_eq_head?]
  unfold RankedFirst
  cases hfilter : offers.filter (· ∈ prefs) with
  | nil =>
    rw [hfilter] at hmem
    have hnone : best prefs offers = none :=
      best_eq_none_iff.mpr fun a ha hoffered => by simpa using (hmem a).mpr ⟨hoffered, ha⟩
    simp [hnone]
  | cons a as =>
    rw [hfilter] at hmem
    obtain ⟨hoffered, hacc⟩ := (hmem a).mp List.mem_cons_self
    rw [List.head?_cons, eq_comm, best_eq_some_iff]
    constructor
    · rintro ⟨-, -, hbest⟩ a' as' heq b hb
      obtain ⟨rfl, rfl⟩ := List.cons.inj heq
      obtain ⟨hb, hbacc⟩ := (hmem b).mp (List.mem_cons_of_mem a hb)
      exact hbest b hb hbacc
    · intro hfirst
      refine ⟨hacc, hoffered, fun b hb hbacc => ?_⟩
      rcases List.mem_cons.mp ((hmem b).mpr ⟨hb, hbacc⟩) with rfl | hbas
      · exact Nat.le_refl _
      · exact hfirst a as rfl b hbas

end Best

instance (prefs offers : List α) : Decidable (RankedFirst prefs offers) :=
  decidable_of_iff _ firstAcceptable_eq_best_iff

end Preference
