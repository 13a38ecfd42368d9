import Mathlib.Data.List.Basic
import Mathlib.Data.List.Nodup

/-!
# Foremost — what comes before everything else that meets a test

Things stand in an order, or in two. Nothing in this module is about any particular program.

* **`Foremost`** — what meets a test and comes before all else that does.
* **`foremost_of_find?`** — a search of an ordered list finds it.
* **`foremost_eq_iff`** — when what is foremost in one order is so in another.
* **`eq_of_descending`** — in a list whose numbers go down, a number stands once.
-/

universe u

variable {α : Type u}

/-- `a` meets `q`, and comes before all else that does. -/
structure Foremost (r : α → α → Prop) (q : α → Prop) (a : α) : Prop where
  meets : q a
  before : ∀ b, q b → b ≠ a → r a b

section Foremost

variable {r r' : α → α → Prop} {q q' : α → Prop} {a b : α} {as : List α} {p : α → Bool}

/-- Nothing comes before it. -/
theorem Foremost.not_before (hr : ∀ a b, r a b → ¬ r b a) (h : Foremost r q a) (hb : q b) : ¬ r b a := by
  intro hba
  by_cases hne : b = a
  · subst hne
    exact hr b b hba hba
  · exact hr a b (h.before b hb hne) hba

theorem foremost_of_find? (has : as.Pairwise r) (h : as.find? p = some a) :
    Foremost r (fun b => b ∈ as ∧ p b = true) a := by
  obtain ⟨hpa, front, rest, rfl, hfront⟩ := List.find?_eq_some_iff_append.mp h
  refine ⟨⟨List.mem_append_right front List.mem_cons_self, hpa⟩, fun b hb hne => ?_⟩
  rcases List.mem_append.mp hb.1 with hb' | hb'
  · have hfalse := hfront b hb'
    rw [hb.2] at hfalse
    cases hfalse
  · rcases List.mem_cons.mp hb' with rfl | hb'
    · exact absurd rfl hne
    · exact (List.pairwise_cons.mp (List.pairwise_append.mp has).2.1).1 b hb'

/-- **Two orders.** What meets `q` and is foremost in one order meets `q'` and is foremost in the other,
if and only if, wherever the orders disagree on what meets `q` and what meets `q'`, there is something
before the one or before the other. -/
theorem foremost_eq_iff (hr : ∀ a b, r a b → ¬ r b a) (hr' : ∀ a b, r' a b → ¬ r' b a)
    (hq : ∀ b, q' b → q b) (hq' : ∀ a b, q a → r' a b → q' a) (ha : Foremost r q a)
    (hb : Foremost r' q' b) :
    a = b ↔ ∀ x y, q x → q' y → r x y → ¬ r' x y → ∃ z, (q z ∧ r z x) ∨ (q' z ∧ r' z y) := by
  constructor
  · rintro rfl x y hx hy hxy hyx
    by_cases hxa : x = a
    · subst hxa
      have hne : y ≠ x := by
        rintro rfl
        exact hr y y hxy hxy
      exact absurd (hb.before y hy hne) hyx
    · exact ⟨a, .inl ⟨ha.meets, ha.before x hx hxa⟩⟩
  · intro h
    by_contra hne
    have hab : r a b := ha.before b (hq b hb.meets) (Ne.symm hne)
    have hover : ¬ r' a b := fun hover => hb.not_before hr' (hq' a b ha.meets hover) hover
    obtain ⟨z, ⟨hz, hza⟩ | ⟨hz, hzb⟩⟩ := h a b ha.meets hb.meets hab hover
    · exact ha.not_before hr hz hza
    · exact hb.not_before hr' hz hzb

/-- In a list whose numbers go down, a number stands once. -/
theorem eq_of_descending {f : α → Nat} (has : as.Pairwise fun a b => f b < f a) (ha : a ∈ as)
    (hb : b ∈ as) (hab : f a = f b) : a = b :=
  List.inj_on_of_nodup_map (List.pairwise_map.mpr (has.imp Nat.ne_of_gt)) ha hb hab

end Foremost
