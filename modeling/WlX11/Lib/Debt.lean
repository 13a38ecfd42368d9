import Mathlib.Data.Finset.Basic
import Mathlib.Order.Lattice

/-!
# Debts — what copies of a changing value owe it

A value changes, part by part, and copies of it are brought up to date one at a time. A ledger keeps what has
changed since the last copy was made, and for each copy what had changed between the one before it and
itself, the latest copy first. What a copy owes is what has changed since, and what had changed for each
copy that is more recent. Nothing in this module is about any particular program.

* **`Ledger.charge`**, **`Ledger.forget`**, **`Ledger.settle`** — a change, a copy that is not kept any more, a
  copy that is brought up to date; **`owed_charge`**, **`owed_forget`**, **`owed_settle`** are what they do to
  what a copy owes.
* **`Sound`** — where a copy owes nothing it is as the value; **`Sound.change`**, **`Sound.refresh`** and their
  like: so it stays.
-/

namespace Debt

universe u v w

/-- What has changed last, and the copies with what had changed when they were made. -/
structure Ledger (ι : Type u) (α : Type v) where
  current : α
  entries : List (ι × α)
deriving DecidableEq

section Owed

variable {ι : Type u} {α : Type v} [DecidableEq ι] [SemilatticeSup α]

/-- What `i` owes if what came after the entries is `acc`. -/
def owedAfter (acc : α) : List (ι × α) → ι → Option α
  | [], _ => none
  | (j, d) :: entries, i => if j = i then some acc else owedAfter (acc ⊔ d) entries i

/-- The entry of `i` goes, and what it had to say goes to the one before it, or to `before`. -/
def squash (before : α) : List (ι × α) → ι → α × List (ι × α)
  | [], _ => (before, [])
  | (j, d) :: entries, i =>
    if j = i then (before ⊔ d, entries)
    else
      let (d, entries) := squash d entries i
      (before, (j, d) :: entries)

namespace Ledger

variable (l : Ledger ι α)

/-- What a copy owes, if it is known. -/
def owed (i : ι) : Option α := owedAfter l.current l.entries i

def charge (x : α) : Ledger ι α := { l with current := l.current ⊔ x }

def forget (i : ι) : Ledger ι α :=
  let (current, entries) := squash l.current l.entries i
  ⟨current, entries⟩

def settle [OrderBot α] (i : ι) : Ledger ι α :=
  let l := l.forget i
  ⟨⊥, (i, l.current) :: l.entries⟩

end Ledger

variable {acc before x : α} {entries : List (ι × α)} {i j : ι} {l : Ledger ι α}

theorem owedAfter_sup : owedAfter (acc ⊔ x) entries i = (owedAfter acc entries i).map (· ⊔ x) := by
  induction entries generalizing acc with
  | nil => rfl
  | cons e entries ih =>
    obtain ⟨j, d⟩ := e
    unfold owedAfter
    split_ifs
    · rfl
    · rw [sup_right_comm, ih]

/-- What is said once more by the one before is said. -/
theorem owedAfter_squash (hij : j ≠ i) :
    owedAfter (acc ⊔ (squash before entries i).1) (squash before entries i).2 j =
      owedAfter (acc ⊔ before) entries j := by
  induction entries generalizing acc before with
  | nil => rfl
  | cons e entries ih =>
    obtain ⟨k, d⟩ := e
    unfold squash
    split_ifs with hk
    · rw [owedAfter, if_neg (fun hkj => hij (hkj.symm.trans hk)), sup_assoc]
    · show owedAfter (acc ⊔ before) ((k, _) :: _) j = _
      rw [owedAfter, owedAfter]
      split_ifs
      · rfl
      · exact ih

theorem owedAfter_isSome : (owedAfter acc entries i).isSome = true ↔ i ∈ entries.map Prod.fst := by
  induction entries generalizing acc with
  | nil => simp [owedAfter]
  | cons e entries ih =>
    obtain ⟨j, d⟩ := e
    unfold owedAfter
    rw [List.map_cons, List.mem_cons]
    split_ifs with h
    · simp [h]
    · rw [ih]
      exact ⟨.inr, fun h' => h'.resolve_left (Ne.symm h)⟩

theorem keys_squash : (squash before entries i).2.map Prod.fst ⊆ entries.map Prod.fst := by
  induction entries generalizing before with
  | nil => exact fun _ => id
  | cons e entries ih =>
    obtain ⟨j, d⟩ := e
    unfold squash
    split_ifs
    · exact List.subset_cons_self _ _
    · exact List.cons_subset_cons j ih

namespace Ledger

/-- The copies that are known. -/
def keys (l : Ledger ι α) : List ι := l.entries.map Prod.fst

theorem owed_eq_none_iff : l.owed i = none ↔ i ∉ l.keys := by
  rw [← Option.not_isSome_iff_eq_none, keys]
  exact not_congr owedAfter_isSome

omit [DecidableEq ι] in
@[simp] theorem keys_charge : (l.charge x).keys = l.keys := rfl

theorem keys_forget : (l.forget i).keys ⊆ l.keys := keys_squash

theorem owed_charge : (l.charge x).owed i = (l.owed i).map (· ⊔ x) := owedAfter_sup

variable [OrderBot α]

/-- Nobody owes more, or less, because a copy is not kept. -/
theorem owed_forget (hij : j ≠ i) : (l.forget i).owed j = l.owed j := by
  have h : owedAfter (⊥ ⊔ (squash l.current l.entries i).1) (squash l.current l.entries i).2 j =
      owedAfter (⊥ ⊔ l.current) l.entries j := owedAfter_squash hij
  rw [bot_sup_eq, bot_sup_eq] at h
  exact h

theorem keys_settle : (l.settle i).keys ⊆ i :: l.keys := List.cons_subset_cons i keys_forget

theorem owed_settle_self : (l.settle i).owed i = some ⊥ := if_pos rfl

theorem owed_settle (hij : j ≠ i) : (l.settle i).owed j = l.owed j := by
  show owedAfter ⊥ ((i, (l.forget i).current) :: (l.forget i).entries) j = _
  rw [owedAfter, if_neg (Ne.symm hij), bot_sup_eq]
  exact owed_forget hij

end Ledger

end Owed

section Sound

variable {ι : Type u} {X : Type v} {β : Type w} [DecidableEq ι] [DecidableEq X]

/-- Inside the room, and where nothing is owed, a copy is as the value. -/
def Agrees (room : Finset X) (value copy : X → β) (owed : Finset X) : Prop :=
  ∀ x ∈ room, x ∉ owed → copy x = value x

/-- Every copy among `kept` is as the value, but for what it owes. -/
def Sound (room : Finset X) (kept : ι → Prop) (value : X → β) (copy : ι → X → β)
    (l : Ledger ι (Finset X)) : Prop :=
  ∀ i, kept i → ∀ owed ∈ l.owed i, Agrees room value (copy i) owed

variable {room : Finset X} {kept kept' : ι → Prop} {value value' : X → β} {copy copy' : ι → X → β}
  {l : Ledger ι (Finset X)} {i : ι}

/-- What is outside of the room does not matter. -/
theorem Sound.congr (h : Sound room kept value copy l) (hvalue : ∀ x ∈ room, value' x = value x)
    (hkept : ∀ j, kept' j → kept j ∨ l.owed j = none) (hcopy : ∀ j, kept j → copy' j = copy j) :
    Sound room kept' value' copy' l := by
  intro j hj owed howed x hx hnot
  rcases hkept j hj with hj | hnone
  · rw [hcopy j hj, hvalue x hx]
    exact h j hj owed howed x hx hnot
  · rw [Option.mem_def, hnone] at howed
    cases howed

/-- The value changes, and the ledger is told where. -/
theorem Sound.change (h : Sound room kept value copy l) {changed : Finset X}
    (hvalue : ∀ x ∈ room, x ∉ changed → value' x = value x) :
    Sound room kept value' copy (l.charge changed) := by
  intro i hi owed howed x hx hnot
  rw [Ledger.owed_charge, Option.mem_def, Option.map_eq_some_iff] at howed
  obtain ⟨before, hbefore, rfl⟩ := howed
  rw [Finset.sup_eq_union, Finset.mem_union, not_or] at hnot
  rw [hvalue x hx hnot.2]
  exact h i hi before hbefore x hx hnot.1

/-- A copy is brought up to date. -/
theorem Sound.refresh (h : Sound room kept value copy l) (hcopy : ∀ x ∈ room, copy' i x = value x)
    (helse : ∀ j, kept j → j ≠ i → copy' j = copy j) :
    Sound room kept value copy' (l.settle i) := by
  intro j hj owed howed x hx hnot
  by_cases hji : j = i
  · subst hji
    exact hcopy x hx
  · rw [Ledger.owed_settle hji] at howed
    rw [helse j hj hji]
    exact h j hj owed howed x hx hnot

theorem Sound.forget (h : Sound room kept value copy l) (hkept : ∀ j, kept' j → kept j)
    (hi : ¬ kept' i) : Sound room kept' value copy (l.forget i) := by
  intro j hj owed howed
  rw [Ledger.owed_forget (by rintro rfl; exact hi hj)] at howed
  exact h j (hkept j hj) owed howed

/-- A copy that owes everything may be anything. -/
theorem Sound.spoil (h : Sound room kept value copy l) (hall : ∀ owed ∈ l.owed i, room ⊆ owed)
    (helse : ∀ j, kept j → j ≠ i → copy' j = copy j) : Sound room kept value copy' l := by
  intro j hj owed howed x hx hnot
  by_cases hji : j = i
  · subst hji
    exact absurd (hall owed howed hx) hnot
  · rw [helse j hj hji]
    exact h j hj owed howed x hx hnot

end Sound

end Debt
