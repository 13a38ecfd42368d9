import Mathlib.Data.Option.Basic
import Mathlib.Data.Sum.Basic

/-!
# Chase — following pointers to an end

A step from a place leads to another place or to a result. Nothing in this module is about any
particular program.

* **`run`** — so many steps, and the result if they lead to one.
* **`Leads`** — the result there is in the end. **`exists_run_iff`**: it is what some number of steps
  leads to, **`Leads.unique`**: and the only one.
* **`Leads.transfer`** — places from which two systems agree lead to the same.
-/

namespace Chase

universe u v

variable {α : Type u} {β : Type v}

/-- At most `n` steps from a place. -/
def run (next : α → α ⊕ β) : Nat → α → Option β
  | 0, _ => none
  | n + 1, a => match next a with
    | .inl a' => run next n a'
    | .inr b => some b

/-- The chase from this place ends with this result. -/
inductive Leads (next : α → α ⊕ β) : α → β → Prop
  | stop {a b} : next a = .inr b → Leads next a b
  | go {a a' b} : next a = .inl a' → Leads next a' b → Leads next a b

section Rules

variable {next next' : α → α ⊕ β} {a a' : α} {b b' : β} {n : Nat}

theorem leads_inr_iff (h : next a = .inr b') : Leads next a b ↔ b = b' := by
  constructor
  · rintro (h' | ⟨h', -⟩)
    · rw [h] at h'
      exact (Sum.inr.inj h').symm
    · rw [h] at h'
      cases h'
  · rintro rfl
    exact .stop h

theorem leads_inl_iff (h : next a = .inl a') : Leads next a b ↔ Leads next a' b := by
  constructor
  · rintro (h' | ⟨h', hleads⟩)
    · rw [h] at h'
      cases h'
    · rw [h] at h'
      exact Sum.inl.inj h' ▸ hleads
  · exact .go h

theorem Leads.unique (h : Leads next a b) (h' : Leads next a b') : b = b' := by
  induction h with
  | stop hstop => exact ((leads_inr_iff hstop).mp h').symm
  | go hgo _ ih => exact ih ((leads_inl_iff hgo).mp h')

theorem leads_of_run (h : run next n a = some b) : Leads next a b := by
  induction n generalizing a with
  | zero => cases h
  | succ n ih =>
    unfold run at h
    split at h
    · exact .go ‹_› (ih h)
    · exact .stop (Option.some.inj h ▸ ‹_›)

/-- **The end of a chase** is what enough steps find. -/
theorem exists_run_iff : (∃ n, run next n a = some b) ↔ Leads next a b := by
  constructor
  · rintro ⟨n, h⟩
    exact leads_of_run h
  · intro h
    induction h with
    | stop hstop =>
      refine ⟨1, ?_⟩
      unfold run
      rw [hstop]
    | go hgo _ ih =>
      obtain ⟨n, hn⟩ := ih
      refine ⟨n + 1, ?_⟩
      unfold run
      rw [hgo]
      exact hn

/-- **Transfer.** Where a property of places is kept on the way, and the other system does the same as
long as it holds, the chases lead to the same result. -/
theorem Leads.transfer {P : α → Prop} (h : Leads next a b) (ha : P a)
    (hgo : ∀ a a', P a → next a = .inl a' → Leads next a' b → next' a = .inl a' ∧ P a')
    (hstop : ∀ a, P a → next a = .inr b → next' a = .inr b) : Leads next' a b := by
  induction h with
  | stop hend => exact .stop (hstop _ ha hend)
  | go hstep hleads ih =>
    obtain ⟨hstep', ha'⟩ := hgo _ _ ha hstep hleads
    exact .go hstep' (ih ha' hgo hstop)

end Rules

end Chase
