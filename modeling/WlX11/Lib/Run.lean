/-!
# Runs — partial step functions, invariants and guarded runs

A transition system here is a *partial step function* `step : σ → α → Option σ`: an action that is
not enabled in a state (or that ends the session) gives `none`. Nothing in this module is about any
particular program; the systems of the other modules instantiate it.

* **`run`** executes a list of actions, left to right.
* **`Along`** says that every step a run takes meets a condition on (state before, action).
* **`run_invariant`** — what each step preserves, a whole run preserves; **`run_related`** is the same for
  two runs of the same actions.
* **`run_invariant_of_along`** — the same for an invariant that only steps meeting a condition
  preserve.
* **`along_of_step`**, **`along_of_invariant`**, **`along_congr`**, **`along_iff_along`**,
  **`along_iff_of_step`**, **`along_iff_of_guarded`** — a condition on steps that follows from (or is
  equivalent to another one under) an invariant holds along the whole run.
-/

namespace Run

universe u v

variable {σ : Type u} {α : Type v}

/-- Execute the actions in order; `none` as soon as one is not enabled. -/
def run (step : σ → α → Option σ) : σ → List α → Option σ
  | s, [] => some s
  | s, a :: as => (step s a).bind fun s' => run step s' as

/-- `s` is reached from `init` by some run. -/
def Reachable (step : σ → α → Option σ) (init s : σ) : Prop :=
  ∃ as, run step init as = some s

/-- Every step the run from `s` takes meets `P`. A run that stops early is only asked about the
steps up to and including the one that is not enabled. -/
def Along (step : σ → α → Option σ) (P : σ → α → Prop) : σ → List α → Prop
  | _, [] => True
  | s, a :: as => P s a ∧ match step s a with
    | none => True
    | some s' => Along step P s' as

/-- The decision procedure follows the run, so a condition is evaluated only at states the run
really visits. -/
def decideAlong (step : σ → α → Option σ) (P : σ → α → Prop) [∀ s a, Decidable (P s a)] :
    (s : σ) → (as : List α) → Decidable (Along step P s as)
  | _, [] => isTrue trivial
  | s, a :: as =>
    match h : step s a with
    | none => decidable_of_iff (P s a) (by simp [Along, h])
    | some s' =>
      have := decideAlong step P s' as
      decidable_of_iff (P s a ∧ Along step P s' as) (by simp [Along, h])

instance (step : σ → α → Option σ) (P : σ → α → Prop) [∀ s a, Decidable (P s a)]
    (s : σ) (as : List α) : Decidable (Along step P s as) :=
  decideAlong step P s as

section Rules

variable {step : σ → α → Option σ} {P Q : σ → α → Prop} {I : σ → Prop}
  {s t : σ} {a : α} {as bs : List α}

@[simp] theorem run_nil : run step s [] = some s := rfl

theorem run_cons : run step s (a :: as) = (step s a).bind fun s' => run step s' as := rfl

/-- A run that starts with `a` takes that step first. -/
theorem run_cons_inv (h : run step s (a :: as) = some t) :
    ∃ s', step s a = some s' ∧ run step s' as = some t :=
  Option.bind_eq_some_iff.mp h

/-- What is asked of every state a step leads to is asked of the one it does lead to. -/
theorem forall_step_iff {p : σ → Prop} (h : step s a = some t) :
    (∀ t', step s a = some t' → p t') ↔ p t := by
  constructor
  · exact fun hall => hall t h
  · intro ht t' h'
    rw [h] at h'
    cases h'
    exact ht

theorem run_append : run step s (as ++ bs) = (run step s as).bind fun s' => run step s' bs := by
  induction as generalizing s with
  | nil => rfl
  | cons a as ih =>
    rw [List.cons_append, run_cons, run_cons, Option.bind_assoc]
    exact Option.bind_congr fun s' _ => ih

/-- **Invariant rule.** What every step preserves, every run preserves. -/
theorem run_invariant (hstep : ∀ s a t, I s → step s a = some t → I t)
    (hs : I s) (h : run step s as = some t) : I t := by
  induction as generalizing s with
  | nil => cases h; exact hs
  | cons a as ih =>
    obtain ⟨s', ha, has⟩ := run_cons_inv h
    exact ih (hstep s a s' hs ha) has

/-- **Two runs of the same actions.** What is preserved when both take a step is preserved when both take
a run. -/
theorem run_related {R : σ → σ → Prop} {s' t' : σ}
    (hstep : ∀ s t a s' t', R s t → step s a = some s' → step t a = some t' → R s' t')
    (h : R s t) (hs : run step s as = some s') (ht : run step t as = some t') : R s' t' := by
  induction as generalizing s t with
  | nil => cases hs; cases ht; exact h
  | cons a as ih =>
    obtain ⟨s₁, hs₁, hs⟩ := run_cons_inv hs
    obtain ⟨t₁, ht₁, ht⟩ := run_cons_inv ht
    exact ih (hstep s t a s₁ t₁ h hs₁ ht₁) hs ht

theorem Reachable.refl (s : σ) : Reachable step s s := ⟨[], rfl⟩

theorem Reachable.of_step (h : step s a = some t) : Reachable step s t :=
  ⟨[a], by rw [run_cons, h]; rfl⟩

/-- One run after another. -/
theorem Reachable.trans {u : σ} (h : Reachable step s t) (h' : Reachable step t u) : Reachable step s u := by
  obtain ⟨as, has⟩ := h
  obtain ⟨bs, hbs⟩ := h'
  exact ⟨as ++ bs, by rw [run_append, has, Option.bind_some, hbs]⟩

theorem Reachable.invariant (h : Reachable step s t) (hstep : ∀ s a t, I s → step s a = some t → I t) (hs : I s) :
    I t := by
  obtain ⟨as, has⟩ := h
  exact run_invariant hstep hs has

theorem along_cons (h : step s a = some t) :
    Along step P s (a :: as) ↔ P s a ∧ Along step P t as := by
  simp [Along, h]

theorem along_append (h : run step s as = some t) :
    Along step P s (as ++ bs) ↔ Along step P s as ∧ Along step P t bs := by
  induction as generalizing s with
  | nil => cases h; simp [Along]
  | cons a as ih =>
    obtain ⟨s', ha, has⟩ := run_cons_inv h
    rw [List.cons_append, along_cons ha, along_cons ha, ih has, and_assoc]

theorem along_of_forall (h : ∀ s a, P s a) : Along step P s as := by
  induction as generalizing s with
  | nil => trivial
  | cons a as ih =>
    refine ⟨h s a, ?_⟩
    cases step s a with
    | none => trivial
    | some s' => exact ih

/-- **Conditions that hold on the way.** An invariant under which every step meets `Q`, and which every
step preserves. -/
theorem along_of_step (hstep : ∀ s a, I s → Q s a ∧ ∀ t, step s a = some t → I t) (hs : I s) :
    Along step Q s as := by
  induction as generalizing s with
  | nil => trivial
  | cons a as ih =>
    obtain ⟨hQ, hnext⟩ := hstep s a hs
    refine ⟨hQ, ?_⟩
    cases ha : step s a with
    | none => trivial
    | some s' => exact ih (hnext s' ha)

/-- A condition on the actions alone. -/
theorem along_of_mem {C : α → Prop} (h : ∀ a ∈ as, C a) : Along step (fun _ a => C a) s as := by
  induction as generalizing s with
  | nil => trivial
  | cons a as ih =>
    refine ⟨h a List.mem_cons_self, ?_⟩
    cases step s a with
    | none => trivial
    | some s' => exact ih fun b hb => h b (List.mem_cons_of_mem a hb)

/-- **Guarded invariant rule.** If every step *that meets `P`* preserves `I`, then `I` holds at the
end of every run whose steps all meet `P`. -/
theorem run_invariant_of_along (hstep : ∀ s a t, I s → P s a → step s a = some t → I t)
    (hs : I s) (hP : Along step P s as) (h : run step s as = some t) : I t := by
  induction as generalizing s with
  | nil => cases h; exact hs
  | cons a as ih =>
    obtain ⟨s', ha, has⟩ := run_cons_inv h
    obtain ⟨hPa, hPas⟩ := (along_cons ha).mp hP
    exact ih (hstep s a s' hs hPa ha) hPas has

theorem Along.and (hP : Along step P s as) (hQ : Along step Q s as) :
    Along step (fun s a => P s a ∧ Q s a) s as := by
  induction as generalizing s with
  | nil => trivial
  | cons a as ih =>
    refine ⟨⟨hP.1, hQ.1⟩, ?_⟩
    cases ha : step s a with
    | none => trivial
    | some s' => exact ih ((along_cons ha).mp hP).2 ((along_cons ha).mp hQ).2

/-- **Step conditions from an invariant.** Steps that meet `P` preserve `I` and meet `Q`, so a run
whose steps meet `P` meets `Q` all along. -/
theorem along_of_invariant (hstep : ∀ s a t, I s → P s a → step s a = some t → I t)
    (hQ : ∀ s a, I s → P s a → Q s a) (hs : I s) (hP : Along step P s as) :
    Along step Q s as := by
  induction as generalizing s with
  | nil => trivial
  | cons a as ih =>
    refine ⟨hQ s a hs hP.1, ?_⟩
    cases ha : step s a with
    | none => trivial
    | some s' =>
      obtain ⟨hPa, hPas⟩ := (along_cons ha).mp hP
      exact ih (hstep s a s' hs hPa ha) hPas

/-- **Equivalent step conditions.** Two conditions equivalent under an invariant hold along the
same runs. -/
theorem along_congr (hstep : ∀ s a t, I s → step s a = some t → I t)
    (hPQ : ∀ s a, I s → (P s a ↔ Q s a)) (hs : I s) :
    Along step P s as ↔ Along step Q s as := by
  induction as generalizing s with
  | nil => exact Iff.rfl
  | cons a as ih =>
    refine and_congr (hPQ s a hs) ?_
    cases ha : step s a with
    | none => exact Iff.rfl
    | some s' => exact ih (hstep s a s' hs ha)

/-- **Equivalent step conditions on a completed run.** Within runs whose steps meet `P`: if `Q` and
`R` agree on each step taken from a state meeting `I`, and a step meeting `Q` preserves `I`, then
`Q` holds along the run iff `R` does. -/
theorem along_iff_along {R : σ → α → Prop}
    (hstep : ∀ s a t, I s → P s a → Q s a → step s a = some t → I t)
    (hQR : ∀ s a t, I s → P s a → step s a = some t → (Q s a ↔ R s a))
    (hs : I s) (hP : Along step P s as) (h : run step s as = some t) :
    Along step Q s as ↔ Along step R s as := by
  induction as generalizing s with
  | nil => exact Iff.rfl
  | cons a as ih =>
    obtain ⟨s', ha, has⟩ := run_cons_inv h
    obtain ⟨hPa, hPas⟩ := (along_cons ha).mp hP
    rw [along_cons ha, along_cons ha, ← hQR s a s' hs hPa ha]
    exact and_congr_right fun hQa => ih (hstep s a s' hs hPa hQa ha) hPas has

/-- **Equivalent step conditions on any completed run.** As `along_iff_along`, where nothing else is asked
of the steps. -/
theorem along_iff_of_step {R : σ → α → Prop}
    (hstep : ∀ s a t, I s → Q s a → step s a = some t → I t)
    (hQR : ∀ s a t, I s → step s a = some t → (Q s a ↔ R s a))
    (hs : I s) (h : run step s as = some t) : Along step Q s as ↔ Along step R s as :=
  along_iff_along (P := fun _ _ => True) (fun s a t hI _ => hstep s a t hI)
    (fun s a t hI _ => hQR s a t hI) hs (along_of_forall fun _ _ => trivial) h

/-- **A ghost that keeps score.** If, under an invariant, a step leaves the score clean exactly when it was
and the step meets `P`, then it is clean after a run exactly when it was before and every step has met
`P`. -/
theorem clean_iff_along {C : σ → Prop}
    (hstep : ∀ s a t, I s → step s a = some t → I t ∧ (C t ↔ C s ∧ P s a))
    (hs : I s) (h : run step s as = some t) : C t ↔ C s ∧ Along step P s as := by
  induction as generalizing s with
  | nil => cases h; simp [Along]
  | cons a as ih =>
    obtain ⟨s', ha, has⟩ := run_cons_inv h
    obtain ⟨hs', hclean⟩ := hstep s a s' hs ha
    rw [ih hs' has, hclean, along_cons ha, and_assoc]

/-- **Equivalent step conditions, to the first step that fails.** As `along_iff_along`, for runs that may
end in a step that is not enabled. -/
theorem along_iff_of_guarded (hstep : ∀ s a t, I s → P s a → step s a = some t → I t)
    (hPQ : ∀ s a, I s → (P s a ↔ Q s a)) (hs : I s) :
    Along step P s as ↔ Along step Q s as := by
  induction as generalizing s with
  | nil => exact Iff.rfl
  | cons a as ih =>
    show (P s a ∧ _) ↔ (Q s a ∧ _)
    rw [← hPQ s a hs]
    refine and_congr_right fun hPa => ?_
    cases ha : step s a with
    | none => exact Iff.rfl
    | some s' => exact ih (hstep s a s' hs hPa ha)

end Rules

end Run
