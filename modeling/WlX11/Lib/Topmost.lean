/-!
# Topmost — the last element of a stack that meets a test

A stack is a list, bottom first. Nothing in this module is about any particular program.

* **`topmost`** — the last element that meets a test.
* **`topmost_of_sublist`** — what is on top of a part of a stack is on top of the whole, as far as
  the whole puts an element of the part on top.
-/

universe u

variable {α : Type u}

/-- The last element of the list that meets `p`. -/
def topmost (p : α → Bool) : List α → Option α
  | [] => none
  | a :: as => (topmost p as).or (if p a then some a else none)

section Topmost

variable {p q : α → Bool} {a b : α} {as bs : List α}

theorem topmost_append (p : α → Bool) (as bs : List α) :
    topmost p (as ++ bs) = (topmost p bs).or (topmost p as) := by
  induction as with
  | nil => exact (Option.or_none ..).symm
  | cons a as ih =>
    show (topmost p (as ++ bs)).or _ = (topmost p bs).or ((topmost p as).or _)
    rw [ih, Option.or_assoc]

/-- What is on top is in the stack and meets the test. -/
theorem topmost_spec (h : topmost p as = some a) : a ∈ as ∧ p a = true := by
  induction as with
  | nil => cases h
  | cons b as ih =>
    rw [topmost, Option.or_eq_some_iff] at h
    rcases h with h | ⟨-, h⟩
    · exact ⟨List.mem_cons_of_mem b (ih h).1, (ih h).2⟩
    · obtain ⟨hp, hab⟩ := Option.ite_none_right_eq_some.mp h
      cases hab
      exact ⟨List.mem_cons_self, hp⟩

/-- Nothing is on top only if nothing meets the test. -/
theorem topmost_eq_none (h : topmost p as = none) (ha : a ∈ as) : p a = false := by
  induction as with
  | nil => cases ha
  | cons b as ih =>
    rw [topmost, Option.or_eq_none_iff] at h
    rcases List.mem_cons.mp ha with rfl | ha
    · cases hp : p a with
      | false => rfl
      | true =>
        rw [hp] at h
        cases h.2
    · exact ih h.1 ha

/-- **What is on top of a part of a stack, and meets a further test, is on top of what meets both in
the whole**, if an element of the part is. -/
theorem topmost_of_sublist (h : as.Sublist bs) (hnodup : bs.Nodup) (ha : topmost p as = some a)
    (hq : q a = true) (hb : topmost (fun c => p c && q c) bs = some b) (hmem : b ∈ as) : b = a := by
  induction h with
  | slnil => cases ha
  | cons c hsub ih =>
    have hnotin := (List.nodup_cons.mp hnodup).1
    rw [topmost, Option.or_eq_some_iff] at hb
    rcases hb with hb | ⟨-, hb⟩
    · exact ih (List.nodup_cons.mp hnodup).2 ha hb hmem
    · obtain ⟨-, hbc⟩ := Option.ite_none_right_eq_some.mp hb
      cases hbc
      exact absurd (hsub.subset hmem) hnotin
  | @cons_cons as bs c hsub ih =>
    obtain ⟨hnotin, hnodup⟩ := List.nodup_cons.mp hnodup
    rw [topmost, Option.or_eq_some_iff] at ha hb
    -- above `c` the whole has an element of the part on top, or none at all
    have habove : ∀ d, topmost (fun c => p c && q c) bs = some d → d = b → d ∈ as := by
      rintro d hd rfl
      rcases List.mem_cons.mp hmem with rfl | hmem
      · exact absurd (topmost_spec hd).1 hnotin
      · exact hmem
    rcases ha with ha | ⟨hnone, ha⟩
    · rcases hb with hb | ⟨hnone, -⟩
      · exact ih hnodup ha hb (habove b hb rfl)
      · have hspec := topmost_spec ha
        have hfalse := topmost_eq_none hnone (hsub.subset hspec.1)
        rw [hspec.2, hq] at hfalse
        cases hfalse
    · obtain ⟨-, hca⟩ := Option.ite_none_right_eq_some.mp ha
      cases hca
      rcases hb with hb | ⟨-, hb⟩
      · have hfalse := topmost_eq_none hnone (habove b hb rfl)
        have hspec := (topmost_spec hb).2
        rw [hfalse] at hspec
        cases hspec
      · obtain ⟨-, hcb⟩ := Option.ite_none_right_eq_some.mp hb
        exact (Option.some.inj hcb).symm

end Topmost
