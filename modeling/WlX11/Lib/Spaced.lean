import Mathlib.Data.List.Pairwise

/-!
# Spaced logs — what a rate limiter guarantees

A log of times, newest first, is *spaced* by `d` when any two of its entries are at least `d` apart.
That is what a limiter keeps which lets an event pass only if `d` has gone by since the last one it let
pass. Nothing in this module is about any particular program.

* **`Spaced`** and **`Spaced.cons`** — the log, and how a limiter extends it.
* **`inWindow`** — the entries within `[t, t + d)`.
* **`Spaced.inWindow_le_one`** — a spaced log has at most one of them.
-/

namespace Rate

/-- Any two entries are at least `d` apart; the newest comes first. -/
def Spaced (d : Int) (log : List Int) : Prop :=
  log.Pairwise fun newer older => older + d ≤ newer

/-- The entries within the half-open window of length `d` from `t` on. -/
def inWindow (t d : Int) (log : List Int) : List Int :=
  log.filter fun s => t ≤ s && s < t + d

variable {t d now : Int} {log : List Int}

@[simp] theorem spaced_nil : Spaced d [] := List.Pairwise.nil

/-- Comparing with the last entry is enough. -/
theorem Spaced.cons (h : Spaced d log) (hd : 0 ≤ d) (hlast : ∀ last ∈ log.head?, last + d ≤ now) :
    Spaced d (now :: log) := by
  refine List.Pairwise.cons (fun older hmem => ?_) h
  cases log with
  | nil => cases hmem
  | cons last rest =>
    have hnow : last + d ≤ now := hlast last rfl
    rcases List.mem_cons.mp hmem with rfl | hrest
    · exact hnow
    · -- older entries are older than the last one
      have hlastOld : older + d ≤ last := List.rel_of_pairwise_cons h hrest
      omega

@[simp] theorem inWindow_append (older : List Int) :
    inWindow t d (log ++ older) = inWindow t d log ++ inWindow t d older :=
  List.filter_append ..

theorem inWindow_singleton_length (s : Int) : (inWindow t d [s]).length ≤ 1 :=
  List.length_filter_le ..

/-- **A spaced log has at most one entry in a window.** -/
theorem Spaced.inWindow_le_one (h : Spaced d log) : (inWindow t d log).length ≤ 1 := by
  induction log with
  | nil => simp [inWindow]
  | cons now log ih =>
    have hrest : Spaced d log := h.of_cons
    unfold inWindow
    rw [List.filter_cons]
    split
    · next hnow =>
      -- every older entry lies before the window
      have hnone : (log.filter fun s => t ≤ s && s < t + d) = [] := by
        apply List.filter_eq_nil_iff.mpr
        intro older hmem
        have hold : older + d ≤ now := List.rel_of_pairwise_cons h hmem
        simp only [Bool.and_eq_true, decide_eq_true_eq] at hnow ⊢
        omega
      rw [hnone]
      exact Nat.le_refl 1
    · exact ih hrest

end Rate
