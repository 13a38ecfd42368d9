import Mathlib.Data.List.Basic

/-!
# Write loops

A loop that hands the rest of a buffer to a `write` call until all of it is taken. A call takes some of
what it is given, is interrupted and made again, or fails for another reason, which ends the loop. What
the calls return is a list, as long as need be; nothing in this module is about any particular buffer.

* **`write`** — what has been taken when the loop ends.
* **`write_eq_take`** — it is a prefix of the buffer, as long as what was taken before a failure.
* **`write_isSome_iff`** — when the loop ends.
-/

namespace WriteLoop

universe u

variable {α : Type u}

/-- What one call returns. -/
inductive Outcome where
  /-- there is room for `n + 1` elements, and no more are taken -/
  | took (n : Nat)
  | interrupted
  | failed
deriving DecidableEq

/-- What is taken of `left`; `none` if the loop goes on after these outcomes. -/
def write : List α → List Outcome → Option (List α)
  | [], _ => some []
  | _ :: _, [] => none
  | left@(_ :: _), .took n :: os => (write (left.drop (n + 1)) os).map (left.take (n + 1) ++ ·)
  | left@(_ :: _), .interrupted :: os => write left os
  | _ :: _, .failed :: _ => some []

/-- How much room there is before a call fails. -/
def room : List Outcome → Nat
  | [] => 0
  | .took n :: os => n + 1 + room os
  | .interrupted :: os => room os
  | .failed :: _ => 0

/-- The loop loses nothing before a failure, and repeats nothing. -/
theorem write_eq_take {left taken : List α} {os : List Outcome} (h : write left os = some taken) :
    taken = left.take (room os) := by
  induction os generalizing left taken with
  | nil =>
    cases left with
    | nil =>
      cases h
      rfl
    | cons x xs => cases h
  | cons o os ih =>
    cases left with
    | nil =>
      cases h
      rw [List.take_nil]
    | cons x xs =>
      cases o with
      | took n =>
        obtain ⟨rest, hrest, rfl⟩ := Option.map_eq_some_iff.mp h
        rw [ih hrest, room]
        exact List.take_add.symm
      | interrupted => exact ih h
      | failed =>
        cases h
        rfl

theorem write_eq_self_iff {left taken : List α} {os : List Outcome} (h : write left os = some taken) :
    taken = left ↔ left.length ≤ room os := by
  rw [write_eq_take h]
  constructor
  · intro htake
    have hlen := congrArg List.length htake
    rw [List.length_take] at hlen
    omega
  · exact List.take_of_length_le

/-- It ends as soon as there has been room for everything, or a call has failed. -/
theorem write_isSome_iff {left : List α} {os : List Outcome} :
    (write left os).isSome = true ↔ left.length ≤ room os ∨ .failed ∈ os := by
  induction os generalizing left with
  | nil =>
    cases left with
    | nil => simp [write]
    | cons x xs => simp [write, room]
  | cons o os ih =>
    cases left with
    | nil => simp [write]
    | cons x xs =>
      cases o with
      | took n =>
        rw [write, Option.isSome_map, ih, room, List.length_drop]
        simp only [List.mem_cons, reduceCtorEq, false_or]
        exact or_congr (by omega) Iff.rfl
      | interrupted => simp [write, ih, room]
      | failed => simp [write]

end WriteLoop
