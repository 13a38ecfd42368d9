import Mathlib.Data.List.Basic
import Mathlib.Algebra.Ring.Nat

/-!
# Buffers that grow by doubling

A block of memory that takes chunks of any size, one behind the other, and always ends in a terminator: a
pointer, the number of elements in use and the number there is room for. Sizes are unsigned machine
words. What would be undefined, or wrong without notice, is a `Fault` here: a store outside of the block, a
load of what was never stored, a size that does not fit a word, a loop that does not end. Nothing in this
module is about any particular program.

* **`doubleTo`** — `while (ncap < need) ncap *= 2;`
* **`Buffer.append`** — make room for a chunk and its terminator, copy it, terminate it.
* **`Buffer.Holds`** — the block is as large as noted, and begins with what was read and the terminator.
* **`Buffer.append_of_holds`** — a chunk is appended without a fault, or there was no memory for it.
-/

namespace GrowBuffer

/-- What must not happen. -/
inductive Fault where
  /-- a size is too large for a word -/
  | overflow
  /-- the loop goes on for ever -/
  | endless
  /-- a store or load is not within the block -/
  | outside
  /-- a load finds nothing stored -/
  | unwritten
deriving DecidableEq, Repr

/-- A size, if it fits a word of `bits` bits. -/
def size (bits n : Nat) : Except Fault Nat :=
  if n < 2 ^ bits then .ok n else .error .overflow

/-- `while (ncap < need) ncap *= 2;`, for so many turns. -/
def doubleTo (bits need : Nat) : Nat → Nat → Except Fault Nat
  | 0, ncap => if ncap < need then .error .endless else .ok ncap
  | turns + 1, ncap =>
    if ncap < need then do
      let ncap ← size bits (ncap * 2)
      doubleTo bits need turns ncap
    else .ok ncap

/-- `memcpy`: `src` over the cells from `i` on. -/
def store {α : Type} (cells : List (Option α)) (i : Nat) (src : List α) :
    Except Fault (List (Option α)) :=
  if i + src.length ≤ cells.length then
    .ok (cells.take i ++ (src.map some ++ cells.drop (i + src.length)))
  else .error .outside

/-- The elements of cells that are all written. -/
def load {α : Type} : List (Option α) → Except Fault (List α)
  | [] => .ok []
  | none :: _ => .error .unwritten
  | some x :: cells => do
    let xs ← load cells
    return x :: xs

/-- The pointer, what is in use, and what there is room for. -/
structure Buffer (α : Type) where
  /-- the block it points to; a cell nothing was stored in is `none` -/
  block : Option (List (Option α))
  len : Nat
  cap : Nat
deriving DecidableEq, Repr

namespace Buffer

variable {α : Type}

/-- Nothing allocated. -/
def null : Buffer α := ⟨none, 0, 0⟩

/-- The cells there are: none behind a null pointer. -/
def cells (b : Buffer α) : List (Option α) := b.block.getD []

/-- A chunk of `n` and the terminator do not fit. -/
def Grows (b : Buffer α) (n : Nat) : Prop := b.cap < b.len + n + 1

instance (b : Buffer α) (n : Nat) : Decidable (b.Grows n) := inferInstanceAs (Decidable (_ < _))

/-- What `realloc` returns: the old cells as far as they fit, and new ones. -/
def realloc (b : Buffer α) (ncap : Nat) : Buffer α :=
  { b with
    block := some (b.cells.take ncap ++ List.replicate (ncap - b.cells.length) none)
    cap := ncap }

/-- `cap ? cap * 2 : first`, where the doubling begins. -/
def startCap (bits first : Nat) (b : Buffer α) : Except Fault Nat :=
  if b.cap = 0 then .ok first else size bits (b.cap * 2)

/-- Make room for a chunk of `n` and the terminator; `none` if `realloc` fails. -/
def reserve (bits first : Nat) (alloc : Bool) (n : Nat) (b : Buffer α) :
    Except Fault (Option (Buffer α)) := do
  let need ← size bits (b.len + n + 1)
  if b.cap < need then
    let ncap ← b.startCap bits first
    let ncap ← doubleTo bits need bits ncap
    return if alloc then some (b.realloc ncap) else none
  else return some b

/-- Copy the chunk behind what is in use, and terminate it. -/
def put (bits : Nat) (nul : α) (chunk : List α) (b : Buffer α) : Except Fault (Buffer α) := do
  let cells ← store b.cells b.len chunk
  let len ← size bits (b.len + chunk.length)
  let cells ← store cells len [nul]
  return { b with block := some cells, len := len }

/-- `reserve`, and `put` if there was memory. -/
def append (bits first : Nat) (nul : α) (alloc : Bool) (chunk : List α) (b : Buffer α) :
    Except Fault (Option (Buffer α)) := do
  match ← b.reserve bits first alloc chunk.length with
  | none => return none
  | some b =>
    let b ← b.put bits nul chunk
    return some b

/-- What is in use. -/
def contents (b : Buffer α) : Except Fault (List α) :=
  if b.len ≤ b.cells.length then load (b.cells.take b.len) else .error .outside

/-- The block is of the size noted, and begins with `read`. -/
structure Begins (b : Buffer α) (read : List α) : Prop where
  cap : b.cells.length = b.cap
  len : b.len = read.length
  prefix_eq : b.cells.take b.len = read.map some

/-- And the terminator follows. -/
structure Holds (nul : α) (b : Buffer α) (read : List α) : Prop extends Begins b read where
  terminated : b.block.isSome → b.cells[b.len]? = some (some nul)

end Buffer

/-! ## Sizes -/

section Sizes

variable {bits need turns ncap n : Nat}

theorem size_of_lt (h : n < 2 ^ bits) : size bits n = .ok n := if_pos h

/-- From anything but zero the loop ends, and no product is twice what is needed. -/
theorem doubleTo_of_pos (hpos : 0 < ncap) (hneed : 2 * need ≤ 2 ^ bits) (hturns : need ≤ ncap * 2 ^ turns) :
    ∃ c, doubleTo bits need turns ncap = .ok c ∧ need ≤ c ∧ ncap ≤ c := by
  induction turns generalizing ncap with
  | zero =>
    rw [pow_zero, mul_one] at hturns
    exact ⟨ncap, if_neg (not_lt.mpr hturns), hturns, le_rfl⟩
  | succ turns ih =>
    -- a turn doubles the capacity, and half of the turns' power is left for the rest
    by_cases hlt : ncap < need
    · have hnext : need ≤ ncap * 2 * 2 ^ turns := by
        rw [pow_succ] at hturns
        calc need ≤ ncap * (2 ^ turns * 2) := hturns
          _ = ncap * 2 * 2 ^ turns := by rw [mul_comm (2 ^ turns) 2, ← mul_assoc]
      obtain ⟨c, hc, hle, hge⟩ := ih (by omega) hnext
      refine ⟨c, ?_, hle, by omega⟩
      rw [doubleTo, if_pos hlt, size_of_lt (by omega)]
      exact hc
    · exact ⟨ncap, if_neg hlt, not_lt.mp hlt, le_rfl⟩

end Sizes

/-! ## Cells -/

section Cells

variable {α : Type} {cells : List (Option α)} {i : Nat} {src read : List α}

theorem store_of_le (h : i + src.length ≤ cells.length) :
    store cells i src = .ok (cells.take i ++ (src.map some ++ cells.drop (i + src.length))) :=
  if_pos h

theorem load_map_some (xs : List α) : load (xs.map some) = .ok xs := by
  induction xs with
  | nil => rfl
  | cons x xs ih =>
    rw [List.map_cons, load, ih]
    rfl

end Cells

namespace Buffer

section Holds

variable {α : Type} {b : Buffer α} {nul : α} {read chunk : List α} {bits first : Nat}

theorem holds_null (nul : α) : (null : Buffer α).Holds nul [] where
  cap := rfl
  len := rfl
  prefix_eq := rfl
  terminated := fun h => nomatch h

/-- The terminator is within the block. -/
theorem Holds.len_lt_cap (h : b.Holds nul read) (hblock : b.block.isSome) : b.len + 1 ≤ b.cap := by
  obtain ⟨hlt, -⟩ := List.getElem?_eq_some_iff.mp (h.terminated hblock)
  rw [← h.cap]
  exact hlt

theorem Begins.contents (h : b.Begins read) : b.contents = .ok read := by
  have hle : b.len ≤ b.cells.length := by
    have hlen := congrArg List.length h.prefix_eq
    rw [List.length_take, List.length_map, ← h.len] at hlen
    omega
  unfold Buffer.contents
  rw [if_pos hle, h.prefix_eq, load_map_some]

/-- A larger block begins as the old one. -/
theorem Begins.realloc (h : b.Begins read) {ncap : Nat} (hcap : b.cap ≤ ncap) :
    (b.realloc ncap).Begins read where
  cap := by
    show (b.cells.take ncap ++ List.replicate (ncap - b.cells.length) none).length = ncap
    rw [List.length_append, List.length_take, List.length_replicate, h.cap]
    omega
  len := h.len
  prefix_eq := by
    show (b.cells.take ncap ++ List.replicate (ncap - b.cells.length) none).take b.len = _
    have hlen := congrArg List.length h.prefix_eq
    rw [List.length_take, List.length_map, ← h.len] at hlen
    have hall : b.cells.take ncap = b.cells := List.take_of_length_le (by rw [h.cap]; exact hcap)
    rw [hall, List.take_append_of_le_length (by omega)]
    exact h.prefix_eq

theorem startCap_ok (b : Buffer α) (hfirst : 0 < first) (hcap : b.cap * 2 < 2 ^ bits) :
    ∃ start, b.startCap bits first = .ok start ∧ 0 < start ∧ b.cap ≤ start := by
  unfold startCap
  split
  · next hzero => exact ⟨first, rfl, hfirst, by omega⟩
  · next hpos => exact ⟨b.cap * 2, size_of_lt hcap, by omega, by omega⟩

/-- Room is made, or there is no memory for it. -/
theorem Begins.reserve (h : b.Begins read) (n : Nat) (alloc : Bool) (hfirst : 0 < first)
    (hbits : 2 * (read.length + n + 1) ≤ 2 ^ bits) :
    (b.Grows n ∧ alloc = false ∧ b.reserve bits first alloc n = .ok none) ∨
      ((b.Grows n → alloc = true) ∧ ∃ b', b.reserve bits first alloc n = .ok (some b') ∧
        b'.Begins read ∧ read.length + n + 1 ≤ b'.cap) := by
  rw [← h.len] at hbits ⊢
  have hsize : size bits (b.len + n + 1) = .ok (b.len + n + 1) := size_of_lt (by omega)
  by_cases hgrows : b.Grows n
  · have hlt : b.cap < b.len + n + 1 := hgrows
    obtain ⟨start, hstart, hpos, hcap⟩ := b.startCap_ok hfirst (show b.cap * 2 < 2 ^ bits by omega)
    -- as many turns as a size has bits are enough for any size
    have hturns : b.len + n + 1 ≤ start * 2 ^ bits :=
      le_trans (by omega) (Nat.le_mul_of_pos_left (2 ^ bits) hpos)
    obtain ⟨c, hc, hneed, hge⟩ := doubleTo_of_pos hpos hbits hturns
    have hreserve : b.reserve bits first alloc n = .ok (if alloc then some (b.realloc c) else none) := by
      unfold Buffer.reserve
      rw [hsize]
      show (if b.cap < b.len + n + 1 then _ else _ : Except Fault (Option (Buffer α))) = _
      rw [if_pos hlt]
      show (b.startCap bits first).bind _ = _
      rw [hstart]
      show (doubleTo bits (b.len + n + 1) bits start).bind _ = _
      rw [hc]
      rfl
    cases alloc with
    | false => exact .inl ⟨hgrows, rfl, hreserve⟩
    | true => exact .inr ⟨fun _ => rfl, b.realloc c, hreserve, h.realloc (le_trans hcap hge), hneed⟩
  · refine .inr ⟨fun hg => absurd hg hgrows, b, ?_, h, not_lt.mp hgrows⟩
    unfold Buffer.reserve
    rw [hsize]
    exact if_neg hgrows

/-- With room for it, a chunk is copied and terminated. -/
theorem Begins.put (h : b.Begins read) (nul : α) (hroom : read.length + chunk.length + 1 ≤ b.cap)
    (hbits : read.length + chunk.length < 2 ^ bits) :
    ∃ b', b.put bits nul chunk = .ok b' ∧ b'.block.isSome ∧ b'.Holds nul (read ++ chunk) := by
  -- the chunk comes behind what is in use, and the terminator is the first cell of the rest
  have hlen : (b.cells.take b.len).length = read.length := by rw [h.prefix_eq, List.length_map]
  have htake : b.cells.take b.len ++ (chunk.map some ++ b.cells.drop (b.len + chunk.length)) =
      (read ++ chunk).map some ++ b.cells.drop (b.len + chunk.length) := by
    rw [h.prefix_eq, List.map_append, List.append_assoc]
  have hcopied : ((read ++ chunk).map some ++ b.cells.drop (b.len + chunk.length)).length = b.cap := by
    rw [List.length_append, List.length_map, List.length_append, List.length_drop, h.cap, h.len]
    omega
  have hend : b.len + chunk.length = ((read ++ chunk).map some).length := by
    rw [List.length_map, List.length_append, h.len]
  refine ⟨⟨some ((read ++ chunk).map some ++ ([nul].map some ++
    (b.cells.drop (b.len + chunk.length)).drop 1)), b.len + chunk.length, b.cap⟩, ?_, rfl, ?_⟩
  · unfold Buffer.put
    rw [store_of_le (i := b.len) (by rw [h.cap, h.len]; omega), htake]
    show (size bits (b.len + chunk.length)).bind _ = _
    rw [size_of_lt (by rw [h.len]; exact hbits)]
    show (store _ (b.len + chunk.length) [nul]).bind _ = _
    rw [store_of_le (by rw [hcopied, h.len]; simpa using hroom)]
    refine congrArg Except.ok ?_
    rw [hend, List.take_left', List.drop_append]
    · simp
    · rfl
  · refine ⟨⟨?_, ?_, ?_⟩, fun _ => ?_⟩
    · show ((read ++ chunk).map some ++ ([nul].map some ++ _)).length = b.cap
      rw [← hcopied]
      have hrest : 1 ≤ (b.cells.drop (b.len + chunk.length)).length := by
        rw [List.length_drop, h.cap, h.len]
        omega
      simp only [List.length_append, List.length_map, List.length_drop, List.length_cons,
        List.length_nil] at hrest ⊢
      omega
    · show b.len + chunk.length = (read ++ chunk).length
      rw [List.length_append, h.len]
    · show ((read ++ chunk).map some ++ _).take (b.len + chunk.length) = _
      rw [hend]
      exact List.take_left' rfl
    · show ((read ++ chunk).map some ++ _)[b.len + chunk.length]? = _
      rw [hend, List.getElem?_append_right le_rfl, Nat.sub_self]
      rfl

/-- **A chunk is appended**, with its terminator and without a fault, or the memory for it is missing. -/
theorem Holds.append (h : b.Holds nul read) (chunk : List α) (alloc : Bool) (hfirst : 0 < first)
    (hbits : 2 * (read.length + chunk.length + 1) ≤ 2 ^ bits) :
    (b.Grows chunk.length ∧ alloc = false ∧ b.append bits first nul alloc chunk = .ok none) ∨
      ((b.Grows chunk.length → alloc = true) ∧ ∃ b', b.append bits first nul alloc chunk = .ok (some b') ∧
        b'.block.isSome ∧ b'.Holds nul (read ++ chunk)) := by
  rcases h.toBegins.reserve chunk.length alloc hfirst hbits with
    ⟨hgrows, halloc, hnone⟩ | ⟨halloc, b', hsome, hbegins, hroom⟩
  · refine .inl ⟨hgrows, halloc, ?_⟩
    unfold Buffer.append
    rw [hnone]
    rfl
  · obtain ⟨b'', hput, hblock, hholds⟩ := hbegins.put nul hroom (show _ < 2 ^ bits by omega)
    refine .inr ⟨halloc, b'', ?_, hblock, hholds⟩
    unfold Buffer.append
    rw [hsome]
    show (b'.put bits nul chunk).bind _ = _
    rw [hput]
    rfl

end Holds

end Buffer

end GrowBuffer
