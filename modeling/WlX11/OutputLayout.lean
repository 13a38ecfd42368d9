import WlX11.Lib.Row
import WlX11.Scale

/-!
# WlX11 — the output layout

`wlr_output_layout.c`: one plane in which all outputs lie. The program keeps its windows' outputs in
it as auto-configured outputs, next to the bootstrap output it places by hand, far to the left.
`output_layout_reconfigure` runs whenever an output is added, removed, or commits a new mode.

* **`outputLayoutReconfigure`** / **`outputLayoutAdd`** / **`outputLayoutRemove`** — the code.
* **`windowRow`** — what it amounts to here: the windows' outputs in a row, in the order they were
  added (`outputLayoutReconfigure_row`).
-/

namespace Wlx

/-- A position in layout coordinates. -/
structure Point where
  x : Int
  y : Int
deriving DecidableEq, Repr

/-- The outputs of the program: the bootstrap output, and one for each mapped toplevel. -/
inductive OutputId where
  | bootstrap
  | window (i : Nat)
deriving DecidableEq, Repr

/-- `struct wlr_output_layout_output`. -/
structure LayoutOutput where
  output : OutputId
  pos : Point
  autoConfigured : Bool
deriving DecidableEq, Repr

section Reconfigure

variable (size : OutputId → Size)

/-- One step of the search for the rightmost manually configured output: `none` is `INT_MIN`. -/
def maxX (max : Option Point) (o : LayoutOutput) : Option Point :=
  if o.autoConfigured then max
  else
    match max with
    | none => some ⟨o.pos.x + (size o.output).width, o.pos.y⟩
    | some m =>
      if m.x < o.pos.x + (size o.output).width
        then some ⟨o.pos.x + (size o.output).width, o.pos.y⟩ else some m

/-- The second loop: auto-configured outputs from `x` on, left to right. -/
def placeAuto (y : Int) : Int → List LayoutOutput → List LayoutOutput
  | _, [] => []
  | x, o :: os =>
    if o.autoConfigured then
      { o with pos := ⟨x, y⟩ } :: placeAuto y (x + (size o.output).width) os
    else o :: placeAuto y x os

/-- `output_layout_reconfigure`. -/
def outputLayoutReconfigure (layout : List LayoutOutput) : List LayoutOutput :=
  let max := (layout.foldl (maxX size) none).getD ⟨0, 0⟩
  placeAuto size max.y max.x layout

/-- `output_layout_add`: a new output goes to the end of the list. -/
def outputLayoutAdd (layout : List LayoutOutput) (output : OutputId) (pos : Point)
    (autoConfigured : Bool) : List LayoutOutput :=
  outputLayoutReconfigure size
    (if layout.any (·.output = output) then
      layout.map fun o => if o.output = output then ⟨output, pos, autoConfigured⟩ else o
    else layout ++ [⟨output, pos, autoConfigured⟩])

/-- `wlr_output_layout_remove`, and the addon of an output that is destroyed. -/
def outputLayoutRemove (layout : List LayoutOutput) (output : OutputId) : List LayoutOutput :=
  outputLayoutReconfigure size (layout.filter fun o => o.output ≠ output)

end Reconfigure

/-- `wlr_output_layout_get`, and where it is. -/
def layoutPos (layout : List LayoutOutput) (output : OutputId) : Option Point :=
  (layout.find? fun o => o.output = output).map (·.pos)

/-! ## The row of windows -/

/-- The bootstrap output, placed by hand at `-bw - 256`. -/
def bootstrapOutputs (bootstrap : Option Size) : List LayoutOutput :=
  bootstrap.toList.map fun b => ⟨.bootstrap, ⟨-b.width - 256, 0⟩, false⟩

/-- Where the row begins: at the right edge of the bootstrap output, if there is one. -/
def rowStart (bootstrap : Option Size) : Int := if bootstrap.isSome then -256 else 0

/-- The windows `ks`, of widths `w`, in a row. -/
def windowRow (start : Int) (w : Nat → Int) (ks : List Nat) : List LayoutOutput :=
  ks.map fun i => ⟨.window i, ⟨start + Row.offset w ks i, 0⟩, true⟩

section Row

variable {size : OutputId → Size} {ks : List Nat}

/-- The second loop makes a row of the windows' outputs, wherever they were. By induction on the
list; the row starts where the loop has got to. -/
theorem placeAuto_windows (hnd : ks.Nodup) {os : List LayoutOutput} (x y : Int)
    (hos : os.map (·.output) = ks.map .window) (hauto : ∀ o ∈ os, o.autoConfigured = true) :
    placeAuto size y x os = ks.map fun i =>
      ⟨.window i, ⟨x + Row.offset (fun j => (size (.window j)).width) ks i, y⟩, true⟩ := by
  induction os generalizing x ks with
  | nil =>
    cases ks with
    | nil => rfl
    | cons k ks => cases hos
  | cons o os ih =>
    cases ks with
    | nil => cases hos
    | cons k ks =>
      simp only [List.map_cons, List.cons.injEq] at hos
      obtain ⟨hk, hnd⟩ := List.nodup_cons.mp hnd
      have ho := hauto o List.mem_cons_self
      rw [placeAuto, if_pos ho, List.map_cons, Row.offset_cons_self, add_zero,
        ih hnd _ hos.2 fun o' h => hauto o' (List.mem_cons_of_mem _ h)]
      congr 1
      · rw [← hos.1, ← ho]
      · refine List.map_congr_left fun i hi => ?_
        have hki : k ≠ i := fun h => hk (h ▸ hi)
        rw [Row.offset_cons_of_ne hki, hos.1, add_assoc]

/-- Auto-configured outputs have no part in the first loop. -/
theorem foldl_maxX_auto {os : List LayoutOutput} (hauto : ∀ o ∈ os, o.autoConfigured = true)
    (max : Option Point) : os.foldl (maxX size) max = max := by
  induction os generalizing max with
  | nil => rfl
  | cons o os ih =>
    have hskip : maxX size max o = max := by
      unfold maxX
      rw [if_pos (hauto o List.mem_cons_self)]
    rw [List.foldl_cons, hskip]
    exact ih (fun o' h => hauto o' (List.mem_cons_of_mem _ h)) max

/-- **`output_layout_reconfigure` puts the windows in a row**, to the right of the bootstrap output,
in the order they were added. -/
theorem outputLayoutReconfigure_row (hnd : ks.Nodup) {bootstrap : Option Size}
    (hboot : ∀ b ∈ bootstrap, size .bootstrap = b) {os : List LayoutOutput}
    (hos : os.map (·.output) = ks.map .window) (hauto : ∀ o ∈ os, o.autoConfigured = true) :
    outputLayoutReconfigure size (bootstrapOutputs bootstrap ++ os) =
      bootstrapOutputs bootstrap ++
        windowRow (rowStart bootstrap) (fun i => (size (.window i)).width) ks := by
  cases bootstrap with
  | none =>
    simp only [outputLayoutReconfigure, bootstrapOutputs, Option.toList_none, List.map_nil,
      List.nil_append, foldl_maxX_auto hauto, Option.getD_none]
    exact placeAuto_windows hnd 0 0 hos hauto
  | some b =>
    have hmax : (bootstrapOutputs (some b) ++ os).foldl (maxX size) none = some ⟨-256, 0⟩ := by
      simp only [bootstrapOutputs, Option.toList_some, List.map_cons, List.map_nil,
        List.singleton_append, List.foldl_cons, maxX, hboot b rfl]
      rw [foldl_maxX_auto hauto]
      simp only [Bool.false_eq_true, if_false, Option.some.injEq, Point.mk.injEq, and_true]
      omega
    rw [outputLayoutReconfigure, hmax]
    exact congrArg _ (placeAuto_windows hnd (-256) 0 hos hauto)

theorem windowRow_map_output (start : Int) (w : Nat → Int) (ks : List Nat) :
    (windowRow start w ks).map (·.output) = ks.map .window := by
  simp [windowRow]

theorem autoConfigured_of_mem_windowRow {start : Int} {w : Nat → Int} {o : LayoutOutput}
    (h : o ∈ windowRow start w ks) : o.autoConfigured = true := by
  obtain ⟨i, -, rfl⟩ := List.mem_map.mp h
  rfl

/-- Where a window of the row is. -/
theorem layoutPos_row (bootstrap : Option Size) (start : Int) (w : Nat → Int) {i : Nat}
    (hi : i ∈ ks) :
    layoutPos (bootstrapOutputs bootstrap ++ windowRow start w ks) (.window i) =
      some ⟨start + Row.offset w ks i, 0⟩ := by
  have hboot : (bootstrapOutputs bootstrap).find? (fun o => o.output = .window i) = none := by
    cases bootstrap <;> simp [bootstrapOutputs]
  have hrow : ∀ ls : List Nat, i ∈ ls →
      (ls.map fun j => (⟨.window j, ⟨start + Row.offset w ks j, 0⟩, true⟩ : LayoutOutput)).find?
        (fun o => o.output = .window i) =
          some ⟨.window i, ⟨start + Row.offset w ks i, 0⟩, true⟩ := by
    intro ls hls
    induction ls with
    | nil => cases hls
    | cons j ls ih =>
      by_cases hji : j = i
      · simp [hji]
      · rw [List.map_cons, List.find?_cons_of_neg (by simp [hji])]
        exact ih (List.mem_of_ne_of_mem (Ne.symm hji) hls)
  rw [layoutPos, List.find?_append, hboot, Option.none_or, windowRow, hrow ks hi]
  rfl

end Row

end Wlx
