/-!
# Rose trees — a label and a list of subtrees

Trees whose nodes carry labels of any type. Nothing in this module is about any particular program.

* **`All`** — every label meets a condition; the operations below keep it when they keep it label by
  label.
* **`map`**, **`relabel`** — change every label, or the one at the root.
* **`reach`** — the labels reached from the root through labels that meet a test, parents first.
* **`find?`**, **`parent?`** — the first subtree with a label that meets a test, and what is above it.
* **`trail`** — the labels on the way down that always takes the first child that meets a test.
-/

universe u v

inductive Rose (α : Type u) where
  | node (label : α) (children : List (Rose α))

namespace Rose

variable {α : Type u} {β : Type v}

def label : Rose α → α
  | .node a _ => a

def children : Rose α → List (Rose α)
  | .node _ ts => ts

/-- Change the label at the root. -/
def relabel (f : α → α) : Rose α → Rose α
  | .node a ts => .node (f a) ts

mutual

/-- Change every label. -/
def map (f : α → β) : Rose α → Rose β
  | .node a ts => .node (f a) (mapOf f ts)

def mapOf (f : α → β) : List (Rose α) → List (Rose β)
  | [] => []
  | t :: ts => t.map f :: mapOf f ts

end

mutual

/-- Every label meets `P`. -/
def All (P : α → Prop) : Rose α → Prop
  | .node a ts => P a ∧ AllOf P ts

def AllOf (P : α → Prop) : List (Rose α) → Prop
  | [] => True
  | t :: ts => t.All P ∧ AllOf P ts

end

mutual

/-- The labels reached from the root through labels that meet `p`, these included. -/
def reach (p : α → Bool) : Rose α → List α
  | .node a ts => if p a then a :: reachOf p ts else []

def reachOf (p : α → Bool) : List (Rose α) → List α
  | [] => []
  | t :: ts => t.reach p ++ reachOf p ts

end

mutual

/-- The first subtree, from the root down, whose label meets `p`. -/
def find? (p : α → Bool) : Rose α → Option (Rose α)
  | .node a ts => if p a then some (.node a ts) else findOf? p ts

def findOf? (p : α → Bool) : List (Rose α) → Option (Rose α)
  | [] => none
  | t :: ts => (t.find? p).or (findOf? p ts)

end

mutual

/-- The label above the first subtree whose label meets `p`. -/
def parent? (p : α → Bool) : Rose α → Option α
  | .node a ts => if ts.any (fun t => p t.label) then some a else parentOf? p ts

def parentOf? (p : α → Bool) : List (Rose α) → Option α
  | [] => none
  | t :: ts => (t.parent? p).or (parentOf? p ts)

end

mutual

/-- The labels from the end of the way down to the root of the tree. -/
def trail (p : α → Bool) : Rose α → List α
  | .node a ts => trailOf p ts ++ [a]

def trailOf (p : α → Bool) : List (Rose α) → List α
  | [] => []
  | t :: ts => if p t.label then t.trail p else trailOf p ts

end

section All

variable {P : α → Prop} {t : Rose α} {ts : List (Rose α)}

theorem All.label (h : t.All P) : P t.label := by
  cases t with
  | node a ts => exact h.1

theorem All.children (h : t.All P) : AllOf P t.children := by
  cases t with
  | node a ts => exact h.2

theorem All.relabel (h : t.All P) {f : α → α} (hf : P t.label → P (f t.label)) :
    (t.relabel f).All P := by
  cases t with
  | node a ts => exact ⟨hf h.1, h.2⟩

/-- An operation on the subtrees of a node that keeps each of them keeps them all. -/
theorem AllOf.each (h : AllOf P ts) {f : Rose α → Rose α} (hf : ∀ t, t.All P → (f t).All P) :
    AllOf P (ts.map f) := by
  induction ts with
  | nil => trivial
  | cons t ts ih => exact ⟨hf t h.1, ih h.2⟩

mutual

/-- A map that turns labels with one condition into labels with another. -/
theorem All.map {Q : β → Prop} {f : α → β} (hf : ∀ a, P a → Q (f a)) (t : Rose α) (h : t.All P) :
    (t.map f).All Q := by
  cases t with
  | node a ts => exact ⟨hf a h.1, AllOf.mapOf hf ts h.2⟩

theorem AllOf.mapOf {Q : β → Prop} {f : α → β} (hf : ∀ a, P a → Q (f a)) (ts : List (Rose α))
    (h : AllOf P ts) : AllOf Q (Rose.mapOf f ts) := by
  cases ts with
  | nil => trivial
  | cons t ts => exact ⟨All.map hf t h.1, AllOf.mapOf hf ts h.2⟩

end

mutual

theorem all_true (t : Rose α) : t.All fun _ => True := by
  cases t with
  | node a ts => exact ⟨trivial, allOf_true ts⟩

theorem allOf_true (ts : List (Rose α)) : AllOf (fun _ => True) ts := by
  cases ts with
  | nil => trivial
  | cons t ts => exact ⟨all_true t, allOf_true ts⟩

end

mutual

theorem All.reach {p : α → Bool} (t : Rose α) (h : t.All P) : ∀ a ∈ t.reach p, P a := by
  cases t with
  | node b ts =>
    intro a ha
    unfold Rose.reach at ha
    split at ha
    · rcases List.mem_cons.mp ha with rfl | ha
      · exact h.1
      · exact AllOf.reachOf ts h.2 a ha
    · cases ha

theorem AllOf.reachOf {p : α → Bool} (ts : List (Rose α)) (h : AllOf P ts) :
    ∀ a ∈ Rose.reachOf p ts, P a := by
  cases ts with
  | nil =>
    intro a ha
    cases ha
  | cons t ts =>
    intro a ha
    rcases List.mem_append.mp ha with ha | ha
    · exact All.reach t h.1 a ha
    · exact AllOf.reachOf ts h.2 a ha

end

end All

mutual

theorem reach_test {p : α → Bool} (t : Rose α) : ∀ a ∈ t.reach p, p a = true := by
  cases t with
  | node b ts =>
    intro a ha
    unfold Rose.reach at ha
    split at ha
    · next hp =>
      rcases List.mem_cons.mp ha with rfl | ha
      · exact hp
      · exact reachOf_test ts a ha
    · cases ha

theorem reachOf_test {p : α → Bool} (ts : List (Rose α)) : ∀ a ∈ reachOf p ts, p a = true := by
  cases ts with
  | nil =>
    intro a ha
    cases ha
  | cons t ts =>
    intro a ha
    rcases List.mem_append.mp ha with ha | ha
    · exact reach_test t a ha
    · exact reachOf_test ts a ha

end

/-! ## Trails -/

section Trail

variable (p : α → Bool)

theorem trail_eq (t : Rose α) : t.trail p = trailOf p t.children ++ [t.label] := by
  cases t with
  | node a ts => rfl

/-- The way down goes on in the first child that meets the test. -/
theorem trailOf_eq (ts : List (Rose α)) :
    trailOf p ts = match ts.find? (fun t => p t.label) with
      | some t => t.trail p
      | none => [] := by
  induction ts with
  | nil => rfl
  | cons t ts ih =>
    rw [trailOf, List.find?_cons]
    cases p t.label with
    | true => rfl
    | false => exact ih

mutual

/-- From the root down, a trail is a part of the tree. -/
theorem reverse_trail_sublist (t : Rose α) :
    (t.trail p).reverse.Sublist (t.reach fun _ => true) := by
  cases t with
  | node a ts =>
    show (trailOf p ts ++ [a]).reverse.Sublist (a :: reachOf _ ts)
    rw [List.reverse_append]
    exact (reverse_trailOf_sublist ts).cons_cons a

theorem reverse_trailOf_sublist (ts : List (Rose α)) :
    (trailOf p ts).reverse.Sublist (reachOf (fun _ => true) ts) := by
  cases ts with
  | nil => exact List.Sublist.slnil
  | cons t ts =>
    rw [trailOf, reachOf]
    split
    · exact (reverse_trail_sublist t).trans (List.sublist_append_left _ _)
    · exact (reverse_trailOf_sublist ts).trans (List.sublist_append_right _ _)

end

end Trail

end Rose
