import Mathlib.Data.List.Induction
import Mathlib.Data.List.Perm.Basic
import WlX11.Lib.Rose

/-!
# Zippers — a place in a rose tree

A place in a tree is the way up from it: at each step the label of the parent, and the siblings on both sides.
Nothing in this module is about any particular program.

* **`plug`** — put a tree in a place; **`hollow`** is what is there without it.
* **`locate`** — the first place with a label that meets a test; **`plug_of_locate`**, **`locate_plug`**.
* **`labels`** — all labels; **`labels_plug`**.
* **`walk`** — what a walk through the tree meets, with something handed down; **`walk_plug`**,
  **`walk_hollow`** tell what it meets before, in and after a place.
-/

universe u v w

namespace Rose

variable {α : Type u} {β : Type v} {σ : Type w}

/-- One step up. -/
structure Frame (α : Type u) where
  label : α
  before : List (Rose α)
  after : List (Rose α)

def Frame.fill (f : Frame α) (t : Rose α) : Rose α := .node f.label (f.before ++ t :: f.after)

/-- Put a tree in a place. The way up starts with the nearest parent. -/
def plug (fs : List (Frame α)) (t : Rose α) : Rose α := fs.foldl (fun t f => f.fill t) t

/-- The tree without what is in a place, which is not the root. -/
def hollow (f : Frame α) (fs : List (Frame α)) : Rose α :=
  plug fs (.node f.label (f.before ++ f.after))

mutual

/-- The first place, from the root down, whose label meets `p`, and what is there. -/
def locate (p : α → Bool) : Rose α → Option (List (Frame α) × Rose α)
  | .node a ts => if p a then some ([], .node a ts) else locateOf p a [] ts

def locateOf (p : α → Bool) (a : α) (before : List (Rose α)) :
    List (Rose α) → Option (List (Frame α) × Rose α)
  | [] => none
  | t :: ts =>
    match t.locate p with
    | some (fs, u) => some (fs ++ [⟨a, before, ts⟩], u)
    | none => locateOf p a (before ++ [t]) ts

end

mutual

def labels : Rose α → List α
  | .node a ts => a :: labelsOf ts

def labelsOf : List (Rose α) → List α
  | [] => []
  | t :: ts => t.labels ++ labelsOf ts

end

/-- The labels that are not in a place. -/
def frameLabels (fs : List (Frame α)) : List α := fs.flatMap fun f => f.label :: labelsOf (f.before ++ f.after)

section Places

variable {p : α → Bool} {a : α} {t u : Rose α} {ts before : List (Rose α)} {f : Frame α} {fs : List (Frame α)}

theorem plug_append (fs gs : List (Frame α)) (t : Rose α) : plug (fs ++ gs) t = plug gs (plug fs t) :=
  List.foldl_append

mutual

theorem plug_of_locate {fs : List (Frame α)} {u : Rose α} (t : Rose α) (h : t.locate p = some (fs, u)) :
    plug fs u = t ∧ p u.label = true := by
  cases t with
  | node a ts =>
    rw [locate] at h
    split_ifs at h with ha
    · cases h
      exact ⟨rfl, ha⟩
    · exact plug_of_locateOf a [] ts h

theorem plug_of_locateOf {fs : List (Frame α)} {u : Rose α} (a : α) (before ts : List (Rose α))
    (h : locateOf p a before ts = some (fs, u)) :
    plug fs u = .node a (before ++ ts) ∧ p u.label = true := by
  cases ts with
  | nil => cases h
  | cons t ts =>
    rw [locateOf] at h
    cases ht : t.locate p with
    | some found =>
      obtain ⟨gs, u'⟩ := found
      rw [ht] at h
      cases h
      obtain ⟨hplug, hp⟩ := plug_of_locate t ht
      refine ⟨?_, hp⟩
      rw [plug_append, hplug]
      rfl
    | none =>
      rw [ht] at h
      obtain ⟨hplug, hp⟩ := plug_of_locateOf a (before ++ [t]) ts h
      refine ⟨?_, hp⟩
      rw [hplug, List.append_assoc]
      rfl

end

mutual

theorem locate_eq_none (t : Rose α) (h : ∀ a ∈ t.labels, p a = false) : t.locate p = none := by
  cases t with
  | node a ts =>
    rw [labels, List.forall_mem_cons] at h
    rw [locate, h.1, if_neg Bool.false_ne_true]
    exact locateOf_eq_none a [] ts h.2

theorem locateOf_eq_none (a : α) (before ts : List (Rose α)) (h : ∀ a ∈ labelsOf ts, p a = false) :
    locateOf p a before ts = none := by
  cases ts with
  | nil => rfl
  | cons t ts =>
    rw [labelsOf, List.forall_mem_append] at h
    rw [locateOf, locate_eq_none t h.1]
    exact locateOf_eq_none a (before ++ [t]) ts h.2

end

theorem labelsOf_append (ts us : List (Rose α)) : labelsOf (ts ++ us) = labelsOf ts ++ labelsOf us := by
  induction ts with
  | nil => rfl
  | cons t ts ih => rw [List.cons_append, labelsOf, labelsOf, ih, List.append_assoc]

theorem locateOf_append (h : ∀ b ∈ labelsOf ts, p b = false) (ht : t.locate p = some (fs, u))
    (after : List (Rose α)) :
    locateOf p a before (ts ++ t :: after) = some (fs ++ [⟨a, before ++ ts, after⟩], u) := by
  induction ts generalizing before with
  | nil => rw [List.nil_append, locateOf, ht, List.append_nil]
  | cons s ts ih =>
    rw [labelsOf, List.forall_mem_append] at h
    rw [List.cons_append, locateOf, locate_eq_none s h.1]
    dsimp only
    rw [ih h.2, List.append_assoc]
    rfl

/-- A place is found if no label outside meets the test. -/
theorem locate_plug (hu : p u.label = true) (hfs : ∀ a ∈ frameLabels fs, p a = false) :
    (plug fs u).locate p = some (fs, u) := by
  induction fs using List.reverseRecOn with
  | nil =>
    cases u with
    | node a ts => exact if_pos hu
  | append_singleton fs f ih =>
    rw [frameLabels, List.flatMap_append, List.forall_mem_append, List.flatMap_singleton, List.forall_mem_cons,
      labelsOf_append, List.forall_mem_append] at hfs
    obtain ⟨hinner, hlabel, hbefore, -⟩ := hfs
    rw [plug_append]
    show Rose.locate p (.node f.label (f.before ++ plug fs u :: f.after)) = _
    rw [locate, hlabel, if_neg Bool.false_ne_true]
    exact locateOf_append hbefore (ih hinner) f.after

theorem labels_fill (f : Frame α) (t : Rose α) :
    (f.fill t).labels.Perm (t.labels ++ f.label :: labelsOf (f.before ++ f.after)) := by
  rw [Frame.fill, labels, labelsOf_append, labelsOf_append, labelsOf]
  refine ((List.perm_append_comm_assoc _ _ _).cons f.label).trans ?_
  exact List.perm_middle.symm

/-- A place takes no label away, and adds none. -/
theorem labels_plug (fs : List (Frame α)) (t : Rose α) :
    (plug fs t).labels.Perm (t.labels ++ frameLabels fs) := by
  induction fs generalizing t with
  | nil => exact .of_eq (List.append_nil _).symm
  | cons f fs ih =>
    refine (ih (f.fill t)).trans (((labels_fill f t).append_right _).trans (.of_eq ?_))
    rw [List.append_assoc]
    rfl

theorem labels_hollow (f : Frame α) (fs : List (Frame α)) :
    (hollow f fs).labels.Perm (frameLabels (f :: fs)) :=
  labels_plug fs _

end Places

/-! ## Walks -/

mutual

/-- A walk through a tree, the last child first and the parent after its children. What `enter` gives is
handed down to the children; where it gives nothing they are passed over. -/
def walk (enter : σ → α → Option σ) (emit : σ → α → List β) (s : σ) : Rose α → List β
  | .node a ts =>
    (match enter s a with
      | none => []
      | some s' => walkOf enter emit s' ts) ++ emit s a

def walkOf (enter : σ → α → Option σ) (emit : σ → α → List β) (s : σ) : List (Rose α) → List β
  | [] => []
  | t :: ts => walkOf enter emit s ts ++ walk enter emit s t

end

section Walks

variable (enter : σ → α → Option σ) (emit : σ → α → List β) (s : σ)

/-- What is handed down to a place. -/
def handed (fs : List (Frame α)) : Option σ := fs.foldr (fun f s => s.bind fun s => enter s f.label) (some s)

/-- What the walk meets before a place. -/
def walkBefore : List (Frame α) → List β
  | [] => []
  | f :: fs => walkBefore fs ++ (handed enter s (f :: fs)).elim [] fun s => walkOf enter emit s f.after

/-- What it meets after. -/
def walkAfter : List (Frame α) → List β
  | [] => []
  | f :: fs =>
    ((handed enter s (f :: fs)).elim [] fun s => walkOf enter emit s f.before) ++
      ((handed enter s fs).elim [] fun s => emit s f.label) ++ walkAfter fs

/-- What it meets in a place. -/
def walkInside (fs : List (Frame α)) (t : Rose α) : List β :=
  (handed enter s fs).elim [] fun s => walk enter emit s t

variable {enter emit s}

theorem handed_cons (f : Frame α) (fs : List (Frame α)) :
    handed enter s (f :: fs) = (handed enter s fs).bind fun s => enter s f.label := rfl

theorem walkOf_append (ts us : List (Rose α)) :
    walkOf enter emit s (ts ++ us) = walkOf enter emit s us ++ walkOf enter emit s ts := by
  induction ts with
  | nil => exact (List.append_nil _).symm
  | cons t ts ih => rw [List.cons_append, walkOf, walkOf, ih, List.append_assoc]

theorem walk_node (a : α) (ts : List (Rose α)) :
    walk enter emit s (.node a ts) =
      ((enter s a).elim [] fun s => walkOf enter emit s ts) ++ emit s a := by
  rw [walk]
  cases enter s a <;> rfl

/-- **A walk meets what is before a place, what is in it, and what is after.** -/
theorem walk_plug (fs : List (Frame α)) (t : Rose α) :
    walk enter emit s (plug fs t) =
      walkBefore enter emit s fs ++ walkInside enter emit s fs t ++ walkAfter enter emit s fs := by
  induction fs generalizing t with
  | nil => exact (List.append_nil _).symm
  | cons f fs ih =>
    show walk enter emit s (plug fs (f.fill t)) = _
    rw [ih, walkBefore, walkAfter, walkInside, walkInside, handed_cons]
    cases handed enter s fs with
    | none => simp
    | some s' =>
      rw [Option.elim_some, Frame.fill, walk_node, Option.bind_some]
      cases enter s' f.label with
      | none => simp
      | some s'' =>
        simp only [Option.elim_some]
        rw [walkOf_append, walkOf]
        simp only [List.append_assoc]

/-- Without what is in the place it meets the rest. -/
theorem walk_hollow (f : Frame α) (fs : List (Frame α)) :
    walk enter emit s (hollow f fs) =
      walkBefore enter emit s (f :: fs) ++ walkAfter enter emit s (f :: fs) := by
  rw [hollow, walk_plug, walkBefore, walkAfter, walkInside, handed_cons]
  cases handed enter s fs with
  | none => simp
  | some s' =>
    rw [Option.elim_some, walk_node, Option.bind_some]
    cases enter s' f.label with
    | none => simp
    | some s'' =>
      simp only [Option.elim_some]
      rw [walkOf_append]
      simp only [List.append_assoc]

mutual

/-- What a walk meets comes from labels of the tree. -/
theorem mem_walk (s : σ) (t : Rose α) {b : β} (hb : b ∈ walk enter emit s t) :
    ∃ s', ∃ a ∈ t.labels, b ∈ emit s' a := by
  cases t with
  | node a ts =>
    rw [walk_node] at hb
    rcases List.mem_append.mp hb with hb | hb
    · cases hs : enter s a with
      | none =>
        rw [hs] at hb
        cases hb
      | some s' =>
        rw [hs] at hb
        obtain ⟨s'', a', ha', hb'⟩ := mem_walkOf s' ts hb
        exact ⟨s'', a', List.mem_cons_of_mem a ha', hb'⟩
    · exact ⟨s, a, List.mem_cons_self, hb⟩

theorem mem_walkOf (s : σ) (ts : List (Rose α)) {b : β} (hb : b ∈ walkOf enter emit s ts) :
    ∃ s', ∃ a ∈ labelsOf ts, b ∈ emit s' a := by
  cases ts with
  | nil => cases hb
  | cons t ts =>
    rw [walkOf] at hb
    rcases List.mem_append.mp hb with hb | hb
    · obtain ⟨s', a, ha, hb'⟩ := mem_walkOf s ts hb
      exact ⟨s', a, List.mem_append_right _ ha, hb'⟩
    · obtain ⟨s', a, ha, hb'⟩ := mem_walk s t hb
      exact ⟨s', a, List.mem_append_left _ ha, hb'⟩

end

section Keys

variable {γ : Type*} {key : α → γ} {keyOf : β → γ}

mutual

/-- A walk that meets each label at most once meets them in the order from the last to the first. -/
theorem walk_sublist (hemit : ∀ s a, ((emit s a).map keyOf).Sublist [key a]) (s : σ) (t : Rose α) :
    ((walk enter emit s t).map keyOf).Sublist (t.labels.map key).reverse := by
  cases t with
  | node a ts =>
    rw [walk_node, labels, List.map_append, List.map_cons, List.reverse_cons]
    refine List.Sublist.append ?_ (hemit s a)
    cases enter s a with
    | none => exact List.nil_sublist _
    | some s' => exact walkOf_sublist hemit s' ts

theorem walkOf_sublist (hemit : ∀ s a, ((emit s a).map keyOf).Sublist [key a]) (s : σ) (ts : List (Rose α)) :
    ((walkOf enter emit s ts).map keyOf).Sublist ((labelsOf ts).map key).reverse := by
  cases ts with
  | nil => exact List.nil_sublist _
  | cons t ts =>
    rw [walkOf, labelsOf, List.map_append, List.map_append, List.reverse_append]
    exact (walkOf_sublist hemit s ts).append (walk_sublist hemit s t)

end

mutual

/-- What is met does not depend on what is handed down, if each step does not. -/
theorem walk_map_congr (henter : ∀ s s' a, (enter s a).isSome = (enter s' a).isSome)
    (hemit : ∀ s s' a, (emit s a).map keyOf = (emit s' a).map keyOf) (s s' : σ) (t : Rose α) :
    (walk enter emit s t).map keyOf = (walk enter emit s' t).map keyOf := by
  cases t with
  | node a ts =>
    have hsome := henter s s' a
    rw [walk_node, walk_node, List.map_append, List.map_append, hemit s s' a]
    cases hs : enter s a with
    | none =>
      cases hs' : enter s' a with
      | none => rfl
      | some r' =>
        rw [hs, hs'] at hsome
        cases hsome
    | some r =>
      cases hs' : enter s' a with
      | none =>
        rw [hs, hs'] at hsome
        cases hsome
      | some r' => rw [Option.elim_some, Option.elim_some, walkOf_map_congr henter hemit r r' ts]

theorem walkOf_map_congr (henter : ∀ s s' a, (enter s a).isSome = (enter s' a).isSome)
    (hemit : ∀ s s' a, (emit s a).map keyOf = (emit s' a).map keyOf) (s s' : σ) (ts : List (Rose α)) :
    (walkOf enter emit s ts).map keyOf = (walkOf enter emit s' ts).map keyOf := by
  cases ts with
  | nil => rfl
  | cons t ts =>
    rw [walkOf, walkOf, List.map_append, List.map_append, walkOf_map_congr henter hemit s s' ts,
      walk_map_congr henter hemit s s' t]

end

end Keys

end Walks

end Rose
