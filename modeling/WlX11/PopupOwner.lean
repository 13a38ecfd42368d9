import Mathlib.Data.List.Basic
import WlX11.Lib.Chase
import WlX11.Lib.Run

/-!
# WlX11 — the toplevel that owns a popup

A client makes popups on toplevels, on other popups, or on nothing at all. When `xdg_shell` announces
one, the program follows the parents up to the toplevel, whose `wlx_window` the popup's `wlx_popup` is
put under. `wlr_xdg_surface_try_from_wlr_surface` is asked about each parent, also when there is none.

* **`PopupShell`** — the `xdg_surface`s, the `wlx_popup`s, and what clients do with them.
* **`PopupShell.Resolves`** — a popup gets the window of the toplevel at the end of the chain, if there
  is one, and no `wlx_popup` otherwise, and the compositor goes on.
* **`PopupShell.resolves_iff`** — along every run, exactly if no chain that is followed lacks a parent,
  comes back to itself or ends at a toplevel that is gone, and no surface is used for a second popup
  where the toplevel itself, or a popup that has missed it, is the parent.
-/

namespace Wlx

/-- `enum wlr_xdg_surface_role`. -/
inductive XdgRole where
  | none | toplevel | popup
deriving DecidableEq

/-- `struct wlr_xdg_surface`, with the parent of its popup. -/
structure XdgNode where
  role : XdgRole
  /-- `toplevel` or `popup` is set -/
  object : Bool
  /-- `popup->parent` -/
  parent : Option Nat
  /-- `data`: which `wlx_window` or `wlx_popup` was put there last; it stays when that is freed -/
  data : Option Nat
deriving DecidableEq

/-- `struct wlx_popup`. -/
structure WlxPopup where
  surface : Nat
  /-- `parent` -/
  window : Nat
deriving DecidableEq

/-- What `popup_find_toplevel_window` comes to. -/
inductive FoundWindow where
  /-- the role of a null parent is read -/
  | crashed
  | window (w : Nat)
  | notFound
deriving DecidableEq

/-- The end of a chain of parents. -/
inductive ChainEnd where
  | noParent
  | toplevel (w : Nat)
  /-- a toplevel that is gone; its `data` is what has been freed with it -/
  | freed (w : Nat)
  /-- a surface without a role, or without the popup it has had -/
  | gone
deriving DecidableEq

/-- What a chain that ends so is resolved to: a window that has been freed is not told apart. -/
def ChainEnd.found : ChainEnd → FoundWindow
  | .noParent => .crashed
  | .toplevel w | .freed w => .window w
  | .gone => .notFound

structure PopupShell where
  node : Nat → Option XdgNode
  /-- the surfaces there have been -/
  surfaces : List Nat
  /-- `server->popups`, newest first -/
  popups : List WlxPopup
  /-- the next `wlx_window` or `wlx_popup` to be allocated -/
  fresh : Nat

inductive PopupAction where
  | newSurface (p : Nat)
  | getToplevel (p : Nat)
  /-- `xdg_surface.get_popup`; the loop of `popup_find_toplevel_window` ends within `turns` turns -/
  | getPopup (s : Nat) (parent : Option Nat) (turns : Nat)
  /-- role objects are destroyed, and the popups on them with them -/
  | destroy (gone : List Nat)
  | destroySurface (p : Nat)

namespace PopupShell

def init : PopupShell := ⟨fun _ => none, [], [], 0⟩

def setNode (v : PopupShell) (p : Nat) (n : Option XdgNode) : PopupShell :=
  { v with node := fun q => if q = p then n else v.node q }

/-- `popup_find_toplevel_window`: `turns` rounds of its loop, from a popup's parent. -/
def popupFindToplevelWindow (v : PopupShell) : Nat → Option Nat → Option FoundWindow
  | 0, _ => none
  -- `wlr_xdg_surface_try_from_wlr_surface(NULL)`
  | _ + 1, none => some .crashed
  | turns + 1, some p => match v.node p with
    | none => some .notFound
    | some n => match n.role, n.data with
      | .toplevel, some w => some (.window w)
      | .popup, _ => if n.object then v.popupFindToplevelWindow turns n.parent else some .notFound
      | _, _ => some .notFound

/-- `setup_popup`. -/
def setupPopup (v : PopupShell) (s w : Nat) : PopupShell :=
  { v.setNode s ((v.node s).map ({ · with data := some v.fresh })) with
    popups := ⟨s, w⟩ :: v.popups
    fresh := v.fresh + 1 }

/-- The surface's `data` is set. -/
def hasData (v : PopupShell) (s : Nat) : Bool := (v.node s).any (·.data.isSome)

/-- `server_new_xdg_popup`. -/
def serverNewXdgPopup (v : PopupShell) (s : Nat) (parent : Option Nat) (turns : Nat) :
    Option PopupShell :=
  -- "already set up via parent new_popup"
  if v.hasData s then some v
  else match v.popupFindToplevelWindow turns parent with
    | none | some .crashed => none
    | some .notFound => some v
    | some (.window w) => some (v.setupPopup s w)

/-- `window_new_popup`, of the toplevel that is the parent. -/
def windowNewPopup (v : PopupShell) (s p : Nat) : PopupShell :=
  match v.node p with
  | none => v
  | some n =>
    if n.role = .toplevel ∧ n.object = true then
      -- "already set up via shell-level new_popup"
      if v.hasData s then v else (n.data.map (v.setupPopup s)).getD v
    else v

/-- `handle_new_xdg_popup`, of each `wlx_popup` of the parent; a `wlx_popup` has a window. -/
def handleNewXdgPopup (v : PopupShell) (s p : Nat) : PopupShell :=
  (v.popups.filter (·.surface = p)).foldl (fun v from_pop => v.setupPopup s from_pop.window) v

/-- The surface has its popup. -/
def withPopup (v : PopupShell) (s : Nat) (parent : Option Nat) : PopupShell :=
  v.setNode s ((v.node s).map ({ · with role := .popup, object := true, parent := parent }))

/-- `create_xdg_popup` has no error to report: the surface has no other role and no role object, and a
parent has a role, which by now the surface itself has, too. -/
def Allowed (v : PopupShell) (s : Nat) (parent : Option Nat) : Prop :=
  (∃ n ∈ v.node s, n.role ≠ .toplevel ∧ n.object = false) ∧
    ∀ p ∈ parent, p ≠ s → ∃ n ∈ v.node p, n.role ≠ .none

instance (v : PopupShell) (s : Nat) (parent : Option Nat) : Decidable (v.Allowed s parent) :=
  inferInstanceAs (Decidable ((∃ n ∈ v.node s, n.role ≠ .toplevel ∧ n.object = false) ∧
    ∀ p ∈ parent, p ≠ s → ∃ n ∈ v.node p, n.role ≠ .none))

/-- The `new_popup` of the parent. -/
def signalParent (s : Nat) (parent : Option Nat) (v : PopupShell) : PopupShell :=
  match parent with
  | none => v
  | some p => (v.windowNewPopup s p).handleNewXdgPopup s p

/-- `create_xdg_popup`: the signal of the shell, and then that of the parent. -/
def createXdgPopup (v : PopupShell) (s : Nat) (parent : Option Nat) (turns : Nat) : Option PopupShell :=
  ((v.withPopup s parent).serverNewXdgPopup s parent turns).map (signalParent s parent)

/-- Popups are destroyed with what they are on. -/
def Closed (v : PopupShell) (gone : List Nat) : Prop :=
  ∀ q ∈ v.surfaces, ∀ n ∈ v.node q, n.role = .popup → n.object = true →
    ∀ p ∈ n.parent, p ∈ gone → q ∈ gone

/-- The surface has no role object, and no popup is on it. -/
def Unused (v : PopupShell) (p : Nat) : Prop :=
  (∃ n ∈ v.node p, n.object = false) ∧
    ∀ q ∈ v.surfaces, ∀ n ∈ v.node q, n.role = .popup → n.object = true → n.parent ≠ some p

instance (v : PopupShell) (gone : List Nat) : Decidable (v.Closed gone) :=
  inferInstanceAs (Decidable (∀ q ∈ v.surfaces, ∀ n ∈ v.node q, n.role = .popup → n.object = true →
    ∀ p ∈ n.parent, p ∈ gone → q ∈ gone))

instance (v : PopupShell) (p : Nat) : Decidable (v.Unused p) :=
  inferInstanceAs (Decidable ((∃ n ∈ v.node p, n.object = false) ∧
    ∀ q ∈ v.surfaces, ∀ n ∈ v.node q, n.role = .popup → n.object = true → n.parent ≠ some p))

def step (v : PopupShell) : PopupAction → Option PopupShell
  | .newSurface p =>
    if v.node p = none then
      some { v.setNode p (some ⟨.none, false, none, none⟩) with surfaces := p :: v.surfaces }
    else none
  | .getToplevel p =>
    if ∃ n ∈ v.node p, n.role ≠ .popup ∧ n.object = false then
      some { v.setNode p (some ⟨.toplevel, true, none, some v.fresh⟩) with fresh := v.fresh + 1 }
    else none
  | .getPopup s parent turns =>
    if v.Allowed s parent then v.createXdgPopup s parent turns else none
  | .destroy gone =>
    if v.Closed gone then
      some { v with
        node := fun q => if q ∈ gone then (v.node q).map ({ · with object := false }) else v.node q
        popups := v.popups.filter (·.surface ∉ gone) }
    else none
  | .destroySurface p => if v.Unused p then some (v.setNode p none) else none

/-- One step of a chain of parents. -/
def chainStep (v : PopupShell) : Option Nat → Option Nat ⊕ ChainEnd
  | none => .inr .noParent
  | some p => match v.node p with
    | none => .inr .gone
    | some n => match n.role, n.data with
      | .toplevel, some w => .inr (if n.object then .toplevel w else .freed w)
      | .popup, _ => if n.object then .inl n.parent else .inr .gone
      | _, _ => .inr .gone

/-- The chain from here ends so. -/
def Ends (v : PopupShell) (start : Option Nat) (e : ChainEnd) : Prop := Chase.Leads v.chainStep start e

/-- The request leaves the compositor running; the popup gets the window of the toplevel at the end of
the chain, and only that, if there is one, and no `wlx_popup` otherwise. -/
def Resolves (v : PopupShell) : PopupAction → Prop
  | .getPopup s parent _ =>
    v.Allowed s parent → ∃ turns v', v.createXdgPopup s parent turns = some v' ∧
      (∀ w, (v.withPopup s parent).Ends parent (.toplevel w) →
        (∃ pop ∈ v'.popups, pop.surface = s) ∧ ∀ pop ∈ v'.popups, pop.surface = s → pop.window = w) ∧
      ((∀ w, ¬(v.withPopup s parent).Ends parent (.toplevel w)) → ∀ pop ∈ v'.popups, pop.surface ≠ s)
  | _ => True

/-- The chain ends at a toplevel, or at a surface whose popup is gone. On a surface that has had a
popup before, where none is resolved, the parent of a popup with a toplevel has a `wlx_popup`. -/
def Rooted (v : PopupShell) : PopupAction → Prop
  | .getPopup s parent _ =>
    v.Allowed s parent →
      if v.hasData s then
        ∀ w, (v.withPopup s parent).Ends parent (.toplevel w) → ∃ pop ∈ v.popups, parent = some pop.surface
      else (∃ w, (v.withPopup s parent).Ends parent (.toplevel w)) ∨ (v.withPopup s parent).Ends parent .gone
  | _ => True

/-! ## Chains -/

section Chain

variable {v v' : PopupShell} {start next : Option Nat} {p s w : Nat} {n : XdgNode} {e : ChainEnd}

/-- The program follows the chain, but does not see whether a toplevel is gone. -/
theorem popupFindToplevelWindow_eq (v : PopupShell) (turns : Nat) (start : Option Nat) :
    v.popupFindToplevelWindow turns start = (Chase.run v.chainStep turns start).map (·.found) := by
  induction turns generalizing start with
  | zero => rfl
  | succ turns ih =>
    unfold popupFindToplevelWindow Chase.run chainStep
    cases start with
    | none => rfl
    | some p =>
      dsimp only
      cases v.node p with
      | none => rfl
      | some n =>
        obtain ⟨role, object, parent, data⟩ := n
        -- a toplevel and a surface without a role end the loop, a popup goes on to its parent
        cases role with
        | none => rfl
        | toplevel => cases data <;> cases object <;> rfl
        | popup =>
          cases object with
          | false => rfl
          | true => exact ih parent

/-- A step along is one from a popup to its parent. -/
theorem chainStep_eq_inl_iff :
    v.chainStep start = .inl next ↔ ∃ p n, start = some p ∧ v.node p = some n ∧ n.role = .popup ∧
      n.object = true ∧ n.parent = next := by
  unfold chainStep
  cases start with
  | none => simp
  | some p =>
    cases hnode : v.node p with
    | none => simp [hnode]
    | some n =>
      obtain ⟨role, object, parent, data⟩ := n
      cases role with
      | none => simp [hnode]
      | toplevel => cases data <;> cases object <;> simp [hnode]
      | popup => cases object <;> simp [hnode]

/-- The walk stops at a surface of a toplevel that has a window, and there only. -/
theorem chainStep_eq_toplevel_iff :
    v.chainStep start = .inr (.toplevel w) ↔ ∃ p n, start = some p ∧ v.node p = some n ∧
      n.role = .toplevel ∧ n.object = true ∧ n.data = some w := by
  unfold chainStep
  cases start with
  | none => simp
  | some p =>
    cases hnode : v.node p with
    | none => simp [hnode]
    | some n =>
      obtain ⟨role, object, parent, data⟩ := n
      cases role with
      | none => simp [hnode]
      | toplevel => cases data <;> cases object <;> simp [hnode]
      | popup => cases object <;> simp [hnode]

/-- From a popup the walk goes on at its parent. -/
theorem ends_of_popup (hnode : v.node p = some n) (hrole : n.role = .popup) (hobject : n.object = true) :
    v.Ends (some p) e ↔ v.Ends n.parent e :=
  Chase.leads_inl_iff (chainStep_eq_inl_iff.mpr ⟨p, n, rfl, hnode, hrole, hobject, rfl⟩)

/-- What has an owner is there. -/
theorem object_of_ends (h : v.Ends (some p) (.toplevel w)) : ∃ n, v.node p = some n ∧ n.object = true := by
  rcases h with hstop | ⟨hgo, -⟩
  · obtain ⟨q, n, hq, hnode, -, hobject, -⟩ := chainStep_eq_toplevel_iff.mp hstop
    obtain rfl := Option.some.inj hq
    exact ⟨n, hnode, hobject⟩
  · obtain ⟨q, n, hq, hnode, -, hobject, -⟩ := chainStep_eq_inl_iff.mp hgo
    obtain rfl := Option.some.inj hq
    exact ⟨n, hnode, hobject⟩

/-- What is there in `v` is there in `v'`. -/
def Keeps (v v' : PopupShell) : Prop :=
  ∀ p n, v.node p = some n → n.object = true → v'.node p = some n

/-- **Owners are kept** while nothing on the way is destroyed. -/
theorem Ends.keep (h : v.Ends start (.toplevel w)) (hkeeps : v.Keeps v') :
    v'.Ends start (.toplevel w) := by
  refine h.transfer (P := fun _ => True) trivial ?_ ?_
  · intro a a' _ hgo _
    obtain ⟨p, n, rfl, hnode, hrole, hobject, hparent⟩ := chainStep_eq_inl_iff.mp hgo
    exact ⟨chainStep_eq_inl_iff.mpr ⟨p, n, rfl, hkeeps p n hnode hobject, hrole, hobject, hparent⟩,
      trivial⟩
  · intro a _ hstop
    obtain ⟨p, n, rfl, hnode, hrole, hobject, hdata⟩ := chainStep_eq_toplevel_iff.mp hstop
    exact chainStep_eq_toplevel_iff.mpr ⟨p, n, rfl, hkeeps p n hnode hobject, hrole, hobject, hdata⟩

end Chain

/-! ## A popup is set up -/

section Setup

variable {v v' : PopupShell} {parent : Option Nat} {p s w : Nat} {e : ChainEnd}

@[simp] theorem setNode_node_self (v : PopupShell) (p : Nat) (n : Option XdgNode) :
    (v.setNode p n).node p = n := if_pos rfl

theorem setNode_node_of_ne {p q : Nat} (h : q ≠ p) (v : PopupShell) (n : Option XdgNode) :
    (v.setNode p n).node q = v.node q := if_neg h

/-- The surface has a popup on this parent. -/
def HasPopup (v : PopupShell) (s : Nat) (parent : Option Nat) : Prop :=
  ∃ n, v.node s = some n ∧ n.role = .popup ∧ n.object = true ∧ n.parent = parent

/-- The same, for a popup known by its parent. -/
theorem ends_of_hasPopup (h : v.HasPopup s parent) : v.Ends (some s) e ↔ v.Ends parent e := by
  obtain ⟨n, hnode, hrole, hobject, rfl⟩ := h
  exact ends_of_popup hnode hrole hobject

/-- What is left as it is but for the surface's `data` and new `wlx_popup`s of it. -/
structure Extends (s : Nat) (v v' : PopupShell) : Prop where
  chainStep : v'.chainStep = v.chainStep
  hasPopup : ∀ parent, v.HasPopup s parent → v'.HasPopup s parent
  others : ∀ q, q ≠ s → v'.node q = v.node q
  surfaces : v'.surfaces = v.surfaces
  popups : ∀ pop, pop ∈ v.popups → pop ∈ v'.popups

/-- A handler that returns early extends nothing. -/
theorem Extends.refl (s : Nat) (v : PopupShell) : Extends s v v :=
  ⟨rfl, fun _ h => h, fun _ _ => rfl, rfl, fun _ h => h⟩

/-- One handler of the signal after another. -/
theorem Extends.trans {v'' : PopupShell} (h : Extends s v v') (h' : Extends s v' v'') : Extends s v v'' where
  chainStep := h'.chainStep.trans h.chainStep
  hasPopup := fun parent hpopup => h'.hasPopup parent (h.hasPopup parent hpopup)
  others := fun q hq => (h'.others q hq).trans (h.others q hq)
  surfaces := h'.surfaces.trans h.surfaces
  popups := fun pop hpop => h'.popups pop (h.popups pop hpop)

/-- New `wlx_popup`s change no walk. -/
theorem Extends.ends (h : Extends s v v') {start : Option Nat} : v'.Ends start e ↔ v.Ends start e := by
  unfold Ends
  rw [h.chainStep]

/-- `setup_popup` sets the surface's `data`, which the walk reads at toplevels only. -/
theorem setupPopup_extends (h : v.HasPopup s parent) (w : Nat) : Extends s v (v.setupPopup s w) := by
  obtain ⟨n, hnode, hrole, hobject, hparent⟩ := h
  have hself : (v.setupPopup s w).node s = some { n with data := some v.fresh } := by
    show (v.setNode s _).node s = _
    rw [setNode_node_self, hnode]
    rfl
  have hothers : ∀ q, q ≠ s → (v.setupPopup s w).node q = v.node q := fun q hq =>
    setNode_node_of_ne hq v _
  refine ⟨?_, ?_, hothers, rfl, fun pop hpop => List.mem_cons_of_mem _ hpop⟩
  -- `data` is read where the role is a toplevel, and this surface is a popup
  · funext start
    unfold chainStep
    cases start with
    | none => rfl
    | some q =>
      dsimp only
      by_cases hq : q = s
      · subst hq
        rw [hself, hnode]
        dsimp only
        rw [hrole]
      · rw [hothers q hq]
  · rintro parent' ⟨n', hnode', hrole', hobject', hparent'⟩
    rw [hnode] at hnode'
    obtain rfl := Option.some.inj hnode'
    exact ⟨_, hself, hrole', hobject', hparent'⟩

/-- The toplevel's listener sets up one popup at most. -/
theorem windowNewPopup_extends (h : v.HasPopup s parent) (p : Nat) :
    Extends s v (v.windowNewPopup s p) := by
  unfold windowNewPopup
  split
  · exact .refl s v
  · split
    · split
      · exact .refl s v
      · rename_i n _ _ _
        cases n.data with
        | none => exact .refl s v
        | some w => exact setupPopup_extends h w
    · exact .refl s v

/-- Each `wlx_popup` of the parent sets up one, under its own window. -/
theorem foldl_setupPopup (h : v.HasPopup s parent) (pops : List WlxPopup) :
    Extends s v (pops.foldl (fun v from_pop => v.setupPopup s from_pop.window) v) ∧
      ∀ pop, pop ∈ (pops.foldl (fun v from_pop => v.setupPopup s from_pop.window) v).popups ↔
        pop ∈ v.popups ∨ pop.surface = s ∧ ∃ from_pop ∈ pops, pop.window = from_pop.window := by
  induction pops generalizing v with
  | nil => exact ⟨.refl s v, fun pop => by simp⟩
  | cons first pops ih =>
    -- every popup is set up on its own, so the order does not matter
    have hfirst := setupPopup_extends h first.window
    obtain ⟨hrest, hmem⟩ := ih (hfirst.hasPopup parent h)
    refine ⟨hfirst.trans hrest, fun pop => ?_⟩
    rw [List.foldl_cons, hmem]
    have hpop : pop ∈ (v.setupPopup s first.window).popups ↔
        (pop.surface = s ∧ pop.window = first.window) ∨ pop ∈ v.popups := by
      obtain ⟨surface, window⟩ := pop
      exact List.mem_cons.trans (or_congr_left (by simp))
    rw [hpop]
    simp only [List.mem_cons, exists_eq_or_imp]
    tauto

/-- The parent's own `wlx_popup`s pass their windows on. -/
theorem mem_handleNewXdgPopup_iff (h : v.HasPopup s parent) (p : Nat) (pop : WlxPopup) :
    pop ∈ (v.handleNewXdgPopup s p).popups ↔
      pop ∈ v.popups ∨ pop.surface = s ∧
        ∃ from_pop ∈ v.popups, from_pop.surface = p ∧ pop.window = from_pop.window := by
  unfold handleNewXdgPopup
  rw [(foldl_setupPopup h _).2 pop]
  simp [and_assoc]

/-- So do the listeners of the parent's popups. -/
theorem handleNewXdgPopup_extends (h : v.HasPopup s parent) (p : Nat) :
    Extends s v (v.handleNewXdgPopup s p) :=
  (foldl_setupPopup h _).1

end Setup

/-! ## Owners -/

/-- Each `wlx_popup` is under the window of the toplevel at the end of its chain. -/
def Placed (v : PopupShell) : Prop := ∀ pop ∈ v.popups, v.Ends (some pop.surface) (.toplevel pop.window)

/-- In every state as long as requests resolve. -/
structure Owned (v : PopupShell) : Prop where
  known : ∀ q, v.node q ≠ none → q ∈ v.surfaces
  named : ∀ p n, v.node p = some n → n.role = .toplevel → n.data ≠ none
  placed : v.Placed

/-- At the start there are no popups. -/
theorem Owned.init : Owned init :=
  ⟨fun _ h => absurd rfl h, fun _ _ h => (Option.some_ne_none _ h.symm).elim, fun _ h => by cases h⟩

section Owners

variable {v v' : PopupShell} {parent : Option Nat} {p s w turns : Nat}

/-- A `wlx_popup` is placed rightly where its surface's parent has that owner. -/
theorem placed_of_new (hplaced : v.Placed) (hext : Extends s v v') (hpopup : v.HasPopup s parent)
    (hnew : ∀ pop ∈ v'.popups, pop ∈ v.popups ∨ pop.surface = s ∧ v.Ends parent (.toplevel pop.window)) :
    v'.Placed := by
  intro pop hpop
  rw [hext.ends]
  rcases hnew pop hpop with hold | ⟨hsurface, hends⟩
  · exact hplaced pop hold
  · rw [hsurface]
    exact (ends_of_hasPopup hpopup).mpr hends

/-- What is set up there belongs to the toplevel the walk ends at. -/
theorem windowNewPopup_placed (hplaced : v.Placed) (hpopup : v.HasPopup s (some p)) :
    (v.windowNewPopup s p).Placed := by
  refine placed_of_new hplaced (windowNewPopup_extends hpopup p) hpopup fun pop hpop => ?_
  unfold windowNewPopup at hpop
  split at hpop
  · exact .inl hpop
  -- the parent is a toplevel's surface, and its `data` the window
  · rename_i n hnode
    split at hpop
    · rename_i htoplevel
      split at hpop
      · exact .inl hpop
      · cases hdata : n.data with
        | none =>
          rw [hdata] at hpop
          exact .inl hpop
        | some w =>
          rw [hdata] at hpop
          rcases List.mem_cons.mp hpop with rfl | hold
          · exact .inr ⟨rfl, .stop (chainStep_eq_toplevel_iff.mpr
              ⟨p, n, rfl, hnode, htoplevel.1, htoplevel.2, hdata⟩)⟩
          · exact .inl hold
    · exact .inl hpop

/-- A popup of a popup belongs where its parent does. -/
theorem handleNewXdgPopup_placed (hplaced : v.Placed) (hpopup : v.HasPopup s (some p)) :
    (v.handleNewXdgPopup s p).Placed := by
  refine placed_of_new hplaced (handleNewXdgPopup_extends hpopup p) hpopup fun pop hpop => ?_
  rcases (mem_handleNewXdgPopup_iff hpopup p pop).mp hpop with hold | ⟨hsurface, from_pop, hfrom, rfl, hw⟩
  · exact .inl hold
  · refine .inr ⟨hsurface, ?_⟩
    rw [hw]
    exact hplaced from_pop hfrom

/-- The surface of the request has its popup. -/
theorem Allowed.hasPopup (h : v.Allowed s parent) : (v.withPopup s parent).HasPopup s parent := by
  obtain ⟨n, hnode, -, -⟩ := h.1
  refine ⟨{ n with role := .popup, object := true, parent := parent }, ?_, rfl, rfl, rfl⟩
  unfold withPopup
  rw [setNode_node_self, show v.node s = some n from hnode]
  rfl

/-- The request makes a popup of a surface that was none, so that no walk came through it. -/
theorem Allowed.keeps (h : v.Allowed s parent) : v.Keeps (v.withPopup s parent) := by
  obtain ⟨n, hnode, -, hobject⟩ := h.1
  intro p m hm hmobject
  have hne : p ≠ s := by
    rintro rfl
    rw [show v.node p = some n from hnode] at hm
    obtain rfl := Option.some.inj hm
    rw [hobject] at hmobject
    cases hmobject
  exact (setNode_node_of_ne hne v _).trans hm

/-- Before, it has none. -/
theorem Allowed.no_popup (h : v.Allowed s parent) (hplaced : v.Placed) {pop : WlxPopup}
    (hpop : pop ∈ v.popups) : pop.surface ≠ s := by
  rintro rfl
  obtain ⟨n, hnode, -, hobject⟩ := h.1
  obtain ⟨m, hm, hmobject⟩ := object_of_ends (hplaced pop hpop)
  rw [show v.node pop.surface = some n from hnode] at hm
  obtain rfl := Option.some.inj hm
  rw [hobject] at hmobject
  cases hmobject

/-- Popups that are there stay where they belong. -/
theorem withPopup_placed (hplaced : v.Placed) (h : v.Allowed s parent) :
    (v.withPopup s parent).Placed := fun pop hpop => (hplaced pop hpop).keep h.keeps

/-- The role comes before the `data`. -/
theorem withPopup_hasData (v : PopupShell) (s : Nat) (parent : Option Nat) :
    (v.withPopup s parent).hasData s = v.hasData s := by
  unfold hasData withPopup
  rw [setNode_node_self]
  cases v.node s <;> rfl

/-- Both listeners of the parent, in their order. -/
theorem signalParent_extends (hpopup : v.HasPopup s parent) : Extends s v (v.signalParent s parent) := by
  unfold signalParent
  cases parent with
  | none => exact .refl s v
  | some p =>
    have hwindow := windowNewPopup_extends hpopup p
    exact hwindow.trans (handleNewXdgPopup_extends (hwindow.hasPopup _ hpopup) p)

/-- What they set up belongs where the walk ends. -/
theorem signalParent_placed (hplaced : v.Placed) (hpopup : v.HasPopup s parent) :
    (v.signalParent s parent).Placed := by
  unfold signalParent
  cases parent with
  | none => exact hplaced
  | some p =>
    have hwindow := windowNewPopup_extends hpopup p
    exact handleNewXdgPopup_placed (windowNewPopup_placed hplaced hpopup) (hwindow.hasPopup _ hpopup)

/-- On a surface with `data` only the parent's `wlx_popup`s do something. -/
theorem mem_signalParent_iff (hpopup : v.HasPopup s parent) (hdata : v.hasData s = true)
    (pop : WlxPopup) :
    pop ∈ (v.signalParent s parent).popups ↔
      pop ∈ v.popups ∨ pop.surface = s ∧
        ∃ from_pop ∈ v.popups, parent = some from_pop.surface ∧ pop.window = from_pop.window := by
  unfold signalParent
  cases parent with
  | none => simp
  | some p =>
    have hwindow : v.windowNewPopup s p = v := by
      unfold windowNewPopup
      rw [hdata]
      cases v.node p <;> simp
    dsimp only
    rw [hwindow, mem_handleNewXdgPopup_iff hpopup]
    simp only [Option.some.injEq, eq_comm]

/-- **The announcement** on a surface without `data`: the chain is followed to its end. -/
theorem serverNewXdgPopup_eq_some (hdata : v.hasData s = false)
    (h : v.serverNewXdgPopup s parent turns = some v') :
    (v.Ends parent .gone ∧ v' = v) ∨
      ∃ w, (v.Ends parent (.toplevel w) ∨ v.Ends parent (.freed w)) ∧ v' = v.setupPopup s w := by
  unfold serverNewXdgPopup at h
  rw [hdata, if_neg Bool.false_ne_true, popupFindToplevelWindow_eq] at h
  cases hrun : Chase.run v.chainStep turns parent with
  | none =>
    rw [hrun] at h
    cases h
  | some e =>
    have hends : v.Ends parent e := Chase.leads_of_run hrun
    rw [hrun] at h
    cases e with
    | noParent => cases h
    | toplevel w =>
      cases h
      exact .inr ⟨w, .inl hends, rfl⟩
    -- the walk comes to a toplevel that is gone, and takes its window all the same
    | freed w =>
      cases h
      exact .inr ⟨w, .inr hends, rfl⟩
    | gone =>
      cases h
      exact .inl ⟨hends, rfl⟩

/-- Where the walk ends, the loop ends with it. -/
theorem exists_popupFindToplevelWindow {e : ChainEnd} (hends : v.Ends parent e) :
    ∃ turns, v.popupFindToplevelWindow turns parent = some e.found := by
  obtain ⟨turns, hrun⟩ := Chase.exists_run_iff.mpr hends
  refine ⟨turns, ?_⟩
  rw [popupFindToplevelWindow_eq, hrun]
  rfl

/-- With enough turns the search comes to an end, and the server does as it finds. -/
theorem exists_serverNewXdgPopup {e : ChainEnd} (hdata : v.hasData s = false) (hends : v.Ends parent e) :
    ∃ turns, v.serverNewXdgPopup s parent turns =
      match e.found with
      | .crashed => none
      | .notFound => some v
      | .window w => some (v.setupPopup s w) := by
  obtain ⟨turns, hfind⟩ := exists_popupFindToplevelWindow hends
  refine ⟨turns, ?_⟩
  unfold serverNewXdgPopup
  rw [hdata, hfind]
  cases e <;> rfl

/-- Where a popup is placed rightly if at all, and is if it has an owner, the request has resolved. -/
theorem resolved_of_placed {u : PopupShell} (hpopup : u.HasPopup s parent) (hext : Extends s u v')
    (hplaced : v'.Placed)
    (hexists : ∀ w, u.Ends parent (.toplevel w) → ∃ pop ∈ v'.popups, pop.surface = s) :
    (∀ w, u.Ends parent (.toplevel w) →
        (∃ pop ∈ v'.popups, pop.surface = s) ∧ ∀ pop ∈ v'.popups, pop.surface = s → pop.window = w) ∧
      ((∀ w, ¬u.Ends parent (.toplevel w)) → ∀ pop ∈ v'.popups, pop.surface ≠ s) := by
  have howner : ∀ pop ∈ v'.popups, pop.surface = s → u.Ends parent (.toplevel pop.window) := by
    rintro pop hpop rfl
    exact (ends_of_hasPopup hpopup).mp (hext.ends.mp (hplaced pop hpop))
  refine ⟨fun w hends => ⟨hexists w hends, fun pop hpop hsurface => ?_⟩, fun hnone pop hpop hsurface => ?_⟩
  · exact ChainEnd.toplevel.inj ((howner pop hpop hsurface).unique hends)
  · exact hnone pop.window (howner pop hpop hsurface)

/-- **A popup on a surface that has had none.** -/
theorem resolves_fresh_iff (hplaced : v.Placed) (hallowed : v.Allowed s parent)
    (hdata : v.hasData s = false) :
    v.Resolves (.getPopup s parent turns) ↔
      (∃ w, (v.withPopup s parent).Ends parent (.toplevel w)) ∨ (v.withPopup s parent).Ends parent .gone := by
  have hpopup := hallowed.hasPopup
  have hplaced := withPopup_placed hplaced hallowed
  have hdata : (v.withPopup s parent).hasData s = false := (withPopup_hasData v s parent).trans hdata
  constructor
  -- whatever the walk comes to, a `wlx_popup` is made of it
  · intro h
    obtain ⟨turns, v', hcreate, -, hnone⟩ := h hallowed
    obtain ⟨u, hserver, rfl⟩ := Option.map_eq_some_iff.mp hcreate
    rcases serverNewXdgPopup_eq_some hdata hserver with ⟨hgone, -⟩ | ⟨w, hends | hfreed, rfl⟩
    · exact .inr hgone
    · exact .inl ⟨w, hends⟩
    · -- the window has been freed: there is no owner, and a `wlx_popup` all the same
      have hsetup := setupPopup_extends hpopup w
      have hmem := (signalParent_extends (hsetup.hasPopup _ hpopup)).popups ⟨s, w⟩ List.mem_cons_self
      refine absurd rfl (hnone (fun w' hends => ?_) ⟨s, w⟩ hmem)
      cases hends.unique hfreed
  · rintro hrooted -
    rcases hrooted with ⟨w, hends⟩ | hgone
    · obtain ⟨turns, hserver⟩ := exists_serverNewXdgPopup hdata hends
      have hsetup := setupPopup_extends hpopup w
      have hpopup' := hsetup.hasPopup _ hpopup
      have hplaced' : ((v.withPopup s parent).setupPopup s w).Placed := by
        refine placed_of_new hplaced hsetup hpopup fun pop hpop => ?_
        rcases List.mem_cons.mp hpop with rfl | hold
        · exact .inr ⟨rfl, hends⟩
        · exact .inl hold
      refine ⟨turns, _, Option.map_eq_some_iff.mpr ⟨_, hserver, rfl⟩, ?_⟩
      refine resolved_of_placed hpopup (hsetup.trans (signalParent_extends hpopup'))
        (signalParent_placed hplaced' hpopup') fun _ _ => ⟨⟨s, w⟩, ?_, rfl⟩
      exact (signalParent_extends hpopup').popups _ List.mem_cons_self
    · obtain ⟨turns, hserver⟩ := exists_serverNewXdgPopup hdata hgone
      refine ⟨turns, _, Option.map_eq_some_iff.mpr ⟨_, hserver, rfl⟩, ?_⟩
      refine resolved_of_placed hpopup (signalParent_extends hpopup) (signalParent_placed hplaced hpopup)
        fun w hends => ?_
      cases hends.unique hgone

/-- **A popup on a surface that has had one** gets its window from the parent's `wlx_popup`s only. -/
theorem resolves_again_iff (hplaced : v.Placed) (hallowed : v.Allowed s parent)
    (hdata : v.hasData s = true) :
    v.Resolves (.getPopup s parent turns) ↔
      ∀ w, (v.withPopup s parent).Ends parent (.toplevel w) → ∃ pop ∈ v.popups, parent = some pop.surface := by
  have hpopup := hallowed.hasPopup
  have hdata : (v.withPopup s parent).hasData s = true := (withPopup_hasData v s parent).trans hdata
  -- a surface with `data` is passed over by the server
  have hcreate : ∀ turns, v.createXdgPopup s parent turns =
      some ((v.withPopup s parent).signalParent s parent) := by
    intro turns
    unfold createXdgPopup serverNewXdgPopup
    rw [hdata]
    rfl
  constructor
  · intro h w hends
    obtain ⟨turns, v', hv', howner, -⟩ := h hallowed
    rw [hcreate] at hv'
    obtain rfl := Option.some.inj hv'
    obtain ⟨⟨pop, hpop, hsurface⟩, -⟩ := howner w hends
    rcases (mem_signalParent_iff hpopup hdata pop).mp hpop with hold | ⟨-, from_pop, hfrom, hparent, -⟩
    · exact absurd hsurface (hallowed.no_popup hplaced hold)
    · exact ⟨from_pop, hfrom, hparent⟩
  · rintro hrooted -
    refine ⟨0, _, hcreate 0, ?_⟩
    refine resolved_of_placed hpopup (signalParent_extends hpopup)
      (signalParent_placed (withPopup_placed hplaced hallowed) hpopup) fun w hends => ?_
    obtain ⟨from_pop, hfrom, hparent⟩ := hrooted w hends
    exact ⟨⟨s, from_pop.window⟩,
      (mem_signalParent_iff hpopup hdata _).mpr (.inr ⟨rfl, from_pop, hfrom, hparent, rfl⟩), rfl⟩

/-- **A request resolves exactly if it is rooted.** On a surface without `data` the loop follows the
chain; on any other only the parent's popups can help. -/
theorem resolves_iff_rooted (h : v.Owned) (a : PopupAction) : v.Resolves a ↔ v.Rooted a := by
  -- only `get_popup` has a request to resolve
  cases a with
  | getPopup s parent turns =>
    by_cases hallowed : v.Allowed s parent
    · have hrooted : v.Rooted (.getPopup s parent turns) ↔ _ := forall_prop_of_true hallowed
      rw [hrooted]
      cases hdata : v.hasData s with
      | false =>
        rw [if_neg Bool.false_ne_true]
        exact resolves_fresh_iff h.placed hallowed hdata
      | true =>
        rw [if_pos rfl]
        exact resolves_again_iff h.placed hallowed hdata
    · exact iff_of_true (fun h => absurd h hallowed) fun h => absurd h hallowed
  | newSurface p => exact Iff.rfl
  | getToplevel p => exact Iff.rfl
  | destroy gone => exact Iff.rfl
  | destroySurface p => exact Iff.rfl

/-! ## Runs -/

/-- A request that resolves keeps every `wlx_popup` where it belongs. -/
theorem Owned.getPopup (h : v.Owned) (hresolves : v.Resolves (.getPopup s parent turns))
    (hstep : v.step (.getPopup s parent turns) = some v') : v'.Owned := by
  have hrooted := (resolves_iff_rooted h _).mp hresolves
  have hstep : (if v.Allowed s parent then v.createXdgPopup s parent turns else none) = some v' := hstep
  by_cases hallowed : v.Allowed s parent
  · rw [if_pos hallowed] at hstep
    have hrooted := hrooted hallowed
    have hpopup := hallowed.hasPopup
    have hplaced := withPopup_placed h.placed hallowed
    obtain ⟨u, hserver, rfl⟩ := Option.map_eq_some_iff.mp hstep
    -- what `server_new_xdg_popup` has set up before the signal
    have hu : Extends s (v.withPopup s parent) u ∧ u.Placed := by
      cases hdata : v.hasData s with
      | true =>
        unfold serverNewXdgPopup at hserver
        rw [withPopup_hasData, hdata] at hserver
        obtain rfl := Option.some.inj hserver
        exact ⟨.refl s _, hplaced⟩
      | false =>
        rw [hdata, if_neg Bool.false_ne_true] at hrooted
        have hdata : (v.withPopup s parent).hasData s = false := (withPopup_hasData v s parent).trans hdata
        rcases serverNewXdgPopup_eq_some hdata hserver with ⟨-, rfl⟩ | ⟨w, hends, rfl⟩
        · exact ⟨.refl s _, hplaced⟩
        · have hsetup := setupPopup_extends hpopup w
          refine ⟨hsetup, placed_of_new hplaced hsetup hpopup fun pop hpop => ?_⟩
          rcases List.mem_cons.mp hpop with rfl | hold
          · refine .inr ⟨rfl, ?_⟩
            rcases hends with hends | hfreed
            · exact hends
            · -- it is rooted, so that it has not been freed
              rcases hrooted with ⟨w', hends⟩ | hgone
              · cases hends.unique hfreed
              · cases hgone.unique hfreed
          · exact .inl hold
    have hext := hu.1.trans (signalParent_extends (hu.1.hasPopup _ hpopup))
    obtain ⟨n, hnode, hrole, -⟩ := hext.hasPopup _ hpopup
    refine ⟨fun q hq => ?_, fun p m hm htoplevel => ?_, signalParent_placed hu.2 (hu.1.hasPopup _ hpopup)⟩
    · rw [hext.surfaces]
      refine h.known q fun hnone => ?_
      by_cases hqs : q = s
      · subst hqs
        obtain ⟨m, hm, -⟩ := hallowed.1
        rw [hnone] at hm
        cases hm
      · rw [hext.others q hqs] at hq
        exact hq ((setNode_node_of_ne hqs v _).trans hnone)
    · by_cases hps : p = s
      · subst hps
        rw [hnode] at hm
        obtain rfl := Option.some.inj hm
        rw [hrole] at htoplevel
        cases htoplevel
      · rw [hext.others p hps] at hm
        exact h.named p m ((setNode_node_of_ne hps v _).symm.trans hm) htoplevel
  · rw [if_neg hallowed] at hstep
    cases hstep

/-- Popups that stay have their chains. -/
theorem Owned.destroy (h : v.Owned) {gone : List Nat} (hstep : v.step (.destroy gone) = some v') :
    v'.Owned := by
  have hstep : (if v.Closed gone then _ else none) = some v' := hstep
  by_cases hclosed : v.Closed gone
  · rw [if_pos hclosed] at hstep
    obtain rfl := Option.some.inj hstep
    have hkeep : ∀ p, p ∉ gone → (if p ∈ gone then (v.node p).map fun n => { n with object := false }
        else v.node p) = v.node p := fun p hp => if_neg hp
    refine ⟨fun q hq => h.known q fun hnone => hq ?_, fun p n hn htoplevel => ?_, fun pop hpop => ?_⟩
    · dsimp only
      rw [hnone]
      split <;> rfl
    · dsimp only at hn
      split at hn
      · obtain ⟨m, hm, rfl⟩ := Option.map_eq_some_iff.mp hn
        exact h.named p m hm htoplevel
      · exact h.named p n hn htoplevel
    · obtain ⟨hpop, hstays⟩ := List.mem_filter.mp hpop
      have hstays : pop.surface ∉ gone := of_decide_eq_true hstays
      -- nothing on the way up is destroyed, or the popup would be
      refine (h.placed pop hpop).transfer (P := fun start => ∀ p ∈ start, p ∉ gone) ?_ ?_ ?_
      · intro p hp
        obtain rfl := Option.some.inj hp
        exact hstays
      · intro a a' ha hgo hleads
        obtain ⟨p, n, rfl, hnode, hrole, hobject, rfl⟩ := chainStep_eq_inl_iff.mp hgo
        refine ⟨chainStep_eq_inl_iff.mpr
          ⟨p, n, rfl, (hkeep p (ha p rfl)).trans hnode, hrole, hobject, rfl⟩, fun q hq hgone => ?_⟩
        have hknown := h.known p (by rw [hnode]; exact Option.some_ne_none n)
        exact ha p rfl (hclosed p hknown n hnode hrole hobject q hq hgone)
      · intro a ha hstop
        obtain ⟨p, n, rfl, hnode, hrole, hobject, hdata⟩ := chainStep_eq_toplevel_iff.mp hstop
        exact chainStep_eq_toplevel_iff.mpr
          ⟨p, n, rfl, (hkeep p (ha p rfl)).trans hnode, hrole, hobject, hdata⟩
  · rw [if_neg hclosed] at hstep
    cases hstep

/-- A surface without a role object is on nobody's way. -/
theorem Owned.setNode (h : v.Owned) (hfree : ∀ n, v.node p = some n → n.object = false)
    {n : Option XdgNode} (hnamed : ∀ m ∈ n, m.role = .toplevel → m.data ≠ none)
    (hknown : v.node p = none → n ≠ none → p ∈ v'.surfaces) (hnode : v'.node = (v.setNode p n).node)
    (hsurfaces : ∀ q ∈ v.surfaces, q ∈ v'.surfaces) (hpopups : v'.popups = v.popups) : v'.Owned := by
  -- the node of one surface changes; on a chain it could only be met with a role object
  have hothers : ∀ q, q ≠ p → v'.node q = v.node q := fun q hq => by
    rw [hnode]
    exact setNode_node_of_ne hq v n
  have hself : v'.node p = n := by rw [hnode, setNode_node_self]
  refine ⟨fun q hq => ?_, fun q m hm htoplevel => ?_, fun pop hpop => ?_⟩
  · by_cases hqp : q = p
    · subst hqp
      rw [hself] at hq
      cases hold : v.node q with
      | none => exact hknown hold hq
      | some m => exact hsurfaces q (h.known q (by rw [hold]; exact Option.some_ne_none m))
    · rw [hothers q hqp] at hq
      exact hsurfaces q (h.known q hq)
  · by_cases hqp : q = p
    · subst hqp
      exact hnamed m (hself.symm.trans hm) htoplevel
    · exact h.named q m ((hothers q hqp).symm.trans hm) htoplevel
  · rw [hpopups] at hpop
    refine (h.placed pop hpop).keep fun q m hm hobject => ?_
    have hqp : q ≠ p := by
      rintro rfl
      rw [hfree m hm] at hobject
      cases hobject
    exact (hothers q hqp).trans hm

/-- Each event keeps every popup with the toplevel at the root of its chain. One case per event. -/
theorem Owned.step (h : v.Owned) {a : PopupAction} (hresolves : v.Resolves a)
    (hstep : v.step a = some v') : v'.Owned := by
  cases a with
  | getPopup s parent turns => exact h.getPopup hresolves hstep
  | destroy gone => exact h.destroy hstep
  | newSurface p =>
    unfold PopupShell.step at hstep
    dsimp only at hstep
    split at hstep
    -- the surface is new, so no chain has met it
    · rename_i hnone
      obtain rfl := Option.some.inj hstep
      refine h.setNode (p := p) (n := some ⟨.none, false, none, none⟩) ?_ ?_ (fun _ _ => List.mem_cons_self)
        rfl (fun q hq => List.mem_cons_of_mem p hq) rfl
      · intro n hn
        rw [hnone] at hn
        cases hn
      · rintro m hm htoplevel
        obtain rfl := Option.some.inj hm
        cases htoplevel
    · cases hstep
  | getToplevel p =>
    unfold PopupShell.step at hstep
    dsimp only at hstep
    split at hstep
    -- a toplevel comes with a window of its own
    · rename_i hfree
      obtain ⟨n, hn, -, hobject⟩ := hfree
      obtain rfl := Option.some.inj hstep
      refine h.setNode (p := p) (n := some ⟨.toplevel, true, none, some v.fresh⟩) ?_ ?_ ?_ rfl
        (fun q hq => hq) rfl
      · intro m hm
        rw [show v.node p = some n from hn] at hm
        obtain rfl := Option.some.inj hm
        exact hobject
      · rintro m hm -
        obtain rfl := Option.some.inj hm
        exact Option.some_ne_none _
      · intro hnone
        rw [show v.node p = some n from hn] at hnone
        cases hnone
    · cases hstep
  | destroySurface p =>
    unfold PopupShell.step at hstep
    dsimp only at hstep
    split at hstep
    -- what goes has no role object
    · rename_i hunused
      obtain ⟨n, hn, hobject⟩ := hunused.1
      obtain rfl := Option.some.inj hstep
      refine h.setNode (p := p) (n := none) ?_ (fun m hm => by cases hm) (fun _ hne => absurd rfl hne) rfl
        (fun q hq => hq) rfl
      intro m hm
      rw [show v.node p = some n from hn] at hm
      obtain rfl := Option.some.inj hm
      exact hobject
    · cases hstep

end Owners

/-- **Popups and their toplevels.** Along every run of surfaces, toplevels and popups that clients make
and destroy, each `get_popup` leaves the compositor running with the popup under the window of the
toplevel at the end of its chain, if there is one, and without a `wlx_popup` otherwise, if and only if:
on a surface that has had no `wlx_popup` the chain ends, at a toplevel that is there or at a surface
whose popup is gone; and on one that has had one, the parent of a popup with a toplevel is a popup with
a `wlx_popup`. -/
theorem resolves_iff (as : List PopupAction) :
    Run.Along step Resolves init as ↔ Run.Along step Rooted init as :=
  Run.along_iff_of_guarded (I := Owned) (fun _ _ _ h hresolves hstep => h.step hresolves hstep)
    (fun _ a h => resolves_iff_rooted h a) .init

/-- A client asks for a popup without a parent, to give it one by another protocol. -/
def orphanRun : List PopupAction := [.newSurface 0, .getPopup 0 none 1]

/-- The compositor reads the role of a null surface. -/
theorem orphanRun_crashes : ¬ ∀ as, Run.Along step Resolves init as := by
  intro h
  obtain ⟨-, hresolves, -⟩ := h orphanRun
  obtain ⟨turns, v', hcreate, -⟩ := hresolves (by decide)
  cases turns <;> cases hcreate

end PopupShell

end Wlx
