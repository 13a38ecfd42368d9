import Mathlib.Data.List.Find
import WlX11.Lib.Run
import WlX11.PointerLookup
import WlX11.PresentCache

/-!
# WlX11 — where the pointer looks for popups

`popup_at_root_pointer` and `subpresent_at_root_pointer` look for the pointer in the root boxes that
popups and subpresents remember, and not in their present windows.

* **`PresentShell`** — all popups and subpresents, and the handlers that place them.
* **`step_current`** — every handler leaves every root box where the present window is.
* **`rootBox_accurate`** — so after every run what is remembered is so, and the pointer finds what it
  would find by the windows.
-/

namespace Wlx

/-! ## All popups and subpresents -/

/-- `struct wlx_popup`, from when its scene tree is made until it is freed. -/
structure PlacedPopup where
  id : Nat
  /-- `parent`, the toplevel at the root of the chain -/
  parent : Nat
  /-- the popup it belongs to, if `xdg_popup->parent` is a popup's surface -/
  parentPopup : Option Nat
  cache : PresentCache
deriving DecidableEq

/-- `struct wlx_subpresent`. -/
structure PlacedSubpresent where
  surface : Nat
  parent : Nat
  /-- `sx`, `sy` -/
  offset : Point
  cache : PresentCache
deriving DecidableEq

/-- What a handler finds: the clients' surfaces, the toplevels, and what memory and the X server allow. -/
structure ShellView where
  popup : Nat → PopupSurface
  /-- the X server's root window is known -/
  screen : Bool
  /-- the toplevels -/
  window : Nat → PopupWindow
  /-- the surfaces of subpresents -/
  surfaces : Nat → Option SurfaceState
  /-- what `wlr_x11_present_window_create` gives a popup -/
  xpresent : Option Nat
  /-- what there is for a subpresent -/
  env : Nat → SubpresentEnv

namespace PlacedPopup

def updateCache (f : PresentCache → PresentCache) (p : PlacedPopup) : PlacedPopup :=
  { p with cache := f p.cache }

/-- The popup with a valid root box, if it can have one. -/
def refreshed (cfg : Config) (view : ShellView) (p : PlacedPopup) : PlacedPopup :=
  p.updateCache (·.refreshed cfg (view.window p.parent) (view.popup p.id))

/-- Where the popup is on the root: where its present window is, or, without one, where it is drawn in its
toplevel's window. -/
def placed (cfg : Config) (view : ShellView) (p : PlacedPopup) : Option Box :=
  match p.cache.xpresent with
  | some w => if w.mapped then some w.host else none
  | none => (p.refreshed cfg view).cache.rootBox

end PlacedPopup

namespace PlacedSubpresent

/-- The subpresent as `Subpresents` has it; its listeners are linked to its present window. -/
def toSubpresent (sp : PlacedSubpresent) : Subpresent where
  surface := sp.surface
  parent := sp.parent
  xpresent := sp.cache.xpresent.map (·.win)
  xpresentFrame := sp.cache.xpresent.map (·.win)
  xpresentDestroy := sp.cache.xpresent.map (·.win)
  offset := sp.offset
  rootBox := sp.cache.rootBox
  nodeNewer := false

/-- `subpresent_position_and_present`. -/
def positionAndPresent (cfg : Config) (win : PopupWindow) (surf : Option SurfaceState)
    (created : Option Nat) (sp : PlacedSubpresent) : PlacedSubpresent :=
  match surf with
  | none => sp
  | some surf =>
    if surf.mapped then
      match sp.toSubpresent.computeRoot cfg win surf with
      | none => sp
      | some box => { sp with cache := sp.cache.subpresentPositionAndPresent cfg surf created box }
    else sp

/-- A box that is computed is not empty. -/
theorem computeRoot_isSet {cfg : Config} {win : PopupWindow} {surf : SurfaceState} {sp : Subpresent}
    {box : Box} (h : sp.computeRoot cfg win surf = some box) : box.size.isSet = true := by
  unfold Subpresent.computeRoot at h
  split at h
  · cases h
  · obtain ⟨o, -, rfl⟩ := Option.map_eq_some_iff.mp h
    simp only [Box.size, Size.isSet_iff]
    omega

/-- `subpresent_create_xpresent` is the same for the record of the registry. -/
theorem createXpresent_toSubpresent (created : Option Nat) (sp : PlacedSubpresent) :
    sp.toSubpresent.createXpresent created = (sp.cache.createXpresent created).map fun w =>
      { sp.toSubpresent with
        xpresent := some w.win
        xpresentFrame := some w.win
        xpresentDestroy := some w.win } := by
  unfold Subpresent.createXpresent PresentCache.createXpresent toSubpresent
  cases sp.cache.xpresent with
  | some w => rfl
  | none => cases created <;> rfl

/-- Where `Subpresent.positionAndPresent` places a subpresent, this one remembers to be. -/
theorem positionAndPresent_toSubpresent (cfg : Config) (win : PopupWindow) (surf : SurfaceState)
    (created : Option Nat) (sp : PlacedSubpresent) :
    (sp.positionAndPresent cfg win (some surf) created).toSubpresent =
      (sp.toSubpresent.positionAndPresent cfg win surf created).getD sp.toSubpresent := by
  unfold positionAndPresent Subpresent.positionAndPresent
  dsimp only
  split
  -- no place, no window for it, or placed and remembered
  · cases hbox : sp.toSubpresent.computeRoot cfg win surf with
    | none => rfl
    | some box =>
      rw [Option.bind_some, createXpresent_toSubpresent]
      dsimp only
      cases hw : sp.cache.createXpresent created with
      | none =>
        unfold PresentCache.subpresentPositionAndPresent
        rw [hw]
        rfl
      | some w =>
        have hroot := PresentCache.subpresentPositionAndPresent_root cfg surf (computeRoot_isSet hbox) hw
        have hwin : (sp.cache.subpresentPositionAndPresent cfg surf created box).xpresent.map (·.win) =
            some w.win := by
          unfold PresentCache.subpresentPositionAndPresent
          rw [hw]
          exact PresentCache.win_placeAt_renderAndPresent surf.buffer
        unfold toSubpresent
        simp only [hroot, hwin, Option.map_some, Option.getD_some]
  · rfl

/-- `wlx_window_reposition_subpresents`, for one of them. -/
def reposition (cfg : Config) (view : ShellView) (win : Nat) (sp : PlacedSubpresent) : PlacedSubpresent :=
  if sp.parent = win ∧ sp.cache.xpresent.isSome = true then
    sp.positionAndPresent cfg (view.window win) (view.surfaces sp.surface)
      (view.env sp.surface).xpresent
  else sp

/-- Where the present window of a subpresent is on the root. -/
def placed (sp : PlacedSubpresent) : Option Box :=
  (sp.cache.xpresent.filter (·.mapped)).map (·.host)

end PlacedSubpresent

/-- The popups and subpresents of `struct wlx_server`, each newest first. -/
structure PresentShell where
  popups : List PlacedPopup
  subpresents : List PlacedSubpresent
deriving DecidableEq

namespace PresentShell

def init : PresentShell := ⟨[], []⟩

def popup (v : PresentShell) (id : Nat) : Option PlacedPopup := v.popups.find? (·.id = id)

def updatePopup (id : Nat) (f : PlacedPopup → PlacedPopup) (v : PresentShell) : PresentShell :=
  { v with popups := v.popups.map fun p => if p.id = id then f p else p }

def updateSubpresent (surface : Nat) (f : PlacedSubpresent → PlacedSubpresent) (v : PresentShell) :
    PresentShell :=
  { v with subpresents := v.subpresents.map fun sp => if sp.surface = surface then f sp else sp }

/-- `setup_popup`. -/
def setupPopup (id parent : Nat) (parentPopup : Option Nat) (v : PresentShell) : PresentShell :=
  { v with popups := ⟨id, parent, parentPopup, .new⟩ :: v.popups }

/-- `destroy_present_windows_for_toplevel`. -/
def destroyPresentWindows (win : Nat) (v : PresentShell) : PresentShell :=
  { v with popups := v.popups.map fun p =>
      if p.parent = win then p.updateCache (·.popupDestroyXpresent) else p }

/-- `subpresent_get_or_create`; without memory there is none. -/
def getOrCreate (win surface : Nat) (offset : Point) (memory : Bool) (v : PresentShell) : PresentShell :=
  if v.subpresents.any (·.surface = surface) then
    v.updateSubpresent surface fun sp => { sp with offset := offset, parent := win }
  else if memory then
    { v with subpresents := ⟨surface, win, offset, .new⟩ :: v.subpresents }
  else v

/-- `subpresent_destroy`, for all subpresents that `p` selects. -/
def destroyWhere (p : PlacedSubpresent → Bool) (v : PresentShell) : PresentShell :=
  { v with subpresents := v.subpresents.filter fun sp => !p sp }

section Handlers

variable (cfg : Config) (view : ShellView)

/-- `popup_compute_root_placement`: "Prefer that popup's cached root box so submenus track the menu". -/
def popupComputeRootPlacement (p : PlacedPopup) (v : PresentShell) : Option Box × PresentShell :=
  let surf := view.popup p.id
  if surf.logicalSize.isSet then
    match p.parentPopup.bind v.popup with
    -- "Nested popup: geometry is relative to the parent popup surface"
    | some q =>
      ((q.refreshed cfg view).cache.rootBox.map fun b => surf.placedFrom cfg ⟨b.x, b.y⟩ ⟨0, 0⟩,
        v.updatePopup q.id (·.refreshed cfg view))
    -- "Direct child of a toplevel"
    | none =>
      let win := view.window p.parent
      (win.contentRoot.map fun o => surf.placedFrom cfg o (win.contentOrigin cfg), v)
  else (none, v)

/-- `popup_position_and_map`. -/
def popupPositionAndMap (p : PlacedPopup) (v : PresentShell) : PresentShell :=
  match v.popupComputeRootPlacement cfg view p with
  | (none, v) => v
  | (some box, v) => v.updatePopup p.id fun p =>
    p.updateCache (·.popupPositionAndMap cfg (view.window p.parent) (view.popup p.id) view.xpresent box)

/-- What `popup_unconstrain_box` does to the parent popup. -/
def popupUnconstrainBox (p : PlacedPopup) (v : PresentShell) : PresentShell :=
  match p.parentPopup with
  | some q => if view.screen then v.updatePopup q (·.refreshed cfg view) else v
  | none => v

/-- `popup_commit`. -/
def popupCommit (p : PlacedPopup) (v : PresentShell) : PresentShell :=
  let v := if (view.popup p.id).initialCommit then v.popupUnconstrainBox cfg view p else v
  if (view.popup p.id).mapped then v.popupPositionAndMap cfg view p else v

/-- One turn of the loop of `wlx_reposition_popups_for_window`. -/
def repositionPopup (win : Nat) (p : PlacedPopup) (v : PresentShell) : PresentShell :=
  if p.parent = win ∧ (view.popup p.id).mapped = true then
    match v.popupComputeRootPlacement cfg view p with
    | (none, v) => v
    | (some box, v) => v.updatePopup p.id (·.updateCache (·.reposition box))
  else v

/-- `wlx_window_reposition_subpresents`. -/
def repositionSubpresents (win : Nat) (v : PresentShell) : PresentShell :=
  { v with subpresents := v.subpresents.map (·.reposition cfg view win) }

/-- `wlx_reposition_popups_for_window`: "Oldest first so parent menus update root boxes before nested
submenus that depend on them". -/
def repositionPopups (win : Nat) (v : PresentShell) : PresentShell :=
  (v.popups.reverse.foldl (fun v p => v.repositionPopup cfg view win p) v).repositionSubpresents
    cfg view win

/-- The end of `subpresent_sync_iterator`, for a surface that overflows; the surfaces are those noted in
`keep`. -/
def syncIterator (win : SubWindow) (acc : PresentShell × List Nat) (x : Nat × Point) :
    PresentShell × List Nat :=
  let env := view.env x.1
  if env.keep then
    ((acc.1.getOrCreate win.id x.1 x.2 env.memory).updateSubpresent x.1
      (·.positionAndPresent cfg win.place (view.surfaces x.1) env.xpresent), acc.2 ++ [x.1])
  else acc

/-- `wlx_window_sync_subpresents`. -/
def syncSubpresents (win : SubWindow) (v : PresentShell) : PresentShell :=
  if win.output then
    let r := (Subpresents.overflowing view.surfaces win).foldl (syncIterator cfg view win) (v, [])
    -- "Demote subpresents for this parent that are no longer overflowing"
    r.1.destroyWhere fun sp => sp.parent = win.id && !r.2.contains sp.surface
  else v.destroyWhere (·.parent = win.id)

/-- `popup_at_root_pointer`: the popup that is found, and the popups with the root boxes they now have. -/
def popupAtRootPointer (q : Point) : List PlacedPopup → Option Nat × List PlacedPopup
  | [] => (none, [])
  | p :: ps =>
    if (view.popup p.id).mapped then
      let p := p.refreshed cfg view
      if p.cache.rootBox.any (·.covers q) then (some p.id, p :: ps)
      else
        let r := popupAtRootPointer q ps
        (r.1, p :: r.2)
    else
      let r := popupAtRootPointer q ps
      (r.1, p :: r.2)

end Handlers

/-- `subpresent_at_root_pointer`. -/
def subpresentAtRootPointer (q : Point) (v : PresentShell) : Option Nat :=
  (v.subpresents.find? fun sp =>
    sp.cache.rootBoxValid && sp.cache.xpresent.any (·.mapped) && sp.cache.root.covers q).map (·.surface)

end PresentShell

inductive RootBoxAction where
  /-- `setup_popup`; where no scene tree can be made the program goes on with a freed popup, and that is
  no step here -/
  | setupPopup (id parent : Nat) (parentPopup : Option Nat)
  /-- `popup_map` -/
  | popupMap (id : Nat) (view : ShellView)
  | popupCommit (id : Nat) (view : ShellView)
  /-- `popup_render_and_present`, which is only called where a popup is placed -/
  | popupRender (id : Nat) (view : ShellView)
  | popupUnmap (id : Nat)
  | popupDestroy (id : Nat)
  /-- `popup_handle_xpresent_destroy` -/
  | popupXpresentDestroy (id : Nat)
  /-- `wlx_reposition_popups_for_window` -/
  | reposition (win : Nat) (view : ShellView)
  /-- `destroy_present_windows_for_toplevel` -/
  | destroyPresentWindows (win : Nat)
  /-- `subpresent_handle_surface_commit` -/
  | subpresentCommit (surface : Nat) (view : ShellView)
  /-- `subpresent_render_and_present` -/
  | subpresentRender (surface : Nat) (view : ShellView)
  /-- `subpresent_handle_surface_destroy` -/
  | subpresentDestroy (surface : Nat)
  | subpresentXpresentDestroy (surface : Nat)
  /-- `wlx_window_sync_subpresents` -/
  | syncSubpresents (win : SubWindow) (view : ShellView)
  /-- `wlx_window_destroy_subpresents` -/
  | destroySubpresents (win : Nat)
  /-- the pointer is looked for at `q`: on its own, or at the end of a handler
  (`wlx_pointer_refresh_focus`) -/
  | pointer (q : Point) (view : ShellView)

namespace PresentShell

variable (cfg : Config)

def step (v : PresentShell) : RootBoxAction → Option PresentShell
  | .setupPopup id parent parentPopup =>
    if (v.popup id).isSome then none else some (v.setupPopup id parent parentPopup)
  | .popupMap id view => (v.popup id).map fun p => v.popupPositionAndMap cfg view p
  | .popupCommit id view => (v.popup id).map fun p => v.popupCommit cfg view p
  | .popupRender id view =>
    some (v.updatePopup id (·.updateCache (·.renderAndPresent cfg (view.popup id).buffer)))
  | .popupUnmap id | .popupXpresentDestroy id =>
    some (v.updatePopup id (·.updateCache (·.popupDestroyXpresent)))
  | .popupDestroy id => some { v with popups := v.popups.filter (·.id ≠ id) }
  | .reposition win view => some (v.repositionPopups cfg view win)
  | .destroyPresentWindows win => some (v.destroyPresentWindows win)
  | .subpresentCommit surface view =>
    some (v.updateSubpresent surface fun sp =>
      sp.positionAndPresent cfg (view.window sp.parent) (view.surfaces surface) (view.env surface).xpresent)
  | .subpresentRender surface view =>
    some (v.updateSubpresent surface fun sp => { sp with
      cache := sp.cache.renderAndPresent cfg ((view.surfaces surface).bind (·.buffer)) })
  | .subpresentDestroy surface => some (v.destroyWhere (·.surface = surface))
  | .subpresentXpresentDestroy surface =>
    some (v.updateSubpresent surface fun sp =>
      { sp with cache := sp.cache.subpresentHandleXpresentDestroy })
  | .syncSubpresents win view => some (v.syncSubpresents cfg view win)
  | .destroySubpresents win => some (v.destroyWhere (·.parent = win))
  | .pointer q view => some { v with popups := (popupAtRootPointer cfg view q v.popups).2 }

/-- What the popups and subpresents remember is so. -/
structure Accurate (v : PresentShell) : Prop where
  popups : ∀ p ∈ v.popups, p.cache.Accurate
  subpresents : ∀ sp ∈ v.subpresents, sp.cache.Accurate

/-- The mapped popup at a pixel of the root, by where the popups are. -/
def popupPlacedAt (view : ShellView) (q : Point) (v : PresentShell) : Option Nat :=
  (v.popups.find? fun p => (view.popup p.id).mapped && (p.placed cfg view).any (·.covers q)).map (·.id)

/-- The subpresent at a pixel of the root, by where the windows are. -/
def subpresentPlacedAt (q : Point) (v : PresentShell) : Option Nat :=
  (v.subpresents.find? fun sp => sp.placed.any (·.covers q)).map (·.surface)

/-- Looked for in the root boxes, the pointer is found to be over what is there. -/
def FindsPlaced (v : PresentShell) : Prop :=
  ∀ view q, (popupAtRootPointer cfg view q v.popups).1 = v.popupPlacedAt cfg view q ∧
    v.subpresentAtRootPointer q = v.subpresentPlacedAt q

/-- The invariant: every present window is where the root box says. -/
structure Current (v : PresentShell) : Prop where
  popups : ∀ p ∈ v.popups, p.cache.Current
  subpresents : ∀ sp ∈ v.subpresents, sp.cache.Current

/-! ### Every handler keeps them current -/

section Current

variable {cfg} {view : ShellView} {v : PresentShell}

/-- At the start nothing is remembered. -/
theorem current_init : init.Current := ⟨by simp [init], by simp [init]⟩

/-- What is current is accurate. -/
theorem Current.accurate (h : v.Current) : v.Accurate :=
  ⟨fun p hp => (h.popups p hp).accurate, fun sp hsp => (h.subpresents sp hsp).accurate⟩

/-- One popup is changed, and its root box with its window. -/
theorem Current.updatePopup (h : v.Current) (id : Nat) {f : PlacedPopup → PlacedPopup}
    (hf : ∀ p : PlacedPopup, p.cache.Current → (f p).cache.Current) : (v.updatePopup id f).Current := by
  refine ⟨fun p hp => ?_, h.subpresents⟩
  obtain ⟨p₀, hp₀, rfl⟩ := List.mem_map.mp hp
  split
  -- the popup of this id
  · exact hf p₀ (h.popups p₀ hp₀)
  · exact h.popups p₀ hp₀

/-- The same for one subpresent. -/
theorem Current.updateSubpresent (h : v.Current) (surface : Nat)
    {f : PlacedSubpresent → PlacedSubpresent}
    (hf : ∀ sp : PlacedSubpresent, sp.cache.Current → (f sp).cache.Current) :
    (v.updateSubpresent surface f).Current := by
  refine ⟨h.popups, fun sp hsp => ?_⟩
  obtain ⟨sp₀, hsp₀, rfl⟩ := List.mem_map.mp hsp
  split
  · exact hf sp₀ (h.subpresents sp₀ hsp₀)
  · exact h.subpresents sp₀ hsp₀

/-- A new popup has no window and remembers nothing. -/
theorem Current.setupPopup (h : v.Current) (id parent : Nat) (parentPopup : Option Nat) :
    (v.setupPopup id parent parentPopup).Current := by
  refine ⟨fun p hp => ?_, h.subpresents⟩
  rcases List.mem_cons.mp hp with rfl | hp
  · exact PresentCache.current_of_none rfl
  · exact h.popups p hp

/-- Popups that lose their window lose what they remember of it. -/
theorem Current.destroyPresentWindows (h : v.Current) (win : Nat) :
    (v.destroyPresentWindows win).Current := by
  refine ⟨fun p hp => ?_, h.subpresents⟩
  obtain ⟨p₀, hp₀, rfl⟩ := List.mem_map.mp hp
  split
  · exact PresentCache.current_of_none rfl
  · exact h.popups p₀ hp₀

/-- Subpresents may go. -/
theorem Current.destroyWhere (h : v.Current) (p : PlacedSubpresent → Bool) : (v.destroyWhere p).Current :=
  ⟨h.popups, fun sp hsp => h.subpresents sp (List.mem_filter.mp hsp).1⟩

/-- A new subpresent remembers nothing; an old one keeps its window. -/
theorem Current.getOrCreate (h : v.Current) (win surface : Nat) (offset : Point) (memory : Bool) :
    (v.getOrCreate win surface offset memory).Current := by
  unfold PresentShell.getOrCreate
  split
  · exact h.updateSubpresent surface fun _ hsp => hsp
  · split
    · refine ⟨h.popups, fun sp hsp => ?_⟩
      rcases List.mem_cons.mp hsp with rfl | hsp
      · exact PresentCache.current_of_none rfl
      · exact h.subpresents sp hsp
    · exact h

/-- The parent's root box is computed, the popup's own place has a size. -/
theorem Current.popupComputeRootPlacement (h : v.Current) (cfg : Config) (view : ShellView)
    (p : PlacedPopup) :
    (∀ box ∈ (v.popupComputeRootPlacement cfg view p).1, box.size.isSet = true) ∧
      (v.popupComputeRootPlacement cfg view p).2.Current := by
  unfold PresentShell.popupComputeRootPlacement
  dsimp only
  split
  · split
    -- a popup of a popup may have computed its parent's root box
    · refine ⟨fun box hbox => ?_, h.updatePopup _ fun _ hp => hp.refreshed _ _⟩
      obtain ⟨b, -, rfl⟩ := Option.map_eq_some_iff.mp hbox
      exact PopupSurface.placedFrom_isSet ..
    · refine ⟨fun box hbox => ?_, h⟩
      obtain ⟨o, -, rfl⟩ := Option.map_eq_some_iff.mp hbox
      exact PopupSurface.placedFrom_isSet ..
  · exact ⟨fun _ hbox => (nomatch hbox), h⟩

/-- A popup that is placed has window and root box at one place. -/
theorem Current.popupPositionAndMap (h : v.Current) (p : PlacedPopup) :
    (v.popupPositionAndMap cfg view p).Current := by
  obtain ⟨hset, hv⟩ := h.popupComputeRootPlacement cfg view p
  unfold PresentShell.popupPositionAndMap
  rcases hr : v.popupComputeRootPlacement cfg view p with ⟨_ | box, v'⟩ <;> rw [hr] at hset hv
  · exact hv
  · exact hv.updatePopup p.id fun _ hp => hp.popupPositionAndMap (hset box rfl)

/-- The parent's root box is computed anew, from where its window is. -/
theorem Current.popupUnconstrainBox (h : v.Current) (p : PlacedPopup) :
    (v.popupUnconstrainBox cfg view p).Current := by
  unfold PresentShell.popupUnconstrainBox
  split
  · split
    · exact h.updatePopup _ fun _ hp => hp.refreshed _ _
    · exact h
  · exact h

/-- A commit unconstrains the popup, or places it. -/
theorem Current.popupCommit (h : v.Current) (p : PlacedPopup) : (v.popupCommit cfg view p).Current := by
  have h' : (if (view.popup p.id).initialCommit then v.popupUnconstrainBox cfg view p else v).Current := by
    split
    · exact h.popupUnconstrainBox p
    · exact h
  have hplace : ∀ v' : PresentShell, v'.Current →
      (if (view.popup p.id).mapped then v'.popupPositionAndMap cfg view p else v').Current := by
    intro v' hv'
    split
    · exact hv'.popupPositionAndMap p
    · exact hv'
  exact hplace _ h'

/-- One popup of a window that moved. -/
theorem Current.repositionPopup (h : v.Current) (win : Nat) (p : PlacedPopup) :
    (v.repositionPopup cfg view win p).Current := by
  unfold PresentShell.repositionPopup
  split
  · obtain ⟨hset, hv⟩ := h.popupComputeRootPlacement cfg view p
    rcases hr : v.popupComputeRootPlacement cfg view p with ⟨_ | box, v'⟩ <;> rw [hr] at hset hv
    · exact hv
    · exact hv.updatePopup p.id fun _ hp => hp.reposition (hset box rfl)
  · exact h

/-- **A popup goes along with its toplevel**: its window is put where `popup_compute_root_placement` says, and so is
the root box. -/
theorem Current.repositionPopup_placed (h : v.Current) {win : Nat} {p : PlacedPopup} (hwin : p.parent = win)
    (hmapped : (view.popup p.id).mapped = true) {box : Box}
    (hplace : (v.popupComputeRootPlacement cfg view p).1 = some box) :
    ∀ p' ∈ (v.repositionPopup cfg view win p).popups, p'.id = p.id →
      p'.cache.rootBox = some box ∧ ∀ w ∈ p'.cache.xpresent, w.host = box := by
  obtain ⟨hset, -⟩ := h.popupComputeRootPlacement cfg view p
  unfold PresentShell.repositionPopup
  rw [if_pos ⟨hwin, hmapped⟩]
  -- a popup whose place is not known is left where it is
  rcases hr : v.popupComputeRootPlacement cfg view p with ⟨_ | box', v'⟩ <;> rw [hr] at hset hplace <;> cases hplace
  intro p' hp' hid
  obtain ⟨p₀, -, rfl⟩ := List.mem_map.mp hp'
  have hsame : p₀.id = p.id := by
    split at hid <;> exact hid
  rw [if_pos hsame]
  refine ⟨rfl, fun w hw => ?_⟩
  obtain ⟨w₀, -, rfl⟩ := Option.map_eq_some_iff.mp hw
  exact w₀.configure_host (hset box rfl)

/-- A subpresent that is placed has window and root box at one place. -/
theorem current_positionAndPresent {win : PopupWindow} {surf : Option SurfaceState}
    {created : Option Nat} {sp : PlacedSubpresent} (h : sp.cache.Current) :
    (sp.positionAndPresent cfg win surf created).cache.Current := by
  unfold PlacedSubpresent.positionAndPresent
  cases surf with
  | none => exact h
  | some surf =>
    dsimp only
    split
    · cases hbox : sp.toSubpresent.computeRoot cfg win surf with
      | none => exact h
      | some box => exact h.subpresentPositionAndPresent (PlacedSubpresent.computeRoot_isSet hbox)
    · exact h

/-- All subpresents of a window that moved, -/
theorem Current.repositionSubpresents (h : v.Current) (win : Nat) :
    (v.repositionSubpresents cfg view win).Current := by
  refine ⟨h.popups, fun sp hsp => ?_⟩
  obtain ⟨sp₀, hsp₀, rfl⟩ := List.mem_map.mp hsp
  unfold PlacedSubpresent.reposition
  split
  · exact current_positionAndPresent (h.subpresents sp₀ hsp₀)
  · exact h.subpresents sp₀ hsp₀

/-- after all its popups. -/
theorem Current.repositionPopups (h : v.Current) (win : Nat) :
    (v.repositionPopups cfg view win).Current := by
  refine Current.repositionSubpresents ?_ win
  -- one turn of the loop keeps them, so the loop does
  apply List.foldlRecOn v.popups.reverse _ (motive := Current) h
  exact fun _ hv p _ => hv.repositionPopup win p

/-- A surface that overflows gets its subpresent, and is placed. -/
theorem Current.syncIterator {win : SubWindow} {acc : PresentShell × List Nat} (h : acc.1.Current)
    (x : Nat × Point) : (syncIterator cfg view win acc x).1.Current := by
  unfold PresentShell.syncIterator
  dsimp only
  split
  · exact (h.getOrCreate ..).updateSubpresent x.1 fun _ hsp => current_positionAndPresent hsp
  · exact h

/-- Those that no longer overflow go. -/
theorem Current.syncSubpresents (h : v.Current) (win : SubWindow) :
    (v.syncSubpresents cfg view win).Current := by
  unfold PresentShell.syncSubpresents
  split
  · refine Current.destroyWhere ?_ _
    apply List.foldlRecOn (Subpresents.overflowing view.surfaces win)
      (PresentShell.syncIterator cfg view win) (motive := fun acc => acc.1.Current) h
    exact fun acc hacc x _ => hacc.syncIterator x
  · exact h.destroyWhere _

/-- What the search for the pointer computes is computed from the windows. -/
theorem current_popupAtRootPointer (q : Point) {ps : List PlacedPopup} (h : ∀ p ∈ ps, p.cache.Current) :
    ∀ p ∈ (popupAtRootPointer cfg view q ps).2, p.cache.Current := by
  induction ps with
  | nil => exact h
  | cons p ps ih =>
    obtain ⟨hp, hps⟩ := List.forall_mem_cons.mp h
    have hp' : (p.refreshed cfg view).cache.Current := hp.refreshed _ _
    unfold popupAtRootPointer
    split
    · dsimp only
      split
      · exact List.forall_mem_cons.mpr ⟨hp', hps⟩
      · exact List.forall_mem_cons.mpr ⟨hp', ih hps⟩
    · exact List.forall_mem_cons.mpr ⟨hp, ih hps⟩

/-- **One handler.** -/
theorem step_current {a : RootBoxAction} {v' : PresentShell} (h : v.Current)
    (hstep : v.step cfg a = some v') : v'.Current := by
  have hfind : ∀ {id : Nat} {f : PlacedPopup → PresentShell},
      (∀ p, (f p).Current) → (v.popup id).map f = some v' → v'.Current := by
    intro id f hf hmap
    obtain ⟨p, -, rfl⟩ := Option.map_eq_some_iff.mp hmap
    exact hf p
  cases a with
  | setupPopup id parent parentPopup =>
    simp only [step] at hstep
    split at hstep <;> cases hstep
    exact h.setupPopup id parent parentPopup
  | popupMap id view => exact hfind (fun p => h.popupPositionAndMap p) hstep
  | popupCommit id view => exact hfind (fun p => h.popupCommit p) hstep
  | popupRender id view =>
    cases hstep
    exact h.updatePopup id fun _ hp => hp.renderAndPresent _
  | popupUnmap id | popupXpresentDestroy id =>
    -- without a window there is nothing to be apart from
    cases hstep
    exact h.updatePopup id fun _ _ => PresentCache.current_of_none rfl
  | popupDestroy id =>
    cases hstep
    exact ⟨fun p hp => h.popups p (List.mem_filter.mp hp).1, h.subpresents⟩
  | reposition win view =>
    cases hstep
    exact h.repositionPopups win
  | destroyPresentWindows win =>
    cases hstep
    exact h.destroyPresentWindows win
  | subpresentCommit surface view =>
    cases hstep
    exact h.updateSubpresent surface fun _ hsp => current_positionAndPresent hsp
  | subpresentRender surface view =>
    cases hstep
    exact h.updateSubpresent surface fun _ hsp => hsp.renderAndPresent _
  | subpresentDestroy surface =>
    cases hstep
    exact h.destroyWhere _
  | subpresentXpresentDestroy surface =>
    cases hstep
    exact h.updateSubpresent surface fun _ _ => PresentCache.current_of_none rfl
  | syncSubpresents win view =>
    cases hstep
    exact h.syncSubpresents win
  | destroySubpresents win =>
    cases hstep
    exact h.destroyWhere _
  | pointer q view =>
    cases hstep
    exact ⟨current_popupAtRootPointer q h.popups, h.subpresents⟩

/-! ### The pointer -/

/-- A popup that has been asked for its root box has that of its window. -/
theorem refreshed_rootBox {p : PlacedPopup} (h : p.cache.Current) (cfg : Config) (view : ShellView) :
    (p.refreshed cfg view).cache.rootBox = p.placed cfg view := by
  unfold PlacedPopup.placed
  cases hx : p.cache.xpresent with
  | none => rfl
  | some w =>
    obtain ⟨hmapped, hvalid, hroot⟩ := h w hx
    dsimp only
    rw [if_pos hmapped]
    show (p.cache.refreshed cfg _ _).rootBox = some w.host
    unfold PresentCache.refreshed PresentCache.rootBox
    rw [if_pos hvalid, if_pos hvalid, hroot]

/-- The loop over the popups finds the first mapped one that is placed over the pixel. -/
theorem popupAtRootPointer_eq (q : Point) {ps : List PlacedPopup} (h : ∀ p ∈ ps, p.cache.Current) :
    (popupAtRootPointer cfg view q ps).1 =
      (ps.find? fun p => (view.popup p.id).mapped && (p.placed cfg view).any (·.covers q)).map (·.id) := by
  induction ps with
  | nil => rfl
  | cons p ps ih =>
    obtain ⟨hp, hps⟩ := List.forall_mem_cons.mp h
    have hbox := refreshed_rootBox hp cfg view
    unfold popupAtRootPointer
    by_cases hmapped : (view.popup p.id).mapped = true
    -- a mapped popup is asked whether it covers the pixel
    · rw [if_pos hmapped]
      dsimp only
      rw [hbox]
      by_cases hcovers : (p.placed cfg view).any (·.covers q) = true
      · rw [if_pos hcovers, List.find?_cons_of_pos (by rw [hmapped, hcovers]; rfl)]
        rfl
      · rw [if_neg hcovers, List.find?_cons_of_neg (by simpa [hmapped] using hcovers)]
        exact ih hps
    · -- both searches pass over a popup that is not mapped
      rw [if_neg hmapped, List.find?_cons_of_neg (by simp [hmapped])]
      exact ih hps

/-- And so does the one over the subpresents. -/
theorem subpresentAtRootPointer_eq (q : Point) (h : ∀ sp ∈ v.subpresents, sp.cache.Current) :
    v.subpresentAtRootPointer q = v.subpresentPlacedAt q := by
  unfold subpresentAtRootPointer subpresentPlacedAt
  congr 1
  refine List.find?_congr fun sp hsp => ?_
  unfold PlacedSubpresent.placed
  cases hx : sp.cache.xpresent with
  | none => simp
  | some w =>
    obtain ⟨hmapped, hvalid, hroot⟩ := h sp hsp w hx
    simp [hmapped, hvalid, hroot, Option.filter]

/-- While all root boxes are current, the pointer finds what is there. -/
theorem Current.findsPlaced (h : v.Current) : v.FindsPlaced cfg :=
  fun _ q => ⟨popupAtRootPointer_eq q h.popups, subpresentAtRootPointer_eq q h.subpresents⟩

end Current

/-- **Every reachable state.** After any sequence of handlers, where a popup or a subpresent has a present
window and a valid root box, the box is where the window was last configured to be; and the search for
the pointer by root boxes finds what a search by the windows finds. -/
theorem rootBox_accurate (cfg : Config) (as : List RootBoxAction) (v : PresentShell)
    (h : Run.run (step cfg) init as = some v) : v.Accurate ∧ v.FindsPlaced cfg := by
  have hcurrent : v.Current := Run.run_invariant (I := Current)
    (fun _ _ _ hv hstep => step_current hv hstep) current_init h
  exact ⟨hcurrent.accurate, hcurrent.findsPlaced⟩

/-- A menu of window 7 with a submenu, and a subsurface that sticks out below. The menu's buffer is larger
than its surface. -/
def menuView (created : Option Nat) : ShellView where
  popup id :=
    if id = 0 then ⟨true, false, ⟨10, 20, 100, 80⟩, ⟨10, 20, 100, 80⟩, ⟨100, 80⟩, some ⟨120, 90⟩⟩
    else ⟨true, false, ⟨90, 10, 60, 40⟩, ⟨90, 10, 60, 40⟩, ⟨60, 40⟩, none⟩
  screen := true
  window _ := ⟨some ⟨100, 100⟩, ⟨0, 0, 640, 480⟩⟩
  surfaces s :=
    if s = 0 then some ⟨true, ⟨640, 480⟩, none⟩ else some ⟨true, ⟨50, 60⟩, some ⟨50, 60⟩⟩
  xpresent := created
  env s := ⟨true, true, some s⟩

/-- Both menus and the subsurface are shown; the submenu's window is destroyed and made again; the toplevel
is moved. -/
def menuRun : List RootBoxAction :=
  let tree : SubsurfaceTree := .mk 0 ⟨0, 0⟩ [] [.mk 1 ⟨0, 460⟩ [] []]
  let win : SubWindow := ⟨7, true, ⟨some ⟨100, 100⟩, ⟨0, 0, 640, 480⟩⟩, tree⟩
  [.setupPopup 0 7 none, .setupPopup 1 7 (some 0), .popupMap 0 (menuView (some 3)),
    .popupMap 1 (menuView (some 4)), .popupXpresentDestroy 1, .pointer ⟨150, 150⟩ (menuView none),
    .popupCommit 1 (menuView none), .popupCommit 1 (menuView (some 5)),
    .syncSubpresents win (menuView none), .reposition 7 (menuView none),
    .popupCommit 0 (menuView none)]

theorem rootBox_accurate_menuRun :
    ∃ v, Run.run (step ⟨1, false⟩) init menuRun = some v ∧
      v.popups.map (fun p => (p.id, p.cache.rootBox)) =
        [(1, some ⟨200, 130, 60, 40⟩), (0, some ⟨110, 120, 120, 90⟩)] ∧
      v.subpresents.map (fun sp => (sp.surface, sp.placed)) = [(1, some ⟨101, 560, 50, 60⟩)] ∧
      v.Accurate ∧ v.FindsPlaced ⟨1, false⟩ := by
  have hshown : (Run.run (step ⟨1, false⟩) init menuRun).map (fun v =>
      (v.popups.map (fun p => (p.id, p.cache.rootBox)),
        v.subpresents.map (fun sp => (sp.surface, sp.placed)))) =
      some ([(1, some ⟨200, 130, 60, 40⟩), (0, some ⟨110, 120, 120, 90⟩)],
        [(1, some ⟨101, 560, 50, 60⟩)]) := by decide +kernel
  obtain ⟨v, hrun, hv⟩ := Option.map_eq_some_iff.mp hshown
  exact ⟨v, hrun, congrArg Prod.fst hv, congrArg Prod.snd hv, rootBox_accurate _ menuRun v hrun⟩

end PresentShell

end Wlx
