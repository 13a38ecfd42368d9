import WlX11.PopupPlacement

/-!
# WlX11 — subpresents

A subsurface that sticks out of its toplevel's surface (a GTK menu) gets a present window of its own,
and its buffer in the toplevel's scene is disabled. `struct wlx_subpresent` keeps the two together;
`server->subpresents` lists them, newest first.

* **`Subpresents.positionAndPresent`** — places one, creating its window when there is none.
* **`Subpresents.sync`** — `wlx_window_sync_subpresents`: after a toplevel's commit, one for each
  mapped subsurface that overflows and none for the others.
-/

namespace Wlx

/-- `struct wlr_surface`, as far as its size on screen goes. -/
structure SurfaceState where
  mapped : Bool
  /-- `current.width`, `current.height` -/
  size : Size
  /-- the size of `buffer` -/
  buffer : Option Size
deriving DecidableEq

/-- A surface and its subsurfaces, each at its place in its parent. -/
inductive SubsurfaceTree where
  | mk (surface : Nat) (pos : Point) (below above : List SubsurfaceTree)

namespace SubsurfaceTree

def surface : SubsurfaceTree → Nat
  | .mk surface .. => surface

def pos : SubsurfaceTree → Point
  | .mk _ pos .. => pos

mutual

/-- All surfaces of a tree, mapped or not. -/
def surfaces : SubsurfaceTree → List Nat
  | .mk surface _ below above => surface :: (surfacesOf below ++ surfacesOf above)

def surfacesOf : List SubsurfaceTree → List Nat
  | [] => []
  | t :: ts => t.surfaces ++ surfacesOf ts

end

mutual

/-- `wlr_surface_for_each_surface`: the surfaces from the bottom up with their places in the root
surface; what is not mapped is skipped with all its subsurfaces. -/
def forEachSurface (mapped : Nat → Bool) : SubsurfaceTree → Point → List (Nat × Point)
  | .mk surface _ below above, p =>
    forEachSubsurface mapped below p ++ (surface, p) :: forEachSubsurface mapped above p

def forEachSubsurface (mapped : Nat → Bool) : List SubsurfaceTree → Point → List (Nat × Point)
  | [], _ => []
  | t :: ts, p =>
    (if mapped t.surface then t.forEachSurface mapped (p.add t.pos) else []) ++
      forEachSubsurface mapped ts p

end

mutual

theorem mem_surfaces_of_forEachSurface {mapped : Nat → Bool} {x : Nat × Point} (t : SubsurfaceTree)
    (p : Point) (h : x ∈ t.forEachSurface mapped p) : x.1 ∈ t.surfaces := by
  cases t with
  | mk surface pos below above =>
    simp only [forEachSurface, List.mem_append, List.mem_cons] at h
    simp only [surfaces, List.mem_cons, List.mem_append]
    rcases h with h | rfl | h
    · exact Or.inr (Or.inl (mem_surfacesOf_of_forEachSubsurface below p h))
    · exact Or.inl rfl
    · exact Or.inr (Or.inr (mem_surfacesOf_of_forEachSubsurface above p h))

theorem mem_surfacesOf_of_forEachSubsurface {mapped : Nat → Bool} {x : Nat × Point}
    (ts : List SubsurfaceTree) (p : Point) (h : x ∈ forEachSubsurface mapped ts p) :
    x.1 ∈ surfacesOf ts := by
  cases ts with
  | nil => cases h
  | cons t ts =>
    simp only [forEachSubsurface, List.mem_append, List.mem_ite_nil_right] at h
    simp only [surfacesOf, List.mem_append]
    rcases h with ⟨-, h⟩ | h
    · exact Or.inl (mem_surfaces_of_forEachSurface t _ h)
    · exact Or.inr (mem_surfacesOf_of_forEachSubsurface ts p h)

end

mutual

/-- The tree without a surface that is destroyed, and without what hangs on it. -/
def prune (s : Nat) : SubsurfaceTree → SubsurfaceTree
  | .mk surface pos below above => .mk surface pos (pruneAll s below) (pruneAll s above)

def pruneAll (s : Nat) : List SubsurfaceTree → List SubsurfaceTree
  | [] => []
  | t :: ts => if t.surface = s then pruneAll s ts else t.prune s :: pruneAll s ts

end

mutual

theorem mem_surfaces_prune {s x : Nat} (t : SubsurfaceTree) (hroot : t.surface ≠ s)
    (h : x ∈ (t.prune s).surfaces) : x ∈ t.surfaces ∧ x ≠ s := by
  cases t with
  | mk surface pos below above =>
    simp only [prune, surfaces, List.mem_cons, List.mem_append] at h ⊢
    rcases h with rfl | h | h
    · exact ⟨Or.inl rfl, hroot⟩
    · obtain ⟨hmem, hne⟩ := mem_surfacesOf_pruneAll below h
      exact ⟨Or.inr (Or.inl hmem), hne⟩
    · obtain ⟨hmem, hne⟩ := mem_surfacesOf_pruneAll above h
      exact ⟨Or.inr (Or.inr hmem), hne⟩

theorem mem_surfacesOf_pruneAll {s x : Nat} (ts : List SubsurfaceTree)
    (h : x ∈ surfacesOf (pruneAll s ts)) : x ∈ surfacesOf ts ∧ x ≠ s := by
  cases ts with
  | nil => cases h
  | cons t ts =>
    rw [pruneAll] at h
    simp only [surfacesOf, List.mem_append]
    split at h
    · obtain ⟨hmem, hne⟩ := mem_surfacesOf_pruneAll ts h
      exact ⟨Or.inr hmem, hne⟩
    · rename_i hroot
      rcases List.mem_append.mp h with h | h
      · obtain ⟨hmem, hne⟩ := mem_surfaces_prune t hroot h
        exact ⟨Or.inl hmem, hne⟩
      · obtain ⟨hmem, hne⟩ := mem_surfacesOf_pruneAll ts h
        exact ⟨Or.inr hmem, hne⟩

end

end SubsurfaceTree

/-- `struct wlx_window`, as far as its subpresents go. -/
structure SubWindow where
  id : Nat
  /-- it is mapped and has an output -/
  output : Bool
  place : PopupWindow
  /-- the toplevel's surface and its subsurfaces; each has a buffer node in `scene_tree` -/
  tree : SubsurfaceTree

def SubWindow.hasNode (win : SubWindow) (surface : Nat) : Bool := win.tree.surfaces.contains surface

/-- `struct wlx_subpresent`. -/
structure Subpresent where
  surface : Nat
  parent : Nat
  /-- the present window -/
  xpresent : Option Nat
  /-- the present window whose frame signal `xpresent_frame` is linked into -/
  xpresentFrame : Option Nat
  /-- the present window whose destroy signal `xpresent_destroy` is linked into -/
  xpresentDestroy : Option Nat
  /-- `sx`, `sy` -/
  offset : Point
  /-- `root_x` to `root_h`, if `root_box_valid` -/
  rootBox : Option Box
  /-- the surface's scene node was created after the subpresent, so that on a commit its listener
  runs after the subpresent's -/
  nodeNewer : Bool
deriving DecidableEq

/-- What memory and the X server allow while one surface is looked at. -/
structure SubpresentEnv where
  /-- the surface can be noted in `keep` -/
  keep : Bool
  /-- a subpresent can be allocated -/
  memory : Bool
  /-- what `wlr_x11_present_window_create` gives -/
  xpresent : Option Nat
deriving DecidableEq

namespace Subpresent

/-- `subpresent_attach_xpresent_listeners`. -/
def attachXpresentListeners (sp : Subpresent) : Subpresent :=
  match sp.xpresent with
  | none => sp
  | some p =>
    { sp with
      xpresentFrame := if sp.xpresentFrame = none then some p else sp.xpresentFrame
      xpresentDestroy := if sp.xpresentDestroy = none then some p else sp.xpresentDestroy }

/-- `subpresent_compute_root`. -/
def computeRoot (cfg : Config) (win : PopupWindow) (surf : SurfaceState) (sp : Subpresent) :
    Option Box :=
  if surf.size.width ≤ 0 ∨ surf.size.height ≤ 0 then none
  else
    win.contentRoot.map fun o =>
      let d := win.contentOrigin cfg
      ⟨toInt16 (o.x + wlxScaleSize cfg (sp.offset.x - d.x)),
        toInt16 (o.y + wlxScaleSize cfg (sp.offset.y - d.y)),
        max 1 (wlxScaleSize cfg surf.size.width), max 1 (wlxScaleSize cfg surf.size.height)⟩

/-- `subpresent_render_and_present`: "Same rule as xdg_popup". -/
def renderAndPresent (cfg : Config) (surf : SurfaceState) (box : Box) : Box :=
  shownBox cfg surf.buffer box

/-- The subpresent with a present window: the one it has or `created`, which is what
`wlr_x11_present_window_create` gives. -/
def createXpresent (created : Option Nat) (sp : Subpresent) : Option Subpresent :=
  match sp.xpresent with
  | some _ => some sp
  | none => created.map fun p => { sp with xpresent := some p }.attachXpresentListeners

/-- `subpresent_position_and_present`, unless it returns early. -/
def positionAndPresent (cfg : Config) (win : PopupWindow) (surf : SurfaceState) (created : Option Nat)
    (sp : Subpresent) : Option Subpresent :=
  if surf.mapped then
    (sp.computeRoot cfg win surf).bind fun box =>
      (sp.createXpresent created).map fun sp =>
        { sp with rootBox := some (renderAndPresent cfg surf box) }
  else none

/-- `subpresent_handle_xpresent_destroy`. -/
def handleXpresentDestroy (sp : Subpresent) : Subpresent :=
  { sp with xpresent := none, xpresentFrame := none, xpresentDestroy := none }

/-- It is linked to its present window's signals and to no other's. -/
def Linked (sp : Subpresent) : Prop :=
  sp.xpresentFrame = sp.xpresent ∧ sp.xpresentDestroy = sp.xpresent

end Subpresent

/-- The box of a surface at `p` is not inside the root surface. -/
def overflows (root : Size) (p : Point) (size : Size) : Bool :=
  p.x < 0 || p.y < 0 || root.width < p.x + size.width || root.height < p.y + size.height

/-- `server->subpresents`, newest first, and the surfaces whose scene buffer is disabled. -/
structure Subpresents where
  entries : List Subpresent
  disabled : Nat → Bool
  /-- the present windows of subpresents that the backend has not freed -/
  presents : List Nat

namespace Subpresents

/-- `subpresent_find`. -/
def find (s : Subpresents) (surface : Nat) : Option Subpresent :=
  s.entries.find? (·.surface = surface)

/-- `subpresent_set_scene_enabled`, for a subpresent of `win`. -/
def setSceneEnabled (s : Subpresents) (win : SubWindow) (surface : Nat) (on : Bool) : Subpresents :=
  if win.hasNode surface then
    { s with disabled := fun x => if x = surface then !on else s.disabled x }
  else s

/-- The subpresent of a surface becomes `sp`. -/
def set (s : Subpresents) (sp : Subpresent) : Subpresents :=
  { s with entries := s.entries.map fun e => if e.surface = sp.surface then sp else e }

/-- `subpresent_position_and_present` for the subpresent `sp` of `win`. -/
def positionAndPresent (cfg : Config) (win : SubWindow) (surf : SurfaceState) (created : Option Nat)
    (s : Subpresents) (sp : Subpresent) : Subpresents :=
  match sp.positionAndPresent cfg win.place surf created with
  | none => s
  | some sp' =>
    { s.set sp' with
      presents := if sp.xpresent.isSome then s.presents else sp'.xpresent.toList ++ s.presents
    }.setSceneEnabled win sp'.surface false

/-- `subpresent_destroy` for all subpresents of `win` that `p` selects. -/
def destroyWhere (s : Subpresents) (win : SubWindow) (p : Subpresent → Bool) : Subpresents where
  entries := s.entries.filter fun e => !(e.parent = win.id && p e)
  disabled := fun x => s.disabled x &&
    !(s.entries.any fun e => e.parent = win.id && p e && e.surface = x && win.hasNode x)
  presents := s.presents.filter fun x =>
    !(s.entries.any fun e => e.parent = win.id && p e && e.xpresent = some x)

/-- `wlx_window_destroy_subpresents`. -/
def destroyOf (s : Subpresents) (win : SubWindow) : Subpresents := s.destroyWhere win fun _ => true

/-- `subpresent_get_or_create`. -/
def getOrCreate (s : Subpresents) (win : SubWindow) (surface : Nat) (offset : Point) (memory : Bool) :
    Option (Subpresents × Subpresent) :=
  match s.find surface with
  | some sp =>
    let sp := { sp with offset := offset, parent := win.id }
    some (s.set sp, sp)
  | none =>
    if memory then
      let sp : Subpresent := ⟨surface, win.id, none, none, none, offset, none, false⟩
      some ({ s with entries := sp :: s.entries }, sp)
    else none

section Sync

variable (cfg : Config) (surfaces : Nat → Option SurfaceState) (env : Nat → SubpresentEnv)
  (win : SubWindow)

/-- The surface is mapped, as `wlr_surface_for_each_surface` asks of subsurfaces. -/
def mapped (surface : Nat) : Bool := (surfaces surface).any (·.mapped)

/-- The subsurfaces of a toplevel that are to be shown in windows of their own, with their places. -/
def overflowing : List (Nat × Point) :=
  let root := win.tree.surface
  let rootSize := ((surfaces root).map (·.size)).getD ⟨0, 0⟩
  (win.tree.forEachSurface (mapped surfaces) ⟨0, 0⟩).filter fun (surface, p) =>
    surface ≠ root && (surfaces surface).any fun surf =>
      surf.mapped && 0 < surf.size.width && 0 < surf.size.height && overflows rootSize p surf.size

/-- The end of `subpresent_sync_iterator`, for a surface that overflows. `acc` is what has been done
so far and the surfaces noted in `keep`. -/
def syncIterator (acc : Subpresents × List Nat) (x : Nat × Point) : Subpresents × List Nat :=
  if (env x.1).keep then
    match acc.1.getOrCreate win x.1 x.2 (env x.1).memory with
    | none => (acc.1, acc.2 ++ [x.1])
    | some (s, sp) =>
      (match surfaces x.1 with
        | none => s
        | some surf => s.positionAndPresent cfg win surf (env x.1).xpresent sp,
        acc.2 ++ [x.1])
  else acc

/-- A turn of the walk leaves the subpresents, or makes one and places it. -/
theorem syncIterator_cases (acc : Subpresents × List Nat) (x : Nat × Point) :
    (syncIterator cfg surfaces env win acc x).1 = acc.1 ∨
      ∃ s sp, acc.1.getOrCreate win x.1 x.2 (env x.1).memory = some (s, sp) ∧
        ((syncIterator cfg surfaces env win acc x).1 = s ∨
          ∃ surf, (syncIterator cfg surfaces env win acc x).1 =
            s.positionAndPresent cfg win surf (env x.1).xpresent sp) := by
  unfold syncIterator
  split
  -- a surface of the tree is looked up, or there is no memory for it
  · cases hget : acc.1.getOrCreate win x.1 x.2 (env x.1).memory with
    | none => exact .inl rfl
    | some r =>
      refine .inr ⟨r.1, r.2, rfl, ?_⟩
      dsimp only
      cases surfaces x.1 with
      | none => exact .inl rfl
      | some surf => exact .inr ⟨surf, rfl⟩
  · exact .inl rfl

/-- `wlx_window_sync_subpresents`. -/
def sync (s : Subpresents) : Subpresents :=
  if win.output then
    let (s, keep) := (overflowing surfaces win).foldl (syncIterator cfg surfaces env win) (s, [])
    s.destroyWhere win fun sp => !keep.contains sp.surface
  else s.destroyOf win

end Sync

/-- A commit of a surface: `subsurface_tree_reconfigure` enables the buffer node, and
`subpresent_handle_surface_commit` places the subpresent, if there is one. -/
def commitSurface (cfg : Config) (window : Nat → Option SubWindow)
    (surfaces : Nat → Option SurfaceState) (env : Nat → SubpresentEnv) (s : Subpresents)
    (surface : Nat) : Subpresents :=
  let reconfigure (s : Subpresents) : Subpresents :=
    { s with disabled := fun x => if x = surface then false else s.disabled x }
  match s.find surface with
  | none => reconfigure s
  | some sp =>
    let present (s : Subpresents) : Subpresents :=
      match window sp.parent, surfaces surface with
      | some win, some surf => s.positionAndPresent cfg win surf (env surface).xpresent sp
      | _, _ => s
    if sp.nodeNewer then reconfigure (present s) else present (reconfigure s)

/-- `wlx_window_reposition_subpresents`. -/
def reposition (cfg : Config) (surfaces : Nat → Option SurfaceState) (env : Nat → SubpresentEnv)
    (win : SubWindow) (s : Subpresents) : Subpresents :=
  s.entries.foldl (fun subs sp =>
    if sp.parent = win.id ∧ sp.xpresent.isSome then
      match surfaces sp.surface with
      | none => subs
      | some surf => subs.positionAndPresent cfg win surf (env sp.surface).xpresent sp
    else subs) s

/-- The scene of a toplevel has lost or got nodes: a lost node is enabled when it comes back, and
what comes back listens to commits after the subpresent does. -/
def renode (s : Subpresents) (before after : Nat → Bool) : Subpresents where
  entries := s.entries.map fun e =>
    if after e.surface && !before e.surface then { e with nodeNewer := true } else e
  disabled := fun x => s.disabled x && before x && after x
  presents := s.presents

/-- Present window `p` is freed: `subpresent_handle_xpresent_destroy` of all subpresents linked to it. -/
def presentDestroyed (s : Subpresents) (hasNode : Subpresent → Bool) (p : Nat) : Subpresents where
  entries := s.entries.map fun e =>
    if e.xpresentDestroy = some p then e.handleXpresentDestroy else e
  disabled := fun x => s.disabled x &&
    !(s.entries.any fun e => e.xpresentDestroy = some p && e.surface = x && hasNode e)
  presents := s.presents.filter (· ≠ p)

/-- What an entry of `s.set sp` is. -/
theorem mem_set {s : Subpresents} {sp e : Subpresent} (h : e ∈ (s.set sp).entries) :
    e = sp ∨ (e ∈ s.entries ∧ e.surface ≠ sp.surface) := by
  obtain ⟨e₀, he₀, rfl⟩ := List.mem_map.mp h
  split
  · exact Or.inl rfl
  · rename_i hne
    exact Or.inr ⟨he₀, hne⟩

theorem getOrCreate_entries {s s' : Subpresents} {win : SubWindow} {surface : Nat} {offset : Point}
    {memory : Bool} {sp : Subpresent} (h : s.getOrCreate win surface offset memory = some (s', sp)) :
    sp.surface = surface ∧ sp.offset = offset ∧
      ∀ e ∈ s'.entries, e = sp ∨ (e ∈ s.entries ∧ e.surface ≠ surface) := by
  unfold getOrCreate at h
  -- found and updated in place, or put in front
  cases hfind : s.find surface with
  | some sp₀ =>
    have hsurface : sp₀.surface = surface := by simpa using List.find?_some hfind
    simp only [hfind, Option.some.injEq, Prod.mk.injEq] at h
    obtain ⟨rfl, rfl⟩ := h
    refine ⟨hsurface, rfl, fun e he => ?_⟩
    rcases mem_set he with rfl | ⟨hmem, hne⟩
    · exact Or.inl rfl
    · rw [← hsurface]
      exact Or.inr ⟨hmem, hne⟩
  | none =>
    simp only [hfind] at h
    split at h
    · simp only [Option.some.injEq, Prod.mk.injEq] at h
      obtain ⟨rfl, rfl⟩ := h
      refine ⟨rfl, rfl, fun e he => ?_⟩
      rcases List.mem_cons.mp he with rfl | he
      · exact Or.inl rfl
      · -- the list was searched for the surface in vain
        have hne := List.find?_eq_none.mp hfind e he
        exact Or.inr ⟨he, by simpa using hne⟩
    · cases h

end Subpresents

end Wlx
