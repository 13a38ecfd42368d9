import WlX11.PopupPlacement

/-!
# WlX11 — the surface under the pointer

`surface_under_root_pointer` asks the X server where the pointer is and looks for a surface there: in
the popups' root boxes, in those of the subpresents, and then in the toplevel whose window X names.
A popup's box and a toplevel's window are turned into a place of the scene, which is one for all
toplevels and popups; a subpresent is no part of it.

* **`HostSnapshot.surfaceUnderRootPointer`** — the surface and the place in it.
* **`HostWindow`** — what a window on the X side shows, for comparison.

A popup whose present window could not be created is left out.
-/

namespace Wlx

/-- The place of a pixel in a box. -/
def Box.offset (b : Box) (q : Point) : Point := ⟨q.x - b.x, q.y - b.y⟩

/-! ## Surfaces -/

/-- `wlx_pointer_to_surface`. -/
def Config.wlxPointerToSurface (cfg : Config) (sx sy : ℚ) : ℚ × ℚ :=
  if cfg.contentScale ≤ 0 then (sx, sy)
  else if cfg.contentScale = 1 then (sx, sy)
  else (sx / cfg.contentScale, sy / cfg.contentScale)

/-- A surface as the pointer finds it: `current.width/height`, and the pixels of its input region. -/
structure InputSurface where
  size : Size
  inputRegion : Int → Int → Bool

namespace InputSurface

/-- The place in the surface of a place in its buffer's node, as `scene_buffer_point_accepts_input`
leaves it. The destination of a node is set as soon as its surface has a size. -/
def toSurface (f : InputSurface) (dest : Size) (h : Point) : ℚ × ℚ :=
  if dest.isSet && f.size.isSet && decide (dest ≠ f.size) then
    ((h.x : ℚ) * f.size.width / dest.width, (h.y : ℚ) * f.size.height / dest.height)
  else (h.x, h.y)

/-- `wlr_surface_point_accepts_input` -/
def pointAcceptsInput (f : InputSurface) (s : ℚ × ℚ) : Bool :=
  0 ≤ s.1 && s.1 < f.size.width && (0 ≤ s.2 && s.2 < f.size.height) &&
    f.inputRegion s.1.floor s.2.floor

end InputSurface

/-! ## What can be under the pointer -/

/-- A popup with its present window. -/
structure PointerPopup where
  /-- `xdg_popup->base->surface` -/
  surface : SurfaceRef
  mapped : Bool
  /-- the root box, once `popup_update_root_box` has tried to give it one -/
  rootBox : Option Box
  /-- the coordinates of `scene_tree`, which is parked off the layout -/
  node : Point
  tree : SceneNode
  /-- the client's buffer was presented as it is; otherwise the tree was drawn -/
  direct : Bool

/-- A subpresent. -/
structure PointerSubpresent where
  surface : SurfaceRef
  rootBox : Option Box
  /-- there is a present window, and it is mapped -/
  windowMapped : Bool

/-- A toplevel with an output. -/
structure PointerWindow where
  /-- `toplevel->base->surface` -/
  surface : SurfaceRef
  /-- `toplevel->base->current.geometry` -/
  geometry : Box
  /-- the coordinates of `scene_tree`, at its output's place in the layout -/
  node : Point

/-- What the pointer is over, with the box of its X window on the root. -/
inductive PointerTarget where
  | popup (pop : PointerPopup) (box : Box)
  | subpresent (sp : PointerSubpresent) (box : Box)
  | window (win : PointerWindow) (box : Box)

/-- The state a pointer event is handled in. -/
structure HostSnapshot where
  cfg : Config
  /-- `query_root_pointer_position` -/
  pointer : Point
  /-- the children of `server->scene->tree`, the lowest first -/
  scene : List SceneNode
  surfaces : SurfaceRef → InputSurface
  /-- `server->popups`, newest first -/
  popups : List PointerPopup
  /-- `server->subpresents`, newest first -/
  subpresents : List PointerSubpresent
  /-- whose X window the pointer is in; for a toplevel its frame counts -/
  pointed : Option PointerTarget

/-- What `surface_under_root_pointer` returns, through `pop_out` and `win_out` too. -/
structure PointerHit where
  target : PointerTarget
  surface : SurfaceRef
  place : ℚ × ℚ

namespace HostSnapshot

variable (s : HostSnapshot)

/-- The enabled buffers of the scene, the lowest first. -/
def buffers : List (SurfaceRef × Box) := SceneNode.childBuffers s.scene ⟨0, 0⟩

/-- The place in the surface of scene pixel `q`, which its buffer covers. -/
def placeIn (q : Point) (b : SurfaceRef × Box) : ℚ × ℚ :=
  (s.surfaces b.1).toSurface b.2.size (b.2.offset q)

/-- `scene_buffer_point_accepts_input` at scene pixel `q`. -/
def accepts (q : Point) (b : SurfaceRef × Box) : Bool :=
  (s.surfaces b.1).pointAcceptsInput (s.placeIn q b)

/-- `wlr_scene_node_at` -/
def sceneAt (q : Point) : Option (SurfaceRef × Box) :=
  SceneNode.childBufferAt (s.accepts q) q s.scene ⟨0, 0⟩

/-- `popup_at_root_pointer` -/
def popupAtRootPointer : Option PointerTarget :=
  s.popups.findSome? fun pop =>
    if pop.mapped then (pop.rootBox.filter (·.covers s.pointer)).map (.popup pop) else none

/-- `subpresent_at_root_pointer` -/
def subpresentAtRootPointer : Option PointerTarget :=
  s.subpresents.findSome? fun sp =>
    if sp.windowMapped then (sp.rootBox.filter (·.covers s.pointer)).map (.subpresent sp) else none

/-- `window_at_root_pointer`, "by real X11 window identity". -/
def windowAtRootPointer : Option PointerTarget :=
  s.pointed.filter fun
    | .window _ _ => true
    | _ => false

/-- "Order: mapped present-window popups (newest first), then toplevels", and the subpresents in
between. -/
def target : Option PointerTarget :=
  (s.popupAtRootPointer.or s.subpresentAtRootPointer).or s.windowAtRootPointer

/-- The place in the scene the pointer is over: "convert root-relative pixels into scene coordinates
via the node origin". -/
def scenePointer : PointerTarget → Point
  | .popup pop box => pop.node.add (box.offset s.pointer)
  | .subpresent _ _ => s.pointer
  | .window win box => win.node.add (box.offset s.pointer)

/-- What the scene has there; a subpresent is not looked up. -/
def lookup : PointerTarget → Option (SurfaceRef × Box)
  | .subpresent _ _ => none
  | t => s.sceneAt (s.scenePointer t)

/-- The place that is delivered where the scene has nothing: in the own surface of the popup, the
subpresent or the toplevel. -/
def defaultHit (t : PointerTarget) : PointerHit :=
  match t with
  | .popup pop box =>
    let pix := box.offset s.pointer
    ⟨t, pop.surface, s.cfg.wlxPointerToSurface pix.x pix.y⟩
  | .subpresent sp box =>
    let pix := box.offset s.pointer
    ⟨t, sp.surface, s.cfg.wlxPointerToSurface pix.x pix.y⟩
  | .window win box =>
    let pix := box.offset s.pointer
    let log := s.cfg.wlxPointerToSurface pix.x pix.y
    ⟨t, win.surface,
      if !s.cfg.preferCsd && win.geometry.size.isSet then
        (log.1 + win.geometry.x, log.2 + win.geometry.y)
      else log⟩

/-- "Prefer scene buffer under the pointer (subsurfaces)". -/
def deliver (t : PointerTarget) : PointerHit :=
  match s.lookup t with
  | some b => ⟨t, b.1, s.placeIn (s.scenePointer t) b⟩
  | none => s.defaultHit t

/-- `surface_under_root_pointer` -/
def surfaceUnderRootPointer : Option PointerHit := s.target.map s.deliver

end HostSnapshot

/-! ## What is shown -/

/-- What an X window shows: the buffers `shown` of the scene, the lowest first, with the scene's
pixel `node` in the corner of the window's `box` on the root. -/
structure HostWindow where
  box : Box
  node : Point
  shown : List (SurfaceRef × Box)
deriving DecidableEq

namespace HostWindow

variable (w : HostWindow)

/-- The place in the scene that is shown at a place of the root. -/
def toScene (p : Point) : Point := w.node.add (w.box.offset p)

/-- Where on the root a surface's pixels begin. -/
def origin (b : SurfaceRef × Box) : Point :=
  ⟨w.box.x + (b.2.x - w.node.x), w.box.y + (b.2.y - w.node.y)⟩

/-- The surface whose pixels are seen at a place of the root, if nothing lies over the window. -/
def surfaceAt (p : Point) : Option (SurfaceRef × Box) :=
  if w.box.covers p then topmost (fun b => b.2.covers (w.toScene p)) w.shown else none

end HostWindow

namespace HostSnapshot

variable (s : HostSnapshot)

/-- The X window of a popup shows its tree, or its surface alone; that of a subpresent its surface,
which is not drawn elsewhere; that of a toplevel the part of the scene its output covers. -/
def window : PointerTarget → HostWindow
  | .popup pop box =>
    let drawn := pop.tree.buffers pop.node
    ⟨box, pop.node, if pop.direct then drawn.filter (·.1 = pop.surface) else drawn⟩
  | .subpresent sp box => ⟨box, ⟨box.x, box.y⟩, [(sp.surface, box)]⟩
  | .window win box =>
    ⟨box, win.node, s.buffers.filter
      (·.2.intersects ⟨win.node.x, win.node.y, box.width, box.height⟩)⟩

/-- The present windows. -/
def presentWindows : List PointerTarget :=
  s.popups.filterMap (fun pop => pop.rootBox.map (.popup pop)) ++
    s.subpresents.filterMap fun sp => sp.rootBox.map (.subpresent sp)

end HostSnapshot

/-- A snapshot of a session. -/
structure PointerState extends HostSnapshot where
  /-- A surface has one node in the scene. -/
  distinct : (toHostSnapshot.buffers.map Prod.fst).Nodup
  /-- The popups' trees are part of the scene. -/
  inScene : ∀ pop ∈ popups, (pop.tree.buffers pop.node).Sublist toHostSnapshot.buffers
  /-- What a present window shows is shown nowhere else: a popup's tree is "off every output's
  layout region", and the buffer of a promoted subsurface is disabled. -/
  apart : ∀ t ∈ toHostSnapshot.presentWindows, ∀ t' ∈ pointed,
    toHostSnapshot.window t' ≠ toHostSnapshot.window t →
      ∀ b ∈ (toHostSnapshot.window t).shown, ∀ b' ∈ (toHostSnapshot.window t').shown, b.1 ≠ b'.1

end Wlx
