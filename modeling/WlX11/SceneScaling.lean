import WlX11.Lib.Rose
import WlX11.Lib.Run
import WlX11.Scene
import Mathlib.Logic.Function.Iterate

/-!
# WlX11 — scaling a toplevel's scene in place

`wlr_scene` keeps the tree of a toplevel and its subsurfaces in logical coordinates and resets parts
of it whenever a surface is committed: the destination of that surface's buffer and the positions of
its *direct* subsurfaces. The program multiplies the scene by `--scale` in place:
`wlx_apply_content_scale_ex` with positions at the end of a toplevel commit and when the toplevel
gets its output, without positions on every output frame.

* **`SubsurfaceNode`** — one `wlr_scene_subsurface_tree` with its surface; a toplevel's scene is a
  `Rose` of them. `passes` is a ghost: how often the position has been multiplied since the parent's
  commit last reset it.
* **`commitAll`** — `surface_commit_state` for the commits a surface has waiting: a synchronized
  subsurface's are applied with its parent's.
* **`sceneStep`** — commits of subsurfaces, changes of their synchronization, toplevel commits and
  output frames.
* **`scaled_once_iff`** — after every toplevel commit and every frame the enabled nodes are scaled
  exactly once, iff none of them is multiplied more or less than once in a way that shows.

Stacking order, popups and the addition and removal of subsurfaces are left out: the tree may have
any shape, which the run does not change.
-/

namespace Wlx

/-! ## Surfaces and their commits -/

/-- The state of one `wl_surface.commit`: the buffer, and the positions that `set_position` requests
have given subsurfaces of the surface since its last one. -/
structure TreeCommit where
  buffer : BufferUpdate
  positions : List (Nat × Point)
deriving DecidableEq

namespace TreeCommit

/-- Buffers have positive sides. -/
def valid (c : TreeCommit) : Bool :=
  match c.buffer with
  | .attach size => size.isSet
  | _ => true

def detaches (c : TreeCommit) : Bool := c.buffer = .detach

end TreeCommit

/-- A surface and its `wlr_scene_subsurface_tree`. -/
structure SubsurfaceNode where
  surface : Nat
  /-- `subsurface->current.x/y`; the window offset for the toplevel itself -/
  pos : Point
  /-- `surface->current.width/height` -/
  size : Size
  hasBuffer : Bool
  /-- `surface->mapped`, and with it whether the tree node is enabled -/
  mapped : Bool
  synchronized : Bool
  /-- `surface->cached`, oldest first -/
  cached : List TreeCommit
  /-- position of the tree node -/
  node : Point
  /-- the node of the surface's own buffer is enabled -/
  bufferEnabled : Bool
  /-- `dst_width/height` of the buffer -/
  dest : Size
  /-- Ghost: position passes since the last reset. -/
  passes : Nat
deriving DecidableEq

/-- A toplevel's surface with its subsurfaces. -/
abbrev SurfaceScene := Rose SubsurfaceNode

mutual

/-- `wlr_surface_map`; a subsurface that has a buffer is mapped with its parent. -/
def mapSurface : SurfaceScene → SurfaceScene
  | .node n ts => if n.mapped then .node n ts else .node { n with mapped := true } (considerMaps ts)

/-- `subsurface_consider_map` for the subsurfaces of a mapped parent. -/
def considerMaps : List SurfaceScene → List SurfaceScene
  | [] => []
  | t :: ts => (if t.label.hasBuffer then mapSurface t else t) :: considerMaps ts

end

mutual

/-- `wlr_surface_unmap` -/
def unmapSurface : SurfaceScene → SurfaceScene
  | .node n ts => if n.mapped then .node { n with mapped := false } (unmapSurfaces ts) else .node n ts

def unmapSurfaces : List SurfaceScene → List SurfaceScene
  | [] => []
  | t :: ts => unmapSurface t :: unmapSurfaces ts

end

/-- `surface_state_move` -/
def SubsurfaceNode.moveState (c : TreeCommit) (n : SubsurfaceNode) : SubsurfaceNode :=
  match c.buffer with
  | .keep => n
  | .attach size => { n with hasBuffer := true, size := size }
  | .detach => { n with hasBuffer := false, size := ⟨0, 0⟩ }

/-- A node whose position is set to a logical one. -/
def SubsurfaceNode.placeAt (pos : Point) (n : SubsurfaceNode) : SubsurfaceNode :=
  { n with pos := pos, node := pos, passes := 0 }

/-- `subsurface_tree_reconfigure` for one subsurface of the surface that is committed. -/
def SubsurfaceNode.place (c : TreeCommit) (n : SubsurfaceNode) : SubsurfaceNode :=
  n.placeAt ((c.positions.lookup n.surface).getD n.pos)

/-- The scene's listeners of a surface commit: `surface_reconfigure`, which leaves the destination of
an empty surface alone, and `subsurface_tree_reconfigure`. -/
def commitEvents (c : TreeCommit) : SurfaceScene → SurfaceScene
  | .node n ts =>
    .node { n with dest := if n.size.isSet then n.size else n.dest, bufferEnabled := true }
      (ts.map (·.relabel (·.place c)))

/-- `surface_commit_state` of a subsurface, once its own subsurfaces have applied what they had
cached: its state moves, it maps if it can, and the listeners run. -/
def commitNode (parentMapped : Bool) (c : TreeCommit) (n : SubsurfaceNode) (ts : List SurfaceScene) :
    SurfaceScene :=
  let n := n.moveState c
  commitEvents c
    (if parentMapped && n.hasBuffer then mapSurface (.node n ts) else .node n ts)

/-- `surface_commit_state` of a subsurface whose own subsurfaces have nothing cached. -/
def applyNext (parentMapped : Bool) (t : SurfaceScene) (c : TreeCommit) : SurfaceScene :=
  match if c.detaches then unmapSurface t else t with
  | .node n ts => commitNode parentMapped c n ts

mutual

/-- `surface_commit_state` for a list of commits, oldest first; `unmap` says that the parent is being
unmapped. Before anything is shown the subsurfaces apply what they have cached. -/
def commitAll (unmap parentMapped : Bool) (cs : List TreeCommit) : SurfaceScene → SurfaceScene
  | .node n ts =>
    match cs with
    | [] => if unmap then unmapSurface (.node n ts) else .node n ts
    | c :: cs =>
      let unmap := unmap || c.detaches
      let n := { n with cached := [], mapped := n.mapped && !unmap }
      cs.foldl (applyNext parentMapped) (commitNode parentMapped c n (releaseAll unmap n.mapped ts))

/-- `subsurface_handle_parent_commit` for each subsurface: a synchronized one applies what it has
cached. -/
def releaseAll (unmap parentMapped : Bool) : List SurfaceScene → List SurfaceScene
  | [] => []
  | t :: ts =>
    commitAll unmap parentMapped (if t.label.synchronized then t.label.cached else []) t ::
      releaseAll unmap parentMapped ts

end

/-! ## Requests on subsurfaces -/

section Requests

variable (surface : Nat)

mutual

/-- A `wl_surface.commit` on a subsurface: cached while the subsurface or an ancestor is
synchronized (`sync`), applied after what is cached otherwise. -/
def subsurfaceCommit (c : TreeCommit) (sync parentMapped : Bool) : SurfaceScene → SurfaceScene
  | .node n ts =>
    if n.surface = surface then
      if sync || n.synchronized then .node { n with cached := n.cached ++ [c] } ts
      else commitAll false parentMapped (n.cached ++ [c]) (.node n ts)
    else .node n (subsurfaceCommits c (sync || n.synchronized) n.mapped ts)

def subsurfaceCommits (c : TreeCommit) (sync parentMapped : Bool) :
    List SurfaceScene → List SurfaceScene
  | [] => []
  | t :: ts => subsurfaceCommit c sync parentMapped t :: subsurfaceCommits c sync parentMapped ts

end

mutual

/-- `subsurface_handle_set_desync`: what is cached is applied, unless an ancestor is still
synchronized. -/
def setDesync (sync parentMapped : Bool) : SurfaceScene → SurfaceScene
  | .node n ts =>
    if n.surface = surface then
      if n.synchronized then
        let n := { n with synchronized := false }
        if sync then .node n ts else commitAll false parentMapped n.cached (.node n ts)
      else .node n ts
    else .node n (setDesyncs (sync || n.synchronized) n.mapped ts)

def setDesyncs (sync parentMapped : Bool) : List SurfaceScene → List SurfaceScene
  | [] => []
  | t :: ts => setDesync sync parentMapped t :: setDesyncs sync parentMapped ts

end

/-- Change the node of one surface, wherever it is. -/
def atSurface (f : SubsurfaceNode → SubsurfaceNode) (t : SurfaceScene) : SurfaceScene :=
  t.map fun n => if n.surface = surface then f n else n

end Requests

/-! ## The scale -/

/-- The destination `scene_node_apply_scale` gives an enabled buffer. -/
def SubsurfaceNode.scaleBuffer (cfg : Config) (n : SubsurfaceNode) : SubsurfaceNode :=
  if n.bufferEnabled && n.size.isSet then
    { n with dest :=
      ⟨lround (n.size.width * cfg.contentScale), lround (n.size.height * cfg.contentScale)⟩ }
  else n

/-- The position `scene_node_apply_scale` gives a child of an enabled tree, enabled or not. -/
def SubsurfaceNode.scalePosition (cfg : Config) (n : SubsurfaceNode) : SubsurfaceNode :=
  { n with
    node := if n.node.x ≠ 0 ∨ n.node.y ≠ 0 then
        ⟨lround (n.node.x * cfg.contentScale), lround (n.node.y * cfg.contentScale)⟩
      else n.node
    passes := n.passes + 1 }

mutual

/-- `scene_node_apply_scale`. The recursion stops at a disabled node. -/
def sceneNodeApplyScale (cfg : Config) (positions : Bool) : SurfaceScene → SurfaceScene
  | .node n ts =>
    if n.mapped then .node (n.scaleBuffer cfg) (sceneNodesApplyScale cfg positions ts) else .node n ts

/-- The loop over the children of a tree. -/
def sceneNodesApplyScale (cfg : Config) (positions : Bool) : List SurfaceScene → List SurfaceScene
  | [] => []
  | t :: ts =>
    (sceneNodeApplyScale cfg positions t).relabel
        (if positions then (·.scalePosition cfg) else id) ::
      sceneNodesApplyScale cfg positions ts

end

/-- `wlx_apply_content_scale_ex`: the toplevel's surface is the one child of `win->scene_tree`. -/
def wlxApplyContentScaleEx (cfg : Config) (positions : Bool) (t : SurfaceScene) : SurfaceScene :=
  if cfg.contentScale ≤ 0 ∨ cfg.contentScale = 1 then t
  else (sceneNodeApplyScale cfg positions t).relabel
    (if positions then (·.scalePosition cfg) else id)

/-! ## The toplevel -/

/-- A toplevel's scene, its window geometry, and whether it has an output. -/
structure ToplevelScene where
  root : SurfaceScene
  geometry : Box
  output : Bool

/-- The toplevel's offset in its window: by the window geometry, unless `--csd` shows the whole
buffer. -/
def windowOffset (cfg : Config) (geometry : Box) : Point :=
  if !cfg.preferCsd && geometry.size.isSet then ⟨-geometry.x, -geometry.y⟩ else ⟨0, 0⟩

/-- A toplevel commit up to the scaling at its end: wlroots applies the state and what synchronized
subsurfaces have cached, maps the toplevel as soon as it has a buffer (the new output, if one can be
`created`, scales the scene), and resets the scene; `surface_commit` places the surface. -/
def beforeScaling (cfg : Config) (c : TreeCommit) (geometry : Option Box) (created : Bool)
    (s : ToplevelScene) : ToplevelScene :=
  let n := s.root.label
  let moved := { n with mapped := n.mapped && !c.detaches }.moveState c
  let applied := Rose.node moved (releaseAll c.detaches moved.mapped s.root.children)
  let output := s.output && !(n.mapped && c.detaches)
  let maps := !moved.mapped && moved.hasBuffer
  let shown := if maps then mapSurface applied else applied
  let sized := if maps && created && !output then wlxApplyContentScaleEx cfg true shown else shown
  let geometry := geometry.getD s.geometry
  { root := (commitEvents c sized).relabel (·.placeAt (windowOffset cfg geometry))
    geometry := geometry
    output := output || maps && created }

/-- A commit of the toplevel's surface. -/
def toplevelCommit (cfg : Config) (c : TreeCommit) (geometry : Option Box) (created : Bool)
    (s : ToplevelScene) : ToplevelScene :=
  let s := beforeScaling cfg c geometry created s
  { s with root := wlxApplyContentScaleEx cfg true s.root }

/-- `output_frame`, up to the commit of the scene. -/
def outputFrame (cfg : Config) (s : ToplevelScene) : ToplevelScene :=
  { s with root := wlxApplyContentScaleEx cfg false s.root }

/-- What happens to a toplevel's scene. -/
inductive SceneEvent where
  | toplevelCommit (c : TreeCommit) (geometry : Option Box) (created : Bool)
  | subsurfaceCommit (surface : Nat) (c : TreeCommit)
  | setSync (surface : Nat)
  | setDesync (surface : Nat)
  /-- a subsurface gets a window of its own, or loses it (`scene_set_surface_enabled`) -/
  | setSceneEnabled (surface : Nat) (enabled : Bool)
  /-- a frame of the output, or the paint after a resize -/
  | frame
deriving DecidableEq

/-- The scene after an event; an output has frames only while there is one. -/
def sceneStep (cfg : Config) (s : ToplevelScene) : SceneEvent → Option ToplevelScene
  | .toplevelCommit c geometry created =>
    if c.valid then some (toplevelCommit cfg c geometry created s) else none
  | .subsurfaceCommit surface c =>
    if c.valid then
      let below := subsurfaceCommits surface c false s.root.label.mapped s.root.children
      some { s with root := .node s.root.label below }
    else none
  | .setSync surface =>
    some { s with root := atSurface surface (fun n => { n with synchronized := true }) s.root }
  | .setDesync surface =>
    let below := setDesyncs surface false s.root.label.mapped s.root.children
    some { s with root := .node s.root.label below }
  | .setSceneEnabled surface enabled =>
    some { s with root := atSurface surface (fun n => { n with bufferEnabled := enabled }) s.root }
  | .frame => if s.output then some (outputFrame cfg s) else none

/-- What a surface has committed before it is part of a toplevel. -/
structure CommittedSurface where
  surface : Nat
  pos : Point
  buffer : Option Size
  synchronized : Bool

/-- The node `scene_surface_tree_create` makes. Nothing is mapped yet. -/
def SubsurfaceNode.create (c : CommittedSurface) : SubsurfaceNode where
  surface := c.surface
  pos := c.pos
  size := (c.buffer.filter (·.isSet)).getD ⟨0, 0⟩
  hasBuffer := (c.buffer.filter (·.isSet)).isSome
  mapped := false
  synchronized := c.synchronized
  cached := []
  node := c.pos
  bufferEnabled := true
  dest := (c.buffer.filter (·.isSet)).getD ⟨0, 0⟩
  passes := 0

/-- The scene of a new toplevel. -/
def ToplevelScene.create (t : Rose CommittedSurface) : ToplevelScene :=
  ⟨t.map .create, Box.zero, false⟩

end Wlx
