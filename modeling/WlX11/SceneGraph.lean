import Mathlib.Data.Rat.Defs
import WlX11.DamageRing
import WlX11.Lib.Run
import WlX11.Lib.Sheets
import WlX11.Lib.Zipper

/-!
# WlX11 — the scene graph

`wlr_scene` keeps for each node what can be seen of it, so that a frame only draws that. It does not compute it
anew: when a node changes, it looks again at the region where the node was seen and where it is now, and this
is also what it damages. A frame then leaves out what cannot be seen, the background below opaque nodes, and
black nodes altogether.

* **`SceneGraph`** — the tree of `struct wlr_scene_node`s, and their `visible` regions.
* **`sceneNodeUpdate`** — `scene_node_update`, behind nearly all of the functions that change a node.
* **`SceneGraph.step`** — these functions.
* **`render`** — what `wlr_scene_output_build_state` draws into a buffer.
* **`picture`** — what there is to see: all enabled nodes, drawn over each other.
* **`displayed`** — what an output makes of it, which leaves the black nodes out.

Outputs have the scale 1 and are not transformed: the program never asks for anything else. Buffers are those of
clients, which the scene keeps locked. Left out: which outputs a surface enters, Xwayland, and damage
highlighting.
-/

namespace Wlx

namespace Region

/-- `pixman_region32_translate`. -/
def translate (r : Region) (d : Pixel) : Region := r.image fun p => (p.1 + d.1, p.2 + d.2)

theorem mem_translate {r : Region} {d p : Pixel} : p ∈ r.translate d ↔ (p.1 - d.1, p.2 - d.2) ∈ r := by
  simp only [translate, Finset.mem_image, Prod.ext_iff, Prod.exists]
  constructor
  · rintro ⟨x, y, h, hx, hy⟩
    rwa [← hx, ← hy, Int.add_sub_cancel, Int.add_sub_cancel]
  · exact fun h => ⟨_, _, h, Int.sub_add_cancel .., Int.sub_add_cancel ..⟩

/-- `pixman_region32_union`, of all of them. -/
def unionAll (rs : List Region) : Region := rs.foldr (· ∪ ·) ∅

theorem mem_unionAll {rs : List Region} {p : Pixel} : p ∈ unionAll rs ↔ ∃ r ∈ rs, p ∈ r := by
  induction rs with
  | nil => simp [unionAll]
  | cons r rs ih =>
    simp only [List.mem_cons, exists_eq_or_imp, ← ih]
    exact Finset.mem_union

end Region

/-! ## Nodes -/

/-- `enum wl_output_transform`, of the contents of a buffer. -/
inductive BufferTransform where
  | normal | rotated90 | rotated180 | rotated270 | flipped | flipped90 | flipped180 | flipped270
deriving DecidableEq

/-- `wlr_output_transform_coords`. -/
def BufferTransform.coords : BufferTransform → Size → Size
  | .rotated90, s | .rotated270, s | .flipped90, s | .flipped270, s => ⟨s.height, s.width⟩
  | _, s => s

/-- The buffer of a surface. -/
structure ClientImage (Color : Type) where
  size : Size
  /-- `wlr_buffer_is_opaque` -/
  isOpaque : Bool
  /-- `struct wlr_single_pixel_buffer_v1` -/
  singlePixel : Option Color
  pixels : Pixel → Color

/-- `struct wlr_scene_buffer`. The `look` is how it is sampled: the source box, the filter, and the fields about
colors. -/
structure SceneBuffer (Look Color : Type) where
  buffer : Option (ClientImage Color)
  opaqueRegion : Region
  dst : Size
  transform : BufferTransform
  opacity : ℚ
  look : Look

/-- What the renderer is told of it: not what is opaque. -/
def SceneBuffer.texture {Look Color : Type} (b : SceneBuffer Look Color) : SceneBuffer Look Color :=
  { b with opaqueRegion := ∅ }

inductive NodeContent (Look Color : Type) where
  | tree
  | rect (size : Size) (color : Color)
  | buffer (b : SceneBuffer Look Color)

/-- `struct wlr_scene_node`. -/
structure GraphNode (Look Color : Type) where
  id : Nat
  enabled : Bool
  pos : Pixel
  content : NodeContent Look Color

/-- What the renderer does. -/
structure Palette (Look Color : Type) where
  /-- `WLR_RENDER_BLEND_MODE_PREMULTIPLIED` -/
  blend : Color → Color → Color
  clear : Color
  black : Color
  /-- `color[3]` -/
  alpha : Color → ℚ
  /-- a pixel of a buffer as it is drawn into its node -/
  sample : SceneBuffer Look Color → Pixel → Color

/-- What a buffer of an output has before the nodes are drawn. -/
def Palette.backdrop {Look Color : Type} (pal : Palette Look Color) (isOpaque : Bool) : Color :=
  if isOpaque then pal.black else pal.clear

/-- What the nodes are seen over. -/
structure Ground (Color : Type) where
  backdrop : Color
  /-- what shows in the place of black nodes, if these are left out -/
  black : Option Color

namespace NodeContent

variable {Look Color : Type} (content : NodeContent Look Color)

def isTree : Bool :=
  match content with
  | .tree => true
  | _ => false

/-- `scene_node_get_size`. -/
def getSize : Size :=
  match content with
  | .tree => ⟨0, 0⟩
  | .rect size _ => size
  | .buffer b =>
    if 0 < b.dst.width ∧ 0 < b.dst.height then b.dst
    else b.transform.coords ((b.buffer.map (·.size)).getD ⟨0, 0⟩)

variable (pal : Palette Look Color)

/-- `scene_node_opaque_region`, of a node at the origin. -/
def opaqueRegion : Region :=
  match content with
  | .tree => ∅
  | .rect size color => if pal.alpha color ≠ 1 then ∅ else size.rect
  | .buffer b =>
    match b.buffer with
    | none => ∅
    | some image =>
      if b.opacity ≠ 1 then ∅
      else if !image.isOpaque then b.opaqueRegion ∩ (getSize (.buffer b)).rect
      else (getSize (.buffer b)).rect

theorem opaqueRegion_subset : content.opaqueRegion pal ⊆ content.getSize.rect := by
  unfold opaqueRegion
  split
  · exact Finset.empty_subset _
  · split_ifs
    · exact Finset.empty_subset _
    · exact Finset.Subset.refl _
  · split
    · exact Finset.empty_subset _
    · split_ifs
      · exact Finset.empty_subset _
      · exact Finset.inter_subset_right
      · exact Finset.Subset.refl _

/-- `scene_node_invisible`. -/
def invisible : Bool :=
  match content with
  | .tree => true
  | .rect _ color => pal.alpha color = 0
  | .buffer b => b.buffer.isNone

/-- "If we see a black rect, we can ignore rendering everything under the rect, and even the rect itself":
`scene_buffer_is_black_opaque` for a buffer. -/
def isBlack [DecidableEq Color] : Bool :=
  match content with
  | .tree => false
  | .rect _ color => color = pal.black
  | .buffer b => ((b.buffer.bind (·.singlePixel)).any (· = pal.black)) && b.opacity = 1

/-- What a pixel of the node puts over what is below. -/
def color (p : Pixel) (below : Color) : Color :=
  match content with
  | .tree => below
  | .rect _ color => pal.blend color below
  | .buffer b => if b.buffer.isNone then below else pal.blend (pal.sample b.texture p) below

/-- What is seen at a pixel of the node, if something else shows in the place of black. That is only so where
visibility is calculated. -/
def shade [DecidableEq Color] (calculateVisibility : Bool) (black : Option Color) (p : Pixel) (below : Color) :
    Color :=
  if calculateVisibility && content.isBlack pal then black.getD (content.color pal p below)
  else content.color pal p below

end NodeContent

/-! ## The scene -/

/-- A node that is not a tree, with its coordinates in the layout. -/
structure PlacedNode (Look Color : Type) where
  node : GraphNode Look Color
  origin : Pixel

def PlacedNode.id {Look Color : Type} (e : PlacedNode Look Color) : Nat := e.node.id

/-- `struct wlr_scene`. -/
structure SceneGraph (Look Color : Type) where
  tree : Rose (GraphNode Look Color)
  /-- `visible`, of each node -/
  visible : Nat → Region
  /-- not `WLR_SCENE_DISABLE_VISIBILITY` -/
  calculateVisibility : Bool
  /-- what `scene_damage_outputs` has been called for -/
  damage : Region

namespace PlacedNode

variable {Look Color : Type} (e : PlacedNode Look Color)

/-- The box of `scene_node_get_size` at these coordinates. -/
def box : Region := e.node.content.getSize.rect.translate e.origin

/-- `scene_node_opaque_region`. -/
def opaqueRegion (pal : Palette Look Color) : Region := (e.node.content.opaqueRegion pal).translate e.origin

def shade [DecidableEq Color] (pal : Palette Look Color) (calculateVisibility : Bool) (black : Option Color)
    (p : Pixel) (below : Color) : Color :=
  e.node.content.shade pal calculateVisibility black (p.1 - e.origin.1, p.2 - e.origin.2) below

end PlacedNode

namespace SceneGraph

variable {Look Color : Type}

/-! ## Iterators -/

/-- The coordinates of a node whose parent is at `o`, if it is enabled. -/
def coordsFrom (o : Pixel) (a : GraphNode Look Color) : Option Pixel :=
  if a.enabled then some (o.1 + a.pos.1, o.2 + a.pos.2) else none

/-- Trees are entered, and handed to no iterator. -/
def enter (o : Pixel) (a : GraphNode Look Color) : Option Pixel :=
  if a.content.isTree then coordsFrom o a else none

def emit (o : Pixel) (a : GraphNode Look Color) : List (PlacedNode Look Color) :=
  if a.content.isTree then [] else (coordsFrom o a).toList.map fun origin => ⟨a, origin⟩

/-- What the iterators meet in a part of the scene, the top first, where the parent is at `o`. -/
def nodesBelow (o : Pixel) (t : Rose (GraphNode Look Color)) : List (PlacedNode Look Color) :=
  t.walk enter emit o

variable (pal : Palette Look Color) (s : SceneGraph Look Color)

def nodes : List (PlacedNode Look Color) := nodesBelow (0, 0) s.tree

/-- `scene_nodes_in_box`. -/
def nodesInBox (box : Region) : List (PlacedNode Look Color) := s.nodes.filter fun e => e.box ∩ box ≠ ∅

/-- `wlr_scene_node_coords` of a place and what is in it; nothing if it is not enabled. -/
def nodeCoords (fs : List (Rose.Frame (GraphNode Look Color))) (t : Rose (GraphNode Look Color)) : Option Pixel :=
  (Rose.handed enter (0, 0) fs).bind fun o => coordsFrom o t.label

/-- `scene_node_visibility`. -/
def nodeVisibility (t : Rose (GraphNode Look Color)) : Region :=
  Region.unionAll ((nodesBelow (0, 0) t).map fun e => s.visible e.id)

/-- `scene_node_bounds`, of a node that is at `p`. -/
def nodeBounds (p : Pixel) (t : Rose (GraphNode Look Color)) : Region :=
  let o := (p.1 - t.label.pos.1, p.2 - t.label.pos.2)
  Region.unionAll ((nodesBelow o t).map PlacedNode.box)

/-! ## Updates -/

/-- `scene_node_update_iterator`. -/
def updateIterator (updateRegion : Region) (data : (Nat → Region) × Region) (e : PlacedNode Look Color) :
    (Nat → Region) × Region :=
  (Function.update data.1 e.id (((data.1 e.id \ updateRegion) ∪ data.2) ∩ e.box),
    -- what is left of the region, for the nodes below
    if s.calculateVisibility then data.2 \ e.opaqueRegion pal else data.2)

/-- `scene_update_region`. -/
def updateRegion (region : Region) : SceneGraph Look Color :=
  { s with visible := ((s.nodesInBox region.extents).foldl (s.updateIterator pal region) (s.visible, region)).1 }

/-- `scene_damage_outputs`. -/
def damageOutputs (damage : Region) : SceneGraph Look Color := { s with damage := s.damage ∪ damage }

/-- `scene_node_cleanup_when_disabled`: it does not ask whether the node itself is enabled. -/
def cleanupWhenDisabled (t : Rose (GraphNode Look Color)) : SceneGraph Look Color :=
  let ids := (nodesBelow (0, 0) (t.relabel fun a => { a with enabled := true })).map PlacedNode.id
  { s with visible := fun i => if i ∈ ids then ∅ else s.visible i }

/-- `scene_node_update`. -/
def sceneNodeUpdate (id : Nat) (damage : Option Region) : SceneGraph Look Color :=
  match s.tree.locate fun a => a.id = id with
  | none => s
  | some (fs, t) =>
    match nodeCoords fs t with
    | none =>
      -- "explicit damage on a disabled tree means the node was just disabled"
      match damage with
      | none => s
      | some damage => ((s.cleanupWhenDisabled t).updateRegion pal damage).damageOutputs damage
    | some p =>
      -- where it was seen, unless the caller has kept that from before the change
      let damage := damage.getD (s.nodeVisibility t)
      let s := s.updateRegion pal (damage ∪ nodeBounds p t)
      s.damageOutputs (damage ∪ s.nodeVisibility t)

/-! ## What changes a node -/

/-- Most of them: nothing if it is the same, or `scene_node_update` without damage. -/
def assign (id : Nat) (same : GraphNode Look Color → Bool)
    (f : GraphNode Look Color → GraphNode Look Color) : Option (SceneGraph Look Color) :=
  (s.tree.locate fun a => a.id = id).map fun (fs, t) =>
    if same t.label then s
    else sceneNodeUpdate pal { s with tree := Rose.plug fs (t.relabel f) } id none

/-- `wlr_scene_node_set_position`. -/
def setPosition (id : Nat) (pos : Pixel) : Option (SceneGraph Look Color) :=
  s.assign pal id (fun a => a.pos = pos) fun a => { a with pos := pos }

def assignRect (id : Nat) (same : Size → Color → Bool) (f : Size → Color → NodeContent Look Color) :
    Option (SceneGraph Look Color) :=
  s.assign pal id
    (fun a => match a.content with
      | .rect size color => same size color
      | _ => true)
    fun a => { a with
      content := match a.content with
        | .rect size color => f size color
        | content => content }

/-- `wlr_scene_rect_set_size`. -/
def rectSetSize (id : Nat) (size : Size) : Option (SceneGraph Look Color) :=
  s.assignRect pal id (fun size' _ => size' = size) fun _ color => .rect size color

/-- `wlr_scene_rect_set_color`. -/
def rectSetColor [DecidableEq Color] (id : Nat) (color : Color) : Option (SceneGraph Look Color) :=
  s.assignRect pal id (fun _ color' => color' = color) fun size _ => .rect size color

def assignBuffer (id : Nat) (same : SceneBuffer Look Color → Bool)
    (f : SceneBuffer Look Color → SceneBuffer Look Color) : Option (SceneGraph Look Color) :=
  s.assign pal id
    (fun a => match a.content with
      | .buffer b => same b
      | _ => true)
    fun a => { a with
      content := match a.content with
        | .buffer b => .buffer (f b)
        | content => content }

/-- `wlr_scene_buffer_set_dest_size`. -/
def bufferSetDestSize (id : Nat) (dst : Size) : Option (SceneGraph Look Color) :=
  s.assignBuffer pal id (fun b => b.dst = dst) fun b => { b with dst := dst }

/-- `wlr_scene_buffer_set_transform`. -/
def bufferSetTransform (id : Nat) (transform : BufferTransform) : Option (SceneGraph Look Color) :=
  s.assignBuffer pal id (fun b => b.transform = transform) fun b => { b with transform := transform }

/-- `wlr_scene_buffer_set_opacity`. -/
def bufferSetOpacity (id : Nat) (opacity : ℚ) : Option (SceneGraph Look Color) :=
  s.assignBuffer pal id (fun b => b.opacity = opacity) fun b => { b with opacity := opacity }

/-- `wlr_scene_buffer_set_source_box`, `_set_filter_mode`, `_set_transfer_function`, `_set_primaries`,
`_set_color_encoding` and `_set_color_range`. -/
def bufferSetLook [DecidableEq Look] (id : Nat) (look : Look) : Option (SceneGraph Look Color) :=
  s.assignBuffer pal id (fun b => b.look = look) fun b => { b with look := look }

/-- `wlr_scene_node_set_enabled`. -/
def setEnabled (id : Nat) (enabled : Bool) : Option (SceneGraph Look Color) :=
  (s.tree.locate fun a => a.id = id).map fun (fs, t) =>
    if t.label.enabled = enabled then s
    else
      let visible := if (nodeCoords fs t).isSome then s.nodeVisibility t else ∅
      sceneNodeUpdate pal { s with tree := Rose.plug fs (t.relabel fun a => { a with enabled := enabled }) } id
        (some visible)

/-- `wlr_scene_buffer_set_opaque_region`: what is seen may change, but not the picture. -/
def bufferSetOpaqueRegion (id : Nat) (region : Region) : Option (SceneGraph Look Color) :=
  (s.tree.locate fun a => a.id = id).bind fun (fs, t) =>
    match t.label.content with
    | .buffer b =>
      if b.opaqueRegion = region then some s
      else
        let t := t.relabel fun a => { a with content := .buffer { b with opaqueRegion := region } }
        let s := { s with tree := Rose.plug fs t }
        match nodeCoords fs t with
        | none => some s
        | some p => some (s.updateRegion pal (nodeBounds p t))
    | _ => none

/-- Whether another buffer needs an update of the node. -/
def bufferNeedsUpdate (b : SceneBuffer Look Color) (buffer : Option (ClientImage Color)) : Bool :=
  buffer.isSome != b.buffer.isSome ||
    (buffer.isSome && b.dst = ⟨0, 0⟩ && (buffer.map (·.size)).getD ⟨0, 0⟩ != (b.buffer.map (·.size)).getD ⟨0, 0⟩)

/-- `wlr_scene_buffer_set_buffer_with_options`. The damage is what the pixels damaged in the buffer have to do
with in the node. -/
def bufferSetBuffer (id : Nat) (buffer : Option (ClientImage Color)) (damage : Option Region) :
    Option (SceneGraph Look Color) :=
  (s.tree.locate fun a => a.id = id).bind fun (fs, t) =>
    match t.label.content with
    | .buffer b =>
      if buffer.isNone && b.buffer.isNone then some s
      else
        let content := NodeContent.buffer { b with buffer := buffer }
        let s := { s with tree := Rose.plug fs (t.relabel fun a => { a with content := content }) }
        -- "updating the node will already damage the whole node for us"
        if bufferNeedsUpdate b buffer then some (s.sceneNodeUpdate pal id none)
        else
          match nodeCoords fs t with
          | none => some s
          | some origin =>
            some (s.damageOutputs ((damage.getD content.getSize.rect).translate origin ∩ s.visible id))
    | _ => none

/-! ## What changes the tree -/

/-- `wlr_scene_node_place_above`, for a place that is not the root. -/
def placeAbove (id sibling : Nat) : Option (SceneGraph Look Color) :=
  match s.tree.locate fun a => a.id = id with
  | some (f :: fs, t) =>
    if (f.before.getLast?.map (·.label.id)) = some sibling then some s
    else
      match (f.before ++ f.after).span fun u => u.label.id ≠ sibling with
      | (_, []) => none
      | (below, u :: above) =>
        some (sceneNodeUpdate pal { s with tree := Rose.plug (⟨f.label, below ++ [u], above⟩ :: fs) t } id none)
  | _ => none

/-- `wlr_scene_node_place_below`. -/
def placeBelow (id sibling : Nat) : Option (SceneGraph Look Color) :=
  match s.tree.locate fun a => a.id = id with
  | some (f :: fs, t) =>
    if (f.after.head?.map (·.label.id)) = some sibling then some s
    else
      match (f.before ++ f.after).span fun u => u.label.id ≠ sibling with
      | (_, []) => none
      | (below, u :: above) =>
        some (sceneNodeUpdate pal { s with tree := Rose.plug (⟨f.label, below, u :: above⟩ :: fs) t } id none)
  | _ => none

/-- `wlr_scene_node_raise_to_top`. -/
def raiseToTop (id : Nat) : Option (SceneGraph Look Color) :=
  match s.tree.locate fun a => a.id = id with
  | some (f :: _, _) =>
    match f.after.getLast? with
    -- it is the top already
    | none => some s
    | some top => s.placeAbove pal id top.label.id
  | _ => none

/-- `wlr_scene_node_lower_to_bottom`. -/
def lowerToBottom (id : Nat) : Option (SceneGraph Look Color) :=
  match s.tree.locate fun a => a.id = id with
  | some (f :: _, _) =>
    match f.before.head? with
    -- it is the bottom already
    | none => some s
    | some bottom => s.placeBelow pal id bottom.label.id
  | _ => none

/-- The way to the top of the children of a tree. -/
def topOf (tree : Rose (GraphNode Look Color)) (parent : Nat) : Option (List (Rose.Frame (GraphNode Look Color))) :=
  (tree.locate fun a => a.id = parent).bind fun (gs, u) =>
    if u.label.content.isTree then some (⟨u.label, u.children, []⟩ :: gs) else none

/-- `wlr_scene_node_reparent`. The new parent is looked for where the node is not: "a node cannot become its own
ancestor". -/
def reparent (id parent : Nat) : Option (SceneGraph Look Color) :=
  match s.tree.locate fun a => a.id = id with
  | some (f :: fs, t) =>
    if f.label.id = parent then some s
    else
      let visible := if (nodeCoords (f :: fs) t).isSome then s.nodeVisibility t else ∅
      (topOf (Rose.hollow f fs) parent).map fun gs =>
        sceneNodeUpdate pal { s with tree := Rose.plug gs t } id (some visible)
  | _ => none

/-- `wlr_scene_tree_create`, `wlr_scene_rect_create` and `wlr_scene_buffer_create`. -/
def create (parent id : Nat) (content : NodeContent Look Color) : Option (SceneGraph Look Color) :=
  if id ∈ s.tree.labels.map (·.id) then none
  else
    (topOf s.tree parent).map fun gs =>
      let s := { s with
        tree := Rose.plug gs (.node ⟨id, true, (0, 0), content⟩ [])
        visible := Function.update s.visible id ∅ }
      -- there is nothing to see of a tree without children
      if content.isTree then s else s.sceneNodeUpdate pal id none

/-- `wlr_scene_node_destroy`. The children are destroyed in turn, below a node that is not enabled any more. -/
def destroy (id : Nat) : Option (SceneGraph Look Color) :=
  match s.tree.locate fun a => a.id = id with
  | some (f :: fs, _) =>
    (s.setEnabled pal id false).map fun s => { s with tree := Rose.hollow f fs }
  | _ => none

/-! ## A frame -/

variable [DecidableEq Color]

/-- `construct_render_list_iterator` adds the node. -/
def listed (box : Region) (e : PlacedNode Look Color) : Bool :=
  !e.node.content.invisible pal && !(s.calculateVisibility && e.node.content.isBlack pal) &&
    s.visible e.id ∩ box ≠ ∅

/-- The nodes to draw, the top first. -/
def renderList (box : Region) : List (PlacedNode Look Color) := (s.nodesInBox box).filter (s.listed pal box)

/-- Where the background is drawn: "cull areas of the background that are occluded by opaque regions of scene
nodes above", as far as these are visible. -/
def background (o : Pixel) (damage : Region) (list : List (PlacedNode Look Color)) : Region :=
  if s.calculateVisibility then
    damage \ Region.unionAll (list.map fun e => (e.opaqueRegion pal ∩ s.visible e.id).translate (-o.1, -o.2))
  else damage

/-- `scene_entry_render`. A texture that is opaque wherever it is drawn is not blended. -/
def entryRender (o : Pixel) (damage : Region) (e : PlacedNode Look Color) (target : Pixel → Color) :
    Pixel → Color :=
  let renderRegion := (s.visible e.id).translate (-o.1, -o.2) ∩ damage
  let isSolid := s.calculateVisibility && renderRegion ⊆ (e.opaqueRegion pal).translate (-o.1, -o.2)
  fun p =>
    if p ∈ renderRegion ∩ e.box.translate (-o.1, -o.2) then
      let q := (p.1 + o.1 - e.origin.1, p.2 + o.2 - e.origin.2)
      match e.node.content with
      | .buffer b =>
        if isSolid && ((b.buffer.bind (·.singlePixel)).isNone) then pal.sample b.texture q
        else e.node.content.color pal q (target p)
      | content => content.color pal q (target p)
    else target p

/-- What `wlr_scene_output_build_state` does to a buffer of an output at `o`. A buffer with an alpha channel is
cleared, and drawn anew. -/
def render (isOpaque : Bool) (o : Pixel) (size : Size) (damage : Region) (target : Pixel → Color) :
    Pixel → Color :=
  let list := s.renderList pal (size.rect.translate o)
  if isOpaque then
    let background := s.background pal o damage list
    list.foldr (s.entryRender pal o damage) fun p =>
      if p ∈ background ∩ size.rect then pal.black else target p
  else
    list.foldr (s.entryRender pal o size.rect) fun p => if p ∈ size.rect then pal.clear else target p

/-- All of the enabled nodes, from the bottom. -/
def drawing (ground : Ground Color) (p : Pixel) : Color :=
  s.nodes.foldr (fun e below =>
    if p ∈ e.box then e.shade pal s.calculateVisibility ground.black p below else below) ground.backdrop

/-- What there is to see: every node is drawn. -/
def picture (backdrop : Color) : Pixel → Color := s.drawing pal ⟨backdrop, none⟩

/-- What an output shows that starts from the `backdrop`: in the place of a black node it stays. -/
def displayed (backdrop : Color) : Pixel → Color := s.drawing pal ⟨backdrop, some backdrop⟩

/-! ## Sessions -/

inductive SceneAction (Look Color : Type) where
  | create (parent id : Nat) (content : NodeContent Look Color)
  | destroy (id : Nat)
  | setEnabled (id : Nat) (enabled : Bool)
  | setPosition (id : Nat) (pos : Pixel)
  | placeAbove (id sibling : Nat)
  | placeBelow (id sibling : Nat)
  | raiseToTop (id : Nat)
  | lowerToBottom (id : Nat)
  | reparent (id parent : Nat)
  | rectSetSize (id : Nat) (size : Size)
  | rectSetColor (id : Nat) (color : Color)
  | bufferSetBuffer (id : Nat) (buffer : Option (ClientImage Color)) (damage : Option Region)
  | bufferSetOpaqueRegion (id : Nat) (region : Region)
  | bufferSetDestSize (id : Nat) (dst : Size)
  | bufferSetTransform (id : Nat) (transform : BufferTransform)
  | bufferSetOpacity (id : Nat) (opacity : ℚ)
  | bufferSetLook (id : Nat) (look : Look)

variable [DecidableEq Look]

def step (s : SceneGraph Look Color) : SceneAction Look Color → Option (SceneGraph Look Color)
  | .create parent id content => s.create pal parent id content
  | .destroy id => s.destroy pal id
  | .setEnabled id enabled => s.setEnabled pal id enabled
  | .setPosition id pos => s.setPosition pal id pos
  | .placeAbove id sibling => s.placeAbove pal id sibling
  | .placeBelow id sibling => s.placeBelow pal id sibling
  | .raiseToTop id => s.raiseToTop pal id
  | .lowerToBottom id => s.lowerToBottom pal id
  | .reparent id parent => s.reparent pal id parent
  | .rectSetSize id size => s.rectSetSize pal id size
  | .rectSetColor id color => s.rectSetColor pal id color
  | .bufferSetBuffer id buffer damage => s.bufferSetBuffer pal id buffer damage
  | .bufferSetOpaqueRegion id region => s.bufferSetOpaqueRegion pal id region
  | .bufferSetDestSize id dst => s.bufferSetDestSize pal id dst
  | .bufferSetTransform id transform => s.bufferSetTransform pal id transform
  | .bufferSetOpacity id opacity => s.bufferSetOpacity pal id opacity
  | .bufferSetLook id look => s.bufferSetLook pal id look

/-- `wlr_scene_create`. -/
def init (calculateVisibility : Bool) : SceneGraph Look Color where
  tree := .node ⟨0, true, (0, 0), .tree⟩ []
  visible := fun _ => ∅
  calculateVisibility := calculateVisibility
  damage := ∅

/-- What `surface_reconfigure` calls for a commit of a surface; `none` for a surface that is clipped away. -/
def surfaceReconfigure (id : Nat) : Option (SceneBuffer Look Color × Region) → List (SceneAction Look Color)
  | none => [.bufferSetBuffer id none none]
  | some (b, damage) =>
    [.bufferSetOpaqueRegion id b.opaqueRegion, .bufferSetLook id b.look, .bufferSetDestSize id b.dst,
      .bufferSetTransform id b.transform, .bufferSetOpacity id b.opacity,
      .bufferSetBuffer id b.buffer (b.buffer.map fun _ => damage)]

end SceneGraph

end Wlx
