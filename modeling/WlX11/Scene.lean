import WlX11.Lib.Topmost
import WlX11.Placement

/-!
# WlX11 — the scene

The scene graph as far as positions, sizes and lookups go (`wlr_scene.c`, `scene/surface.c`,
`scene/subsurface_tree.c`), and the tree the program keeps for a toplevel.

* **`SceneNode.buffers`** — the enabled buffers below a node, with the boxes they cover.
* **`SceneNode.bufferAt`** — `wlr_scene_node_at` with the place of what it finds; **`SceneNode.nodeAt`** without.
* **`toplevelTree`** — a toplevel's tree, from what its client has committed.
-/

namespace Wlx

namespace Point

def add (p q : Point) : Point := ⟨p.x + q.x, p.y + q.y⟩

@[simp] theorem zero_add (p : Point) : add ⟨0, 0⟩ p = p := by simp [add]

@[simp] theorem add_zero (p : Point) : p.add ⟨0, 0⟩ = p := by simp [add]

theorem add_assoc (p q r : Point) : (p.add q).add r = p.add (q.add r) := by
  simp [add, Int.add_assoc]

end Point

namespace Box

/-- `wlr_box_intersects`: empty boxes intersect nothing. -/
def intersects (a b : Box) : Bool :=
  a.size.isSet && b.size.isSet &&
    a.x < b.x + b.width && b.x < a.x + a.width && a.y < b.y + b.height && b.y < a.y + a.height

/-- The pixel is in the box. -/
def covers (b : Box) (q : Point) : Bool :=
  b.x ≤ q.x && q.x < b.x + b.width && b.y ≤ q.y && q.y < b.y + b.height

/-- The box seen from an origin that lies at `d`. -/
def shift (b : Box) (d : Point) : Box := { b with x := d.x + b.x, y := d.y + b.y }

theorem intersects_iff {a b : Box} : a.intersects b = true ↔
    (0 < a.width ∧ 0 < a.height) ∧ (0 < b.width ∧ 0 < b.height) ∧
      a.x < b.x + b.width ∧ b.x < a.x + a.width ∧ a.y < b.y + b.height ∧ b.y < a.y + a.height := by
  simp only [intersects, size, Bool.and_eq_true, Size.isSet_iff, decide_eq_true_eq, and_assoc]

/-- Moving both boxes changes nothing. -/
@[simp] theorem shift_intersects_shift (a b : Box) (d : Point) :
    (a.shift d).intersects (b.shift d) = a.intersects b := by
  rw [Bool.eq_iff_iff, intersects_iff, intersects_iff]
  simp only [shift]
  constructor <;> intro h <;> omega

/-- What has a pixel of a box meets the box. -/
theorem intersects_of_covers {a b : Box} {q : Point} (h : a.covers q = true)
    (hx : b.x ≤ q.x ∧ q.x < b.x + b.width) (hy : b.y ≤ q.y ∧ q.y < b.y + b.height) :
    a.intersects b = true := by
  simp only [covers, Bool.and_eq_true, decide_eq_true_eq] at h
  rw [intersects_iff]
  omega

end Box

/-- A surface of a client: the toplevel whose tree it is in, and its number there. The toplevel's own
surface is number 0. -/
structure SurfaceRef where
  toplevel : Nat
  surface : Nat
deriving DecidableEq, Repr

/-- A node of the scene with its position in the parent. The size of a buffer node is what
`scene_node_get_size` gives. -/
inductive SceneNode where
  | tree (enabled : Bool) (pos : Point) (children : List SceneNode)
  | buffer (enabled : Bool) (pos : Point) (size : Size) (surface : SurfaceRef)

namespace SceneNode

def pos : SceneNode → Point
  | .tree _ pos _ | .buffer _ pos _ _ => pos

mutual

/-- The enabled buffers below a node that lies at `p`, under enabled ancestors. -/
def buffers : SceneNode → Point → List (SurfaceRef × Box)
  | .tree enabled _ children, p => if enabled then childBuffers children p else []
  | .buffer enabled _ size surface, p =>
    if enabled then [(surface, ⟨p.x, p.y, size.width, size.height⟩)] else []

def childBuffers : List SceneNode → Point → List (SurfaceRef × Box)
  | [], _ => []
  | n :: ns, p => n.buffers (p.add n.pos) ++ childBuffers ns p

end

section BufferAt

variable (accepts : SurfaceRef × Box → Bool)

mutual

/-- `wlr_scene_node_at` at pixel `q`, below a node that lies at `p`, with the box of the buffer;
`accepts` is `point_accepts_input` at this pixel. -/
def bufferAt (q : Point) : SceneNode → Point → Option (SurfaceRef × Box)
  | .tree enabled _ children, p => if enabled then childBufferAt q children p else none
  | .buffer enabled _ size surface, p =>
    let b := (surface, Box.mk p.x p.y size.width size.height)
    if enabled && (b.2.covers q && accepts b) then some b else none

/-- The last child is on top. -/
def childBufferAt (q : Point) : List SceneNode → Point → Option (SurfaceRef × Box)
  | [], _ => none
  | n :: ns, p => (childBufferAt q ns p).or (n.bufferAt q (p.add n.pos))

end

end BufferAt

/-- The surface of the buffer, if `accepts` is told the place in its node. -/
def nodeAt (accepts : SurfaceRef → Int → Int → Bool) (q : Point) (n : SceneNode) (p : Point) : Option SurfaceRef :=
  (n.bufferAt (fun b => accepts b.1 (q.x - b.2.x) (q.y - b.2.y)) q p).map Prod.fst

mutual

/-- A subtree that is moved as a whole moves its buffers. -/
theorem buffers_add (n : SceneNode) (d p : Point) :
    n.buffers (d.add p) = (n.buffers p).map fun b => (b.1, b.2.shift d) := by
  cases n with
  | tree enabled pos children =>
    cases enabled with
    | true => simpa [buffers] using childBuffers_add children d p
    | false => rfl
  | buffer enabled pos size surface => cases enabled <;> rfl

theorem childBuffers_add (ns : List SceneNode) (d p : Point) :
    childBuffers ns (d.add p) = (childBuffers ns p).map fun b => (b.1, b.2.shift d) := by
  cases ns with
  | nil => rfl
  | cons n ns =>
    rw [childBuffers, childBuffers, List.map_append, Point.add_assoc, buffers_add n d _,
      childBuffers_add ns d p]

end

theorem childBuffers_append (ns ms : List SceneNode) (p : Point) :
    childBuffers (ns ++ ms) p = childBuffers ns p ++ childBuffers ms p := by
  induction ns with
  | nil => rfl
  | cons n ns ih => rw [List.cons_append, childBuffers, childBuffers, ih, List.append_assoc]

theorem mem_childBuffers {b : SurfaceRef × Box} {ns : List SceneNode} {p : Point} :
    b ∈ childBuffers ns p ↔ ∃ n ∈ ns, b ∈ n.buffers (p.add n.pos) := by
  induction ns with
  | nil => simp [childBuffers]
  | cons n ns ih => simp [childBuffers, ih]

section Lookup

variable {accepts : SurfaceRef × Box → Bool} {q : Point}

mutual

/-- **A lookup finds the topmost of the enabled buffers** that are under the pixel and take it. -/
theorem bufferAt_eq (n : SceneNode) (p : Point) :
    n.bufferAt accepts q p = topmost (fun b => b.2.covers q && accepts b) (n.buffers p) := by
  cases n with
  | tree enabled pos children =>
    cases enabled with
    | true =>
      show childBufferAt accepts q children p = topmost _ (childBuffers children p)
      exact childBufferAt_eq children p
    | false => rfl
  | buffer enabled pos size surface => cases enabled <;> rfl

theorem childBufferAt_eq (ns : List SceneNode) (p : Point) :
    childBufferAt accepts q ns p =
      topmost (fun b => b.2.covers q && accepts b) (childBuffers ns p) := by
  cases ns with
  | nil => rfl
  | cons n ns =>
    show (childBufferAt accepts q ns p).or _ = topmost _ (_ ++ _)
    rw [topmost_append, childBufferAt_eq ns p, bufferAt_eq n _]

end

/-- **What a lookup finds is an enabled buffer under the pixel.** -/
theorem buffers_of_nodeAt {accepts : SurfaceRef → Int → Int → Bool} {surface : SurfaceRef} (n : SceneNode)
    (p : Point) (h : n.nodeAt accepts q p = some surface) :
    ∃ b, (surface, b) ∈ n.buffers p ∧ b.covers q = true := by
  obtain ⟨⟨surface, b⟩, hfound, rfl⟩ := Option.map_eq_some_iff.mp h
  rw [bufferAt_eq] at hfound
  obtain ⟨hmem, htaken⟩ := topmost_spec hfound
  exact ⟨b, hmem, (Bool.and_eq_true_iff.mp htaken).1⟩

end Lookup

end SceneNode

/-! ## The tree of a toplevel -/

/-- `scene_node_apply_scale` for a position. -/
def Config.scalePoint (cfg : Config) (p : Point) : Point :=
  if cfg.contentScale ≤ 0 ∨ cfg.contentScale = 1 then p
  else ⟨lround (p.x * cfg.contentScale), lround (p.y * cfg.contentScale)⟩

/-- The destination size of a surface's buffer, scaled once the surface has a size. -/
def Config.scaleDest (cfg : Config) (size : Size) : Size :=
  if cfg.contentScale ≤ 0 ∨ cfg.contentScale = 1 ∨ size.isSet = false then size
  else ⟨lround (size.width * cfg.contentScale), lround (size.height * cfg.contentScale)⟩

/-- A surface with its subsurfaces, in stacking order around it. `size` is its logical size,
`bufferSize` that of its buffer; a promoted subsurface has an X window of its own, and its buffer in
the scene is disabled. -/
inductive SurfaceTree where
  | mk (surface : Nat) (pos : Point) (size bufferSize : Size) (mapped promoted : Bool)
    (below above : List SurfaceTree)

/-- `scene_node_get_size` of a surface's buffer. -/
def bufferNodeSize (cfg : Config) (size bufferSize : Size) : Size :=
  if (cfg.scaleDest size).isSet then cfg.scaleDest size else bufferSize

mutual

/-- `wlr_scene_subsurface_tree_create`, with the program's scale applied. -/
def subsurfaceTree (cfg : Config) (i : Nat) : SurfaceTree → SceneNode
  | .mk surface pos size bufferSize mapped promoted below above =>
    .tree mapped (cfg.scalePoint pos)
      (subsurfaceTrees cfg i below ++
        .buffer (!promoted) ⟨0, 0⟩ (bufferNodeSize cfg size bufferSize) ⟨i, surface⟩ ::
          subsurfaceTrees cfg i above)

def subsurfaceTrees (cfg : Config) (i : Nat) : List SurfaceTree → List SceneNode
  | [] => []
  | t :: ts => subsurfaceTree cfg i t :: subsurfaceTrees cfg i ts

end

/-- What a toplevel's client has committed beyond the state of its `xdg_surface`. -/
structure ClientSurfaces where
  bufferSize : Size
  below : List SurfaceTree
  above : List SurfaceTree

/-- "Scene placement of the xdg surface within the output": by the window geometry, unless `--csd`
shows the whole buffer. -/
def xdgOffset (cfg : Config) (x : XdgSurface) : Point :=
  if !cfg.preferCsd && x.geometry.size.isSet then ⟨-x.geometry.x, -x.geometry.y⟩ else ⟨0, 0⟩

/-- `win->scene_tree`. Popups have trees of their own and are not part of it here. -/
def toplevelTree (cfg : Config) (i : Nat) (t : Toplevel) (c : ClientSurfaces) : SceneNode :=
  .tree true t.node
    [subsurfaceTree cfg i (.mk 0 (xdgOffset cfg t.win.xdg) t.win.xdg.surfaceSize c.bufferSize
      t.win.xdg.mapped false c.below c.above)]

section Owner

variable {cfg : Config} {i : Nat} {p : Point} {b : SurfaceRef × Box}

mutual

/-- The buffers of a surface and its subsurfaces are those of one toplevel. -/
theorem subsurfaceTree_owner (t : SurfaceTree) (p : Point)
    (h : b ∈ (subsurfaceTree cfg i t).buffers p) : b.1.toplevel = i := by
  cases t with
  | mk surface pos size bufferSize mapped promoted below above =>
    simp only [subsurfaceTree, SceneNode.buffers, List.mem_ite_nil_right,
      SceneNode.mem_childBuffers, List.mem_append, List.mem_cons] at h
    obtain ⟨-, n, hn | rfl | hn, hb⟩ := h
    · exact subsurfaceTrees_owner below p (SceneNode.mem_childBuffers.mpr ⟨n, hn, hb⟩)
    · simp only [SceneNode.buffers, List.mem_ite_nil_right, List.mem_singleton] at hb
      rw [hb.2]
    · exact subsurfaceTrees_owner above p (SceneNode.mem_childBuffers.mpr ⟨n, hn, hb⟩)

theorem subsurfaceTrees_owner (ts : List SurfaceTree) (p : Point)
    (h : b ∈ SceneNode.childBuffers (subsurfaceTrees cfg i ts) p) : b.1.toplevel = i := by
  cases ts with
  | nil => cases h
  | cons t ts =>
    rcases List.mem_append.mp h with h | h
    · exact subsurfaceTree_owner t _ h
    · exact subsurfaceTrees_owner ts p h

end

/-- All buffers of a toplevel's tree are its own, and there are none unless it is mapped. -/
theorem toplevelTree_owner {t : Toplevel} {c : ClientSurfaces}
    (h : b ∈ (toplevelTree cfg i t c).buffers p) :
    b.1.toplevel = i ∧ t.win.xdg.mapped = true := by
  simp only [toplevelTree, SceneNode.buffers, if_true, SceneNode.childBuffers, List.append_nil] at h
  refine ⟨subsurfaceTree_owner _ _ h, ?_⟩
  simp only [subsurfaceTree, SceneNode.buffers, List.mem_ite_nil_right] at h
  exact h.1

end Owner

end Wlx
