import WlX11.Scene

/-!
# WlX11 — window isolation

The windows' outputs lie side by side in one layout, without gaps, and one scene holds the trees of
all toplevels. Nothing clips a tree to its own output: a buffer that reaches over its window's edge
lies in the column of the next window.

* **`Isolated`** — no buffer of one toplevel lies in the layout box of another's window, and a
  pointer over a window finds surfaces of its own toplevel only.
* **`windows_isolated_iff`** — with every tree at its own output, the windows are isolated iff no
  client's buffers, seen from the corner of its own window, reach into the column of another one.
-/

namespace Wlx

namespace Server

/-- The toplevels with an output, in layout order. -/
def row (s : Server) : List Nat :=
  s.layout.filterMap fun o =>
    match o.output with
    | .bootstrap => none
    | .window i => some i

/-- How far window `j` lies to the right of window `i`: the widths of the windows between them,
counted negatively to the left. -/
def distance (s : Server) (i j : Nat) : Int :=
  Row.offset s.width s.row j - Row.offset s.width s.row i

/-- `output_layout_output_get_box`. -/
def layoutBox (s : Server) (i : Nat) : Option Box :=
  (layoutPos s.layout (.window i)).map fun p =>
    ⟨p.x, p.y, (s.outputSize (.window i)).width, (s.outputSize (.window i)).height⟩

end Server

section Lookup

variable (cfg : Config) (s : Server) (client : Nat → ClientSurfaces)

/-- `server->scene->tree`, with the toplevels of `stack` from bottom to top. -/
def sceneRoot (stack : List Nat) : SceneNode :=
  .tree true ⟨0, 0⟩
    (stack.filterMap fun i => (s.toplevel i).map fun t => toplevelTree cfg i t (client i))

/-- `surface_under_root_pointer` for a pointer over the content of window `i`, `pix` away from its
corner: what the scene has there, or the toplevel's own surface. -/
def surfaceUnderRootPointer (stack : List Nat) (accepts : SurfaceRef → Int → Int → Bool) (i : Nat)
    (t : Toplevel) (pix : Point) : SurfaceRef :=
  ((sceneRoot cfg s client stack).nodeAt accepts (t.node.add pix) ⟨0, 0⟩).getD ⟨i, 0⟩

/-- No enabled buffer of one toplevel meets the layout box of another's window. -/
def BuffersApart : Prop :=
  ∀ i ∈ s.row, ∀ j ∈ s.row, i ≠ j → ∀ t ∈ s.toplevel i,
    ∀ b ∈ (toplevelTree cfg i t (client i)).buffers t.node, ∀ box ∈ s.layoutBox j,
      b.2.intersects box = false

instance : Decidable (BuffersApart cfg s client) := by unfold BuffersApart; infer_instance

/-- Every mapped toplevel of the scene has got its output. -/
def AllShown (stack : List Nat) : Prop :=
  ∀ i ∈ stack, ∀ t ∈ s.toplevel i, t.win.xdg.mapped = true → t.win.output.isSome = true

instance (stack : List Nat) : Decidable (AllShown s stack) := by unfold AllShown; infer_instance

/-- No two windows show or answer for each other. -/
structure Isolated (stack : List Nat) : Prop where
  buffers : BuffersApart cfg s client
  /-- a pointer over the content of a window finds a surface of its own toplevel -/
  lookup : ∀ j ∈ s.row, ∀ t ∈ s.toplevel j, ∀ pix : Point,
    (0 ≤ pix.x ∧ pix.x < (s.outputSize (.window j)).width) →
      (0 ≤ pix.y ∧ pix.y < (s.outputSize (.window j)).height) →
        ∀ accepts, (surfaceUnderRootPointer cfg s client stack accepts j t pix).toplevel = j

end Lookup

/-! ## What the clients have committed -/

/-- A surface that its client shows. The places are those of the subsurfaces on the way to it, each in
its parent, from the toplevel's own surface on. -/
structure ShownSurface where
  places : List Point
  size : Size
  bufferSize : Size

mutual

/-- The mapped surfaces of a tree that have no windows of their own. -/
def SurfaceTree.shown (places : List Point) : SurfaceTree → List ShownSurface
  | .mk _ pos size bufferSize mapped promoted below above =>
    let places := places ++ [pos]
    if mapped then
      shownSurfaces places below ++
        ((if promoted then [] else [⟨places, size, bufferSize⟩]) ++ shownSurfaces places above)
    else []

def shownSurfaces (places : List Point) : List SurfaceTree → List ShownSurface
  | [] => []
  | t :: ts => t.shown places ++ shownSurfaces places ts

end

/-- The surfaces a toplevel's client shows. -/
def ClientSurfaces.shown (c : ClientSurfaces) (x : XdgSurface) : List ShownSurface :=
  if x.mapped then
    shownSurfaces [] c.below ++ ([⟨[], x.surfaceSize, c.bufferSize⟩] ++ shownSurfaces [] c.above)
  else []

namespace ShownSurface

variable (cfg : Config) (x : XdgSurface) (u : ShownSurface)

/-- In host pixels from the left edge of the window: the places, each scaled by itself, less the scaled
origin of the window geometry, if the window begins there. -/
def left : Int := (cfg.scalePoint (xdgOffset cfg x)).x + (u.places.map fun p => (cfg.scalePoint p).x).sum

/-- The same from the top edge. -/
def top : Int := (cfg.scalePoint (xdgOffset cfg x)).y + (u.places.map fun p => (cfg.scalePoint p).y).sum

/-- The scaled size of the surface, or the size of its buffer, if it has none. -/
def hostSize : Size := bufferNodeSize cfg u.size u.bufferSize

/-- The surface is beside a window of the given size that begins `d` pixels to the right of its own, or
above or below it. -/
def Misses (d : Int) (window : Size) : Prop :=
  (u.hostSize cfg).isSet = false ∨ window.isSet = false ∨
    u.left cfg x + (u.hostSize cfg).width ≤ d ∨ d + window.width ≤ u.left cfg x ∨
      u.top cfg x + (u.hostSize cfg).height ≤ 0 ∨ window.height ≤ u.top cfg x

instance (d : Int) (window : Size) : Decidable (u.Misses cfg x d window) :=
  inferInstanceAs (Decidable (_ ∨ _ ∨ _ ∨ _ ∨ _ ∨ _))

end ShownSurface

/-- No surface that a client shows reaches as far to the left or to the right as another window is
away, at a height the other window has. -/
def KeepsOut (cfg : Config) (s : Server) (client : Nat → ClientSurfaces) : Prop :=
  ∀ i ∈ s.row, ∀ j ∈ s.row, i ≠ j → ∀ t ∈ s.toplevel i,
    ∀ u ∈ (client i).shown t.win.xdg, u.Misses cfg t.win.xdg (s.distance i j) (s.outputSize (.window j))

instance (cfg : Config) (s : Server) (client : Nat → ClientSurfaces) : Decidable (KeepsOut cfg s client) := by
  unfold KeepsOut
  infer_instance

section Shown

variable {cfg : Config} {i : Nat}

/-- Where a chain of places leads to. -/
def placesEnd (cfg : Config) (p : Point) (places : List Point) : Point :=
  ⟨p.x + (places.map fun q => (cfg.scalePoint q).x).sum, p.y + (places.map fun q => (cfg.scalePoint q).y).sum⟩

theorem placesEnd_append (p q : Point) (places : List Point) :
    placesEnd cfg p (places ++ [q]) = (placesEnd cfg p places).add (cfg.scalePoint q) := by
  simp [placesEnd, Point.add, Int.add_assoc]

/-- The box of a shown surface whose toplevel begins at `p`. -/
def ShownSurface.box (cfg : Config) (p : Point) (u : ShownSurface) : Box :=
  ⟨(placesEnd cfg p u.places).x, (placesEnd cfg p u.places).y, (u.hostSize cfg).width, (u.hostSize cfg).height⟩

mutual

/-- The buffers that the scene has enabled are the shown surfaces, where their places lead to. -/
theorem subsurfaceTree_buffers (t : SurfaceTree) (p : Point) (places : List Point) :
    ((subsurfaceTree cfg i t).buffers ((placesEnd cfg p places).add (subsurfaceTree cfg i t).pos)).map (·.2) =
      (t.shown places).map (·.box cfg p) := by
  cases t with
  | mk surface pos size bufferSize mapped promoted below above =>
    have hpos : (placesEnd cfg p places).add
        (subsurfaceTree cfg i (.mk surface pos size bufferSize mapped promoted below above)).pos =
          placesEnd cfg p (places ++ [pos]) := (placesEnd_append p pos places).symm
    rw [hpos]
    cases mapped with
    | false => rfl
    | true =>
      simp only [subsurfaceTree, SceneNode.buffers, SurfaceTree.shown, if_true,
        SceneNode.childBuffers_append, SceneNode.childBuffers, SceneNode.pos, Point.add_zero, List.map_append]
      rw [subsurfaceTrees_buffers below p, subsurfaceTrees_buffers above p]
      cases promoted <;> rfl

theorem subsurfaceTrees_buffers (ts : List SurfaceTree) (p : Point) (places : List Point) :
    (SceneNode.childBuffers (subsurfaceTrees cfg i ts) (placesEnd cfg p places)).map (·.2) =
      (shownSurfaces places ts).map (·.box cfg p) := by
  cases ts with
  | nil => rfl
  | cons t ts =>
    rw [subsurfaceTrees, SceneNode.childBuffers, List.map_append, subsurfaceTree_buffers t p places,
      subsurfaceTrees_buffers ts p places, shownSurfaces, List.map_append]

end

variable (cfg i) in
/-- A toplevel's tree, seen from the corner of its window. -/
theorem toplevelTree_buffers (t : Toplevel) (c : ClientSurfaces) :
    ((toplevelTree cfg i t c).buffers ⟨0, 0⟩).map (·.2) =
      (c.shown t.win.xdg).map (·.box cfg (cfg.scalePoint (xdgOffset cfg t.win.xdg))) := by
  have hstart : ∀ p : Point, p = placesEnd cfg p [] := fun p => by simp [placesEnd]
  simp only [toplevelTree, SceneNode.buffers, if_true, SceneNode.childBuffers, List.append_nil,
    ClientSurfaces.shown, subsurfaceTree, SceneNode.pos, Point.zero_add]
  cases t.win.xdg.mapped with
  | false => rfl
  | true =>
    simp only [if_true, SceneNode.childBuffers_append, SceneNode.childBuffers, SceneNode.pos, Point.add_zero,
      List.map_append]
    rw [hstart (cfg.scalePoint (xdgOffset cfg t.win.xdg)), subsurfaceTrees_buffers c.below,
      subsurfaceTrees_buffers c.above, ← hstart]
    simp [SceneNode.buffers, ShownSurface.box, ShownSurface.hostSize, placesEnd]

/-- A surface meets another window's column at a height the window has, or it misses it. -/
theorem misses_iff (x : XdgSurface) (u : ShownSurface) (d : Int) (window : Size) :
    (u.box cfg (cfg.scalePoint (xdgOffset cfg x))).intersects ⟨d, 0, window.width, window.height⟩ = false ↔
      u.Misses cfg x d window := by
  rw [← Bool.not_eq_true, Box.intersects_iff, ShownSurface.Misses, ← Bool.not_eq_true, ← Bool.not_eq_true,
    Size.isSet_iff, Size.isSet_iff]
  simp only [ShownSurface.box, placesEnd, ShownSurface.left, ShownSurface.top]
  omega

theorem toplevelTree_misses_iff (t : Toplevel) (c : ClientSurfaces) (d : Int) (window : Size) :
    (∀ b ∈ (toplevelTree cfg i t c).buffers ⟨0, 0⟩,
        b.2.intersects ⟨d, 0, window.width, window.height⟩ = false) ↔
      ∀ u ∈ c.shown t.win.xdg, u.Misses cfg t.win.xdg d window := by
  have hboxes := toplevelTree_buffers cfg i t c
  constructor
  · intro h u hu
    obtain ⟨b, hb, hbox⟩ := List.mem_map.mp (hboxes ▸ List.mem_map_of_mem hu)
    exact (misses_iff ..).mp (hbox ▸ h b hb)
  · intro h b hb
    have hmem := List.mem_map_of_mem (f := (·.2)) hb
    rw [hboxes] at hmem
    obtain ⟨u, hu, hbox⟩ := List.mem_map.mp hmem
    exact hbox ▸ (misses_iff ..).mpr (h u hu)

end Shown

section Isolation

variable {cfg : Config} {s : Server} {client : Nat → ClientSurfaces} {ks : List Nat}

theorem Server.Arranged.row_eq (h : s.Arranged ks) : s.row = ks := by
  have hboot : (bootstrapOutputs s.bootstrap).filterMap (fun o =>
      match o.output with | .bootstrap => none | .window i => some i) = [] := by
    cases s.bootstrap <;> simp [bootstrapOutputs]
  rw [Server.row, h.layout, List.filterMap_append, hboot, List.nil_append, windowRow,
    List.filterMap_map]
  exact List.filterMap_some

/-- Where a mapped toplevel's tree sits, and its window's box. -/
theorem Server.Arranged.placed (h : s.Arranged ks) (hplaced : s.NodesPlaced) {j : Nat}
    (hj : j ∈ ks) {t : Toplevel} (ht : s.toplevel j = some t) :
    t.node = ⟨rowStart s.bootstrap + Row.offset s.width ks j, 0⟩ ∧
      s.layoutBox j = some ⟨t.node.x, t.node.y, (s.outputSize (.window j)).width,
        (s.outputSize (.window j)).height⟩ := by
  have ho := (h.mem_of_toplevel ht).mp hj
  have hnode := hplaced j t ht ho
  refine ⟨?_, by rw [Server.layoutBox, hnode]; rfl⟩
  rw [h.pos hj] at hnode
  exact (Option.some.inj hnode).symm

/-- **Seen from the layout or from the corner of its own window**, a buffer meets another window's
box or it does not. -/
theorem meets_iff (h : s.Arranged ks) (hplaced : s.NodesPlaced) {i j : Nat} (hi : i ∈ ks)
    (hj : j ∈ ks) {t : Toplevel} (ht : s.toplevel i = some t) (b : Box) :
    (∀ box ∈ s.layoutBox j, (b.shift t.node).intersects box = false) ↔
      b.intersects ⟨s.distance i j, 0, (s.outputSize (.window j)).width,
        (s.outputSize (.window j)).height⟩ = false := by
  obtain ⟨t', ht', -⟩ := (h.mem j).mp hj
  obtain ⟨hnode, -⟩ := h.placed hplaced hi ht
  obtain ⟨hnode', hbox⟩ := h.placed hplaced hj ht'
  have hshift : (⟨t'.node.x, t'.node.y, (s.outputSize (.window j)).width,
      (s.outputSize (.window j)).height⟩ : Box) = Box.shift ⟨s.distance i j, 0,
        (s.outputSize (.window j)).width, (s.outputSize (.window j)).height⟩ t.node := by
    simp only [Box.shift, Server.distance, h.row_eq, hnode, hnode', Box.mk.injEq, and_true]
    omega
  rw [hbox, hshift]
  simp

/-- A pixel over the content of a window that shows only its own buffers finds only its own. -/
theorem lookup_of_buffers (h : s.Arranged ks) (hplaced : s.NodesPlaced)
    {stack : List Nat} (hshown : AllShown s stack) (hbuffers : BuffersApart cfg s client)
    {j : Nat} (hj : j ∈ ks) {t : Toplevel} (ht : s.toplevel j = some t)
    {pix : Point} (hx : 0 ≤ pix.x ∧ pix.x < (s.outputSize (.window j)).width)
    (hy : 0 ≤ pix.y ∧ pix.y < (s.outputSize (.window j)).height)
    (accepts : SurfaceRef → Int → Int → Bool) :
    (surfaceUnderRootPointer cfg s client stack accepts j t pix).toplevel = j := by
  obtain ⟨-, hbox⟩ := h.placed hplaced hj ht
  unfold surfaceUnderRootPointer
  cases hat : (sceneRoot cfg s client stack).nodeAt accepts (t.node.add pix) ⟨0, 0⟩ with
  | none => rfl
  | some surface =>
    obtain ⟨b, hmem, hpixel⟩ := SceneNode.buffers_of_nodeAt _ _ hat
    obtain ⟨i, hstack, ti, hti, hb⟩ : ∃ i ∈ stack, ∃ ti, s.toplevel i = some ti ∧
        (surface, b) ∈ (toplevelTree cfg i ti (client i)).buffers ti.node := by
      simp only [sceneRoot, SceneNode.buffers, if_true, SceneNode.mem_childBuffers,
        List.mem_filterMap, Point.zero_add] at hmem
      obtain ⟨n, ⟨i, hstack, hn⟩, hb⟩ := hmem
      obtain ⟨ti, hti, rfl⟩ := Option.map_eq_some_iff.mp hn
      exact ⟨i, hstack, ti, hti, hb⟩
    obtain ⟨howner, hmapped⟩ := toplevelTree_owner hb
    have hi : i ∈ ks := (h.mem_of_toplevel hti).mpr (hshown i hstack ti hti hmapped)
    have hmeets : b.intersects ⟨t.node.x, t.node.y, (s.outputSize (.window j)).width,
        (s.outputSize (.window j)).height⟩ = true := by
      refine Box.intersects_of_covers hpixel ?_ ?_ <;> simp only [Point.add] <;> omega
    by_contra hne
    have hij : i ≠ j := fun heq => hne (howner.trans heq)
    rw [hbuffers i (h.row_eq ▸ hi) j (h.row_eq ▸ hj) hij ti hti _ hb _ hbox] at hmeets
    cases hmeets

/-- A client keeps out of the other windows if its surfaces stay between the left and the right edge of
its own. -/
theorem keepsOut_of_between (hwidth : ∀ i ∈ s.row, 0 ≤ s.width i)
    (hbetween : ∀ i ∈ s.row, ∀ t ∈ s.toplevel i, ∀ u ∈ (client i).shown t.win.xdg,
      0 ≤ u.left cfg t.win.xdg ∧ u.left cfg t.win.xdg + (u.hostSize cfg).width ≤ s.width i) :
    KeepsOut cfg s client := by
  intro i hi j hj hne t ht u hu
  obtain ⟨hleft, hright⟩ := hbetween i hi t ht u hu
  have happart := Row.offset_apart hwidth hi hj hne
  have hsame : s.width j = (s.outputSize (.window j)).width := rfl
  unfold ShownSurface.Misses Server.distance
  omega

end Isolation

/-- Two windows; the client of the first draws a shadow around its geometry of 500×400. -/
def shadowAndNeighbour : List ServerAction :=
  [.create 0, .event 0 (.commit ⟨.keep, none⟩ 1 ⟨true, 0, .ok⟩ .ok), .event 0 .sendConfigure,
    .event 0 (.ackConfigure 0),
    .event 0 (.commit ⟨.attach ⟨552, 452⟩, some ⟨26, 23, 500, 400⟩⟩ 2 ⟨true, 0, .ok⟩ .ok)] ++
  mapToplevel 1 ⟨640, 480⟩

/-- No subsurfaces. -/
def plainClient (size : Size) : ClientSurfaces := ⟨size, [], []⟩

end Wlx
