import WlX11.RepaintRest
import WlX11.SceneFrames

/-!
# WlX11 — the scene graph behind an output

An output knows the scene by its pixels: they change inside of some damage, and a frame draws them. The scene
graph is what does this. What an output shows of it depends on its format, which decides what a buffer is cleared
to: over transparent the black nodes are missing.

* **`Shows`** — the pixels of the output are what it displays of the scene graph, from where the output is.
* **`GraphStep`** — calls on the graph, moves in the layout, and what happens to the output;
  **`graphStep_of_step`** says that nothing else does.
* **`drawScene_eq_render`** — what a frame draws is what the graph renders.
* **`rest_shows_picture`** — at rest the X window shows the graph.
-/

namespace Wlx

namespace PaintedOutput

open SceneGraph (inks menuScene movedScene menuScene_made movedScene_honest movedScene_calls)

variable {Look Color : Type} [DecidableEq Color] {pal : Palette Look Color} {s s' : SceneGraph Look Color}
  {o o' : PaintedOutput Color} {origin : Pixel} {nRects : Region → Nat}

/-- What the output draws the nodes over. -/
def ground (pal : Palette Look Color) (o : PaintedOutput Color) : Ground Color :=
  ⟨pal.backdrop o.isOpaque, some (pal.backdrop o.isOpaque)⟩

/-- A pixel of an output at `origin`. -/
def graphPixel (pal : Palette Look Color) (s : SceneGraph Look Color) (origin : Pixel) (o : PaintedOutput Color)
    (p : Pixel) : Color :=
  s.displayed pal (pal.backdrop o.isOpaque) (p.1 + origin.1, p.2 + origin.2)

/-- The output shows the scene graph from `origin` on. -/
def Shows (pal : Palette Look Color) (s : SceneGraph Look Color) (origin : Pixel) (o : PaintedOutput Color) : Prop :=
  ∀ p : Pixel, o.scene p = o.graphPixel pal s origin p

/-- The output is told what has changed: the graph damages the layout, and the output has pixels of its own. -/
def graphChange (pal : Palette Look Color) (s : SceneGraph Look Color) (origin : Pixel)
    (o : PaintedOutput Color) : PaintedOutput Color :=
  o.sceneChange (s.damage.translate (-origin.1, -origin.2)) (o.graphPixel pal s origin)

/-! ## What a step does to the scene -/

section Scenes

variable {b : Nat} {size : Size} {blank : Color} {out : FrameOutcome Color} {f : FrameInput Color}
  {configured allocated importable : Bool} {damage : Option Region}

/-- The scene stays, and the format. -/
structure SameScene (o o' : PaintedOutput Color) : Prop where
  scene : o'.scene = o.scene
  isOpaque : o'.isOpaque = o.isOpaque

omit [DecidableEq Color] in
theorem SameScene.refl (o : PaintedOutput Color) : o.SameScene o := ⟨rfl, rfl⟩

omit [DecidableEq Color] in
/-- One event after another. -/
theorem SameScene.trans {o'' : PaintedOutput Color} (h : o.SameScene o') (h' : o'.SameScene o'') :
    o.SameScene o'' :=
  ⟨h'.scene.trans h.scene, h'.isOpaque.trans h.isOpaque⟩

omit [DecidableEq Color] in
/-- To schedule a frame draws nothing. -/
theorem scheduleFrame_scene (o : PaintedOutput Color) : o.SameScene o.scheduleFrame := by
  rw [scheduleFrame_eq]
  exact ⟨rfl, rfl⟩

omit [DecidableEq Color] in
/-- To damage an output is to schedule a frame, and to note where. -/
theorem sceneOutputDamage_scene (o : PaintedOutput Color) (damage : Region) :
    o.SameScene (o.sceneOutputDamage damage) := by
  unfold sceneOutputDamage
  dsimp only
  split_ifs
  · exact .refl o
  · exact (scheduleFrame_scene o).trans ⟨rfl, rfl⟩

omit [DecidableEq Color] in
/-- Another swapchain, and the scene is the same. -/
theorem configurePrimarySwapchain_scene (h : o.configurePrimarySwapchain size configured = some o') :
    o.SameScene o' := by
  unfold configurePrimarySwapchain at h
  split_ifs at h <;> cases h <;> exact ⟨rfl, rfl⟩

omit [DecidableEq Color] in
/-- Nor does it matter which buffer is drawn into. -/
theorem acquireBuffer_scene (h : o.acquireBuffer allocated = some (o', b)) : o.SameScene o' := by
  unfold acquireBuffer at h
  split at h <;> cases h
  exact ⟨rfl, rfl⟩

omit [DecidableEq Color] in
/-- A present is the server's business. -/
theorem outputCommitBuffer_scene (h : o.outputCommitBuffer b size damage importable = some o') :
    o.SameScene o' := by
  unfold outputCommitBuffer at h
  split at h <;> cases h
  exact ⟨rfl, rfl⟩

variable (nRects) in
omit [DecidableEq Color] in
/-- Drawing goes into a buffer, not into the scene. -/
theorem compose_scene (o : PaintedOutput Color) : o.SameScene (o.compose nRects out).1 := by
  unfold compose
  split
  · exact .refl o
  · rename_i o₁ hconfigured
    split
    · exact configurePrimarySwapchain_scene hconfigured
    · rename_i o₂ b hacquired
      have hsame := (configurePrimarySwapchain_scene hconfigured).trans (acquireBuffer_scene hacquired)
      split_ifs <;> exact ⟨hsame.scene, hsame.isOpaque⟩

variable (size blank out) in
omit [DecidableEq Color] in
/-- The buffer of a modeset shows nothing of the scene. -/
theorem acquireEmptyBuffer_scene (o : PaintedOutput Color) :
    o.SameScene (o.acquireEmptyBuffer size blank out).1 := by
  unfold acquireEmptyBuffer
  split
  · exact .refl o
  · rename_i o₁ hconfigured
    split
    · exact configurePrimarySwapchain_scene hconfigured
    · rename_i o₂ b hacquired
      have hsame := (configurePrimarySwapchain_scene hconfigured).trans (acquireBuffer_scene hacquired)
      split_ifs <;> exact ⟨hsame.scene, hsame.isOpaque⟩

variable (b out) in
/-- A commit, whether it succeeds or not. -/
theorem commitFrame_scene (o : PaintedOutput Color) : o.SameScene (o.commitFrame b out) := by
  unfold commitFrame
  split_ifs
  · exact ⟨rfl, rfl⟩
  · exact ⟨rfl, rfl⟩
  · dsimp only
    split
    · exact ⟨rfl, rfl⟩
    · rename_i o₁ hcommitted
      have hsame := outputCommitBuffer_scene hcommitted
      exact ⟨hsame.scene, hsame.isOpaque⟩

variable (nRects out) in
/-- A frame without scaling. -/
theorem sceneOutputCommit_scene (o : PaintedOutput Color) : o.SameScene (o.sceneOutputCommit nRects out) := by
  -- neither composing nor a scan-out changes the scene
  have hbuilt : o.SameScene (o.buildState nRects out).1 := by
    unfold buildState
    split
    · split_ifs
      · exact ⟨rfl, rfl⟩
      · exact compose_scene nRects o
    · exact compose_scene nRects o
  unfold sceneOutputCommit
  split_ifs
  · exact .refl o
  · split
    · rename_i o₁ hstate
      rw [hstate] at hbuilt
      exact ⟨hbuilt.scene, hbuilt.isOpaque⟩
    · rename_i o₁ b hstate
      rw [hstate] at hbuilt
      have hsame := hbuilt.trans (commitFrame_scene b out o₁)
      exact ⟨hsame.scene, hsame.isOpaque⟩

/-- The scene stays, or a frame scales it. The format stays. -/
structure Scaled (o o' : PaintedOutput Color) (f : FrameInput Color) : Prop where
  scene : o'.scene = o.scene ∨ o'.scene = fun p => if p ∈ f.rescaled then f.image p else o.scene p
  isOpaque : o'.isOpaque = o.isOpaque

omit [DecidableEq Color] in
/-- A frame that scales nothing. -/
theorem SameScene.scaled (h : o.SameScene o') : o.Scaled o' f := ⟨.inl h.scene, h.isOpaque⟩

omit [DecidableEq Color] in
/-- What comes before a frame may schedule one. -/
theorem Scaled.congr {o₁ : PaintedOutput Color} (h : o₁.Scaled o' f) (hsame : o.SameScene o₁) :
    o.Scaled o' f := by
  -- the frame scales what it finds
  obtain ⟨hscene, hformat⟩ := h
  rw [hsame.scene] at hscene
  exact ⟨hscene, hformat.trans hsame.isOpaque⟩

omit [DecidableEq Color] in
theorem Scaled.unlockBuffer (h : o.Scaled o' f) : o.Scaled (o'.unlockBuffer b) f := ⟨h.scene, h.isOpaque⟩

omit [DecidableEq Color] in
/-- A change of the scene is what it says. -/
theorem sceneChange_scene (o : PaintedOutput Color) (region : Region) (image : Pixel → Color) :
    (o.sceneChange region image).scene = (fun p => if p ∈ region then image p else o.scene p) ∧
      (o.sceneChange region image).isOpaque = o.isOpaque := by
  have hsame := sceneOutputDamage_scene { o with scene := fun p => if p ∈ region then image p else o.scene p } region
  exact ⟨hsame.scene, hsame.isOpaque⟩

variable (nRects f) in
/-- The only thing a frame does to the scene is to scale it. -/
theorem paint_scaled (o : PaintedOutput Color) : o.Scaled (o.paint nRects f) f := by
  obtain ⟨hscene, hformat⟩ := sceneChange_scene o f.rescaled f.image
  have hsame := sceneOutputCommit_scene nRects f.outcome (o.sceneChange f.rescaled f.image)
  exact ⟨.inr (hsame.scene.trans hscene), hsame.isOpaque.trans hformat⟩

/-- The idle timer makes one frame at most. -/
theorem handleIdleTimer_scaled (o : PaintedOutput Color) : o.Scaled (o.handleIdleTimer nRects f) f := by
  unfold handleIdleTimer
  dsimp only
  split_ifs
  -- a frame is pending already
  · exact ⟨.inl rfl, rfl⟩
  · have hpaint := paint_scaled nRects f { o with idleFrame := false, framePending := false }
    exact ⟨hpaint.scene, hpaint.isOpaque⟩

variable (nRects f) in
/-- The commit listener makes one frame at most. -/
theorem outputCommitListener_scaled (o : PaintedOutput Color) : o.Scaled (o.outputCommitListener nRects f) f := by
  unfold outputCommitListener
  dsimp only
  split_ifs
  -- the size is known; otherwise it is painted at once, or a frame is scheduled
  · exact (SameScene.refl o).scaled
  · have hpaint := paint_scaled nRects f { o with lastOutput := o.size }
    exact ⟨hpaint.scene, hpaint.isOpaque⟩
  · have hsame := scheduleFrame_scene { o with lastOutput := o.size }
    exact ⟨.inl hsame.scene, hsame.isOpaque⟩

variable (nRects size blank out f) in
/-- A new size makes one frame at most: that of the commit listener. -/
theorem commitMode_scaled (o : PaintedOutput Color) : o.Scaled (o.commitMode nRects size blank out f) f := by
  unfold commitMode
  split
  · exact (SameScene.refl o).scaled
  · have hempty := acquireEmptyBuffer_scene size blank out o
    split
    · rename_i o₁ hacquired
      rw [hacquired] at hempty
      exact hempty.scaled
    · rename_i o₁ b hacquired
      rw [hacquired] at hempty
      dsimp only
      split
      -- `output_test` refuses the state
      · exact ⟨.inl hempty.scene, hempty.isOpaque⟩
      · split
        · exact ⟨.inl hempty.scene, hempty.isOpaque⟩
        · rename_i o₂ hcommitted
          -- the scene is as it was when the listener runs
          have hcommit := outputCommitBuffer_scene hcommitted
          have hsame := hempty.trans ⟨hcommit.scene, hcommit.isOpaque⟩
          let o₃ := ({ o₂.applyCommit with size := size } : PaintedOutput Color).sceneOutputHandleCommit none
          have hwhole : o₃.SameScene o₃.sceneOutputDamageWhole := sceneOutputDamage_scene o₃ o₃.size.rect
          have hmode : o.SameScene o₃ := ⟨hsame.scene, hsame.isOpaque⟩
          exact ((outputCommitListener_scaled nRects f _).congr (hmode.trans hwhole)).unlockBuffer

end Scenes

/-! ## A window and the scene graph -/

/-- No other event changes the scene but a change, and none the format. -/
theorem step_scene {blank : Color} {a : RepaintAction Color} (hchange : ∀ region image, a ≠ .change region image)
    (hstep : o.step nRects blank a = some o') : o.SameScene o' ∨ ∃ f, a.frame = some f ∧ o.Scaled o' f := by
  -- only a frame can scale the scene: it comes from the timer, an event or a resize
  cases a with
  | change region image => exact absurd rfl (hchange region image)
  | requestCallback surface =>
    cases hstep
    dsimp only
    split
    · have hsame := scheduleFrame_scene { o with callbacks := o.callbacks ++ [surface] }
      exact .inl ⟨hsame.scene, hsame.isOpaque⟩
    · exact .inl ⟨rfl, rfl⟩
  | schedule =>
    cases hstep
    exact .inl (scheduleFrame_scene o)
  | pace surfaces | dropCallback surface | lose region image =>
    cases hstep
    exact .inl ⟨rfl, rfl⟩
  | idleTimer f =>
    unfold step at hstep
    split_ifs at hstep
    cases hstep
    exact .inr ⟨f, rfl, handleIdleTimer_scaled o⟩
  | readEvent f =>
    unfold step at hstep
    dsimp only at hstep
    split at hstep
    · cases hstep
    · cases hstep
      refine .inl ?_
      unfold updateNeedsFrame
      split_ifs <;> exact ⟨rfl, rfl⟩
    · rename_i events hevents
      cases hstep
      have hpaint := paint_scaled nRects f { o with events := events, framePending := false }
      exact .inr ⟨f, rfl, hpaint.scene, hpaint.isOpaque⟩
  | resize byHost size out f =>
    unfold step at hstep
    dsimp only at hstep
    split_ifs at hstep
    cases hstep
    refine .inr ⟨f, rfl, ?_⟩
    obtain ⟨hscene, hformat⟩ := commitMode_scaled nRects size blank out f o
    unfold resize
    dsimp only
    split_ifs
    · have hsame := scheduleFrame_scene (o.commitMode nRects size blank out f)
      rw [← hsame.scene] at hscene
      exact ⟨hscene, hsame.isOpaque.trans hformat⟩
    · have hsame := scheduleFrame_scene { o.commitMode nRects size blank out f with
        lastOutput := (o.commitMode nRects size blank out f).size }
      exact ⟨hscene.imp hsame.scene.trans hsame.scene.trans, hsame.isOpaque.trans hformat⟩
  | client a =>
    unfold step at hstep
    dsimp only at hstep
    split_ifs at hstep
    obtain ⟨buffers, -, rfl⟩ := Option.map_eq_some_iff.mp hstep
    exact .inl ⟨rfl, rfl⟩
  | draw b image =>
    unfold step at hstep
    dsimp only at hstep
    split_ifs at hstep
    cases hstep
    exact .inl ⟨rfl, rfl⟩
  | execute =>
    unfold step at hstep
    dsimp only at hstep
    split at hstep <;> cases hstep
    exact .inl ⟨rfl, rfl⟩
  | finish n =>
    unfold step at hstep
    dsimp only at hstep
    split_ifs at hstep
    obtain ⟨buffers, -, rfl⟩ := Option.map_eq_some_iff.mp hstep
    exact .inl ⟨rfl, rfl⟩
  | readIdle =>
    obtain ⟨buffers, -, rfl⟩ := Option.map_eq_some_iff.mp hstep
    exact .inl ⟨rfl, rfl⟩

/-- The format of the output is that of its X visual, and stays. -/
theorem step_isOpaque {blank : Color} {a : RepaintAction Color} (hstep : o.step nRects blank a = some o') :
    o'.isOpaque = o.isOpaque := by
  by_cases hchange : ∃ region image, a = .change region image
  · obtain ⟨region, image, rfl⟩ := hchange
    cases hstep
    exact (sceneChange_scene o region image).2
  · push Not at hchange
    rcases step_scene hchange hstep with hsame | ⟨f, -, hscaled⟩
    · exact hsame.isOpaque
    · exact hscaled.isOpaque

/-- A window, and the scene graph behind it. -/
structure GraphOutput (Look Color : Type) where
  graph : SceneGraph Look Color
  /-- `x` and `y` of `struct wlr_scene_output` -/
  origin : Pixel
  output : PaintedOutput Color

/-- `wlr_scene_output_set_position`. -/
def GraphOutput.setPosition (pal : Palette Look Color) (x : GraphOutput Look Color) (origin : Pixel) :
    GraphOutput Look Color :=
  if x.origin = origin then x
  else { x with
    origin := origin
    output := { x.output with
      scene := x.output.graphPixel pal x.graph origin }.sceneOutputDamageWhole }

/-- One step of a window with the scene graph behind it. What scales a frame are calls on the graph too, and they
are made if the frame gets that far. -/
inductive GraphStep (pal : Palette Look Color) (nRects : Region → Nat) (blank : Color) [DecidableEq Look] :
    GraphOutput Look Color → GraphOutput Look Color → Prop
  | calls {s s' : SceneGraph Look Color} {origin : Pixel} {o : PaintedOutput Color}
    (hcalls : s.Calls pal (o.ground pal) s') :
    GraphStep pal nRects blank ⟨s, origin, o⟩ ⟨s', origin, o.graphChange pal s' origin⟩
  | moved (x : GraphOutput Look Color) (origin : Pixel) :
    GraphStep pal nRects blank x (x.setPosition pal origin)
  | output {s : SceneGraph Look Color} {origin : Pixel} {o o' : PaintedOutput Color} {a : RepaintAction Color}
    (hstep : o.step nRects blank a = some o') (hscene : o'.scene = o.scene) :
    GraphStep pal nRects blank ⟨s, origin, o⟩ ⟨s, origin, o'⟩
  | frame {s s' : SceneGraph Look Color} {origin : Pixel} {o o' : PaintedOutput Color} {a : RepaintAction Color}
    {f : FrameInput Color} (hcalls : s.Calls pal (o.ground pal) s') (hframe : a.frame = some f)
    (hrescaled : f.rescaled = s'.damage.translate (-origin.1, -origin.2))
    (himage : f.image = o.graphPixel pal s' origin)
    (hstep : o.step nRects blank a = some o')
    (hscene : o'.scene = fun p => if p ∈ f.rescaled then f.image p else o.scene p) :
    GraphStep pal nRects blank ⟨s, origin, o⟩ ⟨s', origin, o'⟩

/-- From a scene graph that has been made, and an output that is turned on to show it. With `Calls` this asks of the
clients that their buffers are `Steady`, that they damage what they change, and that the contents are `Honest`. -/
inductive GraphReachable (pal : Palette Look Color) (nRects : Region → Nat) (blank : Color) (isOpaque : Bool)
    (size : Size) (window : Pixel → Color) [DecidableEq Look] : GraphOutput Look Color → Prop
  | init {s : SceneGraph Look Color} {origin : Pixel} (hmade : s.Made pal) :
    GraphReachable pal nRects blank isOpaque size window ⟨s, origin,
      init isOpaque size blank
        (fun p => s.displayed pal (pal.backdrop isOpaque) (p.1 + origin.1, p.2 + origin.2)) window⟩
  | step {x y : GraphOutput Look Color} (hx : GraphReachable pal nRects blank isOpaque size window x)
    (hstep : GraphStep pal nRects blank x y) :
    GraphReachable pal nRects blank isOpaque size window y

variable [DecidableEq Look] {blank : Color} {isOpaque : Bool} {size : Size} {window : Pixel → Color}
  {x y : GraphOutput Look Color}

omit [DecidableEq Look] in
/-- What a pixel of the output is to show depends on the output's format only. -/
theorem graphPixel_congr (hformat : o'.isOpaque = o.isOpaque) :
    o'.graphPixel pal s origin = o.graphPixel pal s origin := by
  funext p
  rw [graphPixel, graphPixel, hformat]

/-- Calls on the graph change the output's scene inside of their damage only. -/
theorem Shows.calls (hshows : o.Shows pal s origin) (hcalls : s.Calls pal (o.ground pal) s') (h : s.Sound pal)
    (hformat : o'.isOpaque = o.isOpaque)
    (hscene : o'.scene = fun p => if p ∈ s'.damage.translate (-origin.1, -origin.2) then
      o.graphPixel pal s' origin p else o.scene p) :
    o'.Shows pal s' origin := by
  intro p
  rw [hscene, graphPixel_congr hformat]
  by_cases hp : p ∈ s'.damage.translate (-origin.1, -origin.2)
  · exact if_pos hp
  · refine (if_neg hp).trans ((hshows p).trans ?_)
    exact (hcalls.drawing h fun hin => hp (SceneGraph.mem_toOutput.mpr hin)).symm

/-- No event of the output is left out: the calls that scale its frame are made, or the scene stays. -/
theorem graphStep_of_step {a : RepaintAction Color} (hcalls : s.Calls pal (o.ground pal) s')
    (hchange : ∀ region image, a ≠ .change region image)
    (hframe : ∀ f, a.frame = some f → f.rescaled = s'.damage.translate (-origin.1, -origin.2) ∧
      f.image = o.graphPixel pal s' origin)
    (hstep : o.step nRects blank a = some o') :
    GraphStep pal nRects blank ⟨s, origin, o⟩ ⟨s, origin, o'⟩ ∨
      GraphStep pal nRects blank ⟨s, origin, o⟩ ⟨s', origin, o'⟩ := by
  rcases step_scene hchange hstep with hsame | ⟨f, hf, hsame | hscaled, -⟩
  · exact .inl (.output hstep hsame.scene)
  · exact .inl (.output hstep hsame)
  · obtain ⟨hrescaled, himage⟩ := hframe f hf
    exact .inr (.frame hcalls hf hrescaled himage hstep hscaled)

omit [DecidableEq Color] [DecidableEq Look] in
/-- Only the damage inside the output matters. -/
theorem sceneOutputDamage_congr {damage damage' : Region} (h : damage ∩ o.size.rect = damage' ∩ o.size.rect) :
    o.sceneOutputDamage damage = o.sceneOutputDamage damage' := by
  unfold sceneOutputDamage
  rw [h]

omit [DecidableEq Look] in
/-- Far from all nodes there is the backdrop. -/
theorem displayed_of_notMem {backdrop : Color} {p : Pixel}
    (hp : p ∉ Region.unionAll (s.nodes.map PlacedNode.box)) : s.displayed pal backdrop p = backdrop := by
  rw [SceneGraph.displayed, SceneGraph.drawing_eq_paint]
  refine Sheet.paint_of_notMem fun l hl hin => hp ?_
  obtain ⟨e, he, rfl⟩ := List.mem_map.mp hl
  exact Region.mem_unionAll.mpr ⟨e.box, List.mem_map_of_mem he, hin⟩

omit [DecidableEq Look] in
/-- A move is a change of the output's scene, too: of all that is in the output, and where there is a node before or
after. -/
theorem exists_setPosition (hshows : x.output.Shows pal x.graph x.origin) (origin : Pixel) :
    ∃ region, { x.output with scene := x.output.graphPixel pal x.graph origin }.sceneOutputDamageWhole =
      x.output.sceneChange region (x.output.graphPixel pal x.graph origin) := by
  let boxes := Region.unionAll (x.graph.nodes.map PlacedNode.box)
  refine ⟨x.output.size.rect ∪ (boxes.translate (-x.origin.1, -x.origin.2) ∪
    boxes.translate (-origin.1, -origin.2)), ?_⟩
  -- outside both places of the nodes the backdrop is shown, before and after
  have hscene : x.output.graphPixel pal x.graph origin = fun p =>
      if p ∈ x.output.size.rect ∪ (boxes.translate (-x.origin.1, -x.origin.2) ∪
        boxes.translate (-origin.1, -origin.2)) then
        x.output.graphPixel pal x.graph origin p
      else x.output.scene p := by
    funext p
    split_ifs with hp
    · rfl
    · have hbefore : x.output.graphPixel pal x.graph x.origin p = pal.backdrop x.output.isOpaque :=
        displayed_of_notMem fun hin => hp
          (Finset.mem_union_right _ (Finset.mem_union_left _ (SceneGraph.mem_toOutput.mpr hin)))
      have hafter : x.output.graphPixel pal x.graph origin p = pal.backdrop x.output.isOpaque :=
        displayed_of_notMem fun hin => hp
          (Finset.mem_union_right _ (Finset.mem_union_right _ (SceneGraph.mem_toOutput.mpr hin)))
      rw [hshows p, hbefore, hafter]
  rw [sceneChange, ← hscene, sceneOutputDamageWhole]
  refine sceneOutputDamage_congr ?_
  show x.output.size.rect ∩ x.output.size.rect = _ ∩ x.output.size.rect
  rw [Finset.inter_self, Finset.inter_eq_right.mpr Finset.subset_union_left]

/-- What holds of a window and the scene graph behind it. -/
structure Connected (pal : Palette Look Color) (nRects : Region → Nat) (blank : Color) (isOpaque : Bool)
    (size : Size) (window : Pixel → Color) (x : GraphOutput Look Color) : Prop where
  sound : x.graph.Sound pal
  reachable : ∃ scene, Run.Reachable (step nRects blank) (init isOpaque size blank scene window) x.output
  shows : x.output.Shows pal x.graph x.origin

/-- What the scene graph damages, the output damages. -/
theorem Connected.step (h : Connected pal nRects blank isOpaque size window x)
    (hstep : GraphStep pal nRects blank x y) : Connected pal nRects blank isOpaque size window y := by
  obtain ⟨hsound, ⟨scene, hreach⟩, hshows⟩ := h
  cases hstep with
  | @calls s s' origin o hcalls =>
    -- to the output all of them are one change
    obtain ⟨hscene, hformat⟩ := sceneChange_scene o (s'.damage.translate (-origin.1, -origin.2))
      (o.graphPixel pal s' origin)
    exact ⟨hcalls.sound hsound, ⟨scene, hreach.trans (.of_step (a := .change _ _) rfl)⟩,
      hshows.calls hcalls hsound hformat hscene⟩
  | moved _ origin =>
    unfold GraphOutput.setPosition
    split_ifs
    · exact ⟨hsound, ⟨scene, hreach⟩, hshows⟩
    -- the graph stays, and to the output the move is one change
    · obtain ⟨region, hchange⟩ := exists_setPosition hshows origin
      refine ⟨hsound, ⟨scene, ?_⟩, fun p => ?_⟩
      · rw [hchange]
        exact hreach.trans (.of_step (a := .change _ _) rfl)
      · let moved := { x.output with scene := x.output.graphPixel pal x.graph origin }
        have hsame : moved.SameScene moved.sceneOutputDamageWhole := sceneOutputDamage_scene moved moved.size.rect
        rw [hsame.scene, graphPixel_congr hsame.isOpaque]
        rfl
  | output hstep hscene =>
    refine ⟨hsound, ⟨scene, hreach.trans (.of_step hstep)⟩, fun p => ?_⟩
    rw [hscene, graphPixel_congr (step_isOpaque hstep)]
    exact hshows p
  | frame hcalls hframe hrescaled himage hstep hscene =>
    -- to the output it is one event, to the graph the calls that scale it
    refine ⟨hcalls.sound hsound, ⟨scene, hreach.trans (.of_step hstep)⟩,
      hshows.calls hcalls hsound (step_isOpaque hstep) ?_⟩
    rw [hscene, hrescaled, himage]

/-- It holds after every run. -/
theorem GraphReachable.connected (h : GraphReachable pal nRects blank isOpaque size window x) :
    Connected pal nRects blank isOpaque size window x := by
  induction h with
  | @init s origin hmade =>
    refine ⟨hmade.sound, ⟨_, [], rfl⟩, fun p => ?_⟩
    let scene := fun p : Pixel => s.displayed pal (pal.backdrop isOpaque) (p.1 + origin.1, p.2 + origin.2)
    have hsame : (turnedOn isOpaque size blank scene window).SameScene
        (PaintedOutput.init isOpaque size blank scene window) := sceneOutputDamage_scene _ _
    rw [hsame.scene, graphPixel_congr hsame.isOpaque]
    rfl
  | step _ hstep ih => exact ih.step hstep

/-- Where no frame scales anything, the graph stays as it is. -/
theorem GraphReachable.run {as : List (RepaintAction Color)}
    (h : GraphReachable pal nRects blank isOpaque size window ⟨s, origin, o⟩)
    (hrun : Run.run (PaintedOutput.step nRects blank) o as = some o')
    (hchange : ∀ a ∈ as, ∀ region image, a ≠ .change region image)
    (hframe : ∀ a ∈ as, ∀ f, a.frame = some f → f.rescaled = ∅) :
    GraphReachable pal nRects blank isOpaque size window ⟨s, origin, o'⟩ := by
  induction as generalizing o with
  | nil =>
    cases hrun
    exact h
  | cons a as ih =>
    obtain ⟨o₁, hstep, hrest⟩ := Run.run_cons_inv hrun
    have hscene : o₁.scene = o.scene := by
      rcases step_scene (hchange a List.mem_cons_self) hstep with hsame | ⟨f, hf, hsame | hscaled, -⟩
      · exact hsame.scene
      · exact hsame
      -- the frame was scaled, but by nothing
      · rw [hscaled, hframe a List.mem_cons_self f hf]
        exact funext fun p => if_neg (Finset.notMem_empty p)
    exact ih (h.step (.output hstep hscene)) hrest (fun a' ha' => hchange a' (List.mem_cons_of_mem a ha'))
      fun a' ha' => hframe a' (List.mem_cons_of_mem a ha')

/-- Every call succeeds. -/
def menuFrame : FrameInput (Option Bool) :=
  ⟨∅, fun _ => none, ⟨none, true, true, true, true, fun _ => none, true, true, true⟩⟩

/-- An output at the corner of the layout, which shows the menu. -/
def menuOutput : PaintedOutput (Option Bool) :=
  init true ⟨3, 1⟩ none (fun p => menuScene.displayed inks (some false) (p.1 + 0, p.2 + 0)) fun _ => none

/-- The output has just been created. -/
theorem menuOutput_reachable :
    GraphReachable inks (fun _ => 0) none true ⟨3, 1⟩ (fun _ => none) ⟨menuScene, (0, 0), menuOutput⟩ :=
  .init menuScene_made

/-- The first frames have been shown, and the server is done with their buffers. -/
def menuShown : List (RepaintAction (Option Bool)) :=
  [.execute, .readEvent menuFrame, .execute, .readEvent menuFrame, .finish 0, .finish 0, .readIdle, .readIdle]

/-- The menu moves to the other pixel. -/
def movedMenu : PaintedOutput (Option Bool) :=
  ((Run.run (step (fun _ => 0) none) menuOutput menuShown).getD menuOutput).graphChange inks movedScene (0, 0)

/-- The menu has been moved, and the output has been told. -/
theorem movedMenu_reachable :
    GraphReachable inks (fun _ => 0) none true ⟨3, 1⟩ (fun _ => none) ⟨movedScene, (0, 0), movedMenu⟩ := by
  have hrun : Run.run (step (fun _ => 0) none) menuOutput menuShown =
      some ((Run.run (step (fun _ => 0) none) menuOutput menuShown).getD menuOutput) :=
    (Option.getD_of_ne_none (Option.isSome_iff_ne_none.mp (by decide +kernel)) _).symm
  refine (menuOutput_reachable.run hrun ?_ ?_).step (.calls (movedScene_calls _))
  · intro a ha region image heq
    subst heq
    simp [menuShown] at ha
  · intro a ha f hf
    simp only [menuShown, List.mem_cons, List.not_mem_nil, or_false] at ha
    rcases ha with rfl | rfl | rfl | rfl | rfl | rfl | rfl | rfl <;> cases hf <;> rfl

/-- That frame has been shown. -/
def restingMenu : PaintedOutput (Option Bool) :=
  (Run.run (step (fun _ => 0) none) movedMenu [.idleTimer menuFrame, .execute, .readEvent menuFrame]).getD movedMenu

/-- All has been shown, and the output waits. -/
theorem restingMenu_reachable :
    GraphReachable inks (fun _ => 0) none true ⟨3, 1⟩ (fun _ => none) ⟨movedScene, (0, 0), restingMenu⟩ := by
  have hrun : Run.run (step (fun _ => 0) none) movedMenu [.idleTimer menuFrame, .execute, .readEvent menuFrame] =
      some restingMenu := (Option.getD_of_ne_none (Option.isSome_iff_ne_none.mp (by decide +kernel)) _).symm
  refine movedMenu_reachable.run hrun ?_ ?_
  · intro a ha region image heq
    subst heq
    simp at ha
  · intro a ha f hf
    simp only [List.mem_cons, List.not_mem_nil, or_false] at ha
    rcases ha with rfl | rfl | rfl <;> cases hf <;> rfl

end PaintedOutput

end Wlx
