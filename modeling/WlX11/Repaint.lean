import WlX11.DamageRing
import WlX11.PresentBuffers
import WlX11.Window

/-!
# WlX11 — from the scene to the X window

An output shows a part of the scene in an X window. A change of the scene damages the output and schedules a
frame; the frame draws the damage into a buffer of the swapchain and presents the damage of the buffer; the
X server copies it into the window some time later, and tells so, which makes the next frame. The server may
lose what it shows, and says that too.

* **`PaintedOutput`** — the output, its scene output, the buffers and the window.
* **`sceneOutputCommit`**, **`sendFrame`**, **`resize`** — frames, as `wlr_scene_output_commit`, `output_frame`
  and `resize_output_to` make them. What can fail is an input.
* **`Painted`** — what holds in every state: `RepaintRuns` has the proof, and what follows.

A client's buffer that is the only thing to see may be shown without being drawn into a buffer of the
swapchain. Nothing looks at its place then, so the window can come to show something else than the scene:
`astray` says where. Surfaces that wait for a frame callback get it with the next frame if they are `paced` by
the output and have something to see.

Left out: textures that cannot be imported, software cursors, gamma tables and color transforms, damage
debugging, and outputs that are turned off. `wlr_scene`'s own damage is the region of a `change`.
-/

namespace Wlx

/-- A `PresentPixmap` the server has not executed; no region is all of the pixmap. -/
structure QueuedPresent where
  buffer : Nat
  pixmap : Nat
  size : Size
  region : Option Region
deriving DecidableEq

/-- What the backend reads from the connection. -/
inductive OutputEvent where
  | expose (region : Region)
  | presentComplete
deriving DecidableEq

/-- How a frame goes. -/
structure FrameOutcome (Color : Type) where
  /-- the only entry of the render list, if it is a client's buffer that may be scanned out: in the format of
  the output, neither cropped nor transformed -/
  scanout : Option Nat
  /-- `wlr_output_configure_primary_swapchain` -/
  configured : Bool
  /-- `wlr_allocator_create_buffer` -/
  allocated : Bool
  /-- `wlr_renderer_begin_buffer_pass` -/
  passBegun : Bool
  /-- `wlr_render_pass_submit` -/
  submitted : Bool
  /-- what is in the buffer if it is not -/
  garbage : Pixel → Color
  /-- `output_basic_test` -/
  basicTested : Bool
  /-- `output_test` -/
  tested : Bool
  /-- `create_x11_buffer` -/
  importable : Bool

/-- What `output_frame` and `output_commit` may do: `wlx_apply_content_scale`, and a frame. -/
structure FrameInput (Color : Type) where
  rescaled : Region
  image : Pixel → Color
  outcome : FrameOutcome Color

/-- A surface in the scene, as far as its frame callbacks go. -/
structure SurfacePacing where
  /-- its node is enabled, with all above it, and `get_surface_frame_pacing_output` is this output -/
  paced : Bool
  /-- `visible` of its node is not empty -/
  visible : Bool
deriving DecidableEq

/-- One window of the program: `struct wlr_output`, `struct wlr_scene_output`, `struct wlr_x11_output`, and
what the X server knows of them. -/
structure PaintedOutput (Color : Type) where
  win : Nat
  /-- the format of the X visual has no alpha -/
  isOpaque : Bool
  size : Size
  needsFrame : Bool
  framePending : Bool
  /-- `idle_frame` -/
  idleFrame : Bool
  /-- the scene, in the output's pixels -/
  scene : Pixel → Color
  damageRing : DamageRing
  pendingCommitDamage : Region
  /-- surfaces that wait for a `wl_surface.frame` -/
  callbacks : List Nat
  surfaces : Nat → SurfacePacing
  exposed : Region
  /-- `last_output_width`, `last_output_height` -/
  lastOutput : Size
  buffers : PresentSession
  content : Nat → Pixel → Color
  /-- what the X window shows -/
  window : Pixel → Color
  queue : List QueuedPresent
  events : List OutputEvent
  /-- a frame has failed, and none has been scheduled since -/
  stalled : Bool
  /-- where the last buffer that was presented was not like the scene -/
  astray : Region

namespace PaintedOutput

variable {Color : Type} (o : PaintedOutput Color)

/-! ## Frames are scheduled -/

/-- The end of `wlr_output_schedule_frame`. -/
def addIdleFrame : PaintedOutput Color :=
  { o with idleFrame := o.idleFrame || !o.framePending, stalled := false }

/-- `wlr_output_update_needs_frame`; the scene output schedules a frame in turn
(`scene_output_handle_needs_frame`). -/
def updateNeedsFrame : PaintedOutput Color :=
  if o.needsFrame then o else { o with needsFrame := true }.addIdleFrame

/-- `wlr_output_schedule_frame`. -/
def scheduleFrame : PaintedOutput Color := o.updateNeedsFrame.addIdleFrame

/-- `scene_output_damage`. -/
def sceneOutputDamage (damage : Region) : PaintedOutput Color :=
  let clipped := damage ∩ o.size.rect
  if clipped = ∅ then o
  else
    let o := o.scheduleFrame
    { o with
      damageRing := o.damageRing.add clipped
      pendingCommitDamage := o.pendingCommitDamage ∪ clipped }

/-- `scene_output_damage_whole`. -/
def sceneOutputDamageWhole : PaintedOutput Color := o.sceneOutputDamage o.size.rect

/-- The scene changes inside a region, and damages it. -/
def sceneChange (region : Region) (image : Pixel → Color) : PaintedOutput Color :=
  { o with scene := fun p => if p ∈ region then image p else o.scene p }.sceneOutputDamage region

/-! ## Buffers -/

/-- The buffers that have been freed are not in the damage ring any more. -/
def reap : PaintedOutput Color :=
  { o with
    damageRing := (o.damageRing.entries.map Prod.fst).foldl
      (fun ring b => if (o.buffers.pool.table b).isNone then ring.bufferHandleDestroy b else ring)
      o.damageRing }

/-- The compositor's own `wlr_buffer_lock` and `wlr_buffer_unlock`. -/
def lockBuffer (b : Nat) : PaintedOutput Color :=
  { o with buffers := { o.buffers with
      pool := o.buffers.pool.lock b
      others := Function.update o.buffers.others b (o.buffers.others b + 1) } }

def unlockBuffer (b : Nat) : PaintedOutput Color :=
  { o with buffers := { o.buffers with
      pool := o.buffers.pool.unlock b
      others := Function.update o.buffers.others b (o.buffers.others b - 1) } }.reap

/-- `wlr_output_configure_primary_swapchain`. -/
def configurePrimarySwapchain (size : Size) (configured : Bool) : Option (PaintedOutput Color) :=
  if o.buffers.pool.slots ≠ [] ∧ o.buffers.pool.swapchainSize = size then some o
  else if configured then
    some { o with buffers := { o.buffers with pool := o.buffers.pool.swapchainReplace size } }.reap
  else none

/-- `wlr_swapchain_acquire`. -/
def acquireBuffer (allocated : Bool) : Option (PaintedOutput Color × Nat) :=
  match o.buffers.pool.swapchainAcquire allocated with
  | (_, none) => none
  | (pool, some b) =>
    some ({ o with buffers := { o.buffers with
      pool := pool
      others := Function.update o.buffers.others b (o.buffers.others b + 1) } }, b)

/-- `output_commit_buffer` of the backend, for a buffer of this size. "Always present the full pixmap when
the buffer has an alpha channel." -/
def outputCommitBuffer (b : Nat) (size : Size) (damage : Option Region) (importable : Bool) :
    Option (PaintedOutput Color) :=
  match o.buffers.pool.x11BufferGetOrCreate importable o.win b with
  | (_, none) => none
  | (pool, some pixmap) =>
    some { o with
      buffers := { o.buffers with pool := pool, held := (o.win, pixmap) :: o.buffers.held }
      queue := o.queue ++
        [⟨b, pixmap, size, if o.isOpaque then damage.map (o.exposed ∪ ·) else none⟩]
      exposed := ∅ }

/-! ## A frame -/

variable (nRects : Region → Nat)

/-- Draw the scene into a buffer, where the damage ring says; all of it if the buffer has an alpha
channel. -/
def drawScene (b : Nat) : PaintedOutput Color :=
  let (damage, ring) := o.damageRing.rotateBuffer nRects b o.size
  let drawn := if o.isOpaque then damage else o.size.rect
  { o with
    damageRing := ring
    content := Function.update o.content b fun p => if p ∈ drawn then o.scene p else o.content b p }

/-- The buffer has undefined contents: "Trash the damage ring". It is unlocked first, which frees nothing: it
is in a slot of the swapchain. -/
def trashBuffer (b : Nat) (garbage : Pixel → Color) : PaintedOutput Color :=
  let sizeOf := fun b => ((o.buffers.pool.table b).map (·.size)).getD ⟨0, 0⟩
  { o with
    damageRing := (o.damageRing.rotateBuffer nRects b o.size).2.addWhole sizeOf
    content := Function.update o.content b garbage }.unlockBuffer b

/-- `scene_entry_try_direct_scanout` of the buffer, which is alive and not one of the swapchain: what is left
to ask is the size, which `output_test` does. "If the size doesn't match, reject buffer". Where the buffer is in
the scene, and at which size, is not asked. -/
def Scannable (b : Nat) : Prop :=
  0 < o.buffers.others b ∧ (∀ s ∈ o.buffers.pool.slots, s.buffer ≠ some b) ∧
    (o.buffers.pool.table b).any (·.size = o.size) = true

instance (b : Nat) : Decidable (o.Scannable b) := inferInstanceAs (Decidable (_ ∧ _ ∧ _))

/-- `wlr_scene_output_build_state` with compositing: the buffer is locked by the state. -/
def compose (out : FrameOutcome Color) : PaintedOutput Color × Option Nat :=
  match o.configurePrimarySwapchain o.size out.configured with
  | none => (o, none)
  | some o =>
    match o.acquireBuffer out.allocated with
    | none => (o, none)
    | some (o, b) =>
      if !out.passBegun then (o.unlockBuffer b, none)
      else if !out.submitted then (o.trashBuffer nRects b out.garbage, none)
      else (o.drawScene nRects b, some b)

/-- `wlr_scene_output_build_state`. -/
def buildState (out : FrameOutcome Color) : PaintedOutput Color × Option Nat :=
  match out.scanout with
  | some b => if o.Scannable b then (o.lockBuffer b, some b) else o.compose nRects out
  | none => o.compose nRects out

/-- `output_apply_commit`. -/
def applyCommit : PaintedOutput Color := { o with framePending := true, needsFrame := false }

/-- `scene_output_handle_commit`, for what it does about a buffer. -/
def sceneOutputHandleCommit (damage : Option Region) : PaintedOutput Color :=
  { o with
    pendingCommitDamage := match damage with
      | some damage => o.pendingCommitDamage \ damage
      | none => ∅ }

/-- A frame that is not shown. -/
def failed : PaintedOutput Color := { o with stalled := !(o.idleFrame || o.framePending) }

/-- What a present of a frame copies into the window. -/
def presented (damage : Region) : Region :=
  (if o.isOpaque then o.exposed ∪ damage else o.size.rect) ∩ o.size.rect

/-- A buffer is presented: it shows the scene, or it does not. -/
def astrayAfter [DecidableEq Color] (b : Nat) (damage : Region) : Region :=
  (o.astray \ o.presented damage) ∪ (o.presented damage).filter fun p => o.content b p ≠ o.scene p

/-- `wlr_output_commit_state` of a frame; `output_prepare_commit` takes the idle frame off. The program's
`output_commit` finds the size it knows (`Awake.known`). -/
def commitFrame [DecidableEq Color] (b : Nat) (out : FrameOutcome Color) : PaintedOutput Color :=
  if !out.basicTested then o.failed
  else
    let damage := o.pendingCommitDamage
    let o := { o with idleFrame := false }
    if !out.tested then o.failed
    else match o.outputCommitBuffer b o.size (some damage) out.importable with
      | none => o.failed
      | some committed =>
        { committed with astray := o.astrayAfter b damage }.applyCommit.sceneOutputHandleCommit (some damage)

/-- `wlr_scene_output_needs_frame`. -/
def sceneOutputNeedsFrame : Bool := o.needsFrame || !decide (o.pendingCommitDamage = ∅)

/-- `wlr_scene_output_commit`. -/
def sceneOutputCommit [DecidableEq Color] (out : FrameOutcome Color) : PaintedOutput Color :=
  if !o.sceneOutputNeedsFrame then o
  else match o.buildState nRects out with
    | (o, none) => o.failed
    | (o, some b) => (o.commitFrame b out).unlockBuffer b

/-- `wlx_apply_content_scale` and `wlr_scene_output_commit`. -/
def paint [DecidableEq Color] (f : FrameInput Color) : PaintedOutput Color :=
  (o.sceneChange f.rescaled f.image).sceneOutputCommit nRects f.outcome

/-- What `scene_node_send_frame_done` reaches: `wlr_scene_buffer_send_frame_done` leaves out what is not
visible, and `handle_scene_buffer_frame_done` what another output paces. -/
def serves (surface : Nat) : Bool := (o.surfaces surface).paced && (o.surfaces surface).visible

/-- `wlr_scene_output_send_frame_done`. -/
def sendFrameDone : PaintedOutput Color :=
  { o with callbacks := o.callbacks.filter fun surface => !o.serves surface }

/-- `output_frame`. -/
def outputFrame [DecidableEq Color] (f : FrameInput Color) : PaintedOutput Color :=
  (o.paint nRects f).sendFrameDone

/-- `wlr_output_send_frame`. -/
def sendFrame [DecidableEq Color] (f : FrameInput Color) : PaintedOutput Color :=
  { o with framePending := false }.outputFrame nRects f

/-- `schedule_frame_handle_idle_timer`. -/
def handleIdleTimer [DecidableEq Color] (f : FrameInput Color) : PaintedOutput Color :=
  let o := { o with idleFrame := false }
  if o.framePending then o else o.sendFrame nRects f

/-! ## A new size -/

/-- The program's `output_commit` listener. "Paint immediately with the last client buffer". -/
def outputCommitListener [DecidableEq Color] (f : FrameInput Color) : PaintedOutput Color :=
  if o.size = o.lastOutput then o
  else
    let hadFrame := minOutputSize < o.lastOutput.width ∧ minOutputSize < o.lastOutput.height
    let o := { o with lastOutput := o.size }
    if hadFrame then o.paint nRects f else o.scheduleFrame

/-- "Attaching empty buffer to output for modeset": `output_acquire_empty_buffer`. -/
def acquireEmptyBuffer (size : Size) (blank : Color) (out : FrameOutcome Color) :
    PaintedOutput Color × Option Nat :=
  match o.configurePrimarySwapchain size out.configured with
  | none => (o, none)
  | some o =>
    match o.acquireBuffer out.allocated with
    | none => (o, none)
    | some (o, b) =>
      if !out.passBegun then (o.unlockBuffer b, none)
      else if !out.submitted then
        ({ o with content := Function.update o.content b out.garbage }.unlockBuffer b, none)
      else ({ o with content := Function.update o.content b fun _ => blank }, some b)

/-- `wlr_output_commit_state` of a new size, and what its commit event does. -/
def commitMode [DecidableEq Color] (size : Size) (blank : Color) (out : FrameOutcome Color)
    (f : FrameInput Color) : PaintedOutput Color :=
  if !out.basicTested then o
  else match o.acquireEmptyBuffer size blank out with
    | (o, none) => o
    | (o, some b) =>
      let o := { o with idleFrame := false }
      let o := if !out.tested then o
        else match o.outputCommitBuffer b size none out.importable with
          | none => o
          | some o =>
            let o := { o.applyCommit with size := size }
            let o := (o.sceneOutputHandleCommit none).sceneOutputDamageWhole
            o.outputCommitListener nRects f
      o.unlockBuffer b

/-- `resize_output_to`, or the end of `output_request_state` if it is the host that asks. -/
def resize [DecidableEq Color] (byHost : Bool) (size : Size) (blank : Color) (out : FrameOutcome Color)
    (f : FrameInput Color) : PaintedOutput Color :=
  let o := o.commitMode nRects size blank out f
  let o := if byHost then o else { o with lastOutput := o.size }
  o.scheduleFrame

/-! ## The X server -/

/-- The pixels a present copies. -/
def copied (q : QueuedPresent) : Region := (q.region.getD q.size.rect) ∩ q.size.rect

/-- The server executes a `PresentPixmap`. -/
def execute (content : Nat → Pixel → Color) (window : Pixel → Color) (q : QueuedPresent) :
    Pixel → Color :=
  fun p => if p ∈ copied q then content q.buffer p else window p

/-- What the window shows when the server has done all it has been asked for. -/
def finalWindow : Pixel → Color := o.queue.foldl (execute o.content) o.window

/-! ## Sessions -/

inductive RepaintAction (Color : Type) where
  /-- the scene changes -/
  | change (region : Region) (image : Pixel → Color)
  /-- the commit of a surface that has asked for a `wl_surface.frame` -/
  | requestCallback (surface : Nat)
  /-- surfaces come to be seen, or cease to be; or another output paces them, or does no more -/
  | pace (surfaces : Nat → SurfacePacing)
  /-- another window serves a surface that waits, or it is destroyed -/
  | dropCallback (surface : Nat)
  /-- the program calls `wlr_output_schedule_frame` -/
  | schedule
  | idleTimer (f : FrameInput Color)
  | readEvent (f : FrameInput Color)
  | resize (byHost : Bool) (size : Size) (out : FrameOutcome Color) (f : FrameInput Color)
  /-- a client's buffers: `create`, `lock`, `unlock` and `drop` -/
  | client (a : BufferAction)
  /-- a client draws into a buffer nobody has locked -/
  | draw (b : Nat) (image : Pixel → Color)
  /-- the server executes a present -/
  | execute
  /-- the server loses a part of the window -/
  | lose (region : Region) (image : Pixel → Color)
  /-- the server is done with the pixmap of a present it has executed -/
  | finish (n : Nat)
  | readIdle

/-- What a frame of the event may do. -/
def RepaintAction.frame {Color : Type} : RepaintAction Color → Option (FrameInput Color)
  | .idleTimer f | .readEvent f | .resize _ _ _ f => some f
  | _ => none

/-- What clients do with their buffers. -/
def ofClient : BufferAction → Bool
  | .create _ | .lock _ | .unlock _ | .drop _ => true
  | _ => false

def step [DecidableEq Color] (blank : Color) (o : PaintedOutput Color) :
    RepaintAction Color → Option (PaintedOutput Color)
  | .change region image => some (o.sceneChange region image)
  | .requestCallback surface =>
    -- `handle_scene_surface_surface_commit`: "otherwise the frame done events would never reach the surface"
    let o := { o with callbacks := o.callbacks ++ [surface] }
    some (if (o.surfaces surface).paced then o.scheduleFrame else o)
  | .pace surfaces => some { o with surfaces := surfaces }
  | .dropCallback surface => some { o with callbacks := o.callbacks.filter (· ≠ surface) }
  | .schedule => some o.scheduleFrame
  | .idleTimer f => if o.idleFrame then some (o.handleIdleTimer nRects f) else none
  | .readEvent f =>
    match o.events with
    | [] => none
    | .expose region :: events =>
      some ({ o with events := events, exposed := o.exposed ∪ region }.updateNeedsFrame)
    | .presentComplete :: events => some ({ o with events := events }.sendFrame nRects f)
  | .resize byHost size out f =>
    -- "already", and `WLX_MIN_OUTPUT_SIZE`
    if size = o.size ∨ size.isSet = false ∨
        byHost = false ∧ (size.width < minOutputSize ∨ size.height < minOutputSize) then none
    else some (o.resize nRects byHost size blank out f)
  | .client a =>
    if ofClient a then (o.buffers.step a).map fun buffers => { o with buffers := buffers }.reap else none
  | .draw b image =>
    if (o.buffers.pool.table b).any (fun w => w.nLocks = 0) ∧
        ∀ s ∈ o.buffers.pool.slots, s.buffer ≠ some b then
      some { o with content := Function.update o.content b image }
    else none
  | .execute =>
    match o.queue with
    | [] => none
    | q :: queue =>
      some { o with
        window := PaintedOutput.execute o.content o.window q
        queue := queue
        events := o.events ++ [.presentComplete] }
  | .lose region image =>
    some { o with
      window := fun p => if p ∈ region then image p else o.window p
      events := o.events ++ [.expose region] }
  | .finish n =>
    if (o.buffers.held[n]?).any (fun i => (o.queue.map fun q => (o.win, q.pixmap)).count i <
        o.buffers.held.count i) then
      (o.buffers.step (.finish n)).map fun buffers => { o with buffers := buffers }
    else none
  | .readIdle => (o.buffers.step .readIdle).map fun buffers => { o with buffers := buffers }.reap

/-- The commit that turns the output on, with an empty buffer. -/
def firstCommit (size : Size) : List BufferAction :=
  [.createWindow, .replaceSwapchain size, .acquire true, .present true 0 0, .unlock 0]

/-- An output that has just been turned on. -/
def turnedOn (isOpaque : Bool) (size : Size) (blank : Color) (scene window : Pixel → Color) :
    PaintedOutput Color where
  win := 0
  isOpaque := isOpaque
  size := size
  needsFrame := false
  framePending := true
  idleFrame := false
  scene := scene
  damageRing := .init
  pendingCommitDamage := ∅
  callbacks := []
  surfaces := fun _ => ⟨false, false⟩
  exposed := ∅
  lastOutput := size
  buffers := (Run.run PresentSession.step .init (firstCommit size)).getD .init
  content := fun _ _ => blank
  window := window
  queue := [⟨0, 0, size, none⟩]
  events := []
  stalled := false
  astray := ∅

/-- `create_output_for_window`: `wlr_scene_output_create` damages all of it. -/
def init (isOpaque : Bool) (size : Size) (blank : Color) (scene window : Pixel → Color) :
    PaintedOutput Color :=
  (turnedOn isOpaque size blank scene window).sceneOutputDamageWhole

end PaintedOutput

end Wlx
