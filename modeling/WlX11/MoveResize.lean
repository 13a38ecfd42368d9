import WlX11.ContentWindow
import WlX11.OutputLayout

/-!
# WlX11 — interactive moves and resizes

The program moves and resizes a toplevel's X window itself: from the client's request on, each motion
of the pointer is answered by a `ConfigureRequest` computed from the pointer's position and what was
noted when the drag began. The drag ends with the release of a button, when that arrives as an XI2
event, or with its window.

* **`InteractiveDrag`** — the drag fields of `struct wlx_server`, and the functions that begin, update
  and end a drag.
* **`MoveResizeSession.DragHeld`** — there is a drag only while a button is held, and not two.
* **`MoveResizeSession.dragHeld_iff`** — along a run it stays so exactly if drags are requested while a
  button is held and no drag of the other kind runs, and no button that is let go on the core path is
  the last one of a drag.
-/

namespace Wlx

structure Timespec where
  sec : Int
  nsec : Int
deriving DecidableEq

/-- A mask of `enum wlr_edges`. -/
structure WlrEdges where
  top : Bool
  bottom : Bool
  left : Bool
  right : Bool
deriving DecidableEq

/-- `WLX_DRAG_THROTTLE_MS`. -/
def wlxDragThrottleMs : Int := 16

/-- `WLX_MIN_WINDOW_SIZE`. -/
def wlxMinWindowSize : Int := 50

/-- What `update_interactive_drag` asks of the host; a move leaves the size out. -/
structure GeometryRequest where
  window : XWindow
  pos : Point
  size : Option Size
deriving DecidableEq

/-- The drag fields of `struct wlx_server`. -/
structure InteractiveDrag where
  moveWin : Option Nat
  /-- window position less pointer position when the drag began -/
  moveOffset : Point
  resizeWin : Option Nat
  resizeEdges : WlrEdges
  /-- `resize_start_x` to `resize_start_h` -/
  resizeStart : Box
  resizeStartPointer : Point
  lastSendAt : Timespec
  lastRequested : Point
  correction : Point
deriving DecidableEq

namespace InteractiveDrag

/-- As `calloc` leaves it. -/
def idle : InteractiveDrag :=
  ⟨none, ⟨0, 0⟩, none, ⟨false, false, false, false⟩, .zero, ⟨0, 0⟩, ⟨0, 0⟩, ⟨0, 0⟩, ⟨0, 0⟩⟩

def Running (d : InteractiveDrag) : Prop := d.moveWin ≠ none ∨ d.resizeWin ≠ none

instance (d : InteractiveDrag) : Decidable d.Running := inferInstanceAs (Decidable (_ ∨ _))

/-- `begin_interactive_move`; the reply is where the outer window and the pointer are. -/
def beginInteractiveMove (win : XToplevel) (reply : Option (Point × Point)) (d : InteractiveDrag) :
    InteractiveDrag :=
  match win.outerPositionWindow, win.configureTargetWindow, reply with
  | some _, some _, some (w, p) =>
    { d with
      moveWin := some win.id
      moveOffset := ⟨w.x - p.x, w.y - p.y⟩
      lastSendAt := ⟨0, 0⟩
      correction := ⟨0, 0⟩
      lastRequested := w }
  | _, _, _ => d

/-- `begin_interactive_resize`; the reply is where the outer window is, how large the content, and
where the pointer. -/
def beginInteractiveResize (win : XToplevel) (edges : WlrEdges) (reply : Option (Box × Point))
    (d : InteractiveDrag) : InteractiveDrag :=
  match win.outerPositionWindow, win.configureTargetWindow, win.contentXwin.or win.xwin, reply with
  | some _, some _, some _, some (start, p) =>
    { d with
      resizeWin := some win.id
      resizeEdges := edges
      resizeStart := start
      resizeStartPointer := p
      lastSendAt := ⟨0, 0⟩
      correction := ⟨0, 0⟩
      lastRequested := ⟨start.x, start.y⟩ }
  | _, _, _, _ => d

/-- `drag_throttle_ready`. -/
def dragThrottleReady (now : Timespec) (d : InteractiveDrag) : Option InteractiveDrag :=
  let elapsedMs := (now.sec - d.lastSendAt.sec) * 1000 + (now.nsec - d.lastSendAt.nsec).tdiv 1000000
  if elapsedMs < wlxDragThrottleMs then none else some { d with lastSendAt := now }

/-- The box a resize makes of the one it began with, when the pointer has moved by `dx`, `dy`. -/
def resizedBox (edges : WlrEdges) (start : Box) (dx dy : Int) : Box :=
  { x := if edges.left then start.x + dx else start.x
    y := if edges.top then start.y + dy else start.y
    width := max wlxMinWindowSize
      (if edges.left then start.width - dx else if edges.right then start.width + dx else start.width)
    height := max wlxMinWindowSize
      (if edges.top then start.height - dy
        else if edges.bottom then start.height + dy else start.height) }

/-- `update_interactive_drag`, at a time and with the root pointer's position. -/
def updateInteractiveDrag (target : Nat → Option XWindow) (now : Timespec) (pointer : Option Point)
    (d : InteractiveDrag) : InteractiveDrag × Option GeometryRequest :=
  if ¬d.Running then (d, none)
  else match d.dragThrottleReady now with
  | none => (d, none)
  | some d => match pointer with
    | none => (d, none)
    | some p => match d.moveWin with
      | some id => match target id with
        | none => (d, none)
        | some w =>
          let pos : Point :=
            ⟨p.x + d.moveOffset.x - d.correction.x, p.y + d.moveOffset.y - d.correction.y⟩
          ({ d with lastRequested := pos }, some ⟨w, pos, none⟩)
      | none => match d.resizeWin.bind target with
        | none => (d, none)
        | some w =>
          let box := resizedBox d.resizeEdges d.resizeStart (p.x - d.resizeStartPointer.x)
            (p.y - d.resizeStartPointer.y)
          let pos : Point := ⟨box.x - d.correction.x, box.y - d.correction.y⟩
          ({ d with lastRequested := pos }, some ⟨w, pos, some box.size⟩)

/-- The `ConfigureNotify` branch of `handle_xcb_readable`: what the host has made of the last request
is learned for the next ones, from events of the outer window. -/
def learnCorrection (active : Option XToplevel) (w : XWindow) (pos : Point) (d : InteractiveDrag) :
    InteractiveDrag :=
  match active with
  | none => d
  | some win =>
    if (win.ewmhTargetWindow = some w ∨ win.xwin = some w) ∧
        (win.xwin = some w ∨ win.contentXwin = none ∨ win.contentXwin = win.xwin) then
      { d with correction := ⟨pos.x - d.lastRequested.x, pos.y - d.lastRequested.y⟩ }
    else d

/-- The end of a release in `server_cursor_button`. -/
def endDrags (d : InteractiveDrag) : InteractiveDrag := { d with moveWin := none, resizeWin := none }

/-- What `output_destroy` and `xdg_toplevel_destroy` do to a drag of the window. -/
def forget (id : Nat) (d : InteractiveDrag) : InteractiveDrag :=
  { d with
    moveWin := if d.moveWin = some id then none else d.moveWin
    resizeWin := if d.resizeWin = some id then none else d.resizeWin }

end InteractiveDrag

/-- The two ways a button event gets to the program: `server_cursor_button`, and
`handle_core_pointer_during_grab` while a popup holds the pointer. -/
inductive ButtonPath where
  | xi2
  | coreGrab
deriving DecidableEq

/-- The toplevels, the drag, and the buttons that are held. -/
structure MoveResizeSession where
  host : HostSession
  drag : InteractiveDrag
  held : List Nat

inductive MoveResizeAction where
  | host (a : HostAction)
  /-- `xdg_toplevel.move` -/
  | requestMove (id : Nat) (reply : Option (Point × Point))
  /-- `xdg_toplevel.resize` -/
  | requestResize (id : Nat) (edges : WlrEdges) (reply : Option (Box × Point))
  | press (path : ButtonPath) (button : Nat)
  | release (path : ButtonPath) (button : Nat)
  | motion (now : Timespec) (pointer : Option Point)
  | configureNotify (w : XWindow) (pos : Point)

namespace MoveResizeSession

open InteractiveDrag

def init (root : HostNode) : MoveResizeSession := ⟨.init root, .idle, []⟩

/-- What a change of the toplevels does to the drag. -/
def dragAfter (v : MoveResizeSession) : HostAction → InteractiveDrag
  | .unmap id =>
    if (v.host.window id).any (·.own.isSome) then v.drag.forget id else v.drag
  | .destroy id => v.drag.forget id
  | .newToplevel _ | .map .. | .reparent .. => v.drag

/-- The window whose `ConfigureNotify` is learned from. -/
def active (v : MoveResizeSession) : Option XToplevel :=
  (v.drag.moveWin.or v.drag.resizeWin).bind v.host.window

def step (v : MoveResizeSession) : MoveResizeAction → Option MoveResizeSession
  | .host a => (v.host.step a).map fun host => { v with host := host, drag := v.dragAfter a }
  | .requestMove id reply =>
    (v.host.window id).map fun win => { v with drag := v.drag.beginInteractiveMove win reply }
  | .requestResize id edges reply =>
    (v.host.window id).map fun win => { v with drag := v.drag.beginInteractiveResize win edges reply }
  | .press _ button => some { v with held := button :: v.held }
  | .release path button =>
    some { v with
      drag := match path with
        | .xi2 => v.drag.endDrags
        | .coreGrab => v.drag
      held := v.held.erase button }
  | .motion now pointer =>
    some { v with
      drag := (v.drag.updateInteractiveDrag
        (fun id => (v.host.window id).bind (·.configureTargetWindow)) now pointer).1 }
  | .configureNotify w pos => some { v with drag := v.drag.learnCorrection v.active w pos }

/-- There is a drag only while a button is held, and not two. -/
def DragHeld (v : MoveResizeSession) : Prop :=
  (v.drag.Running → v.held ≠ []) ∧ ¬(v.drag.moveWin ≠ none ∧ v.drag.resizeWin ≠ none)

instance (v : MoveResizeSession) : Decidable v.DragHeld := inferInstanceAs (Decidable (_ ∧ _))

def StaysDragHeld (v : MoveResizeSession) (a : MoveResizeAction) : Prop :=
  ∀ v', v.step a = some v' → v'.DragHeld

/-- The toplevel has an X window, and the X server answers: the drag begins. -/
def Begins {α : Type} (win : XToplevel) (reply : Option α) : Prop :=
  win.ewmhTargetWindow ≠ none ∧ reply ≠ none

instance {α : Type} (win : XToplevel) (reply : Option α) : Decidable (Begins win reply) :=
  inferInstanceAs (Decidable (_ ∧ _))

/-- A drag that begins does so while a button is held and no drag of the other kind runs; and a button
let go on the core path leaves a running drag another one. -/
def Guarded (v : MoveResizeSession) : MoveResizeAction → Prop
  | .requestMove id reply =>
    ∀ win ∈ v.host.window id, Begins win reply → v.held ≠ [] ∧ v.drag.resizeWin = none
  | .requestResize id _ reply =>
    ∀ win ∈ v.host.window id, Begins win reply → v.held ≠ [] ∧ v.drag.moveWin = none
  | .release .coreGrab button => v.drag.Running → v.held.erase button ≠ []
  | .release .xi2 _ | .host _ | .press .. | .motion .. | .configureNotify .. => True

instance (v : MoveResizeSession) : (a : MoveResizeAction) → Decidable (v.Guarded a)
  | .requestMove id reply => inferInstanceAs (Decidable (∀ win ∈ v.host.window id,
      Begins win reply → _))
  | .requestResize id _ reply => inferInstanceAs (Decidable (∀ win ∈ v.host.window id,
      Begins win reply → _))
  | .release .coreGrab _ => inferInstanceAs (Decidable (_ → _))
  | .release .xi2 _ | .host _ | .press .. | .motion .. | .configureNotify .. => .isTrue trivial

end MoveResizeSession

/-! ## Which window is dragged -/

namespace InteractiveDrag

open MoveResizeSession (Begins)

variable {d : InteractiveDrag} {win : XToplevel}

/-- The outer window and the target are known together. -/
theorem outerPositionWindow_eq_none_iff (win : XToplevel) :
    win.outerPositionWindow = none ↔ win.ewmhTargetWindow = none := by
  unfold XToplevel.outerPositionWindow XToplevel.ewmhTargetWindow
  rw [Option.or_eq_none_iff, Option.or_eq_none_iff]
  exact and_comm

/-- A move that begins takes the window, and leaves a resize as it is. -/
theorem beginInteractiveMove_spec (win : XToplevel) (reply : Option (Point × Point))
    (d : InteractiveDrag) :
    (d.beginInteractiveMove win reply).moveWin =
        (if Begins win reply then some win.id else d.moveWin) ∧
      (d.beginInteractiveMove win reply).resizeWin = d.resizeWin := by
  have houter := outerPositionWindow_eq_none_iff win
  unfold beginInteractiveMove Begins XToplevel.configureTargetWindow
  by_cases htarget : win.ewmhTargetWindow = none
  · simp [htarget, houter.mpr htarget]
  · obtain ⟨outer, houter⟩ := Option.ne_none_iff_exists'.mp (mt houter.mp htarget)
    obtain ⟨target, htarget⟩ := Option.ne_none_iff_exists'.mp htarget
    simp only [houter, htarget]
    cases reply <;> simp

/-- A resize that begins takes the window, and leaves a move as it is. -/
theorem beginInteractiveResize_spec (win : XToplevel) (edges : WlrEdges) (reply : Option (Box × Point))
    (d : InteractiveDrag) :
    (d.beginInteractiveResize win edges reply).resizeWin =
        (if Begins win reply then some win.id else d.resizeWin) ∧
      (d.beginInteractiveResize win edges reply).moveWin = d.moveWin := by
  have houter := outerPositionWindow_eq_none_iff win
  unfold beginInteractiveResize Begins XToplevel.configureTargetWindow
  by_cases htarget : win.ewmhTargetWindow = none
  · simp [htarget, houter.mpr htarget]
  · obtain ⟨outer, houter⟩ := Option.ne_none_iff_exists'.mp (mt houter.mp htarget)
    obtain ⟨target, htarget⟩ := Option.ne_none_iff_exists'.mp htarget
    have hsize : win.contentXwin.or win.xwin = some target := htarget
    simp only [houter, htarget, hsize]
    cases reply <;> simp

theorem updateInteractiveDrag_frame (target : Nat → Option XWindow) (now : Timespec)
    (pointer : Option Point) (d : InteractiveDrag) :
    (d.updateInteractiveDrag target now pointer).1.moveWin = d.moveWin ∧
      (d.updateInteractiveDrag target now pointer).1.resizeWin = d.resizeWin := by
  unfold updateInteractiveDrag
  split
  · exact ⟨rfl, rfl⟩
  cases hready : d.dragThrottleReady now with
  | none => exact ⟨rfl, rfl⟩
  | some d' =>
    obtain ⟨-, rfl⟩ : _ ∧ { d with lastSendAt := now } = d' := by
      unfold dragThrottleReady at hready
      simpa [eq_comm] using hready
    dsimp only
    split
    · exact ⟨rfl, rfl⟩
    · split
      · split <;> exact ⟨rfl, rfl⟩
      · split <;> exact ⟨rfl, rfl⟩

theorem learnCorrection_frame (active : Option XToplevel) (w : XWindow) (pos : Point)
    (d : InteractiveDrag) :
    (d.learnCorrection active w pos).moveWin = d.moveWin ∧
      (d.learnCorrection active w pos).resizeWin = d.resizeWin := by
  unfold learnCorrection
  cases active with
  | none => exact ⟨rfl, rfl⟩
  | some win =>
    dsimp only
    split <;> exact ⟨rfl, rfl⟩

end InteractiveDrag

namespace MoveResizeSession

open InteractiveDrag

variable {v v' : MoveResizeSession}

/-! ## Each step -/

/-- What `DragHeld` says depends on the dragged windows and on whether a button is held. -/
theorem DragHeld.frame (h : v.DragHeld) (hmove : v'.drag.moveWin = v.drag.moveWin)
    (hresize : v'.drag.resizeWin = v.drag.resizeWin) (hheld : v.held ≠ [] → v'.held ≠ []) :
    v'.DragHeld := by
  obtain ⟨hrunning, hone⟩ := h
  unfold DragHeld Running
  rw [hmove, hresize]
  exact ⟨fun hrun => hheld (hrunning hrun), hone⟩

/-- Drags that end leave nothing to hold. -/
theorem DragHeld.ended (h : v.DragHeld) (hmove : v'.drag.moveWin ≠ none → v.drag.moveWin ≠ none)
    (hresize : v'.drag.resizeWin ≠ none → v.drag.resizeWin ≠ none)
    (hheld : v'.drag.Running → v.held ≠ [] → v'.held ≠ []) : v'.DragHeld := by
  obtain ⟨hrunning, hone⟩ := h
  refine ⟨fun hrun => hheld hrun (hrunning ?_), fun hboth => hone ⟨hmove hboth.1, hresize hboth.2⟩⟩
  exact hrun.imp hmove hresize

/-- A move begins. -/
theorem dragHeld_moving_iff {id : Nat} (hmove : v'.drag.moveWin = some id) :
    v'.DragHeld ↔ v'.held ≠ [] ∧ v'.drag.resizeWin = none := by
  unfold DragHeld Running
  rw [hmove]
  simp

/-- A resize begins. -/
theorem dragHeld_resizing_iff {id : Nat} (hresize : v'.drag.resizeWin = some id) :
    v'.DragHeld ↔ v'.held ≠ [] ∧ v'.drag.moveWin = none := by
  unfold DragHeld Running
  rw [hresize]
  simp

theorem dragHeld_host (h : v.DragHeld) {a : HostAction} (hstep : v.step (.host a) = some v') :
    v'.DragHeld := by
  obtain ⟨host, -, rfl⟩ := Option.map_eq_some_iff.mp hstep
  have hforget : ∀ id, (v.drag.forget id).moveWin ≠ none → v.drag.moveWin ≠ none := by
    intro id hmove hnone
    unfold forget at hmove
    dsimp only at hmove
    rw [hnone] at hmove
    exact hmove rfl
  have hforget' : ∀ id, (v.drag.forget id).resizeWin ≠ none → v.drag.resizeWin ≠ none := by
    intro id hresize hnone
    unfold forget at hresize
    dsimp only at hresize
    rw [hnone] at hresize
    exact hresize rfl
  cases a with
  | newToplevel id => exact h
  | map id own t => exact h
  | reparent id t => exact h
  | destroy id => exact h.ended (hforget id) (hforget' id) fun _ hheld => hheld
  | unmap id =>
    cases hown : (v.host.window id).any (·.own.isSome) with
    | false => exact h.frame (by simp [dragAfter, hown]) (by simp [dragAfter, hown]) fun hheld => hheld
    | true =>
      refine h.ended ?_ ?_ fun _ hheld => hheld
      · simpa [dragAfter, hown] using hforget id
      · simpa [dragAfter, hown] using hforget' id

theorem staysDragHeld_iff (h : v.DragHeld) {a : MoveResizeAction} (hstep : v.step a = some v') :
    v.StaysDragHeld a ↔ v.Guarded a := by
  unfold StaysDragHeld
  rw [Run.forall_step_iff hstep]
  cases a with
  | host a => exact iff_of_true (dragHeld_host h hstep) trivial
  | requestMove id reply =>
    obtain ⟨win, hfind, rfl⟩ := Option.map_eq_some_iff.mp hstep
    obtain ⟨hmove, hresize⟩ := v.drag.beginInteractiveMove_spec win reply
    have hguarded : v.Guarded (.requestMove id reply) ↔
        (Begins win reply → v.held ≠ [] ∧ v.drag.resizeWin = none) := by
      show (∀ win ∈ v.host.window id, _) ↔ _
      rw [hfind]
      simp only [Option.mem_def, Option.some.injEq, forall_eq']
    rw [hguarded]
    by_cases hbegins : Begins win reply
    · rw [if_pos hbegins] at hmove
      rw [dragHeld_moving_iff hmove]
      dsimp only
      rw [hresize]
      exact ⟨fun hguard _ => hguard, fun hguard => hguard hbegins⟩
    · rw [if_neg hbegins] at hmove
      exact iff_of_true (h.frame hmove hresize fun hheld => hheld) fun hbegun => absurd hbegun hbegins
  | requestResize id edges reply =>
    obtain ⟨win, hfind, rfl⟩ := Option.map_eq_some_iff.mp hstep
    obtain ⟨hresize, hmove⟩ := v.drag.beginInteractiveResize_spec win edges reply
    have hguarded : v.Guarded (.requestResize id edges reply) ↔
        (Begins win reply → v.held ≠ [] ∧ v.drag.moveWin = none) := by
      show (∀ win ∈ v.host.window id, _) ↔ _
      rw [hfind]
      simp only [Option.mem_def, Option.some.injEq, forall_eq']
    rw [hguarded]
    by_cases hbegins : Begins win reply
    · rw [if_pos hbegins] at hresize
      rw [dragHeld_resizing_iff hresize]
      dsimp only
      rw [hmove]
      exact ⟨fun hguard _ => hguard, fun hguard => hguard hbegins⟩
    · rw [if_neg hbegins] at hresize
      exact iff_of_true (h.frame hmove hresize fun hheld => hheld) fun hbegun => absurd hbegun hbegins
  | press path button =>
    obtain rfl := Option.some.inj hstep
    exact iff_of_true (h.frame rfl rfl fun _ => List.cons_ne_nil _ _) trivial
  | release path button =>
    obtain rfl := Option.some.inj hstep
    cases path with
    | xi2 =>
      refine iff_of_true ?_ trivial
      exact ⟨fun hrunning => absurd hrunning (by simp [Running, endDrags]), fun hboth => hboth.1 rfl⟩
    | coreGrab =>
      -- the drag goes on
      show (_ ∧ _) ↔ _
      exact and_iff_left h.2
  | motion now pointer =>
    obtain rfl := Option.some.inj hstep
    obtain ⟨hmove, hresize⟩ := v.drag.updateInteractiveDrag_frame
      (fun id => (v.host.window id).bind (·.configureTargetWindow)) now pointer
    exact iff_of_true (h.frame hmove hresize fun hheld => hheld) trivial
  | configureNotify w pos =>
    obtain rfl := Option.some.inj hstep
    obtain ⟨hmove, hresize⟩ := v.drag.learnCorrection_frame v.active w pos
    exact iff_of_true (h.frame hmove hresize fun hheld => hheld) trivial

/-- **One drag, and a button to hold it.** Along a run of toplevels that come and go, of client
requests and of button and motion events on either path, every state has at most one drag, and a button
held while it has one, exactly if each drag begins while a button is held and none of the other kind
runs, and a core-path release during a drag is never that of the last button. -/
theorem dragHeld_iff {root : HostNode} {as : List MoveResizeAction}
    (hrun : Run.run step (init root) as = some v) :
    Run.Along step StaysDragHeld (init root) as ↔ Run.Along step Guarded (init root) as := by
  have hidle : (init root).DragHeld := by
    refine ⟨fun hrunning => ?_, fun hboth => hboth.1 rfl⟩
    rcases hrunning with hmove | hresize
    · exact absurd rfl hmove
    · exact absurd rfl hresize
  refine Run.along_iff_of_step (I := DragHeld) ?_ ?_ hidle hrun
  · intro v a v' _ hstays hstep
    exact hstays v' hstep
  · intro v a v' h hstep
    exact staysDragHeld_iff h hstep

/-- A toplevel is mapped, and moved and then resized by its client, each with the left button. -/
def draggedRun : List MoveResizeAction :=
  [.host (.newToplevel 0), .host (.map 0 10 (.node ⟨1, 1920, 1080⟩ [.node ⟨10, 640, 480⟩ []])),
    .press .xi2 272, .requestMove 0 (some (⟨100, 100⟩, ⟨120, 110⟩)), .motion ⟨1, 0⟩ (some ⟨130, 115⟩),
    .configureNotify 10 ⟨114, 129⟩, .release .xi2 272, .press .xi2 272,
    .requestResize 0 ⟨false, true, false, true⟩ (some (⟨110, 105, 640, 480⟩, ⟨740, 580⟩)),
    .release .xi2 272]

theorem draggedRun_held : Run.Along step StaysDragHeld (init ⟨1, 1920, 1080⟩) draggedRun := by
  have hsome : (Run.run step (init ⟨1, 1920, 1080⟩) draggedRun).isSome = true := by decide +kernel
  obtain ⟨v, hv⟩ := Option.isSome_iff_exists.mp hsome
  exact (dragHeld_iff hv).mpr (by decide +kernel)

/-- The client's request comes when the click is over. -/
def lateMove : List MoveResizeAction :=
  [.host (.newToplevel 0), .host (.map 0 10 (.node ⟨1, 1920, 1080⟩ [.node ⟨10, 640, 480⟩ []])),
    .press .xi2 272, .release .xi2 272, .requestMove 0 (some (⟨100, 100⟩, ⟨120, 110⟩))]

/-- A late request begins a drag that nothing holds. -/
theorem lateMove_unheld : ¬ ∀ (root : HostNode) (as : List MoveResizeAction) (v : MoveResizeSession),
    Run.run step (init root) as = some v → v.DragHeld := by
  intro h
  have hany : (Run.run step (init ⟨1, 1920, 1080⟩) lateMove).any (fun v => !decide v.DragHeld) = true := by
    decide +kernel
  obtain ⟨v, hv, hnot⟩ := (Option.any_eq_true ..).mp hany
  rw [Bool.not_eq_true', decide_eq_false_iff_not] at hnot
  exact hnot (h ⟨1, 1920, 1080⟩ lateMove v hv)

end MoveResizeSession

end Wlx
