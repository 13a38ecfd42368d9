import WlX11.MoveResize

/-!
# WlX11 — what an interactive drag asks for

`update_interactive_drag` computes the window's geometry from the pointer's position and what was noted
when the drag began. Two things come between that geometry and what a user expects of a drag: a side
that gets too short is clamped after the position has been computed, and a motion within
`WLX_DRAG_THROTTLE_MS` of the last request is dropped for good.

* **`InteractiveDrag.geometryAt`** — the request a pointer position makes.
* **`ResizeHistory.keepsEdges_iff`** — a resize keeps the edges opposite to the dragged ones in place
  exactly while the clamp does nothing to a left or top drag.
* **`MotionHistory.endsComplete_iff`** — a drag ends with the geometry of its last motion exactly if that
  motion was not withheld, or asks for nothing new.
-/

namespace Wlx

namespace InteractiveDrag

/-- The request of a drag with the pointer at `p`. -/
def geometryAt (target : Nat → Option XWindow) (p : Point) (d : InteractiveDrag) :
    Option GeometryRequest :=
  match d.moveWin with
  | some id => (target id).map fun w =>
    ⟨w, ⟨p.x + d.moveOffset.x - d.correction.x, p.y + d.moveOffset.y - d.correction.y⟩, none⟩
  | none => (d.resizeWin.bind target).map fun w =>
    let box := resizedBox d.resizeEdges d.resizeStart (p.x - d.resizeStartPointer.x)
      (p.y - d.resizeStartPointer.y)
    ⟨w, ⟨box.x - d.correction.x, box.y - d.correction.y⟩, some box.size⟩

/-- A motion of the running drag is not withheld: `drag_throttle_ready`. -/
def Timely (now : Timespec) (d : InteractiveDrag) : Prop :=
  d.Running ∧ (d.dragThrottleReady now).isSome = true

instance (now : Timespec) (d : InteractiveDrag) : Decidable (d.Timely now) :=
  inferInstanceAs (Decidable (_ ∧ _))

variable {target : Nat → Option XWindow} {now : Timespec} {pointer : Option Point} {d : InteractiveDrag}

/-- **A motion.** What is not withheld asks for the geometry of the pointer's position; whether it finds
one or not, the throttle starts again. -/
theorem updateInteractiveDrag_eq (target : Nat → Option XWindow) (now : Timespec)
    (pointer : Option Point) (d : InteractiveDrag) :
    d.updateInteractiveDrag target now pointer =
      if d.Timely now then
        let req := pointer.bind fun p => d.geometryAt target p
        ({ d with
            lastSendAt := now
            lastRequested := (req.map (·.pos)).getD d.lastRequested }, req)
      else (d, none) := by
  by_cases hrunning : d.Running
  · cases hready : d.dragThrottleReady now with
    | none =>
      rw [if_neg fun h : d.Timely now => by simpa [hready] using h.2]
      unfold updateInteractiveDrag
      rw [if_neg (not_not_intro hrunning), hready]
    | some d' =>
      obtain ⟨-, hd⟩ : _ ∧ { d with lastSendAt := now } = d' := by
        have hready := hready
        unfold dragThrottleReady at hready
        simpa [eq_comm] using hready
      rw [if_pos (show d.Timely now from ⟨hrunning, by rw [hready]; rfl⟩)]
      unfold updateInteractiveDrag
      rw [if_neg (not_not_intro hrunning), hready, ← hd]
      cases pointer with
      | none => rfl
      | some p =>
        simp only [geometryAt, Option.bind_some]
        cases d.moveWin with
        | some id =>
          dsimp only
          cases target id <;> rfl
        | none =>
          dsimp only
          cases d.resizeWin.bind target <;> rfl
  · rw [if_neg fun h : d.Timely now => hrunning h.1]
    unfold updateInteractiveDrag
    rw [if_pos hrunning]

/-- A motion learns nothing, and remembers the position it has asked for. -/
theorem updateInteractiveDrag_spec (target : Nat → Option XWindow) (now : Timespec)
    (pointer : Option Point) (d : InteractiveDrag) :
    (d.updateInteractiveDrag target now pointer).1.correction = d.correction ∧
      (d.updateInteractiveDrag target now pointer).1.moveOffset = d.moveOffset ∧
      (d.updateInteractiveDrag target now pointer).1.lastRequested =
        ((d.updateInteractiveDrag target now pointer).2.map (·.pos)).getD d.lastRequested := by
  rw [updateInteractiveDrag_eq]
  split <;> exact ⟨rfl, rfl, rfl⟩

/-- A request with a size is that of a resize. -/
theorem geometryAt_size {p : Point} {req : GeometryRequest} {size : Size}
    (h : d.geometryAt target p = some req) (hsize : req.size = some size) :
    d.moveWin = none ∧ d.resizeWin ≠ none := by
  unfold geometryAt at h
  cases hmove : d.moveWin with
  | some id =>
    rw [hmove] at h
    obtain ⟨w, -, rfl⟩ := Option.map_eq_some_iff.mp h
    cases hsize
  | none =>
    rw [hmove] at h
    obtain ⟨w, hw, rfl⟩ := Option.map_eq_some_iff.mp h
    refine ⟨rfl, fun hnone => ?_⟩
    rw [hnone] at hw
    cases hw

end InteractiveDrag

namespace MoveResizeSession

/-- The window a drag of this toplevel configures. -/
def dragTarget (v : MoveResizeSession) (id : Nat) : Option XWindow :=
  (v.host.window id).bind (·.configureTargetWindow)

/-- What the step asks of the host. -/
def request (v : MoveResizeSession) : MoveResizeAction → Option GeometryRequest
  | .motion now pointer => (v.drag.updateInteractiveDrag v.dragTarget now pointer).2
  | _ => none

theorem request_motion (v : MoveResizeSession) (now : Timespec) (pointer : Option Point) :
    v.request (.motion now pointer) =
      if v.drag.Timely now then pointer.bind fun p => v.drag.geometryAt v.dragTarget p else none := by
  show (v.drag.updateInteractiveDrag v.dragTarget now pointer).2 = _
  rw [InteractiveDrag.updateInteractiveDrag_eq]
  split <;> rfl

end MoveResizeSession

/-! ## Edges -/

/-- What a resize began with. -/
structure ResizeStart where
  edges : WlrEdges
  box : Box
  pointer : Point
deriving DecidableEq

namespace ResizeStart

/-- The edges opposite to the dragged ones are where they were. -/
def Fixed (start : ResizeStart) (box : Box) : Prop :=
  (start.edges.left = true → box.x + box.width = start.box.x + start.box.width) ∧
    (start.edges.right = true → box.x = start.box.x) ∧
    (start.edges.top = true → box.y + box.height = start.box.y + start.box.height) ∧
    (start.edges.bottom = true → box.y = start.box.y)

/-- The box of the resize with the pointer at `p`. -/
def boxAt (start : ResizeStart) (p : Point) : Box :=
  InteractiveDrag.resizedBox start.edges start.box (p.x - start.pointer.x) (p.y - start.pointer.y)

/-- With the pointer at `p` a left or top drag leaves the window no shorter than the minimum; a drag of
two opposite edges, which has nothing to keep in place, does not move. -/
def Unclamped (start : ResizeStart) (p : Point) : Prop :=
  (start.edges.left = true →
      wlxMinWindowSize ≤ start.box.width - (p.x - start.pointer.x) ∧
        (start.edges.right = true → p.x = start.pointer.x)) ∧
    (start.edges.top = true →
      wlxMinWindowSize ≤ start.box.height - (p.y - start.pointer.y) ∧
        (start.edges.bottom = true → p.y = start.pointer.y))

instance (start : ResizeStart) (box : Box) : Decidable (start.Fixed box) :=
  inferInstanceAs (Decidable (_ ∧ _ ∧ _ ∧ _))

instance (start : ResizeStart) (p : Point) : Decidable (start.Unclamped p) :=
  inferInstanceAs (Decidable (_ ∧ _))

/-- In one dimension: the clamp changes the size, and the position is computed without it. -/
theorem side_fixed_iff (first last : Bool) (pos size d : Int) :
    (first = true → (if first then pos + d else pos) +
        max wlxMinWindowSize (if first then size - d else if last then size + d else size) = pos + size) ∧
      (last = true → (if first then pos + d else pos) = pos) ↔
    (first = true → wlxMinWindowSize ≤ size - d ∧ (last = true → d = 0)) := by
  unfold wlxMinWindowSize
  cases first <;> cases last <;> simp <;> omega

/-- **The box of a resize** has the opposite edges in place exactly if nothing was clamped. -/
theorem fixed_boxAt_iff (start : ResizeStart) (p : Point) :
    start.Fixed (start.boxAt p) ↔ start.Unclamped p := by
  have hx := side_fixed_iff start.edges.left start.edges.right start.box.x start.box.width
    (p.x - start.pointer.x)
  have hy := side_fixed_iff start.edges.top start.edges.bottom start.box.y start.box.height
    (p.y - start.pointer.y)
  rw [sub_eq_zero] at hx hy
  unfold Fixed Unclamped
  rw [← hx, ← hy, and_assoc]
  rfl

end ResizeStart

/-- What the resize that runs began with, as the drag fields have it. -/
def InteractiveDrag.start (d : InteractiveDrag) : ResizeStart :=
  ⟨d.resizeEdges, d.resizeStart, d.resizeStartPointer⟩

/-- The session, and what the last resize to begin was told: the edges by the client, the geometry and
the pointer's position by the X server. -/
structure ResizeHistory where
  session : MoveResizeSession
  began : ResizeStart

namespace ResizeHistory

open MoveResizeSession (Begins)

def init (root : HostNode) : ResizeHistory := ⟨.init root, InteractiveDrag.idle.start⟩

/-- The start a request is told of. -/
def startOf (edges : WlrEdges) (win : XToplevel) (began : ResizeStart) :
    Option (Box × Point) → ResizeStart
  | some (box, pointer) => if win.ewmhTargetWindow ≠ none then ⟨edges, box, pointer⟩ else began
  | none => began

def beganAfter (h : ResizeHistory) : MoveResizeAction → ResizeStart
  | .requestResize id edges reply => match h.session.host.window id with
    | some win => startOf edges win h.began reply
    | none => h.began
  | _ => h.began

def step (h : ResizeHistory) (a : MoveResizeAction) : Option ResizeHistory :=
  (h.session.step a).map fun session => ⟨session, h.beganAfter a⟩

/-- A geometry requested with no correction learned keeps the opposite edges where they were when the
resize began. -/
def KeepsEdges (h : ResizeHistory) (a : MoveResizeAction) : Prop :=
  ∀ req ∈ h.session.request a, ∀ size ∈ req.size, h.session.drag.correction = ⟨0, 0⟩ →
    h.began.Fixed ⟨req.pos.x, req.pos.y, size.width, size.height⟩

/-- A motion that a resize is asked for, with no correction learned, does not reach the clamp. -/
def Unclamped (h : ResizeHistory) : MoveResizeAction → Prop
  | .motion now pointer =>
    h.session.drag.Timely now → h.session.drag.moveWin = none →
      h.session.drag.resizeWin.bind h.session.dragTarget ≠ none →
      h.session.drag.correction = ⟨0, 0⟩ → ∀ p ∈ pointer, h.began.Unclamped p
  | _ => True

instance (h : ResizeHistory) (a : MoveResizeAction) : Decidable (h.KeepsEdges a) :=
  inferInstanceAs (Decidable (∀ req ∈ h.session.request a, ∀ size ∈ req.size, _))

instance (h : ResizeHistory) : (a : MoveResizeAction) → Decidable (h.Unclamped a)
  | .motion _ pointer => inferInstanceAs (Decidable (_ → _ → _ → _ → ∀ p ∈ pointer, _))
  | .host _ | .requestMove .. | .requestResize .. | .press .. | .release .. | .configureNotify .. =>
    .isTrue trivial

end ResizeHistory

namespace InteractiveDrag

variable {d : InteractiveDrag}

/-- With nothing learned, a resize asks for the box of the pointer's position. -/
theorem geometryAt_resize {target : Nat → Option XWindow} {p : Point} {w : XWindow}
    (hmove : d.moveWin = none) (htarget : d.resizeWin.bind target = some w)
    (hcorrection : d.correction = ⟨0, 0⟩) :
    d.geometryAt target p =
      some ⟨w, ⟨(d.start.boxAt p).x, (d.start.boxAt p).y⟩, some (d.start.boxAt p).size⟩ := by
  unfold geometryAt
  rw [hmove, htarget, hcorrection]
  simp only [Option.map_some, Int.sub_zero]
  rfl

theorem beginInteractiveMove_start (win : XToplevel) (reply : Option (Point × Point))
    (d : InteractiveDrag) : (d.beginInteractiveMove win reply).start = d.start := by
  unfold beginInteractiveMove
  split <;> rfl

theorem beginInteractiveResize_start (win : XToplevel) (edges : WlrEdges) (reply : Option (Box × Point))
    (d : InteractiveDrag) :
    (d.beginInteractiveResize win edges reply).start =
      ResizeHistory.startOf edges win d.start reply := by
  have houter := outerPositionWindow_eq_none_iff win
  unfold beginInteractiveResize ResizeHistory.startOf XToplevel.configureTargetWindow
  by_cases htarget : win.ewmhTargetWindow = none
  · simp [htarget, houter.mpr htarget]
    cases reply <;> rfl
  · obtain ⟨outer, houter⟩ := Option.ne_none_iff_exists'.mp (mt houter.mp htarget)
    obtain ⟨target, htarget⟩ := Option.ne_none_iff_exists'.mp htarget
    have hsize : win.contentXwin.or win.xwin = some target := htarget
    simp only [houter, htarget, hsize]
    cases reply <;> rfl

theorem updateInteractiveDrag_start (target : Nat → Option XWindow) (now : Timespec)
    (pointer : Option Point) (d : InteractiveDrag) :
    (d.updateInteractiveDrag target now pointer).1.start = d.start := by
  rw [updateInteractiveDrag_eq]
  split <;> rfl

theorem learnCorrection_start (active : Option XToplevel) (w : XWindow) (pos : Point)
    (d : InteractiveDrag) : (d.learnCorrection active w pos).start = d.start := by
  unfold learnCorrection
  cases active with
  | none => rfl
  | some win =>
    dsimp only
    split <;> rfl

end InteractiveDrag

namespace ResizeHistory

open InteractiveDrag

variable {h h' : ResizeHistory}

/-- The drag fields hold what the resize began with. -/
def Noted (h : ResizeHistory) : Prop := h.session.drag.start = h.began

theorem noted_init (root : HostNode) : (init root).Noted := rfl

theorem Noted.step (hn : h.Noted) {a : MoveResizeAction} (hstep : h.step a = some h') : h'.Noted := by
  obtain ⟨session, hsession, rfl⟩ := Option.map_eq_some_iff.mp hstep
  unfold Noted at hn ⊢
  cases a with
  | host a =>
    obtain ⟨host, -, rfl⟩ := Option.map_eq_some_iff.mp hsession
    cases a with
    | unmap id =>
      show (if _ then h.session.drag.forget id else h.session.drag).start = h.began
      split <;> exact hn
    | newToplevel id => exact hn
    | map id own t => exact hn
    | reparent id t => exact hn
    | destroy id => exact hn
  | requestMove id reply =>
    obtain ⟨win, -, rfl⟩ := Option.map_eq_some_iff.mp hsession
    exact (beginInteractiveMove_start win reply h.session.drag).trans hn
  | requestResize id edges reply =>
    obtain ⟨win, hwin, rfl⟩ := Option.map_eq_some_iff.mp hsession
    simp only [beganAfter, hwin]
    rw [beginInteractiveResize_start, hn]
  | press path button =>
    obtain rfl := Option.some.inj hsession
    exact hn
  | release path button =>
    obtain rfl := Option.some.inj hsession
    cases path <;> exact hn
  | motion now pointer =>
    obtain rfl := Option.some.inj hsession
    exact (updateInteractiveDrag_start _ now pointer h.session.drag).trans hn
  | configureNotify w pos =>
    obtain rfl := Option.some.inj hsession
    exact (learnCorrection_start h.session.active w pos h.session.drag).trans hn

/-- What one motion asks for. -/
theorem keepsEdges_motion_iff (hn : h.Noted) (now : Timespec) (pointer : Option Point) :
    h.KeepsEdges (.motion now pointer) ↔ h.Unclamped (.motion now pointer) := by
  unfold KeepsEdges Unclamped
  rw [MoveResizeSession.request_motion]
  by_cases htimely : h.session.drag.Timely now
  · rw [if_pos htimely]
    cases pointer with
    | none => simp
    | some p =>
      rw [Option.bind_some]
      cases hmove : h.session.drag.moveWin with
      | some id =>
        -- a move leaves the size out
        refine iff_of_true (fun req hreq size hsize => ?_) fun _ hnone => by cases hnone
        have hnone := (geometryAt_size hreq hsize).1
        rw [hmove] at hnone
        cases hnone
      | none =>
        cases htarget : h.session.drag.resizeWin.bind h.session.dragTarget with
        | none => simp [geometryAt, hmove, htarget]
        | some w =>
          by_cases hcorrection : h.session.drag.correction = ⟨0, 0⟩
          · rw [geometryAt_resize hmove htarget hcorrection, hn]
            simp only [Option.mem_def, Option.some.injEq, forall_eq', hcorrection, htimely,
              forall_const, ne_eq, reduceCtorEq, not_false_eq_true]
            exact h.began.fixed_boxAt_iff p
          · simp [hcorrection]
  · rw [if_neg htimely]
    simp [htimely]

/-- **A resize and its edges.** Along a run, every geometry requested with no correction learned keeps
the edges opposite to the dragged ones exactly where they were when the resize began, if and only if no
motion of a left or top drag that is answered would leave the window shorter than
`WLX_MIN_WINDOW_SIZE`, and none of a drag of two opposite edges moves. -/
theorem keepsEdges_iff {root : HostNode} {as : List MoveResizeAction}
    (hrun : Run.run step (init root) as = some h) :
    Run.Along step KeepsEdges (init root) as ↔ Run.Along step Unclamped (init root) as := by
  refine Run.along_iff_of_step (I := Noted) ?_ ?_ (noted_init root) hrun
  · intro h a h' hn _ hstep
    exact hn.step hstep
  · intro h a h' hn _
    cases a with
    | motion now pointer => exact keepsEdges_motion_iff hn now pointer
    | host a => exact iff_of_true (fun req hreq => by cases hreq) trivial
    | requestMove id reply => exact iff_of_true (fun req hreq => by cases hreq) trivial
    | requestResize id edges reply => exact iff_of_true (fun req hreq => by cases hreq) trivial
    | press path button => exact iff_of_true (fun req hreq => by cases hreq) trivial
    | release path button => exact iff_of_true (fun req hreq => by cases hreq) trivial
    | configureNotify w pos => exact iff_of_true (fun req hreq => by cases hreq) trivial

/-- A toplevel is mapped, and its client has it resized by the bottom right corner. -/
def growingRun : List MoveResizeAction :=
  [.host (.newToplevel 0), .host (.map 0 10 (.node ⟨1, 1920, 1080⟩ [.node ⟨10, 640, 480⟩ []])),
    .press .xi2 272, .requestResize 0 ⟨false, true, false, true⟩ (some (⟨110, 105, 640, 480⟩, ⟨740, 580⟩)),
    .motion ⟨1, 0⟩ (some ⟨20, 580⟩), .motion ⟨2, 0⟩ (some ⟨800, 600⟩), .release .xi2 272]

theorem growingRun_keepsEdges : Run.Along step KeepsEdges (init ⟨1, 1920, 1080⟩) growingRun := by
  have hsome : (Run.run step (init ⟨1, 1920, 1080⟩) growingRun).isSome = true := by decide +kernel
  obtain ⟨h, hh⟩ := Option.isSome_iff_exists.mp hsome
  exact (keepsEdges_iff hh).mpr (by decide +kernel)

/-- The same window, 640 wide, is dragged by its left edge 600 pixels to the right. -/
def shrinkingRun : List MoveResizeAction :=
  [.host (.newToplevel 0), .host (.map 0 10 (.node ⟨1, 1920, 1080⟩ [.node ⟨10, 640, 480⟩ []])),
    .press .xi2 272, .requestResize 0 ⟨false, false, true, false⟩ (some (⟨110, 105, 640, 480⟩, ⟨112, 300⟩)),
    .motion ⟨1, 0⟩ (some ⟨712, 300⟩)]

/-- Its right edge, which was at 750, is pushed to 760. -/
theorem shrinkingRun_pushes : ¬ ∀ (root : HostNode) (as : List MoveResizeAction) (h : ResizeHistory),
    Run.run step (init root) as = some h → Run.Along step KeepsEdges (init root) as := by
  intro hall
  have hsome : (Run.run step (init ⟨1, 1920, 1080⟩) shrinkingRun).isSome = true := by decide +kernel
  obtain ⟨h, hh⟩ := Option.isSome_iff_exists.mp hsome
  have hkeeps := hall ⟨1, 1920, 1080⟩ shrinkingRun h hh
  exact absurd hkeeps (by decide +kernel)

end ResizeHistory

/-! ## The last motion -/

/-- A drag is told apart by its kind and its window; where both kinds are begun it is the move that
motions drive. -/
inductive DragKind where
  | move (id : Nat)
  | resize (id : Nat)
deriving DecidableEq

/-- The drag that motions drive. -/
def InteractiveDrag.driven (d : InteractiveDrag) : Option DragKind :=
  match d.moveWin with
  | some id => some (.move id)
  | none => d.resizeWin.map .resize

/-- The motions of one drag. -/
structure DragMotions where
  /-- the geometry of the last motion that was not withheld -/
  timely : Option GeometryRequest
  /-- that of the last motion, if it was withheld -/
  withheld : Option GeometryRequest
  /-- what was last asked of the host -/
  asked : Option GeometryRequest

namespace DragMotions

/-- A drag that has just begun. -/
def none : DragMotions := ⟨.none, .none, .none⟩

/-- The geometry computed from the pointer's position at the last motion. -/
def last (m : DragMotions) : Option GeometryRequest := m.withheld.or m.timely

/-- Another motion, whose geometry is `req`, and which asked the host for `asked`. -/
def record (m : DragMotions) (timely : Bool) (req asked : Option GeometryRequest) : DragMotions :=
  match req with
  | .none => { m with asked := asked.or m.asked }
  | some req =>
    if timely then ⟨some req, .none, asked.or m.asked⟩
    else { m with withheld := some req, asked := asked.or m.asked }

end DragMotions

/-- The session, and the motions of the drag that runs. -/
structure MotionHistory where
  session : MoveResizeSession
  motions : DragMotions

namespace MotionHistory

open InteractiveDrag

def init (root : HostNode) : MotionHistory := ⟨.init root, .none⟩

/-- The motions of the drag that ran before the step. -/
def motionsAfter (h : MotionHistory) : MoveResizeAction → DragMotions
  | .motion now pointer =>
    h.motions.record (decide (h.session.drag.Timely now))
      (pointer.bind fun p => h.session.drag.geometryAt h.session.dragTarget p)
      (h.session.request (.motion now pointer))
  | _ => h.motions

def step (h : MotionHistory) (a : MoveResizeAction) : Option MotionHistory :=
  (h.session.step a).map fun session =>
    ⟨session, if session.drag.driven = h.session.drag.driven then h.motionsAfter a else .none⟩

/-- The step ends the drag that ran. -/
def Ends (h : MotionHistory) (a : MoveResizeAction) : Prop :=
  h.session.drag.driven ≠ none ∧
    ∀ session ∈ h.session.step a, session.drag.driven ≠ h.session.drag.driven

/-- When a drag ends, what was last asked of the host is the geometry of the last motion. -/
def EndsComplete (h : MotionHistory) (a : MoveResizeAction) : Prop :=
  h.Ends a → h.motions.asked = h.motions.last

/-- When a drag ends, its last motion was not withheld, or would have asked for nothing new. -/
def EndsTimely (h : MotionHistory) (a : MoveResizeAction) : Prop :=
  h.Ends a → ∀ req ∈ h.motions.withheld, h.motions.timely = some req

instance (h : MotionHistory) (a : MoveResizeAction) : Decidable (h.Ends a) :=
  inferInstanceAs (Decidable (_ ∧ ∀ session ∈ h.session.step a, _))

instance (h : MotionHistory) (a : MoveResizeAction) : Decidable (h.EndsComplete a) :=
  inferInstanceAs (Decidable (_ → _))

instance (h : MotionHistory) (a : MoveResizeAction) : Decidable (h.EndsTimely a) :=
  inferInstanceAs (Decidable (_ → ∀ req ∈ h.motions.withheld, _))

variable {h h' : MotionHistory}

/-- What was asked for is what the last motion that was not withheld computed. -/
def Answered (h : MotionHistory) : Prop := h.motions.asked = h.motions.timely

/-- A motion is answered on the spot or not at all. -/
theorem record_answered {m : DragMotions} (hm : m.asked = m.timely) (timely : Prop) [Decidable timely]
    (req : Option GeometryRequest) :
    (m.record (decide timely) req (if timely then req else none)).asked =
      (m.record (decide timely) req (if timely then req else none)).timely := by
  unfold DragMotions.record
  cases req with
  | none => simpa using hm
  | some req =>
    by_cases htimely : timely
    · simp [htimely]
    · simpa [htimely] using hm

theorem Answered.motion (ha : h.Answered) (now : Timespec) (pointer : Option Point) :
    (h.motionsAfter (.motion now pointer)).asked = (h.motionsAfter (.motion now pointer)).timely := by
  show (h.motions.record _ _ (h.session.request (.motion now pointer))).asked =
    (h.motions.record _ _ (h.session.request (.motion now pointer))).timely
  rw [MoveResizeSession.request_motion]
  exact record_answered ha _ _

theorem Answered.step (ha : h.Answered) {a : MoveResizeAction} (hstep : h.step a = some h') :
    h'.Answered := by
  obtain ⟨session, -, rfl⟩ := Option.map_eq_some_iff.mp hstep
  unfold Answered
  dsimp only
  split
  · cases a with
    | motion now pointer => exact ha.motion now pointer
    | host a => exact ha
    | requestMove id reply => exact ha
    | requestResize id edges reply => exact ha
    | press path button => exact ha
    | release path button => exact ha
    | configureNotify w pos => exact ha
  · rfl

/-- The last motion's geometry is the last timely one's exactly if nothing new was withheld. -/
theorem last_eq_timely_iff (m : DragMotions) :
    m.timely = m.last ↔ ∀ req ∈ m.withheld, m.timely = some req := by
  unfold DragMotions.last
  cases m.withheld with
  | none => simp
  | some req => simp

/-- **The last motion of a drag.** Along a run, each drag that ends, by a release, with its window or by
another drag that takes over, has last asked the host for the geometry of its last motion if and only if
that motion was not withheld by the throttle, or the last one that was not has asked for the same. -/
theorem endsComplete_iff {root : HostNode} {as : List MoveResizeAction}
    (hrun : Run.run step (init root) as = some h) :
    Run.Along step EndsComplete (init root) as ↔ Run.Along step EndsTimely (init root) as := by
  refine Run.along_iff_of_step (I := Answered) ?_ ?_ rfl hrun
  · intro h a h' ha _ hstep
    exact ha.step hstep
  · intro h a h' ha _
    refine imp_congr_right fun _ => ?_
    rw [show h.motions.asked = h.motions.timely from ha]
    exact last_eq_timely_iff h.motions

/-- A toplevel is moved with two motions, 20 ms apart. -/
def steadyMove : List MoveResizeAction :=
  [.host (.newToplevel 0), .host (.map 0 10 (.node ⟨1, 1920, 1080⟩ [.node ⟨10, 640, 480⟩ []])),
    .press .xi2 272, .requestMove 0 (some (⟨100, 100⟩, ⟨120, 110⟩)), .motion ⟨1, 0⟩ (some ⟨130, 115⟩),
    .motion ⟨1, 20000000⟩ (some ⟨140, 120⟩), .release .xi2 272]

theorem steadyMove_complete : Run.Along step EndsComplete (init ⟨1, 1920, 1080⟩) steadyMove := by
  have hsome : (Run.run step (init ⟨1, 1920, 1080⟩) steadyMove).isSome = true := by decide +kernel
  obtain ⟨h, hh⟩ := Option.isSome_iff_exists.mp hsome
  exact (endsComplete_iff hh).mpr (by decide +kernel)

/-- The second motion comes 8 ms after the first, and then the button is let go. -/
def quickMove : List MoveResizeAction :=
  [.host (.newToplevel 0), .host (.map 0 10 (.node ⟨1, 1920, 1080⟩ [.node ⟨10, 640, 480⟩ []])),
    .press .xi2 272, .requestMove 0 (some (⟨100, 100⟩, ⟨120, 110⟩)), .motion ⟨1, 0⟩ (some ⟨130, 115⟩),
    .motion ⟨1, 8000000⟩ (some ⟨140, 120⟩), .release .xi2 272]

/-- The window stays where the first motion took it. -/
theorem quickMove_incomplete : ¬ ∀ (root : HostNode) (as : List MoveResizeAction) (h : MotionHistory),
    Run.run step (init root) as = some h → Run.Along step EndsComplete (init root) as := by
  intro hall
  have hsome : (Run.run step (init ⟨1, 1920, 1080⟩) quickMove).isSome = true := by decide +kernel
  obtain ⟨h, hh⟩ := Option.isSome_iff_exists.mp hsome
  have hcomplete := hall ⟨1, 1920, 1080⟩ quickMove h hh
  exact absurd hcomplete (by decide +kernel)

end MotionHistory

end Wlx
