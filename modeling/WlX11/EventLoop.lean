import WlX11.Lib.ReplyQueue
import WlX11.Lib.Run
import WlX11.MoveResize

/-!
# WlX11 — the program's own X connection in the event loop

`main` adds the descriptor of `server.xcb` to the `wl_event_loop`, with `handle_xcb_readable` for when it
is readable. That handler polls until there is no event. Every other callback of the loop that waits for a
reply on the connection moves the events ahead of the reply into xcb's queue, where the descriptor does
not show them.

* **`LoopSession.processCursorMotion`** — the replies a motion from the backend's connection waits for.
* **`LoopSession.Drained`** — no event is in xcb's queue when control is back in the loop.
* **`LoopSession.drained_iff`** — along a run it stays so exactly if no callback but
  `handle_xcb_readable` waits for a reply that has an event ahead of it.
-/

namespace Wlx

open ReplyQueue

/-- `query_root_pointer_position`: the events ahead of the reply, and what the reply says. -/
structure RootQuery (ε : Type) where
  ahead : List ε
  reply : Option Point

/-- What a motion meets: the time, the windows that are dragged, the root pointer's position, and the
events ahead of the further replies `dnd_out_update_position` and `surface_under_root_pointer` wait
for. -/
structure MotionEnv (ε : Type) where
  now : Timespec
  target : Nat → Option XWindow
  pointer : RootQuery ε
  dndOut : List (List ε)
  hitTest : List (List ε)

/-- The connection, with what of the program's state decides about the replies a motion waits for. -/
structure LoopSession (ε : Type) where
  conn : Conn ε
  drag : InteractiveDrag
  /-- `dnd_out_active`, with a text. -/
  dndOutActive : Bool

/-- What happens between the X server, the event loop and the program. -/
inductive LoopAction (ε : Type) where
  | arrive (events : List ε)
  /-- The loop calls `handle_xcb_readable`. -/
  | readable (turns : List (Turn ε)) (drag : InteractiveDrag) (dndOutActive : Bool)
  /-- The backend's connection has a motion, and `server_cursor_motion` runs. -/
  | motion (env : MotionEnv ε)
  /-- Any other callback of the loop, with the replies it waits for: requests of Wayland clients, the
  backend's other events, the descriptors of the clipboard; and `main` before the loop runs. -/
  | callback (replies : List (List ε)) (drag : InteractiveDrag) (dndOutActive : Bool)

namespace LoopSession

variable {ε : Type}

/-- After `xcb_connect`. -/
def init : LoopSession ε := ⟨⟨[], []⟩, .idle, false⟩

/-- `update_interactive_drag`: it waits for the pointer's position unless it is too early. -/
def updateInteractiveDrag (v : LoopSession ε) (env : MotionEnv ε) : List (List ε) × InteractiveDrag :=
  (if ¬v.drag.Running then []
    else match v.drag.dragThrottleReady env.now with
      | none => []
      | some _ => [env.pointer.ahead],
    (v.drag.updateInteractiveDrag env.target env.now env.pointer.reply).1)

/-- `surface_under_root_pointer`: without the pointer's position there is nothing to look for. -/
def surfaceUnderRootPointer (env : MotionEnv ε) : List (List ε) :=
  env.pointer.ahead :: if env.pointer.reply.isSome then env.hitTest else []

/-- `process_cursor_motion`: the replies it waits for, and the drag it leaves. -/
def processCursorMotion (v : LoopSession ε) (env : MotionEnv ε) : List (List ε) × InteractiveDrag :=
  if v.drag.Running then v.updateInteractiveDrag env
  else ((if v.dndOutActive then env.dndOut else []) ++ surfaceUnderRootPointer env, v.drag)

def step (v : LoopSession ε) : LoopAction ε → Option (LoopSession ε)
  | .arrive events => some { v with conn := v.conn.arrive events }
  | .readable turns drag dndOutActive =>
    -- the descriptor shows what is in the socket, and nothing else
    if v.conn.socket ≠ [] then
      (v.conn.drainAll turns).map fun r => ⟨r.2, drag, dndOutActive⟩
    else none
  | .motion env =>
    let (replies, drag) := v.processCursorMotion env
    some { v with conn := v.conn.awaitReplies replies, drag := drag }
  | .callback replies drag dndOutActive => some ⟨v.conn.awaitReplies replies, drag, dndOutActive⟩

/-- xcb's queue is empty. -/
def Drained (v : LoopSession ε) : Prop := v.conn.queue = []

instance (v : LoopSession ε) : Decidable v.Drained := inferInstanceAs (Decidable (_ = []))

/-- It is empty when control is back in the event loop. -/
def StaysDrained (v : LoopSession ε) (a : LoopAction ε) : Prop := ∀ v', v.step a = some v' → v'.Drained

/-- Nothing is in the socket, and nothing comes ahead of the replies. -/
def Quiet (v : LoopSession ε) (replies : List (List ε)) : Prop :=
  v.conn.socket = [] ∧ ∀ ahead ∈ replies, ahead = []

instance (v : LoopSession ε) (replies : List (List ε)) : Decidable (v.Quiet replies) :=
  inferInstanceAs (Decidable (_ ∧ _))

/-- The motion waits for the pointer's position: it is not one that a drag skips. -/
def Asks (v : LoopSession ε) (env : MotionEnv ε) : Prop :=
  v.drag.Running → (v.drag.dragThrottleReady env.now).isSome = true

instance (v : LoopSession ε) (env : MotionEnv ε) : Decidable (v.Asks env) :=
  inferInstanceAs (Decidable (_ → _))

/-- Where a callback other than `handle_xcb_readable` waits for replies, it is quiet. -/
def WaitsQuietly (v : LoopSession ε) : LoopAction ε → Prop
  | .motion env =>
    (v.Asks env → v.Quiet [env.pointer.ahead]) ∧
      (¬v.drag.Running → (v.dndOutActive = true → v.Quiet env.dndOut) ∧
        (env.pointer.reply.isSome = true → v.Quiet env.hitTest))
  | .callback replies .. => replies ≠ [] → v.Quiet replies
  | .arrive _ | .readable .. => True

instance (v : LoopSession ε) : (a : LoopAction ε) → Decidable (v.WaitsQuietly a)
  | .motion _ => inferInstanceAs (Decidable ((_ → _) ∧ (_ → _ ∧ _)))
  | .callback .. => inferInstanceAs (Decidable (_ → _))
  | .arrive _ | .readable .. => isTrue trivial

variable {v v' : LoopSession ε}

theorem quiet_append {as bs : List (List ε)} : v.Quiet (as ++ bs) ↔ v.Quiet as ∧ v.Quiet bs := by
  unfold Quiet
  rw [List.forall_mem_append]
  exact and_and_left

theorem quiet_nil (h : v.conn.socket = []) : v.Quiet [] := ⟨h, fun _ hmem => absurd hmem List.not_mem_nil⟩

/-- The replies a motion waits for come quietly exactly if each that its state asks for does. -/
theorem quiet_processCursorMotion_iff (env : MotionEnv ε) :
    ((v.processCursorMotion env).1 ≠ [] → v.Quiet (v.processCursorMotion env).1) ↔
      v.WaitsQuietly (.motion env) := by
  show _ ↔ (v.Asks env → v.Quiet [env.pointer.ahead]) ∧
    (¬v.drag.Running → (v.dndOutActive = true → v.Quiet env.dndOut) ∧
      (env.pointer.reply.isSome = true → v.Quiet env.hitTest))
  unfold processCursorMotion Asks
  by_cases hrunning : v.drag.Running
  · -- a drag: the pointer's position, if it is not too early
    unfold updateInteractiveDrag
    rw [if_pos hrunning, if_neg (not_not_intro hrunning)]
    cases v.drag.dragThrottleReady env.now with
    | none => simp [hrunning]
    | some d => simp [hrunning]
  · -- a hit test: the position is asked for in any case
    have hasks : (if v.dndOutActive then env.dndOut else []) ++ surfaceUnderRootPointer env ≠ [] := by
      unfold surfaceUnderRootPointer
      simp
    rw [if_neg hrunning, forall_prop_of_true hasks, forall_prop_of_true fun h => absurd h hrunning,
      forall_prop_of_true hrunning, quiet_append, surfaceUnderRootPointer,
      ← List.singleton_append, quiet_append]
    constructor
    · rintro ⟨hdnd, hpointer, hhit⟩
      refine ⟨hpointer, fun hactive => ?_, fun hreply => ?_⟩
      · rwa [if_pos hactive] at hdnd
      · rwa [if_pos hreply] at hhit
    · rintro ⟨hpointer, hdnd, hhit⟩
      refine ⟨?_, hpointer, ?_⟩
      · split
        · rename_i hactive
          exact hdnd hactive
        · exact quiet_nil hpointer.1
      · split
        · rename_i hreply
          exact hhit hreply
        · exact quiet_nil hpointer.1

theorem awaits_drained_iff (h : v.Drained) {replies : List (List ε)} :
    (v.conn.awaitReplies replies).queue = [] ↔ (replies ≠ [] → v.Quiet replies) :=
  Conn.awaitReplies_queue_eq_nil_iff.trans (and_iff_right h)

theorem staysDrained_iff {a : LoopAction ε} (h : v.Drained) (hstep : v.step a = some v') :
    v.StaysDrained a ↔ v.WaitsQuietly a := by
  refine (Run.forall_step_iff hstep).trans ?_
  cases a with
  | arrive events =>
    obtain rfl := Option.some.inj hstep
    exact iff_of_true h trivial
  | readable turns drag dndOutActive =>
    -- whatever its handlers wait for, the loop polls again
    obtain ⟨-, hstep⟩ := Option.ite_none_right_eq_some.mp hstep
    obtain ⟨r, hdrain, rfl⟩ := Option.map_eq_some_iff.mp hstep
    obtain ⟨handled, c', hdrain', hnil, -⟩ := v.conn.drainAll_spec turns
    rw [hdrain] at hdrain'
    cases hdrain'
    exact iff_of_true (List.append_eq_nil_iff.mp hnil).1 trivial
  | motion env =>
    obtain rfl := Option.some.inj hstep
    exact (awaits_drained_iff h).trans (quiet_processCursorMotion_iff env)
  | callback replies drag dndOutActive =>
    obtain rfl := Option.some.inj hstep
    exact awaits_drained_iff h

/-- **No event is kept from the event loop.** Along a run of events that arrive, of callbacks and of
motions, whatever replies they wait for, xcb's queue is empty whenever control is back in the event loop,
exactly if no callback but `handle_xcb_readable` waits for a reply while an event is in the socket or comes
ahead of the reply. -/
theorem drained_iff {as : List (LoopAction ε)} (hrun : Run.run step init as = some v) :
    Run.Along step StaysDrained init as ↔ Run.Along step WaitsQuietly init as := by
  refine Run.along_iff_of_step (I := Drained) ?_ ?_ rfl hrun
  · intro v a v' _ hstays hstep
    exact hstays v' hstep
  · intro v a v' h hstep
    exact staysDrained_iff h hstep

/-- `main` resolves its atoms; events arrive and are handled, more of them ahead of the replies their
handlers wait for; a toplevel is dragged, and a motion that comes too early waits for nothing while an
event is in the socket. -/
def busyRun : List (LoopAction Nat) :=
  let drag := { InteractiveDrag.idle with moveWin := some 0, lastSendAt := ⟨1, 0⟩ }
  [.callback [[], []] .idle false, .motion ⟨⟨1, 0⟩, fun _ => none, ⟨[], some ⟨3, 4⟩⟩, [], [[], []]⟩,
    .arrive [1, 2], .readable [⟨[[3], []], [4]⟩, ⟨[], []⟩, ⟨[[5]], []⟩] drag false, .arrive [6],
    .motion ⟨⟨1, 9⟩, fun _ => some 10, ⟨[7], some ⟨3, 4⟩⟩, [], []⟩, .readable [] drag false]

theorem busyRun_drained : Run.Along step StaysDrained init busyRun := by
  have hsome : (Run.run step init busyRun).isSome = true := by decide +kernel
  obtain ⟨v, hv⟩ := Option.isSome_iff_exists.mp hsome
  exact (drained_iff hv).mpr (by decide +kernel)

/-- A motion of the backend's connection finds an event ahead of the pointer's position. -/
theorem motion_keeps_event : ¬ ∀ (as : List (LoopAction Nat)) (v : LoopSession Nat),
    Run.run step init as = some v → v.Drained := by
  intro h
  have hany : (Run.run step init
      [.arrive [1], .motion ⟨⟨1, 0⟩, fun _ => none, ⟨[], some ⟨3, 4⟩⟩, [], [[]]⟩]).any
      (fun v => !decide v.Drained) = true := by decide +kernel
  obtain ⟨v, hv, hnot⟩ := (Option.any_eq_true ..).mp hany
  rw [Bool.not_eq_true', decide_eq_false_iff_not] at hnot
  exact hnot (h _ v hv)

end LoopSession

end Wlx
