import WlX11.Lib.Run
import WlX11.Dnd

/-!
# WlX11 — outbound drags as a transition system

What can happen to the outbound half of `dnd.c` in any order: Wayland drags that start and end on the
seat, the read loop of `dnd_out_begin_from_source` and what its nested event loop dispatch lets in,
pointer motions and button releases, and the XDND replies of X11 clients.

Three ghosts record what the properties of a session speak about: the messages sent in each outbound
session, how many targets have been entered so far, and the replies handled since the session began.
A reply carries its real sender and the number of `XdndEnter`s that had been sent when it was sent;
the program sees neither.
-/

namespace Wlx

/-- The messages of one outbound session with their targets, in the order they were sent. -/
abbrev DragTrace := List (XWindow × XdndMessage)

/-- A client message as it was sent. -/
structure HeardMessage where
  sender : XWindow
  /-- how many `XdndEnter`s the bridge had sent then -/
  sentAfter : Nat
  message : XdndMessage
deriving DecidableEq, Repr

/-- The bridge, the seat's drag, the read loops in progress, and the ghosts. -/
structure DragState where
  bridge : Bridge
  /-- `seat->drag`, and whether `server_start_drag` could listen for its end -/
  drag : Option Bool
  /-- the read loops in progress, innermost first -/
  loops : List DragRead
  /-- the outbound sessions so far, the current one first -/
  sessions : List DragTrace
  enters : Nat
  /-- replies handled since the current session began, oldest first -/
  heard : List HeardMessage

/-- The events that reach the drag handlers. `owned` is the reply `dnd_out_finish` asks for. -/
inductive DragAction where
  /-- the seat starts a drag; `listening` says that `drag_destroy` could be attached -/
  | startDrag (source : Option Source) (pipe listening : Bool)
  /-- one turn of the innermost read loop, and where the pointer is then -/
  | poll (result : Poll) (view : PointerView)
  /-- `interactive`: a window is being moved or resized -/
  | motion (interactive : Bool) (view : PointerView)
  | buttonPress
  /-- `endsDrag`: it is the last button of the seat's drag -/
  | buttonRelease (endsDrag owned : Bool)
  /-- the seat's drag ends without that: cancelled, its source gone, its grab lost -/
  | dragEnds (owned : Bool)
  | clientMessage (sender : XWindow) (sentAfter : Nat) (ev : ClientMessage) (owned : Bool)
  /-- the X11 windows of our own toplevels change -/
  | windowsChange (windows : List XWindow)
deriving DecidableEq

/-- The message is an `XdndFinished`. -/
def XdndMessage.isFinished : XdndMessage → Bool
  | .finished _ => true
  | .enter .. | .position .. | .leave | .drop | .status _ => false

namespace DragState

/-- The state before any drag. -/
def init (clipboardWindow : XWindow) : DragState where
  bridge := .fresh clipboardWindow
  drag := none
  loops := []
  sessions := []
  enters := 0
  heard := []

/-- The messages of the current session. -/
def session (w : DragState) : DragTrace := w.sessions.headD []

/-- The windows the current session has sent an `XdndDrop` to. -/
def drops (w : DragState) : List XWindow := (w.session.filter (·.2 = .drop)).map (·.1)

/-- The XDND messages a session is made of; the bridge also answers inbound drags. -/
def isOutbound : XdndMessage → Bool
  | .enter .. | .position .. | .leave | .drop => true
  | .status _ | .finished _ => false

/-- Record a request: claiming XdndSelection begins a session. -/
def record (w : DragState) : XRequest → DragState
  | .setSelectionOwner .xdndSelection (some _) =>
    { w with sessions := [] :: w.sessions, heard := [] }
  | .clientMessage target message =>
    if isOutbound message then
      { w with
        sessions := (w.session ++ [(target, message)]) :: w.sessions.tail
        enters := w.enters + (match message with | .enter .. => 1 | _ => 0) }
    else w
  | _ => w

/-- The connection is served. -/
def flush (w : DragState) (s : Bridge) : DragState :=
  { s.out.foldl record w with bridge := { s with out := [] } }

/-- The read loop goes on, or is left. -/
def afterSpin (w : DragState) (view : PointerView) : SpinResult → DragState
  | .more loop => { w with loops := loop :: w.loops.tail }
  | .done text => { w with loops := w.loops.tail }.flush (w.bridge.dndOutPrepared text view)
  | .abandoned => { w with loops := w.loops.tail }

/-- The seat's drag ends: its destroy listener runs, if there is one. -/
def endDrag (w : DragState) (owned : Bool) : DragState :=
  match w.drag with
  | some true => { w with drag := none }.flush (w.bridge.dragDestroy owned)
  | some false | none => { w with drag := none }

/-- A reply is handled; one that is not in format 32 is ignored. -/
def hear (w : DragState) (reply : HeardMessage) (format32 : Bool) : DragState :=
  { w with heard := if format32 then w.heard ++ [reply] else w.heard }

/-- Whether the event can happen. Nothing but its own turns happens to a read loop outside its
nested dispatch, and wlroots starts no drag while there is one. -/
def enabled (w : DragState) : DragAction → Bool
  | .poll .. => !w.loops.isEmpty
  | a => (w.loops.head?.all (·.dispatching)) && match a with
    | .startDrag .. => w.drag.isNone
    | .buttonRelease endsDrag _ => !endsDrag || w.drag.isSome
    | .dragEnds _ => w.drag.isSome
    | .clientMessage _ sentAfter _ _ => sentAfter ≤ w.enters
    | _ => true

/-- The handlers an event runs. -/
def handle (w : DragState) : DragAction → DragState
  | .startDrag source pipe listening =>
    let (s, reads) := w.bridge.serverStartDrag source pipe
    { w with
      drag := some listening
      loops := if reads then .start :: w.loops else w.loops }.flush s
  | .poll result view =>
    match w.loops with
    | [] => w
    | loop :: _ => w.afterSpin view (loop.spin result)
  | .motion interactive view =>
    -- `process_cursor_motion`
    if interactive then w
    else if w.bridge.dndOut.active then w.flush (w.bridge.dndOutUpdatePosition view) else w
  | .buttonPress => w
  | .buttonRelease endsDrag owned =>
    -- `server_cursor_button`: the seat hears of the release first
    let w := if endsDrag then w.endDrag owned else w
    w.flush (w.bridge.dndOutOnButtonRelease owned)
  | .dragEnds owned => w.endDrag owned
  | .clientMessage sender sentAfter ev owned =>
    (w.hear ⟨sender, sentAfter, ev.message⟩ ev.format32).flush
      (w.bridge.dndHandleClientMessage ev owned)
  | .windowsChange windows => { w with bridge := { w.bridge with windows := windows } }

/-- One step. -/
def step (w : DragState) (a : DragAction) : Option DragState :=
  if w.enabled a then some (w.handle a) else none

theorem step_eq_some {w w' : DragState} {a : DragAction} :
    w.step a = some w' ↔ w.enabled a = true ∧ w.handle a = w' := by
  simp [step]

/-! ## Serving the connection -/

section Flush

variable (w : DragState) (s : Bridge)

@[simp] theorem record_bridge (req : XRequest) : (w.record req).bridge = w.bridge := by
  unfold record; split <;> (try split) <;> rfl

@[simp] theorem record_drag (req : XRequest) : (w.record req).drag = w.drag := by
  unfold record; split <;> (try split) <;> rfl

@[simp] theorem record_loops (req : XRequest) : (w.record req).loops = w.loops := by
  unfold record; split <;> (try split) <;> rfl

/-- Recording a message never forgets that a session has begun. -/
theorem record_sessions_ne_nil {req : XRequest} (h : w.sessions ≠ []) :
    (w.record req).sessions ≠ [] := by
  unfold record
  split
  · exact List.cons_ne_nil _ _
  · split
    · exact List.cons_ne_nil _ _
    · exact h
  · exact h

/-- Serving an empty connection records nothing. -/
theorem flush_nil (h : s.out = []) : w.flush s = { w with bridge := s } := by
  obtain ⟨win, channel, read, seat, dndOut, dndIn, windows, out⟩ := s
  cases h
  rfl

/-- A connection that has been served has nothing to send. -/
theorem flush_self (h : w.bridge.out = []) : w.flush w.bridge = w := flush_nil w w.bridge h

/-- What is recorded does not depend on the bridge's record. -/
theorem record_set_bridge (b : Bridge) (req : XRequest) :
    { w with bridge := b }.record req = { w.record req with bridge := b } := by
  unfold record; split <;> (try split) <;> rfl

/-- Requests are recorded in the order they are sent. -/
@[simp] theorem flush_send (req : XRequest) : w.flush (s.send req) = (w.flush s).record req := by
  show { (s.out ++ [req]).foldl record w with bridge := { s with out := [] } } = _
  rw [List.foldl_append, flush, record_set_bridge]
  rfl

end Flush

/-! ## The sender

The outbound handlers on a served state: every message is recorded as it is sent. -/

/-- Send a message of the session. -/
def tell (w : DragState) (target : XWindow) (message : XdndMessage) : DragState :=
  w.record (.clientMessage target message)

/-- Change the outbound fields. -/
def setOut (w : DragState) (o : DndOut) : DragState :=
  { w with bridge := { w.bridge with dndOut := o } }

/-- The outbound fields. -/
abbrev out (w : DragState) : DndOut := w.bridge.dndOut

/-- `dnd_out_leave`. -/
def leave (w : DragState) : DragState :=
  match w.out.target with
  | none => w
  | some target => (w.tell target .leave).setOut { w.out with target := none, accepted := false }

/-- `dnd_out_finish`. -/
def finish (w : DragState) : DragState :=
  w.leave.setOut
    { w.leave.out with active := false, drag := false, text := none, isUri := false }

/-- A position, after an enter if `target` is not the current one. -/
def visit (target : XWindow) (version x y : Int) (w : DragState) : DragState :=
  if w.out.target = some target then w.tell target (.position x y)
  else
    let w := w.leave
    ((w.setOut { w.out with target := some target, version := version, accepted := false }).tell
      target (.enter version (if w.out.isUri then .textUriList else .utf8String))).tell
      target (.position x y)

/-- `dnd_out_update_position` of an active session. -/
def track (view : PointerView) (w : DragState) : DragState :=
  match view.position with
  | none => w
  | some (x, y) =>
    if view.overSurface then w.leave
    else
      match w.bridge.dndFindAwareTarget view.under with
      | none => w.leave
      | some (target, version) => w.visit target version x y

/-- Begin a session with `text`. -/
def begin (text : Text) (w : DragState) : DragState :=
  { w with sessions := [] :: w.sessions, heard := [] }.setOut
    { w.out with text := some text, active := true, target := none, accepted := false }

end DragState

/-- Which window is a target depends on our own windows only. -/
theorem Bridge.dndFindAwareTarget_congr {s s' : Bridge} (hwin : s.clipboardWindow = s'.clipboardWindow)
    (hours : s.windows = s'.windows) (replies : List WindowReply) :
    s.dndFindAwareTarget replies = s'.dndFindAwareTarget replies := by
  induction replies with
  | nil => rfl
  | cons reply rest ih =>
    have hsame : s.dndWindowIsOurs reply.window = s'.dndWindowIsOurs reply.window := by
      rw [Bridge.dndWindowIsOurs, Bridge.dndWindowIsOurs, hwin, hours]
    rw [Bridge.dndFindAwareTarget, Bridge.dndFindAwareTarget, hsame, ih]

namespace DragState

section Sender

variable (w : DragState) (s : Bridge)

theorem flush_setOut (o : DndOut) : w.flush { s with dndOut := o } = (w.flush s).setOut o := rfl

/-- To leave is to tell the target so and forget it. -/
theorem flush_dndOutLeave : w.flush s.dndOutLeave = (w.flush s).leave := by
  unfold Bridge.dndOutLeave leave
  rw [show (w.flush s).out.target = s.dndOut.target from rfl]
  cases s.dndOut.target with
  | none => rfl
  | some target =>
    dsimp only
    rw [flush_setOut, Bridge.dndSendClientMessage, flush_send]
    rfl

/-- The end of a session, as the messages and the record see it. -/
theorem flush_dndOutFinish (owned : Bool) : w.flush (s.dndOutFinish owned) = (w.flush s).finish := by
  unfold Bridge.dndOutFinish finish
  rw [← flush_dndOutLeave]
  -- giving XdndSelection up is no message of the session
  cases owned with
  | false => rfl
  | true =>
    dsimp only
    rw [if_pos rfl, flush_send]
    rfl

/-- A motion follows the pointer, unless there is no session or no text to offer yet. -/
theorem flush_dndOutUpdatePosition (view : PointerView) :
    w.flush (s.dndOutUpdatePosition view) =
      if s.dndOut.active = false ∨ s.dndOut.text = none then w.flush s
      else (w.flush s).track view := by
  unfold Bridge.dndOutUpdatePosition
  split
  · rfl
  · unfold track
    have hwin : (w.flush s).bridge.clipboardWindow = s.clipboardWindow := rfl
    have hours : (w.flush s).bridge.windows = s.windows := rfl
    rw [Bridge.dndFindAwareTarget_congr hwin hours]
    cases view.position with
    | none => rfl
    | some p =>
      obtain ⟨x, y⟩ := p
      dsimp only
      split
      · exact flush_dndOutLeave w s
      · cases s.dndFindAwareTarget view.under with
        | none => exact flush_dndOutLeave w s
        -- the target the walk found: the same one is told the position, another is entered first
        | some tv =>
          obtain ⟨target, version⟩ := tv
          dsimp only
          unfold Bridge.dndOutEnter visit
          rw [show (w.flush s).out.target = s.dndOut.target from rfl]
          split
          · rw [Bridge.dndSendClientMessage, flush_send]
            rfl
          · rw [← flush_dndOutLeave, Bridge.dndSendClientMessage, Bridge.dndSendClientMessage,
              flush_send, flush_send]
            rfl

/-- A release drops on a target that accepts; every other release ends the session. -/
theorem flush_dndOutOnButtonRelease (owned : Bool) :
    w.flush (s.dndOutOnButtonRelease owned) =
      if s.dndOut.active = false then w.flush s
      else
        match s.dndOut.target with
        | none => (w.flush s).finish
        | some target =>
          if s.dndOut.accepted then (w.flush s).tell target .drop else (w.flush s).finish := by
  unfold Bridge.dndOutOnButtonRelease
  split
  · rfl
  -- without a target there is nobody to drop on
  · cases s.dndOut.target with
    | none => exact flush_dndOutFinish w s owned
    | some target =>
      dsimp only
      split
      · rw [Bridge.dndSendClientMessage, flush_send]
        rfl
      · exact flush_dndOutFinish w s owned

/-- The compositor's drag is over: a session that may still be dropped goes on, any other ends. -/
theorem flush_dragDestroy (owned : Bool) :
    w.flush (s.dragDestroy owned) =
      if s.dndOut.active && s.dndOut.target.isSome && s.dndOut.accepted
      then (w.flush s).setOut { s.dndOut with drag := false }
      else ((w.flush s).setOut { s.dndOut with drag := false }).finish := by
  unfold Bridge.dragDestroy
  dsimp only
  split
  · exact flush_setOut w s _
  · rw [flush_dndOutFinish, flush_setOut]

/-- A text that has been read begins a session, which starts with the pointer where it is. -/
theorem flush_dndOutPrepared (text : Text) (view : PointerView) :
    w.flush (s.dndOutPrepared text view) =
      if text = [] then w.flush s else ((w.flush s).begin text).track view := by
  unfold Bridge.dndOutPrepared
  split
  · rfl
  · dsimp only
    rw [flush_dndOutUpdatePosition, if_neg (by simp), flush_send, flush_setOut]
    rfl

end Sender

/-! ## What the sender leaves alone -/

section Frame

variable (w : DragState) (target : XWindow) (message : XdndMessage)

@[simp] theorem record_heard_of_message :
    (w.record (.clientMessage target message)).heard = w.heard := by
  unfold record; dsimp only; split <;> rfl

@[simp] theorem tell_bridge : (w.tell target message).bridge = w.bridge := record_bridge ..
@[simp] theorem tell_drag : (w.tell target message).drag = w.drag := record_drag ..
@[simp] theorem tell_loops : (w.tell target message).loops = w.loops := record_loops ..
@[simp] theorem tell_heard : (w.tell target message).heard = w.heard :=
  record_heard_of_message ..

/-- An outbound message goes to the end of the current session. -/
theorem tell_sessions (h : isOutbound message = true) :
    (w.tell target message).sessions = (w.session ++ [(target, message)]) :: w.sessions.tail := by
  simp [tell, record, h]

/-- What is told is the newest message of the session. -/
theorem tell_session (h : isOutbound message = true) :
    (w.tell target message).session = w.session ++ [(target, message)] := by
  rw [session, tell_sessions w target message h]; rfl

/-- Replies to an inbound drag belong to no session. -/
theorem record_of_not_outbound {w : DragState} {target : XWindow} {message : XdndMessage}
    (h : isOutbound message = false) : w.record (.clientMessage target message) = w := by
  cases message <;> first | rfl | cases h

/-- Only an `XdndDrop` is a drop. -/
theorem drops_tell :
    (w.tell target message).drops = w.drops ++ if message = .drop then [target] else [] := by
  cases hm : isOutbound message with
  | true =>
    rw [drops, tell_session w target message hm, List.filter_append, List.map_append, ← drops]
    congr 1
    split
    · next h => rw [h]; rfl
    · next h => simp [h]
  | false =>
    have hnot : message ≠ .drop := by
      rintro rfl
      cases hm
    rw [tell, record_of_not_outbound hm, if_neg hnot, List.append_nil]

/-- Only an `XdndEnter` is an enter. -/
theorem tell_enters_of_ne (h : ∀ version type, message ≠ .enter version type) :
    (w.tell target message).enters = w.enters := by
  cases message with
  | enter version type => exact absurd rfl (h version type)
  | position | leave | drop | status | finished => rfl

/-- `w'` is `w` after the sender acted within its session: what it has sent may have changed, and
the fields it keeps about its target. -/
structure Sent (w w' : DragState) : Prop where
  bridge : { w'.bridge with dndOut := w.out } = w.bridge
  active : w'.out.active = w.out.active
  text : w'.out.text = w.out.text
  drag : w'.drag = w.drag
  loops : w'.loops = w.loops
  heard : w'.heard = w.heard
  sessions : w.sessions ≠ [] → w'.sessions ≠ []

namespace Sent

variable {w w' w'' : DragState}

theorem refl (w : DragState) : Sent w w := ⟨rfl, rfl, rfl, rfl, rfl, rfl, id⟩

/-- Two such steps make one. -/
theorem trans (h : Sent w w') (h' : Sent w' w'') : Sent w w'' where
  bridge := by
    have hw := h.bridge
    rw [← h'.bridge] at hw
    exact hw
  active := h'.active.trans h.active
  text := h'.text.trans h.text
  drag := h'.drag.trans h.drag
  loops := h'.loops.trans h.loops
  heard := h'.heard.trans h.heard
  sessions := h'.sessions ∘ h.sessions

theorem out (h : Sent w w') : w'.bridge.out = w.bridge.out := (congrArg Bridge.out h.bridge :)

end Sent

/-- A message changes no field of the sender. -/
theorem tell_sent : Sent w (w.tell target message) :=
  ⟨by rw [tell_bridge], by rw [out, tell_bridge], by rw [out, tell_bridge], tell_drag ..,
    tell_loops .., tell_heard .., w.record_sessions_ne_nil⟩

/-- The target and its answer are the sender's own affair. -/
theorem setOut_sent {o : DndOut} (ha : o.active = w.out.active) (ht : o.text = w.out.text) :
    Sent w (w.setOut o) :=
  ⟨rfl, ha, ht, rfl, rfl, rfl, id⟩

theorem leave_sent : Sent w w.leave := by
  unfold leave
  split
  · exact .refl w
  · next t _ =>
    refine (tell_sent w t .leave).trans (setOut_sent _ ?_ ?_) <;> simp [out]

/-- After `XdndLeave` there is no target. -/
@[simp] theorem leave_target : w.leave.out.target = none := by
  unfold leave
  split
  · assumption
  · rfl

/-- Leaving a target forgets its answer. -/
theorem leave_accepted : w.leave.out.accepted = (w.out.accepted && w.out.target.isNone) := by
  unfold leave
  split
  · next h => simp [h]
  · next h => simp [h, setOut]

/-- To leave drops nothing. -/
theorem drops_leave : w.leave.drops = w.drops := by
  unfold leave
  split
  · rfl
  · next t _ =>
    show (w.tell t .leave).drops = w.drops
    rw [drops_tell, if_neg (by simp), List.append_nil]

/-- `XdndEnter` and `XdndPosition` keep the session going. -/
theorem visit_sent (version x y : Int) : Sent w (w.visit target version x y) := by
  unfold visit
  split
  · exact tell_sent ..
  · dsimp only
    refine Sent.trans ?_ (tell_sent _ target _)
    refine Sent.trans ?_ (tell_sent _ target _)
    exact (leave_sent w).trans (setOut_sent _ rfl rfl)

/-- Following the pointer, the sender may leave, enter or move, and stays in its session. -/
theorem track_sent (view : PointerView) : Sent w (w.track view) := by
  unfold track
  split
  · exact .refl w
  · split
    · exact leave_sent w
    · split
      · exact leave_sent w
      · exact visit_sent w ..

/-- Tracking the pointer drops nothing. -/
theorem drops_track (view : PointerView) : (w.track view).drops = w.drops := by
  unfold track
  split
  · rfl
  · split
    · exact drops_leave w
    · split
      · exact drops_leave w
      · unfold visit
        split
        · rw [drops_tell, if_neg (by simp), List.append_nil]
        · dsimp only
          rw [drops_tell, drops_tell, if_neg (by simp), if_neg (by simp), List.append_nil,
            List.append_nil]
          exact drops_leave w

end Frame

/-! ## Events, message by message -/

section Events

variable {w : DragState}

/-- Ending the seat's drag. -/
theorem endDrag_eq (hserved : w.bridge.out = []) (owned : Bool) :
    w.endDrag owned =
      if w.drag = some true then
        if w.out.active && w.out.target.isSome && w.out.accepted
        then { w with drag := none }.setOut { w.out with drag := false }
        else ({ w with drag := none }.setOut { w.out with drag := false }).finish
      else { w with drag := none } := by
  have hself : ({ w with drag := none } : DragState).flush w.bridge = { w with drag := none } :=
    flush_self { w with drag := none } hserved
  unfold endDrag
  split
  · next h => rw [h, if_pos rfl, flush_dragDestroy, hself]
  · next h => rw [h, if_neg (by decide)]
  · next h => rw [h, if_neg (by decide)]

/-- The end of `server_cursor_button`. -/
theorem release_eq (hserved : w.bridge.out = []) (owned : Bool) :
    w.flush (w.bridge.dndOutOnButtonRelease owned) =
      if w.out.active = false then w
      else
        match w.out.target with
        | none => w.finish
        | some target => if w.out.accepted then w.tell target .drop else w.finish := by
  rw [flush_dndOutOnButtonRelease, flush_self w hserved]

/-- A motion of an active session. -/
theorem motion_eq (hserved : w.bridge.out = []) (interactive : Bool) (view : PointerView) :
    w.handle (.motion interactive view) =
      if interactive = true ∨ w.out.active = false ∨ w.out.text = none then w
      else w.track view := by
  simp only [handle]
  rw [flush_dndOutUpdatePosition, flush_self w hserved]
  cases interactive with
  | true => simp
  | false => cases w.bridge.dndOut.active <;> simp

/-- What an XDND message does to the outbound session: a status sets the answer, a finish ends the
session, and the messages of an inbound drag leave it alone. -/
theorem clientMessage_cases (hserved : w.bridge.out = []) (sender : XWindow) (sentAfter : Nat)
    (ev : ClientMessage) (owned : Bool) :
    let h := w.hear ⟨sender, sentAfter, ev.message⟩ ev.format32
    (∃ accept, ev.format32 = true ∧ ev.message = .status accept ∧ w.out.active = true ∧
        w.handle (.clientMessage sender sentAfter ev owned) =
          h.setOut { w.out with accepted := accept }) ∨
      (∃ accepted, ev.format32 = true ∧ ev.message = .finished accepted ∧ w.out.active = true ∧
        w.handle (.clientMessage sender sentAfter ev owned) = h.finish) ∨
      (w.out.active = true → ev.format32 = true →
          (∀ accept, ev.message ≠ .status accept) ∧ ev.message.isFinished = false) ∧
        ∃ b : Bridge, b.dndOut = w.out ∧ b.out = [] ∧
          w.handle (.clientMessage sender sentAfter ev owned) = { h with bridge := b } := by
  intro h
  have hself : h.flush w.bridge = h := flush_self h hserved
  -- what is replied to a source is not a message of the outbound session
  have hreply (b : Bridge) (hb : b.dndOut = w.out) (hbo : b.out = []) (m : XdndMessage)
      (hm : isOutbound m = false) :
      ∃ b' : Bridge, b'.dndOut = w.out ∧ b'.out = [] ∧
        h.flush (b.dndReplyToSource m) = { h with bridge := b' } := by
    unfold Bridge.dndReplyToSource
    split
    · exact ⟨b, hb, hbo, flush_nil h b hbo⟩
    · next source _ =>
      refine ⟨b, hb, hbo, ?_⟩
      rw [Bridge.dndSendClientMessage, flush_send, flush_nil h b hbo, record_of_not_outbound hm]
  have hquiet (b : Bridge) (hb : b.dndOut = w.out) (hbo : b.out = []) :
      ∃ b' : Bridge, b'.dndOut = w.out ∧ b'.out = [] ∧ h.flush b = { h with bridge := b' } :=
    ⟨b, hb, hbo, flush_nil h b hbo⟩
  have hnotActive (hidle : ¬ w.out.active = true) (P : Prop) : w.out.active = true → P :=
    fun hactive => absurd hactive hidle
  -- the handler's own cases, in its order
  simp only [handle, Bridge.dndHandleClientMessage]
  split
  · next hf =>
    exact Or.inr (Or.inr ⟨fun _ htrue => absurd htrue (by simp [hf]), hquiet _ rfl hserved⟩)
  · next hf =>
    have hf' : ev.format32 = true := by simpa using hf
    split
    · next accept hm =>
      split
      · next hactive =>
        exact Or.inl ⟨accept, hf', hm, hactive, by rw [flush_setOut, hself]⟩
      · next hidle => exact Or.inr (Or.inr ⟨hnotActive hidle _, hquiet _ rfl hserved⟩)
    · next accepted hm =>
      split
      · next hactive =>
        exact Or.inr (Or.inl ⟨accepted, hf', hm, hactive, by rw [flush_dndOutFinish, hself]⟩)
      · next hidle => exact Or.inr (Or.inr ⟨hnotActive hidle _, hquiet _ rfl hserved⟩)
    · next hm => exact Or.inr (Or.inr ⟨by simp [hm, XdndMessage.isFinished], hquiet _ rfl hserved⟩)
    · next hm =>
      refine Or.inr (Or.inr ⟨by simp [hm, XdndMessage.isFinished], ?_⟩)
      split
      · exact hreply _ rfl hserved _ rfl
      · exact hquiet _ rfl hserved
    · next hm => exact Or.inr (Or.inr ⟨by simp [hm, XdndMessage.isFinished], hquiet _ rfl hserved⟩)
    · next hm =>
      refine Or.inr (Or.inr ⟨by simp [hm, XdndMessage.isFinished], ?_⟩)
      split
      · refine ⟨w.bridge, rfl, hserved, ?_⟩
        rw [flush_send, flush_send, hself]
        rfl
      · exact hquiet _ rfl hserved

end Events

end DragState

/-- A drag that starts changes `dnd_out_drag` and `dnd_out_is_uri` only. -/
theorem Bridge.serverStartDrag_spec (s : Bridge) (source : Option Source) (pipe : Bool) :
    ∃ isUri, (s.serverStartDrag source pipe).1 =
      { s with dndOut := { s.dndOut with drag := true, isUri := isUri } } := by
  cases source with
  | none => exact ⟨s.dndOut.isUri, rfl⟩
  | some source =>
    unfold Bridge.serverStartDrag Bridge.dndOutBeginFromSource
    dsimp only
    split
    · exact ⟨s.dndOut.isUri, rfl⟩
    · exact ⟨_, rfl⟩

namespace DragState

section Events

variable {w : DragState}

/-- A drag that starts, and the read loop it may open. -/
theorem startDrag_loops (hserved : w.bridge.out = []) (source : Option Source)
    (pipe listening : Bool) :
    ∃ isUri, w.handle (.startDrag source pipe listening) =
      { w with
        drag := some listening
        loops := if (w.bridge.serverStartDrag source pipe).2 then .start :: w.loops
          else w.loops }.setOut { w.out with drag := true, isUri := isUri } := by
  obtain ⟨isUri, hspec⟩ := w.bridge.serverStartDrag_spec source pipe
  have hhandle : w.handle (.startDrag source pipe listening) =
      { w with
        drag := some listening
        loops := if (w.bridge.serverStartDrag source pipe).2 then .start :: w.loops
          else w.loops }.flush (w.bridge.serverStartDrag source pipe).1 := rfl
  rw [hhandle, hspec]
  exact ⟨isUri, flush_nil _ _ hserved⟩

/-- A drag that starts is noted; whether it is offered is decided when its text has been read. -/
theorem startDrag_eq (hserved : w.bridge.out = []) (source : Option Source) (pipe listening : Bool) :
    ∃ loops isUri, w.handle (.startDrag source pipe listening) =
      { w with drag := some listening, loops := loops }.setOut
        { w.out with drag := true, isUri := isUri } :=
  ⟨_, startDrag_loops hserved source pipe listening⟩

/-- The text with which this turn leaves the innermost read loop, if it does and there is one. -/
def prepares (w : DragState) (result : Poll) : Option Text :=
  match w.loops with
  | [] => none
  | loop :: _ =>
    match loop.spin result with
    | .done text => if text = [] then none else some text
    | .more _ | .abandoned => none

/-- A turn of a read loop begins a session, or concerns the loops only. -/
theorem poll_cases (hserved : w.bridge.out = []) (result : Poll) (view : PointerView) :
    (∃ text loops, w.prepares result = some text ∧
        w.handle (.poll result view) = ({ w with loops := loops }.begin text).track view) ∨
      (w.prepares result = none ∧
        ∃ loops, w.handle (.poll result view) = { w with loops := loops }) := by
  cases hl : w.loops with
  | nil => exact Or.inr ⟨by simp only [prepares, hl], w.loops, by simp only [handle, hl]; rw [← hl]⟩
  | cons loop rest =>
    simp only [handle, prepares, hl]
    -- the turn reads more, gives up, or has the whole text
    cases hspin : loop.spin result with
    | more loop' => exact Or.inr ⟨rfl, loop' :: w.loops.tail, rfl⟩
    | abandoned => exact Or.inr ⟨rfl, w.loops.tail, rfl⟩
    | done text =>
      simp only [afterSpin]
      rw [flush_dndOutPrepared, flush_nil _ _ hserved]
      split
      · exact Or.inr ⟨rfl, w.loops.tail, rfl⟩
      · exact Or.inl ⟨text, w.loops.tail, rfl, rfl⟩

end Events

/-! ## The invariant -/

/-- What holds whatever happens: the connection is served between events, an idle bridge has no
target, an active one has its text and a session, and no `XdndFinished` has been handled in it. -/
structure Inv (w : DragState) : Prop where
  served : w.bridge.out = []
  idle : w.out.active = false → w.out.target = none
  text : w.out.active = true → w.out.text ≠ none
  begun : w.out.active = true → w.sessions ≠ []
  unfinished : w.out.active = true → ∀ reply ∈ w.heard, reply.message.isFinished = false

namespace Inv

variable {w w' : DragState}

/-- At the start no session is active. -/
theorem init (clipboardWindow : XWindow) : Inv (.init clipboardWindow) :=
  ⟨rfl, fun _ => rfl, (fun h => nomatch h), (fun h => nomatch h), (fun h => nomatch h)⟩

/-- An active sender stays within the invariant. -/
theorem sent (h : Inv w) (hactive : w.out.active = true) (hs : Sent w w') : Inv w' where
  served := hs.out.trans h.served
  idle := fun hidle => by rw [hs.active, hactive] at hidle; cases hidle
  text := fun _ => by rw [hs.text]; exact h.text hactive
  begun := fun _ => hs.sessions (h.begun hactive)
  unfinished := fun _ => by rw [hs.heard]; exact h.unfinished hactive

/-- So does a change of fields that are not the sender's. -/
theorem congr (h : Inv w) (hout : w'.bridge.out = []) (hactive : w'.out.active = w.out.active)
    (htarget : w'.out.target = w.out.target) (htext : w'.out.text = w.out.text)
    (hsessions : w'.sessions = w.sessions)
    (hheard : w.out.active = true → ∀ reply ∈ w'.heard, reply.message.isFinished = false) :
    Inv w' where
  served := hout
  idle := fun hidle => htarget.trans (h.idle (hactive ▸ hidle))
  text := fun ha => htext ▸ h.text (hactive ▸ ha)
  begun := fun ha => hsessions ▸ h.begun (hactive ▸ ha)
  unfinished := fun ha => hheard (hactive ▸ ha)

/-- A session that is finished leaves an idle bridge. -/
theorem finish (hserved : w.bridge.out = []) : Inv w.finish where
  served := (leave_sent w).out.trans hserved
  idle := fun _ => leave_target w
  text := fun h => nomatch h
  begun := fun h => nomatch h
  unfinished := fun h => nomatch h

/-- A session begins with a text, and has heard nothing. -/
theorem begin (hserved : w.bridge.out = []) (text : Text) : Inv (w.begin text) where
  served := hserved
  idle := fun h => nomatch h
  text := fun _ => Option.some_ne_none text
  begun := fun _ => List.cons_ne_nil _ _
  unfinished := fun _ _ hmem => nomatch hmem

/-- The end of the compositor's drag ends the session, or leaves it to wait for the target. -/
theorem endDrag (h : Inv w) (owned : Bool) : Inv (w.endDrag owned) := by
  rw [endDrag_eq h.served owned]
  split
  · split
    · exact h.congr h.served rfl rfl rfl rfl h.unfinished
    · exact finish h.served
  · exact h.congr h.served rfl rfl rfl rfl h.unfinished

/-- A release drops, or ends the session. -/
theorem release (h : Inv w) (owned : Bool) :
    Inv (w.flush (w.bridge.dndOutOnButtonRelease owned)) := by
  rw [release_eq h.served owned]
  split
  · exact h
  · next hactive =>
    have hactive' : w.out.active = true := by simpa using hactive
    split
    · exact finish h.served
    · split
      · exact h.sent hactive' (tell_sent ..)
      · exact finish h.served

/-- A session that has heard nothing final still has not, if this is not it. -/
theorem hear_unfinished (said : HeardMessage) (format32 : Bool)
    (h : ∀ reply ∈ w.heard, reply.message.isFinished = false)
    (hnot : format32 = true → said.message.isFinished = false) :
    ∀ reply ∈ (w.hear said format32).heard, reply.message.isFinished = false := by
  intro reply hmem
  unfold hear at hmem
  cases hf : format32 with
  | false =>
    simp only [hf] at hmem
    exact h reply hmem
  | true =>
    simp only [hf, if_true, List.mem_append, List.mem_singleton] at hmem
    rcases hmem with hmem | rfl
    · exact h reply hmem
    · exact hnot hf

/-- **Every step keeps the invariant.** One case per event. -/
theorem step (h : Inv w) {a : DragAction} (hstep : w.step a = some w') : Inv w' := by
  obtain ⟨-, rfl⟩ := step_eq_some.mp hstep
  cases a with
  | startDrag source pipe listening =>
    -- a drag that starts opens a read loop, and no session yet
    obtain ⟨loops, isUri, heq⟩ := startDrag_eq h.served source pipe listening
    rw [heq]
    exact h.congr h.served rfl rfl rfl rfl h.unfinished
  | poll result view =>
    rcases poll_cases h.served result view with ⟨text, loops, -, heq⟩ | ⟨-, loops, heq⟩ <;> rw [heq]
    · exact (begin (w := { w with loops := loops }) h.served text).sent rfl (track_sent _ view)
    · exact h.congr h.served rfl rfl rfl rfl h.unfinished
  | motion interactive view =>
    rw [motion_eq h.served]
    split
    · exact h
    · next hmoves =>
      -- a motion counts while a session is active
      have hactive : w.out.active = true := by
        cases ha : w.out.active with
        | true => rfl
        | false => exact absurd (Or.inr (Or.inl ha)) hmoves
      exact h.sent hactive (track_sent w view)
  | buttonPress => exact h
  | buttonRelease endsDrag owned =>
    cases endsDrag with
    | false => exact h.release owned
    | true => exact (h.endDrag owned).release owned
  | dragEnds owned => exact h.endDrag owned
  | clientMessage sender sentAfter ev owned =>
    rcases clientMessage_cases h.served sender sentAfter ev owned with
      ⟨accept, hf, hm, hactive, heq⟩ | ⟨accepted, hf, hm, hactive, heq⟩ | ⟨hnot, b, hb, hbo, heq⟩ <;>
      rw [heq]
    · exact h.congr h.served rfl rfl rfl rfl fun ha =>
        hear_unfinished ⟨sender, sentAfter, ev.message⟩ _ (h.unfinished ha) fun _ => by rw [hm]; rfl
    · exact finish h.served
    · exact h.congr hbo (by rw [out, hb]) (by rw [out, hb]) (by rw [out, hb]) rfl
        fun ha => hear_unfinished ⟨sender, sentAfter, ev.message⟩ _ (h.unfinished ha)
          fun hf => (hnot ha hf).2
  | windowsChange windows => exact h.congr h.served rfl rfl rfl rfl h.unfinished

end Inv

end DragState

end Wlx
