import WlX11.Scale

/-!
# WlX11 — one output of the X11 backend

`backend/x11/output.c`: the backend keeps, next to the committed mode of the `wlr_output`, the size
it last asked the X server for (`win_width/height`), the sequence number of its last
`ConfigureWindow`, and the size of a `ConfigureWindow` it still expects an answer to.

* `outputSetCustomMode` sends a `ConfigureWindow` and remembers it.
* `handleX11ConfigureNotify` sorts an incoming `ConfigureNotify` into one of five verdicts; only an
  `external` one becomes a `request_state`.
* `commitState` is `wlr_output_commit_state` for a custom mode.

The connection counts its requests in `seq` without wrapping (xcb keeps a 64-bit counter); events
and `last_configure_seq` carry the low 16 bits. The field `lastConfigure` is a ghost: the number
`last_configure_seq` was cut from.
-/

namespace Wlx

/-- The low 16 bits of a request's sequence number, as events and cookies carry it. -/
def wireSeq (seq : Nat) : BitVec 16 := BitVec.ofNat 16 seq

/-- A `ConfigureWindow` written to the backend's connection, with its full sequence number. -/
structure ConfigureRequest where
  seq : Nat
  size : Size
deriving DecidableEq, Repr

/-- The size of a `ConfigureNotify` and the 16-bit sequence number of the last request the server
had processed when it generated the event. -/
structure ConfigureNotify where
  sequence : BitVec 16
  size : Size
deriving DecidableEq

/-- `struct wlr_x11_output` with the mode of its `wlr_output` and the connection it writes to. -/
structure X11Output where
  /-- `wlr_output.width/height`, the committed mode. -/
  size : Size
  /-- `win_width/height`. -/
  winSize : Size
  /-- Ghost: the full sequence number of the last `ConfigureWindow`, 0 before there is one. -/
  lastConfigure : Nat
  lastConfigureSeq : BitVec 16
  hasConfigureSeq : Bool
  pendingSize : Size
  hasPendingConfigure : Bool
  /-- Number of requests written to the backend's connection so far. -/
  seq : Nat
  /-- The `ConfigureWindow` requests for this window still on their way to the server, oldest
  first. -/
  sent : List ConfigureRequest
deriving DecidableEq

namespace X11Output

/-- `x11_output_create` on a connection that has written `seq` requests: a 1×1 placeholder. -/
def create (seq : Nat) : X11Output where
  size := ⟨1, 1⟩
  winSize := ⟨1, 1⟩
  lastConfigure := 0
  lastConfigureSeq := 0
  hasConfigureSeq := false
  pendingSize := ⟨0, 0⟩
  hasPendingConfigure := false
  seq := seq
  sent := []

/-- `output_set_custom_mode`. -/
def outputSetCustomMode (out : X11Output) (size : Size) : X11Output :=
  if size = out.winSize ∧ ¬ out.hasPendingConfigure then out
  else
    { out with
      seq := out.seq + 1
      sent := out.sent ++ [⟨out.seq + 1, size⟩]
      lastConfigure := out.seq + 1
      lastConfigureSeq := wireSeq (out.seq + 1)
      hasConfigureSeq := true
      pendingSize := size
      hasPendingConfigure := true
      winSize := size }

/-- Other requests on the same connection (buffers, cursors, pointer queries, …). -/
def otherRequests (out : X11Output) (n : Nat) : X11Output := { out with seq := out.seq + n }

/-! ## Incoming ConfigureNotify -/

/-- What `handle_x11_configure_notify` makes of an event, one constructor per `return`. -/
inductive Verdict where
  /-- width or height 0 -/
  | ignored
  /-- older than the last `ConfigureWindow` -/
  | stale
  /-- the size the last `ConfigureWindow` asked for -/
  | selfAck
  /-- the size the window is claimed to have already -/
  | echo
  /-- anything else: the host changed the size -/
  | external
deriving DecidableEq, Repr

/-- `has_configure_seq && (int16_t)(ev->sequence - last_configure_seq) < 0`. -/
def isStale (out : X11Output) (ev : ConfigureNotify) : Bool :=
  out.hasConfigureSeq && (ev.sequence - out.lastConfigureSeq).toInt < 0

/-- The tests of `handle_x11_configure_notify`, in order. -/
def classify (out : X11Output) (ev : ConfigureNotify) : Verdict :=
  if ev.size.width = 0 ∨ ev.size.height = 0 then .ignored
  else if out.isStale ev then .stale
  else if out.hasPendingConfigure ∧ ev.size = out.pendingSize then .selfAck
  else if ev.size = out.winSize then .echo
  else .external

def clearPending (out : X11Output) : X11Output :=
  { out with hasPendingConfigure := false, pendingSize := ⟨0, 0⟩ }

/-- `handle_x11_configure_notify`: the output afterwards, and the size of the `request_state` it
emits, if any. `win_width/height` wait for the mode to be committed. -/
def handleX11ConfigureNotify (out : X11Output) (ev : ConfigureNotify) : X11Output × Option Size :=
  match out.classify ev with
  | .ignored | .stale | .echo => (out, none)
  | .selfAck => (out.clearPending, none)
  | .external => (out.clearPending, some ev.size)

/-- What each verdict says about the event. -/
theorem classify_spec (out : X11Output) (ev : ConfigureNotify) :
    match out.classify ev with
    | .ignored => ev.size.width = 0 ∨ ev.size.height = 0
    | .stale => out.isStale ev = true
    | .selfAck => out.isStale ev = false ∧ out.hasPendingConfigure = true ∧
        ev.size = out.pendingSize
    | .echo => out.isStale ev = false ∧ ev.size = out.winSize
    | .external => out.isStale ev = false ∧ ev.size ≠ out.winSize := by
  unfold classify
  by_cases h0 : ev.size.width = 0 ∨ ev.size.height = 0
  · rw [if_pos h0]; exact h0
  · rw [if_neg h0]
    cases hs : out.isStale ev with
    | true => simp
    | false =>
      by_cases hp : out.hasPendingConfigure ∧ ev.size = out.pendingSize
      · simp only [Bool.false_eq_true, if_false, if_pos hp]; exact ⟨trivial, hp⟩
      · by_cases hw : ev.size = out.winSize
        · simp only [Bool.false_eq_true, if_false, if_neg hp, if_pos hw]; exact ⟨trivial, hw⟩
        · simp only [Bool.false_eq_true, if_false, if_neg hp, if_neg hw]; exact ⟨trivial, hw⟩

/-! ## Committing a mode -/

/-- How far `wlr_output_commit_state` gets. -/
inductive CommitOutcome where
  | ok
  /-- the state fails its tests, or no buffer can be had, before the backend is asked -/
  | testFailed
  /-- the backend has sent its `ConfigureWindow`, then cannot attach the buffer -/
  | bufferFailed
deriving DecidableEq, Repr

/-- `wlr_output_commit_state` with a custom mode, and whether it succeeds. `output_compare_state`
takes a mode equal to the current one out of the state, so the backend never sees it. -/
def commitState (out : X11Output) (size : Size) (outcome : CommitOutcome) : X11Output × Bool :=
  match outcome with
  | .testFailed => (out, false)
  | .bufferFailed =>
    (if size = out.size then out else out.outputSetCustomMode size, false)
  | .ok =>
    (if size = out.size then out else { out.outputSetCustomMode size with size := size }, true)

@[simp] theorem commitState_snd {out : X11Output} {size : Size} {outcome : CommitOutcome} :
    (out.commitState size outcome).2 = true ↔ outcome = .ok := by
  cases outcome <;> simp [commitState]

@[simp] theorem outputSetCustomMode_size (out : X11Output) (size : Size) :
    (out.outputSetCustomMode size).size = out.size := by
  unfold outputSetCustomMode; split <;> rfl

@[simp] theorem clearPending_size (out : X11Output) : out.clearPending.size = out.size := rfl

@[simp] theorem handleX11ConfigureNotify_size (out : X11Output) (ev : ConfigureNotify) :
    (out.handleX11ConfigureNotify ev).1.size = out.size := by
  unfold handleX11ConfigureNotify; cases out.classify ev <;> rfl

/-- A successful commit leaves exactly the requested mode. -/
theorem commitState_ok_size (out : X11Output) (size : Size) :
    (out.commitState size .ok).1.size = size := by
  unfold commitState
  by_cases h : size = out.size <;> simp [h]

/-- A commit that fails leaves the mode as it was. -/
theorem commitState_size_of_ne_ok (out : X11Output) (size : Size) {outcome : CommitOutcome}
    (h : outcome ≠ .ok) : (out.commitState size outcome).1.size = out.size := by
  cases outcome with
  | ok => exact absurd rfl h
  | testFailed => rfl
  | bufferFailed => simp only [commitState]; split <;> simp

end X11Output

end Wlx
