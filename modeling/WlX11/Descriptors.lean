import WlX11.Lib.Run
import WlX11.Dnd

/-!
# WlX11 — who closes the ends of a pipe

Every export opens a pipe. The write end goes to the source, whose `send` writes into it, or passes it on
to a client, and closes it: so `wlr_data_source_send` is documented, and so all of its implementations do.
The read end is kept, in `clip_read_fd` or by the loop of `dnd_out_begin_from_source`, until the read ends
one way or another.

All three exports close the write end once more after `send` has returned. Nothing is opened in between
by this thread, so the second `close` fails in most cases; it hits whatever another thread has just opened
under the same number otherwise.

* **`FdServer`** — the bridge with its descriptors: which are held, and every call of `close`.
* **`Ledger`** — each end is held or has been closed, once, and once more if it was handed to a source.
* **`closedOnce_iff`** — so each is closed once exactly in the runs that hand none over.
-/

namespace Wlx

inductive PipeEnd where
  | read
  | write
deriving DecidableEq, Repr

/-- One of the two descriptors of a pipe. The number is not that of the descriptor, which can be given out
again, but that of the pipe. -/
structure Fd where
  pipe : Nat
  side : PipeEnd
deriving DecidableEq, Repr

/-- The implementations of a source the seat can have: `wl_data_source` and
`zwp_primary_selection_source_v1` of a client, and the two the bridge offers X11 text with. -/
inductive SourceImpl where
  | clientData
  | clientPrimary
  | text
  | pri
deriving DecidableEq, Repr

/-- The bridge and its descriptors. -/
structure FdServer where
  /-- `server->xcb` -/
  xcb : Bool
  bridge : Bridge
  /-- `clip_read_source` -/
  readSource : Bool
  /-- `clip_read_fd`; -1 is a `none` -/
  readFd : Option Fd
  /-- inside the loop of `clipboard_read_fd` -/
  looping : Bool
  /-- the loops of `dnd_out_begin_from_source` in progress with their `fds[0]`, innermost first -/
  loops : List (DragRead × Fd)
  /-- how many pipes there have been -/
  pipes : Nat
  /-- what `close` was called with -/
  closed : List Fd
  /-- the write ends a source was given -/
  handed : List Fd

namespace FdServer

def init (clipboardWindow : XWindow) : FdServer where
  xcb := true
  bridge := .fresh clipboardWindow
  readSource := false
  readFd := none
  looping := false
  loops := []
  pipes := 0
  closed := []
  handed := []

/-- `close`. -/
def close (fd : Fd) (s : FdServer) : FdServer := { s with closed := fd :: s.closed }

/-- The pipe that is opened next. -/
def fds (s : FdServer) (side : PipeEnd) : Fd := ⟨s.pipes, side⟩

/-- `pipe`, if it succeeds. -/
def openPipe (s : FdServer) : FdServer := { s with pipes := s.pipes + 1 }

/-! ## Sources -/

/-- `client_data_source_send`: the connection to the client duplicates the descriptor. -/
def clientDataSourceSend (fd : Fd) (s : FdServer) : FdServer := s.close fd

/-- `client_source_send` of the primary selection. -/
def clientSourceSend (fd : Fd) (s : FdServer) : FdServer := s.close fd

/-- `text_source_send`: the text is written, or what of it can be, before. -/
def textSourceSend (fd : Fd) (s : FdServer) : FdServer := s.close fd

/-- `pri_source_send`. -/
def priSourceSend (fd : Fd) (s : FdServer) : FdServer := s.close fd

/-- `wlr_data_source_send` and `wlr_primary_selection_source_send`. -/
def wlrDataSourceSend (impl : SourceImpl) (fd : Fd) (s : FdServer) : FdServer :=
  let s := { s with handed := fd :: s.handed }
  match impl with
  | .clientData => s.clientDataSourceSend fd
  | .clientPrimary => s.clientSourceSend fd
  | .text => s.textSourceSend fd
  | .pri => s.priSourceSend fd

/-! ## `clipboard.c` -/

/-- The `if (server->clip_read_fd >= 0)` of `clipboard_clear_read`. -/
def closeRead (s : FdServer) : FdServer :=
  match s.readFd with
  | some fd => { s.close fd with readFd := none }
  | none => s

/-- `clipboard_clear_read`. -/
def clipboardClearRead (s : FdServer) : FdServer :=
  let s := { s with readSource := false }.closeRead
  { s with bridge := s.bridge.clipboardClearRead }

/-- "Finished: publish whatever we collected." -/
def publishCollected (env : PublishEnv) (s : FdServer) : FdServer :=
  { s with
    bridge := if s.bridge.read.buf ≠ []
      then s.bridge.clipboardSetX11Owner env s.bridge.read.buf s.bridge.read.target
      else s.bridge }.clipboardClearRead

/-- `clipboard_read_fd` up to its loop. -/
def clipboardReadFd (mask : Mask) (env : PublishEnv) (s : FdServer) : FdServer :=
  if mask.hangup || mask.error then { s.publishCollected env with looping := false }
  else { s with looping := mask.readable }

/-- One turn of its loop. -/
def clipboardReadChunk (result : ReadResult) (env : PublishEnv) (s : FdServer) : FdServer :=
  match result with
  | .again => { s with looping := false }
  | .failed => { s.clipboardClearRead with looping := false }
  | .eof => { s.publishCollected env with looping := false }
  | .data chunk grown =>
    if wlxClipboardMax < s.bridge.read.buf.length + chunk.length then
      { s.clipboardClearRead with looping := false }
    else if grown = false then { s.clipboardClearRead with looping := false }
    else
      { s with
        bridge := { s.bridge with read := { s.bridge.read with buf := s.bridge.read.buf ++ chunk } } }

/-- The end of `clipboard_export_wayland_source` and `primary_export_wayland_source`, from `pipe` on. -/
def exportPipe (impl : SourceImpl) (addFd : Bool) (s : FdServer) : FdServer :=
  let read := s.fds .read
  let write := s.fds .write
  let s := { s.openPipe with readFd := some read }
  -- `wl_event_loop_add_fd` gives NULL
  if addFd = false then { (s.close read).close write with readFd := none }
  else
    let s := { s with
      readSource := true
      bridge := { s.bridge with read := { s.bridge.read with reading := true } } }
    -- whatever `send` has done with it
    (s.wlrDataSourceSend impl write).close write

/-- `clipboard_export_wayland_source` and `primary_export_wayland_source`. -/
def exportWaylandSource (sel : Selection) (mime : Option Mime) (impl : SourceImpl) (env : ExportEnv)
    (s : FdServer) : FdServer :=
  if s.xcb = false then s
  else match mime with
    | none => s
    | some _ =>
      let s := s.clipboardClearRead
      let s := { s with bridge := { s.bridge with read := { s.bridge.read with target := sel } } }
      if env.pipe = false then s else s.exportPipe impl env.addFd

/-- `server_request_set_selection` and `server_request_set_primary_selection`. -/
def requestSetSelection (sel : Selection) (source : Option Source) (impl : SourceImpl) (env : ExportEnv)
    (s : FdServer) : FdServer :=
  let s := { s with
    bridge := { s.bridge with
      seat := Function.update s.bridge.seat sel (source.elim .none .client) } }
  match source with
  | none => s
  | some source =>
    if (s.bridge.channel sel).settingFromX11 then s
    else s.exportWaylandSource sel (pickMime source.mimeTypes) impl env

/-- `clipboard_finish`, and what `main` does with the connection then. -/
def clipboardFinish (s : FdServer) : FdServer := { s.clipboardClearRead with xcb := false }

/-! ## `dnd.c` -/

/-- The end of that part of `dnd_out_begin_from_source`, from `pipe` on. -/
def dndOutPipe (impl : SourceImpl) (s : FdServer) : FdServer :=
  let read := s.fds .read
  let write := s.fds .write
  let s := (s.openPipe.wlrDataSourceSend impl write).close write
  { s with loops := (.start, read) :: s.loops }

/-- `dnd_out_begin_from_source` up to its loop. -/
def dndOutBeginFromSource (source : Source) (impl : SourceImpl) (pipe : Bool) (s : FdServer) :
    FdServer :=
  if s.xcb = false then s
  else match dragMime source.mimeTypes with
    | none => s
    | some mime =>
      let s := { s with
        bridge := { s.bridge with
          dndOut := { s.bridge.dndOut with isUri := decide (mime = .textUriList) } } }
      if pipe = false then s else s.dndOutPipe impl

/-- `server_start_drag`. -/
def serverStartDrag (source : Option Source) (impl : SourceImpl) (pipe : Bool) (s : FdServer) :
    FdServer :=
  let s := { s with bridge := { s.bridge with dndOut := { s.bridge.dndOut with drag := true } } }
  match source with
  | none => s
  | some source => s.dndOutBeginFromSource source impl pipe

/-- One turn of the innermost loop, and what comes after the last. -/
def spin (result : Poll) (view : PointerView) (s : FdServer) : FdServer :=
  match s.loops with
  | [] => s
  | (loop, fd) :: rest =>
    match loop.spin result with
    | .more loop => { s with loops := (loop, fd) :: rest }
    | .done text =>
      let s := { s with loops := rest }.close fd
      { s with bridge := s.bridge.dndOutPrepared text view }
    | .abandoned => { s with loops := rest }.close fd

end FdServer

/-! ## Runs -/

inductive FdAction where
  | select (sel : Selection) (source : Option Source) (impl : SourceImpl) (env : ExportEnv)
  | callback (mask : Mask) (env : PublishEnv)
  | read (result : ReadResult) (env : PublishEnv)
  | startDrag (source : Option Source) (impl : SourceImpl) (pipe : Bool)
  | poll (result : Poll) (view : PointerView)
  /-- any other handler: none of them touches the reader -/
  | other (bridge : Bridge)
  | shutdown

namespace FdServer

/-- The event loop runs: no read loop is in progress, or the innermost one dispatches. -/
def dispatches (s : FdServer) : Bool :=
  s.xcb && !s.looping && s.loops.head?.all fun l => l.1.dispatching

def enabled (s : FdServer) : FdAction → Bool
  | .select .. | .startDrag .. => s.dispatches
  | .callback .. => s.dispatches && s.readSource
  | .read .. => s.looping
  | .poll .. => !s.looping && !s.loops.isEmpty
  | .other bridge => s.dispatches && bridge.read = s.bridge.read
  | .shutdown => s.dispatches && s.loops.isEmpty

def handle (s : FdServer) : FdAction → FdServer
  | .select sel source impl env => s.requestSetSelection sel source impl env
  | .callback mask env => s.clipboardReadFd mask env
  | .read result env => s.clipboardReadChunk result env
  | .startDrag source impl pipe => s.serverStartDrag source impl pipe
  | .poll result view => s.spin result view
  | .other bridge => { s with bridge := bridge }
  | .shutdown => s.clipboardFinish

/-- One step. -/
def step (s : FdServer) (a : FdAction) : Option FdServer :=
  if s.enabled a then some (s.handle a) else none

theorem step_eq_some {s s' : FdServer} {a : FdAction} :
    s.step a = some s' ↔ s.enabled a = true ∧ s.handle a = s' := by
  simp [step]

/-- The ends that will be closed by what the server remembers. -/
def held (s : FdServer) : List Fd := s.readFd.toList ++ s.loops.map (·.2)

/-- Each end of each pipe has been closed once, or is held and has not been; after the shutdown none is
held. -/
def ClosedOnce (s : FdServer) : Prop :=
  (∀ fd, fd.pipe < s.pipes → s.closed.count fd = if fd ∈ s.held then 0 else 1) ∧
    (s.xcb = false → s.held = [])

/-- An export gets as far as the source: it has a type for it, a pipe, and for a selection the event
source of the read end. -/
def HandsOver (s : FdServer) : FdAction → Prop
  | .select sel (some source) _ env =>
    (s.bridge.channel sel).settingFromX11 = false ∧ (pickMime source.mimeTypes).isSome ∧
      env.pipe = true ∧ env.addFd = true
  | .startDrag (some source) _ pipe => (dragMime source.mimeTypes).isSome ∧ pipe = true
  | .select _ none .. | .startDrag none .. | .callback .. | .read .. | .poll .. | .other _
  | .shutdown => False

instance (s : FdServer) : (a : FdAction) → Decidable (s.HandsOver a)
  | .select _ (some _) _ _ => inferInstanceAs (Decidable (_ ∧ _))
  | .startDrag (some _) _ _ => inferInstanceAs (Decidable (_ ∧ _))
  | .select _ none .. | .startDrag none .. | .callback .. | .read .. | .poll .. | .other _
  | .shutdown => isFalse id

/-! ## The ledger -/

/-- Every end of every pipe is accounted for: it is held, or owned by the function that runs (`own`), or
has been closed. What was handed to a source has been closed once more. -/
structure Ledger (own : List Fd) (s : FdServer) : Prop where
  count : ∀ fd, s.closed.count fd + s.held.count fd + own.count fd =
    (if fd.pipe < s.pipes then 1 else 0) + s.handed.count fd
  held : ∀ fd ∈ s.held, fd.side = .read
  handed : ∀ fd ∈ s.handed, fd.side = .write ∧ fd.pipe < s.pipes

/-- What holds between two events. -/
structure Inv (s : FdServer) : Prop where
  ledger : s.Ledger []
  down : s.xcb = false → s.looping = false ∧ s.held = []

namespace Ledger

variable {s s' : FdServer} {own : List Fd} {fd : Fd}

/-- Changes of anything but descriptors. -/
theorem congr (h : s.Ledger own) (hheld : s'.held = s.held) (hpipes : s'.pipes = s.pipes)
    (hclosed : s'.closed = s.closed) (hhanded : s'.handed = s.handed) : s'.Ledger own where
  count := by
    rw [hheld, hpipes, hclosed, hhanded]
    exact h.count
  held := by
    rw [hheld]
    exact h.held
  handed := by
    rw [hhanded, hpipes]
    exact h.handed

/-- What is owned is closed. -/
theorem close (h : s.Ledger (fd :: own)) : (s.close fd).Ledger own where
  count := by
    intro x
    have hcount := h.count x
    show (fd :: s.closed).count x + s.held.count x + own.count x = _
    rw [List.count_cons] at hcount ⊢
    show _ = (if x.pipe < s.pipes then 1 else 0) + s.handed.count x
    omega
  held := h.held
  handed := h.handed

/-- A pipe has two ends. -/
theorem count_fds (s : FdServer) (x : Fd) :
    (if s.fds .write == x then 1 else 0) + (if s.fds .read == x then 1 else 0) =
      if x.pipe = s.pipes then 1 else 0 := by
  obtain ⟨n, side⟩ := x
  by_cases hn : n = s.pipes
  · cases side <;> simp [fds, hn]
  · simp [fds, hn, Ne.symm hn]

/-- Both ends of a new pipe are owned. -/
theorem openPipe (h : s.Ledger own) :
    s.openPipe.Ledger (s.fds .read :: s.fds .write :: own) where
  count := by
    intro x
    have hcount := h.count x
    show s.closed.count x + s.held.count x + _ = (if x.pipe < s.pipes + 1 then 1 else 0) + s.handed.count x
    rw [List.count_cons, List.count_cons]
    have hnew := count_fds s x
    -- the new pipe is the one behind those there were
    have hopened : (if x.pipe < s.pipes + 1 then 1 else 0) =
        (if x.pipe < s.pipes then 1 else 0) + if x.pipe = s.pipes then 1 else 0 := by
      split <;> split <;> split <;> omega
    omega
  held := h.held
  handed := by
    intro x hx
    obtain ⟨hside, hlt⟩ := h.handed x hx
    exact ⟨hside, by show x.pipe < s.pipes + 1; omega⟩

/-- In which order they are owned does not matter. -/
theorem swap {fd' : Fd} (h : s.Ledger (fd :: fd' :: own)) : s.Ledger (fd' :: fd :: own) where
  count := by
    intro x
    have hcount := h.count x
    rw [List.count_cons, List.count_cons] at hcount ⊢
    omega
  held := h.held
  handed := h.handed

/-- A source closes what it is given, and its owner still has it. -/
theorem wlrDataSourceSend (h : s.Ledger own) (impl : SourceImpl) (hside : fd.side = .write)
    (hpipe : fd.pipe < s.pipes) : (s.wlrDataSourceSend impl fd).Ledger own := by
  have hsend : s.wlrDataSourceSend impl fd = { s with handed := fd :: s.handed, closed := fd :: s.closed } := by
    cases impl <;> rfl
  rw [hsend]
  refine ⟨?_, h.held, ?_⟩
  · intro x
    -- one more that is closed, one more that is handed out
    have hcount := h.count x
    show (fd :: s.closed).count x + s.held.count x + own.count x = _ + (fd :: s.handed).count x
    rw [List.count_cons, List.count_cons]
    show _ = (if x.pipe < s.pipes then 1 else 0) + _
    omega
  · intro x hx
    rcases List.mem_cons.mp hx with rfl | hx
    · exact ⟨hside, hpipe⟩
    · exact h.handed x hx

/-- A read end is kept in `clip_read_fd`, which was empty. -/
theorem keepRead (h : s.Ledger (fd :: own)) (hnone : s.readFd = none) (hside : fd.side = .read) :
    { s with readFd := some fd }.Ledger own where
  count := by
    intro x
    have hcount := h.count x
    rw [FdServer.held, hnone] at hcount
    show s.closed.count x + (fd :: s.loops.map (·.2)).count x + own.count x = _
    rw [List.count_cons] at hcount ⊢
    simp only [Option.toList_none, List.nil_append] at hcount
    show _ = (if x.pipe < s.pipes then 1 else 0) + s.handed.count x
    omega
  held := by
    intro x hx
    rcases List.mem_cons.mp hx with rfl | hx
    · exact hside
    · exact h.held x (List.mem_append_right _ hx)
  handed := h.handed

/-- Or taken out of it. -/
theorem takeRead (h : s.Ledger own) (hsome : s.readFd = some fd) :
    { s with readFd := none }.Ledger (fd :: own) where
  count := by
    intro x
    have hcount := h.count x
    rw [FdServer.held, hsome] at hcount
    show s.closed.count x + (s.loops.map (·.2)).count x + (fd :: own).count x = _
    simp only [Option.toList_some, List.singleton_append, List.count_cons] at hcount ⊢
    show _ = (if x.pipe < s.pipes then 1 else 0) + s.handed.count x
    omega
  held := fun x hx => h.held x (List.mem_append_right _ hx)
  handed := h.handed

/-- A read end is kept by a loop. -/
theorem keepLoop (h : s.Ledger (fd :: own)) (loop : DragRead) (hside : fd.side = .read) :
    { s with loops := (loop, fd) :: s.loops }.Ledger own where
  count := by
    intro x
    have hcount := h.count x
    show s.closed.count x + (s.readFd.toList ++ fd :: s.loops.map (·.2)).count x + own.count x = _
    rw [FdServer.held, List.count_append, List.count_cons] at hcount
    rw [List.count_append, List.count_cons]
    show _ = (if x.pipe < s.pipes then 1 else 0) + s.handed.count x
    omega
  held := by
    intro x hx
    rcases List.mem_append.mp hx with hx | hx
    · exact h.held x (List.mem_append_left _ hx)
    · rcases List.mem_cons.mp hx with rfl | hx
      · exact hside
      · exact h.held x (List.mem_append_right _ hx)
  handed := h.handed

/-- Or by none any more. -/
theorem takeLoop (h : s.Ledger own) {loop : DragRead} {rest : List (DragRead × Fd)}
    (hloops : s.loops = (loop, fd) :: rest) : { s with loops := rest }.Ledger (fd :: own) where
  count := by
    intro x
    have hcount := h.count x
    show s.closed.count x + (s.readFd.toList ++ rest.map (·.2)).count x + (fd :: own).count x = _
    rw [FdServer.held, hloops, List.map_cons, List.count_append, List.count_cons] at hcount
    rw [List.count_append, List.count_cons]
    dsimp only at hcount
    show _ = (if x.pipe < s.pipes then 1 else 0) + s.handed.count x
    omega
  held := by
    intro x hx
    refine h.held x ?_
    rw [FdServer.held, hloops]
    rcases List.mem_append.mp hx with hx | hx
    · exact List.mem_append_left _ hx
    · exact List.mem_append_right _ (List.mem_cons_of_mem _ hx)
  handed := h.handed

end Ledger

/-! ## What the functions do to it -/

section Functions

variable {s s' : FdServer} {own : List Fd}

/-- The read end is closed, and forgotten. -/
theorem Ledger.closeRead (h : s.Ledger own) : s.closeRead.Ledger own := by
  unfold FdServer.closeRead
  split
  · next fd hread => exact (h.takeRead hread).close
  · exact h

/-- Clearing the read closes what `clip_read_fd` held. -/
theorem Ledger.clearRead (h : s.Ledger own) : s.clipboardClearRead.Ledger own := by
  have hclosed : { s with readSource := false }.closeRead.Ledger own :=
    Ledger.closeRead (h.congr rfl rfl rfl rfl)
  exact hclosed.congr rfl rfl rfl rfl

/-- All that clearing the read does. -/
theorem clipboardClearRead_eq (s : FdServer) :
    s.clipboardClearRead =
      { s with
        bridge := s.bridge.clipboardClearRead
        readSource := false
        readFd := none
        closed := s.readFd.toList ++ s.closed } := by
  cases s with
  | mk xcb bridge readSource readFd looping loops pipes closed handed => cases readFd <;> rfl

@[simp] theorem clipboardClearRead_readFd (s : FdServer) : s.clipboardClearRead.readFd = none := by
  rw [clipboardClearRead_eq]

@[simp] theorem clipboardClearRead_handed (s : FdServer) : s.clipboardClearRead.handed = s.handed := by
  rw [clipboardClearRead_eq]

@[simp] theorem clipboardClearRead_xcb (s : FdServer) : s.clipboardClearRead.xcb = s.xcb := by
  rw [clipboardClearRead_eq]

@[simp] theorem clipboardClearRead_looping (s : FdServer) :
    s.clipboardClearRead.looping = s.looping := by
  rw [clipboardClearRead_eq]

@[simp] theorem clipboardClearRead_loops (s : FdServer) : s.clipboardClearRead.loops = s.loops := by
  rw [clipboardClearRead_eq]

@[simp] theorem wlrDataSourceSend_handed (s : FdServer) (impl : SourceImpl) (fd : Fd) :
    (s.wlrDataSourceSend impl fd).handed = fd :: s.handed := by
  cases impl <;> rfl

@[simp] theorem wlrDataSourceSend_xcb (s : FdServer) (impl : SourceImpl) (fd : Fd) :
    (s.wlrDataSourceSend impl fd).xcb = s.xcb := by
  cases impl <;> rfl

/-- What an event may do: the descriptors stay accounted for, the connection stays, and a write end is
handed over exactly if `hands`. -/
structure Keeps (hands : Prop) (s s' : FdServer) : Prop where
  ledger : s'.Ledger []
  xcb : s'.xcb = s.xcb
  handed : s'.handed = [] ↔ s.handed = [] ∧ ¬hands

/-- What is handed to no source is closed once, by the server. -/
theorem Keeps.of_not {hands : Prop} (hnot : ¬hands) (ledger : s'.Ledger []) (xcb : s'.xcb = s.xcb)
    (handed : s'.handed = s.handed) : Keeps hands s s' :=
  ⟨ledger, xcb, by rw [handed, and_iff_left hnot]⟩

/-- Where nothing is handed over the ledger stays balanced. -/
theorem Keeps.of_eq (ledger : s'.Ledger []) (xcb : s'.xcb = s.xcb) (handed : s'.handed = s.handed) :
    Keeps False s s' := .of_not not_false ledger xcb handed

/-- Handlers that only clear the read, or not even that. -/
theorem Ledger.keeps_clearRead (h : s.Ledger []) (bridge : Bridge) (looping : Bool) :
    Keeps False s { { s with bridge := bridge }.clipboardClearRead with looping := looping } := by
  have hledger : { s with bridge := bridge }.Ledger [] := h.congr rfl rfl rfl rfl
  refine .of_eq (hledger.clearRead.congr rfl rfl rfl rfl) ?_ ?_
  · exact clipboardClearRead_xcb { s with bridge := bridge }
  · exact clipboardClearRead_handed { s with bridge := bridge }

/-- The end of a read closes its descriptor. -/
theorem Ledger.clipboardReadFd (h : s.Ledger []) (mask : Mask) (env : PublishEnv) :
    Keeps False s (s.clipboardReadFd mask env) := by
  unfold FdServer.clipboardReadFd publishCollected
  split
  · exact h.keeps_clearRead _ false
  · exact .of_eq (h.congr rfl rfl rfl rfl) rfl rfl

/-- Until then it stays open. -/
theorem Ledger.clipboardReadChunk (h : s.Ledger []) (result : ReadResult) (env : PublishEnv) :
    Keeps False s (s.clipboardReadChunk result env) := by
  -- one case per outcome of `read`
  cases result with
  | again => exact .of_eq (h.congr rfl rfl rfl rfl) rfl rfl
  | failed => exact h.keeps_clearRead s.bridge false
  | eof => exact h.keeps_clearRead _ false
  | data chunk grown =>
    unfold FdServer.clipboardReadChunk
    dsimp only
    split
    · exact h.keeps_clearRead s.bridge false
    · split
      · exact h.keeps_clearRead s.bridge false
      · exact .of_eq (h.congr rfl rfl rfl rfl) rfl rfl

/-- Both ends are closed if nothing watches the read end. Otherwise that is kept, and the other handed
over. -/
theorem Ledger.exportPipe (h : s.Ledger []) (hnone : s.readFd = none) (impl : SourceImpl) (addFd : Bool) :
    Keeps (addFd = true) s (s.exportPipe impl addFd) := by
  unfold FdServer.exportPipe
  cases addFd with
  | false =>
    -- nobody has seen the write end
    have hboth : s.openPipe.Ledger [s.fds .read, s.fds .write] := h.openPipe
    refine .of_not (by decide) (hboth.close.close.congr ?_ rfl rfl rfl) rfl rfl
    show _ = s.readFd.toList ++ _
    rw [hnone]
    rfl
  | true =>
    -- the write end is closed by the source, and then as an end that is still owned
    have hkept : { s.openPipe with readFd := some (s.fds .read) }.Ledger [s.fds .write] :=
      h.openPipe.keepRead hnone rfl
    refine ⟨?_, ?_, ?_⟩
    · refine Ledger.close (Ledger.wlrDataSourceSend ?_ impl rfl (Nat.lt_succ_self s.pipes))
      exact hkept.congr rfl rfl rfl rfl
    · exact wlrDataSourceSend_xcb _ impl _
    · show (FdServer.wlrDataSourceSend impl _ _).handed = [] ↔ _
      rw [wlrDataSourceSend_handed]
      simp

/-- **An export of a selection.** -/
theorem Ledger.exportWaylandSource (h : s.Ledger []) (hxcb : s.xcb = true) (sel : Selection)
    (mime : Option Mime) (impl : SourceImpl) (env : ExportEnv) :
    Keeps (mime.isSome ∧ env.pipe = true ∧ env.addFd = true) s
      (s.exportWaylandSource sel mime impl env) := by
  unfold FdServer.exportWaylandSource
  rw [if_neg (by rw [hxcb]; decide)]
  cases mime with
  -- no text type: no pipe
  | none => exact .of_not (by simp) h rfl rfl
  | some mime =>
    dsimp only
    split
    · next hpipe =>
      refine .of_not (by simp [hpipe]) (h.clearRead.congr rfl rfl rfl rfl) ?_ ?_
      · exact clipboardClearRead_xcb s
      · exact clipboardClearRead_handed s
    · next hpipe =>
      -- the read before is stopped, its descriptor closed
      have hclear := h.clearRead
      have hexport := Ledger.exportPipe (s := { s.clipboardClearRead with
        bridge := { s.clipboardClearRead.bridge with
          read := { s.clipboardClearRead.bridge.read with target := sel } } })
        (hclear.congr rfl rfl rfl rfl) (clipboardClearRead_readFd s) impl env.addFd
      refine ⟨hexport.ledger, hexport.xcb.trans (clipboardClearRead_xcb s), ?_⟩
      rw [hexport.handed]
      simp [hpipe]

/-- The loop keeps the read end, after the other has been handed over. -/
theorem Ledger.dndOutPipe (h : s.Ledger []) (impl : SourceImpl) : Keeps True s (s.dndOutPipe impl) := by
  have hopen : s.openPipe.Ledger [s.fds .write, s.fds .read] := h.openPipe.swap
  have hsent := (hopen.wlrDataSourceSend impl (show (s.fds .write).side = .write from rfl)
    (Nat.lt_succ_self s.pipes)).close
  refine ⟨hsent.keepLoop .start rfl, wlrDataSourceSend_xcb _ impl _, ?_⟩
  show (FdServer.wlrDataSourceSend impl _ _).handed = [] ↔ _
  rw [wlrDataSourceSend_handed]
  simp

/-- **An export of a drag.** -/
theorem Ledger.dndOutBeginFromSource (h : s.Ledger []) (hxcb : s.xcb = true) (source : Source)
    (impl : SourceImpl) (pipe : Bool) :
    Keeps ((dragMime source.mimeTypes).isSome ∧ pipe = true) s
      (s.dndOutBeginFromSource source impl pipe) := by
  unfold FdServer.dndOutBeginFromSource
  rw [if_neg (by rw [hxcb]; decide)]
  cases dragMime source.mimeTypes with
  | none => exact .of_not (by simp) h rfl rfl
  | some mime =>
    dsimp only
    split
    -- no pipe to be had
    · next hpipe => exact .of_not (by simp [hpipe]) (h.congr rfl rfl rfl rfl) rfl rfl
    · next hpipe =>
      have hbegin := Ledger.dndOutPipe (s := { s with
        bridge := { s.bridge with
          dndOut := { s.bridge.dndOut with isUri := decide (mime = .textUriList) } } })
        (h.congr rfl rfl rfl rfl) impl
      refine ⟨hbegin.ledger, hbegin.xcb, ?_⟩
      rw [hbegin.handed]
      simp [hpipe]

/-- A turn of a loop, and its end: the read end is closed then. -/
theorem Ledger.spin (h : s.Ledger []) (result : Poll) (view : PointerView) :
    Keeps False s (s.spin result view) := by
  unfold FdServer.spin
  cases hloops : s.loops with
  | nil => exact .of_eq h rfl rfl
  | cons l rest =>
    obtain ⟨loop, fd⟩ := l
    have hclosed : (FdServer.close fd { s with loops := rest }).Ledger [] := (h.takeLoop hloops).close
    dsimp only
    split
    · refine .of_eq (h.congr ?_ rfl rfl rfl) rfl rfl
      rw [FdServer.held, FdServer.held, hloops]
      rfl
    · exact .of_eq (hclosed.congr rfl rfl rfl rfl) rfl rfl
    · exact .of_eq hclosed rfl rfl

end Functions

/-! ## The bridge of `Clipboard` and `Dnd` -/

section Bridge

variable (s : FdServer)

@[simp] theorem clipboardClearRead_bridge : s.clipboardClearRead.bridge = s.bridge.clipboardClearRead := by
  rw [clipboardClearRead_eq]

@[simp] theorem wlrDataSourceSend_bridge (impl : SourceImpl) (fd : Fd) :
    (s.wlrDataSourceSend impl fd).bridge = s.bridge := by
  cases impl <;> rfl

/-- The rest of what is published is `Clipboard`'s. -/
theorem publishCollected_bridge (env : PublishEnv) :
    (s.publishCollected env).bridge = s.bridge.publishCollected env :=
  clipboardClearRead_bridge _

/-- A read that is due does to the bridge what `Clipboard` says. -/
theorem clipboardReadFd_bridge (mask : Mask) (env : PublishEnv) :
    (s.clipboardReadFd mask env).bridge = (s.bridge.clipboardReadFd mask env).1 := by
  unfold clipboardReadFd Bridge.clipboardReadFd
  split
  · exact publishCollected_bridge s env
  · rfl

/-- So does one chunk of it. -/
theorem clipboardReadChunk_bridge (result : ReadResult) (env : PublishEnv) :
    (s.clipboardReadChunk result env).bridge = (s.bridge.clipboardReadChunk result env).1 := by
  cases result with
  | again => rfl
  | failed => exact clipboardClearRead_bridge s
  | eof => exact publishCollected_bridge s env
  | data chunk grown =>
    unfold clipboardReadChunk Bridge.clipboardReadChunk
    dsimp only
    split
    · exact clipboardClearRead_bridge s
    · split
      · exact clipboardClearRead_bridge s
      · rfl

/-- A pipe whose event source could be added is being read. -/
theorem exportPipe_bridge (impl : SourceImpl) (addFd : Bool) :
    (s.exportPipe impl addFd).bridge =
      if addFd then { s.bridge with read := { s.bridge.read with reading := true } } else s.bridge := by
  cases addFd with
  | false => rfl
  | true => exact wlrDataSourceSend_bridge _ impl _

/-- An export does to the bridge what `Clipboard` says, descriptors aside. -/
theorem exportWaylandSource_bridge (hxcb : s.xcb = true) (sel : Selection) (mime : Option Mime)
    (impl : SourceImpl) (env : ExportEnv) :
    (s.exportWaylandSource sel mime impl env).bridge = s.bridge.exportWaylandSource sel mime env := by
  unfold exportWaylandSource Bridge.exportWaylandSource
  rw [if_neg (by rw [hxcb]; decide)]
  cases mime with
  | none => rfl
  | some mime =>
    obtain ⟨pipe, addFd⟩ := env
    dsimp only
    rw [clipboardClearRead_bridge]
    cases pipe with
    -- no pipe: only the read before is stopped
    | false => rfl
    | true =>
      rw [if_neg (by decide), exportPipe_bridge]
      rfl

/-- So does a new selection. -/
theorem requestSetSelection_bridge (hxcb : s.xcb = true) (sel : Selection) (source : Option Source)
    (impl : SourceImpl) (env : ExportEnv) :
    (s.requestSetSelection sel source impl env).bridge = s.bridge.requestSetSelection sel source env := by
  cases source with
  | none => cases sel <;> rfl
  | some source =>
    unfold requestSetSelection
    dsimp only
    cases sel with
    | clipboard =>
      unfold Bridge.requestSetSelection Bridge.serverRequestSetSelection
      dsimp only
      -- not for a selection the bridge is setting itself
      split
      · rfl
      · refine exportWaylandSource_bridge _ ?_ .clipboard _ impl env
        exact hxcb
    | primary =>
      unfold Bridge.requestSetSelection Bridge.serverRequestSetPrimarySelection
      dsimp only
      split
      · rfl
      · refine exportWaylandSource_bridge _ ?_ .primary _ impl env
        exact hxcb

/-- So does a drag that starts. -/
theorem serverStartDrag_bridge (hxcb : s.xcb = true) (source : Option Source) (impl : SourceImpl)
    (pipe : Bool) :
    (s.serverStartDrag source impl pipe).bridge = (s.bridge.serverStartDrag source pipe).1 := by
  unfold serverStartDrag Bridge.serverStartDrag
  cases source with
  | none => rfl
  | some source =>
    dsimp only
    unfold dndOutBeginFromSource Bridge.dndOutBeginFromSource
    rw [if_neg (by rw [hxcb]; decide)]
    cases dragMime source.mimeTypes with
    | none => rfl
    | some mime =>
      dsimp only
      split
      · rfl
      · exact wlrDataSourceSend_bridge _ impl _

end Bridge

/-! ## Every run -/

section Runs

variable {s s' : FdServer} {a : FdAction}

/-- Before the first pipe there is nothing to close. -/
theorem ledger_init (clipboardWindow : XWindow) : (init clipboardWindow).Ledger [] where
  count := fun _ => rfl
  held := fun _ h => nomatch h
  handed := fun _ h => nomatch h

/-- While something can happen, but the shutdown, the connection is there. -/
theorem xcb_of_enabled (h : s.Inv) (hen : s.enabled a = true) : s.xcb = true := by
  by_contra hdown
  rw [Bool.not_eq_true] at hdown
  obtain ⟨hloop, hheld⟩ := h.down hdown
  obtain ⟨-, hloops⟩ := List.append_eq_nil_iff.mp hheld
  rw [List.map_eq_nil_iff] at hloops
  cases a <;> simp [enabled, dispatches, hdown, hloop, hloops] at hen

/-- **One step.** -/
theorem Inv.step (h : s.Inv) (hstep : s.step a = some s') :
    s'.Inv ∧ (s'.handed = [] ↔ s.handed = [] ∧ ¬s.HandsOver a) := by
  obtain ⟨hen, rfl⟩ := step_eq_some.mp hstep
  have hxcb := xcb_of_enabled h hen
  -- only the shutdown takes the connection away
  have hkeeps : ∀ {hands : Prop} {t : FdServer}, Keeps hands s t →
      t.Inv ∧ (t.handed = [] ↔ s.handed = [] ∧ ¬hands) := fun {_ _} hk =>
    ⟨⟨hk.ledger, fun hdown => absurd (hk.xcb.symm.trans hdown) (by rw [hxcb]; decide)⟩, hk.handed⟩
  cases a with
  | select sel source impl env =>
    cases source with
    | none => exact hkeeps (.of_eq (h.ledger.congr rfl rfl rfl rfl) rfl rfl)
    | some source =>
      unfold handle requestSetSelection HandsOver
      dsimp only
      split
      · next hset =>
        exact hkeeps (.of_not (by simp [hset]) (h.ledger.congr rfl rfl rfl rfl) rfl rfl)
      · next hset =>
        have hexport := Ledger.exportWaylandSource (s := { s with
          bridge := { s.bridge with
            seat := Function.update s.bridge.seat sel ((some source).elim .none .client) } })
          (h.ledger.congr rfl rfl rfl rfl) hxcb sel (pickMime source.mimeTypes) impl env
        refine hkeeps ⟨hexport.ledger, hexport.xcb, ?_⟩
        rw [hexport.handed]
        simp [hset]
  | callback mask env => exact hkeeps (h.ledger.clipboardReadFd mask env)
  | read result env => exact hkeeps (h.ledger.clipboardReadChunk result env)
  | startDrag source impl pipe =>
    cases source with
    | none => exact hkeeps (.of_eq (h.ledger.congr rfl rfl rfl rfl) rfl rfl)
    | some source =>
      have hbegin := Ledger.dndOutBeginFromSource (s := { s with
        bridge := { s.bridge with dndOut := { s.bridge.dndOut with drag := true } } })
        (h.ledger.congr rfl rfl rfl rfl) hxcb source impl pipe
      exact hkeeps ⟨hbegin.ledger, hbegin.xcb, hbegin.handed⟩
  | poll result view => exact hkeeps (h.ledger.spin result view)
  | other bridge => exact hkeeps (.of_eq (h.ledger.congr rfl rfl rfl rfl) rfl rfl)
  | shutdown =>
    -- no loop holds an end any more, and clearing the read gives up the last one
    simp only [enabled, dispatches, Bool.and_eq_true, Bool.not_eq_true', List.isEmpty_iff] at hen
    obtain ⟨⟨⟨-, hloop⟩, -⟩, hloops⟩ := hen
    refine ⟨⟨h.ledger.clearRead.congr rfl rfl rfl rfl, fun _ => ⟨?_, ?_⟩⟩, ?_⟩
    · show s.clipboardClearRead.looping = false
      rw [clipboardClearRead_looping, hloop]
    · show s.clipboardClearRead.readFd.toList ++ s.clipboardClearRead.loops.map (·.2) = []
      rw [clipboardClearRead_readFd, clipboardClearRead_loops, hloops]
      rfl
    · show s.clipboardClearRead.handed = [] ↔ _
      rw [clipboardClearRead_handed, and_iff_left (by exact id)]

/-- Nothing handed over, and every end is closed once or held; something, and that is closed twice. -/
theorem Inv.closedOnce_iff_handed (h : s.Inv) : s.ClosedOnce ↔ s.handed = [] := by
  constructor
  · rintro ⟨honce, -⟩
    by_contra hne
    obtain ⟨fd, hfd⟩ := List.exists_mem_of_ne_nil _ hne
    obtain ⟨hside, hlt⟩ := h.ledger.handed fd hfd
    -- a write end is never held, so it would have been closed once, but the ledger says twice
    have hnot : fd ∉ s.held := fun hheld => by
      have hread := h.ledger.held fd hheld
      rw [hside] at hread
      cases hread
    have hcount := h.ledger.count fd
    rw [honce fd hlt, if_neg hnot, if_pos hlt, List.count_eq_zero_of_not_mem hnot] at hcount
    have hpos : 0 < s.handed.count fd := List.count_pos_iff.mpr hfd
    simp at hcount
    omega
  · intro hnone
    refine ⟨fun fd hlt => ?_, fun hdown => (h.down hdown).2⟩
    have hcount := h.ledger.count fd
    rw [hnone, if_pos hlt, List.count_nil] at hcount
    split
    · next hheld =>
      have hpos : 0 < s.held.count fd := List.count_pos_iff.mpr hheld
      omega
    · next hheld =>
      rw [List.count_eq_zero_of_not_mem hheld] at hcount
      omega

/-- Read ends are closed once in every run. -/
theorem Inv.closed_read (h : s.Inv) {fd : Fd} (hside : fd.side = .read) (hlt : fd.pipe < s.pipes) :
    s.closed.count fd + s.held.count fd = 1 := by
  have hcount := h.ledger.count fd
  have hnot : fd ∉ s.handed := fun hfd => by
    have hwrite := (h.ledger.handed fd hfd).1
    rw [hside] at hwrite
    cases hwrite
  rw [if_pos hlt, List.count_eq_zero_of_not_mem hnot, List.count_nil] at hcount
  omega

/-- The server starts with its connection up and nothing held. -/
theorem inv_init (clipboardWindow : XWindow) : (init clipboardWindow).Inv :=
  ⟨ledger_init clipboardWindow, fun hdown => nomatch hdown⟩

/-- Along every run the ledger is balanced. -/
theorem Inv.run {clipboardWindow : XWindow} {as : List FdAction}
    (hrun : Run.run FdServer.step (init clipboardWindow) as = some s) : s.Inv :=
  Run.run_invariant (I := Inv) (fun _ _ _ h hstep => (Inv.step h hstep).1) (inv_init clipboardWindow) hrun

/-- **Who closes.** Every end of every pipe is closed once, or is still held, exactly if no export of the
run has come as far as its source. -/
theorem closedOnce_iff (clipboardWindow : XWindow) (as : List FdAction) (t : FdServer)
    (hrun : Run.run FdServer.step (init clipboardWindow) as = some t) :
    t.ClosedOnce ↔ Run.Along FdServer.step (fun s a => ¬s.HandsOver a) (init clipboardWindow) as := by
  have hclean := Run.clean_iff_along (C := fun s => s.handed = []) (I := Inv)
    (fun _ _ _ h hstep => Inv.step h hstep) (inv_init clipboardWindow) hrun
  rw [(Inv.run hrun).closedOnce_iff_handed, hclean]
  exact and_iff_right rfl

end Runs

/-- Exports that fail early: there is no pipe, or nothing to watch it with. -/
def failedRun : List FdAction :=
  [.select .clipboard (some ⟨[.textPlain], [104, 105]⟩) .clientData ⟨true, false⟩,
    .startDrag (some ⟨[.textPlain], [104, 105]⟩) .clientData false, .shutdown]

/-- A pipe of which the export fails is closed on both ends, once each. -/
theorem closedOnce_iff_failedRun :
    ∃ t, Run.run FdServer.step (init 1) failedRun = some t ∧ t.pipes = 1 ∧
      (t.ClosedOnce ↔ Run.Along FdServer.step (fun s a => ¬s.HandsOver a) (init 1) failedRun) ∧
      t.ClosedOnce :=
  have hrun : Run.run FdServer.step (init 1) failedRun = some _ := rfl
  ⟨_, hrun, rfl, closedOnce_iff 1 failedRun _ hrun, (closedOnce_iff 1 failedRun _ hrun).mpr (by decide)⟩

/-- A client copies `hi`, writes it and closes its end; the session ends. -/
def copiedRun : List FdAction :=
  [.select .clipboard (some ⟨[.textPlain], [104, 105]⟩) .clientData ⟨true, true⟩,
    .callback ⟨true, false, false⟩ ⟨true, true⟩, .read (.data [104, 105] true) ⟨true, true⟩,
    .read .eof ⟨true, true⟩, .shutdown]

/-- Its write end is closed by `client_data_source_send`, and again by the export. -/
theorem copiedRun_closes_twice :
    ¬∀ (clipboardWindow : XWindow) (as : List FdAction) (t : FdServer),
      Run.run FdServer.step (init clipboardWindow) as = some t → t.ClosedOnce := by
  intro h
  obtain ⟨honce, -⟩ := h 1 copiedRun _ rfl
  have hwrite := honce ⟨0, .write⟩ (by decide)
  revert hwrite
  decide

end FdServer

end Wlx
