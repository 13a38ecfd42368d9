import WlX11.Lib.GrowBuffer
import WlX11.Lib.Run
import WlX11.Dnd

/-!
# WlX11 — the readers in memory

`clipboard_read_fd` and `dnd_out_begin_from_source` collect what they read in a buffer that doubles, each
with a loop of its own. `Clipboard` and `Dnd` keep the collected text as a list; here it is a block of
memory, the length in use and the capacity, all arithmetic is that of `size_t`, and a store outside of the
block is a fault.

* **`takeChunk`** — what both loops do with a chunk.
* **`ClipServer.clipboardReadChunk`**, **`DragReadMem.spin`** — one turn of each loop, over memory;
  `clipboardReadChunk_refines` and `spin_refines` say that it is the turn of `Clipboard`, or of `Dnd`.
* **`ClipRun`**, **`DragReadRun`** — the two readers among all the other handlers.
* **`ClipRun.wholeRead_published`** — a text that fits is published, however often the buffer has to grow.
* **`readers_account`** — neither ever faults, each holds exactly what it has read, and a chunk that is
  too much, or finds no memory, ends the read with nothing published.
-/

namespace Wlx

open GrowBuffer (Buffer Fault size)

/-- `size_t`. -/
structure SizeT where
  bits : Nat
  bits_ge : 32 ≤ bits

/-- What a `read` into `char tmp[4096]` has put there. -/
structure Chunk where
  bytes : Text
  pos : 0 < bytes.length
  le : bytes.length ≤ 4096
deriving DecidableEq

/-- What `read` returns, and whether `realloc` finds memory, should it be called. -/
inductive RawRead where
  | data (chunk : Chunk) (alloc : Bool)
  | eof
  | again
  | failed
deriving DecidableEq

/-- What a turn of the drag's loop sees. -/
inductive RawPoll where
  | failed
  | timeout
  | ready (result : RawRead)
deriving DecidableEq

/-- The chunk is too much, or does not fit the buffer and finds no memory. -/
def Refuses (buf : Buffer UInt8) (chunk : Chunk) (alloc : Bool) : Prop :=
  wlxClipboardMax < buf.len + chunk.bytes.length ∨ buf.Grows chunk.bytes.length ∧ alloc = false

instance (buf : Buffer UInt8) (chunk : Chunk) (alloc : Bool) : Decidable (Refuses buf chunk alloc) :=
  inferInstanceAs (Decidable (_ ∨ _ ∧ _))

/-- What a buffer is between two turns: it holds what was read and the terminator, within its capacity,
and no more than the limit. -/
structure HoldsRead (buf : Buffer UInt8) (text : Text) : Prop where
  holds : buf.Holds 0 text
  room : buf.block.isSome → buf.len + 1 ≤ buf.cap
  bound : text.length ≤ wlxClipboardMax

/-- The part of the two loops that stores a chunk; `none` says that the read is given up. -/
def takeChunk (z : SizeT) (chunk : Chunk) (alloc : Bool) (buf : Buffer UInt8) :
    Except Fault (Option (Buffer UInt8)) := do
  let total ← size z.bits (buf.len + chunk.bytes.length)
  if wlxClipboardMax < total then return none
  else buf.append z.bits 4096 0 alloc chunk.bytes

namespace RawRead

/-- The chunk, if there is one. -/
def chunks : RawRead → List Chunk
  | .data chunk _ => [chunk]
  | .eof | .again | .failed => []

/-- The result as `Clipboard` and `Dnd` have it. -/
def result (buf : Buffer UInt8) : RawRead → ReadResult
  | .data chunk alloc => .data chunk.bytes (!(decide (buf.Grows chunk.bytes.length) && !alloc))
  | .eof => .eof
  | .again => .again
  | .failed => .failed

end RawRead

def RawPoll.chunks : RawPoll → List Chunk
  | .failed | .timeout => []
  | .ready result => result.chunks

/-- What the turn sees, as `Dnd` has it. -/
def RawPoll.poll (buf : Buffer UInt8) : RawPoll → Poll
  | .failed => .failed
  | .timeout => .timeout
  | .ready result => .ready (result.result buf)

/-! ## `clipboard.c` -/

/-- The server with the `clip_read_buf`, `clip_read_len` and `clip_read_cap` of C; `bridge.read.buf` is
not looked at. -/
structure ClipServer where
  bridge : Bridge
  buf : Buffer UInt8

namespace ClipServer

/-- The server of `Clipboard` that has collected `text`. -/
def view (s : ClipServer) (text : Text) : Bridge :=
  { s.bridge with read := { s.bridge.read with buf := text } }

/-- `clipboard_clear_read`. -/
def clipboardClearRead (s : ClipServer) : ClipServer := ⟨s.bridge.clipboardClearRead, .null⟩

/-- "Finished: publish whatever we collected." -/
def publishCollected (env : PublishEnv) (s : ClipServer) : Except Fault ClipServer := do
  if 0 < s.buf.len ∧ s.buf.block.isSome then
    let text ← s.buf.contents
    let bridge := s.bridge.clipboardSetX11Owner env text s.bridge.read.target
    return { s with bridge := bridge }.clipboardClearRead
  else return s.clipboardClearRead

/-- `clipboard_read_fd` up to its loop. -/
def clipboardReadFd (mask : Mask) (env : PublishEnv) (s : ClipServer) :
    Except Fault (ClipServer × Bool) := do
  if mask.hangup || mask.error then
    let s ← s.publishCollected env
    return (s, false)
  else return (s, mask.readable)

/-- One turn of its loop. -/
def clipboardReadChunk (z : SizeT) (result : RawRead) (env : PublishEnv) (s : ClipServer) :
    Except Fault (ClipServer × Bool) := do
  match result with
  | .again => return (s, false)
  | .failed => return (s.clipboardClearRead, false)
  | .eof =>
    let s ← s.publishCollected env
    return (s, false)
  | .data chunk alloc =>
    match ← takeChunk z chunk alloc s.buf with
    | none => return (s.clipboardClearRead, false)
    | some buf => return ({ s with buf := buf }, true)

/-- `clipboard_export_wayland_source` and `primary_export_wayland_source`. -/
def exportWaylandSource (sel : Selection) (mime : Option Mime) (env : ExportEnv) (s : ClipServer) :
    ClipServer :=
  match mime with
  | none => s
  | some _ =>
    let s := s.clipboardClearRead
    { s with bridge := s.bridge.exportWaylandSource sel mime env }

end ClipServer

/-! ## `dnd.c` -/

/-- The locals of the loop of `dnd_out_begin_from_source`. -/
structure DragReadMem where
  buf : Buffer UInt8
  spins : Nat
  dispatching : Bool

/-- What a turn of it leads to. -/
inductive MemSpin where
  | more (loop : DragReadMem)
  | done (text : Text)
  | abandoned

namespace DragReadMem

def start : DragReadMem := ⟨.null, 0, false⟩

/-- The loop of `Dnd` that has collected `text`. -/
def view (loop : DragReadMem) (text : Text) : DragRead := ⟨text, loop.spins, loop.dispatching⟩

/-- The end of the function: what was collected, if anything. -/
def finish (buf : Buffer UInt8) : Except Fault MemSpin := do
  if buf.block.isNone ∨ buf.len = 0 then return .done []
  else
    let text ← buf.contents
    return .done text

def next (loop : DragReadMem) (buf : Buffer UInt8) (dispatching : Bool) : Except Fault MemSpin :=
  if loop.spins + 1 < 100 then .ok (.more ⟨buf, loop.spins + 1, dispatching⟩) else finish buf

/-- One turn of the loop. -/
def spin (z : SizeT) (loop : DragReadMem) : RawPoll → Except Fault MemSpin
  | .failed | .ready .eof | .ready .failed => finish loop.buf
  | .timeout => loop.next loop.buf true
  | .ready .again => loop.next loop.buf false
  | .ready (.data chunk alloc) => do
    match ← takeChunk z chunk alloc loop.buf with
    | none => return .abandoned
    | some buf => loop.next buf false

end DragReadMem

/-! ## One chunk -/

section Chunk

variable {z : SizeT} {buf : Buffer UInt8} {text : Text} {chunk : Chunk} {alloc : Bool}

/-- A buffer that holds a text has room for its end. -/
theorem HoldsRead.of_holds (holds : buf.Holds 0 text) (bound : text.length ≤ wlxClipboardMax) :
    HoldsRead buf text := ⟨holds, holds.len_lt_cap, bound⟩

/-- The buffer of a read that has not begun. -/
theorem holdsRead_null : HoldsRead .null [] := .of_holds (Buffer.holds_null 0) (Nat.zero_le _)

/-- Twice the largest text, with a chunk and a terminator, fits. -/
theorem SizeT.room (z : SizeT) {n : Nat} (h : n ≤ wlxClipboardMax + 4096) :
    2 * (n + 1) ≤ 2 ^ z.bits := by
  have hle : 2 * (n + 1) ≤ 2 * (wlxClipboardMax + 4096 + 1) := by omega
  have hword : 2 * (wlxClipboardMax + 4096 + 1) ≤ 2 ^ 32 := by decide
  exact le_trans hle (le_trans hword (Nat.pow_le_pow_right (by decide) z.bits_ge))

/-- Up to the limit no size wraps. -/
theorem SizeT.size_eq (z : SizeT) {n : Nat} (h : n ≤ wlxClipboardMax + 4096) :
    size z.bits n = .ok n := by
  have hroom := z.room h
  exact GrowBuffer.size_of_lt (by omega)

/-- The sum of two lengths is no overflow. -/
theorem takeChunk_eq (hbuf : HoldsRead buf text) (z : SizeT) (chunk : Chunk) (alloc : Bool) :
    takeChunk z chunk alloc buf =
      if wlxClipboardMax < buf.len + chunk.bytes.length then .ok none
      else buf.append z.bits 4096 0 alloc chunk.bytes := by
  have hle := chunk.le
  have hlen := hbuf.holds.len
  have hmax := hbuf.bound
  unfold takeChunk
  rw [z.size_eq (by omega)]
  rfl

/-- A refused chunk ends the read. -/
theorem takeChunk_of_refuses (hbuf : HoldsRead buf text) (h : Refuses buf chunk alloc) :
    takeChunk z chunk alloc buf = .ok none := by
  have hle := chunk.le
  have hlen := hbuf.holds.len
  rw [takeChunk_eq hbuf]
  split
  · rfl
  · next hshort =>
    -- not too long, so the block cannot grow
    obtain ⟨hgrows, halloc⟩ := h.resolve_left hshort
    have hbits : 2 * (text.length + chunk.bytes.length + 1) ≤ 2 ^ z.bits := z.room (by omega)
    rcases hbuf.holds.append chunk.bytes alloc (show 0 < 4096 by decide) hbits with
      ⟨-, -, hnone⟩ | ⟨hmem, -⟩
    · exact hnone
    · exact absurd (hmem hgrows) (by rw [halloc]; decide)

/-- Any other is stored. -/
theorem takeChunk_of_not_refuses (hbuf : HoldsRead buf text) (h : ¬Refuses buf chunk alloc) :
    ∃ buf', takeChunk z chunk alloc buf = .ok (some buf') ∧ HoldsRead buf' (text ++ chunk.bytes) := by
  have hle := chunk.le
  have hlen := hbuf.holds.len
  obtain ⟨hshort, hmem⟩ := not_or.mp h
  have hbits : 2 * (text.length + chunk.bytes.length + 1) ≤ 2 ^ z.bits := z.room (by omega)
  rcases hbuf.holds.append chunk.bytes alloc (show 0 < 4096 by decide) hbits with
    ⟨hgrows, halloc, -⟩ | ⟨-, buf', hsome, -, hholds⟩
  · exact absurd ⟨hgrows, halloc⟩ hmem
  · refine ⟨buf', ?_, .of_holds hholds (by rw [List.length_append]; omega)⟩
    rw [takeChunk_eq hbuf, if_neg hshort, hsome]

/-- What `Clipboard` and `Dnd` refuse. -/
theorem refuses_iff (hbuf : buf.Holds 0 text) : Refuses buf chunk alloc ↔
    wlxClipboardMax < text.length + chunk.bytes.length ∨
      (!(decide (buf.Grows chunk.bytes.length) && !alloc)) = false := by
  unfold Refuses
  rw [hbuf.len]
  cases alloc <;> simp

/-- Both tests for something collected say so. -/
theorem collected_iff (hbuf : buf.Holds 0 text) : (0 < buf.len ∧ buf.block.isSome) ↔ text ≠ [] := by
  rw [hbuf.len]
  constructor
  · rintro ⟨hpos, -⟩ rfl
    exact absurd hpos (by decide)
  · intro hne
    refine ⟨List.length_pos_iff.mpr hne, ?_⟩
    by_contra hnull
    have hcells : buf.cells = [] := by
      rw [Buffer.cells, Option.not_isSome_iff_eq_none.mp hnull]
      rfl
    have hread := hbuf.prefix_eq
    rw [hcells, List.take_nil] at hread
    exact hne (List.map_eq_nil_iff.mp hread.symm)

end Chunk

/-! ## The functions, over what they hold -/

section Functions

variable {z : SizeT} {text : Text} {chunk : Chunk} {alloc : Bool}

namespace ClipServer

variable {s : ClipServer}

/-- Claiming a selection does not look at the reader. -/
theorem clipboardSetX11Owner_view (env : PublishEnv) (text text' : Text) (sel : Selection) :
    ((s.view text').clipboardSetX11Owner env text sel).clipboardClearRead =
      (s.bridge.clipboardSetX11Owner env text sel).clipboardClearRead := by
  unfold Bridge.clipboardSetX11Owner
  dsimp only
  split <;> rfl

/-- What is published is all that was collected. -/
theorem publishCollected_eq (hbuf : HoldsRead s.buf text) (env : PublishEnv) :
    s.publishCollected env = .ok ⟨(s.view text).publishCollected env, .null⟩ := by
  unfold publishCollected Bridge.publishCollected
  by_cases hne : text ≠ []
  -- `clip_read_len` counts all that is behind `clip_read_buf`, so that much can be copied out
  · rw [if_pos ((collected_iff hbuf.holds).mpr hne), hbuf.holds.contents]
    dsimp only
    rw [if_pos (show (s.view text).read.buf ≠ [] from hne)]
    show Except.ok _ = Except.ok (⟨((s.view text).clipboardSetX11Owner env text
      s.bridge.read.target).clipboardClearRead, .null⟩ : ClipServer)
    rw [clipboardSetX11Owner_view]
    rfl
  · rw [if_neg (mt (collected_iff hbuf.holds).mp hne)]
    dsimp only
    rw [if_neg (show ¬(s.view text).read.buf ≠ [] from hne)]
    rfl

/-- A chunk that is refused leaves nothing behind. -/
theorem clipboardReadChunk_of_refuses (hbuf : HoldsRead s.buf text) (h : Refuses s.buf chunk alloc)
    (env : PublishEnv) :
    s.clipboardReadChunk z (.data chunk alloc) env = .ok (s.clipboardClearRead, false) := by
  unfold clipboardReadChunk
  dsimp only
  rw [takeChunk_of_refuses hbuf h]
  rfl

/-- A chunk that is not refused is appended. -/
theorem clipboardReadChunk_of_not_refuses (hbuf : HoldsRead s.buf text) (h : ¬Refuses s.buf chunk alloc)
    (env : PublishEnv) :
    ∃ buf', s.clipboardReadChunk z (.data chunk alloc) env = .ok ({ s with buf := buf' }, true) ∧
      HoldsRead buf' (text ++ chunk.bytes) := by
  obtain ⟨buf', htake, hholds⟩ := takeChunk_of_not_refuses (z := z) hbuf h
  refine ⟨buf', ?_, hholds⟩
  unfold clipboardReadChunk
  dsimp only
  rw [htake]
  rfl

/-- **The turn of `Clipboard`.** -/
theorem clipboardReadChunk_refines (hbuf : HoldsRead s.buf text) (result : RawRead)
    (env : PublishEnv) :
    ∃ s' text', HoldsRead s'.buf text' ∧
      s'.view text' = ((s.view text).clipboardReadChunk (result.result s.buf) env).1 ∧
      s.clipboardReadChunk z result env =
        .ok (s', ((s.view text).clipboardReadChunk (result.result s.buf) env).2) := by
  cases result with
  | eof =>
    refine ⟨⟨(s.view text).publishCollected env, .null⟩, [], holdsRead_null, rfl, ?_⟩
    unfold clipboardReadChunk
    dsimp only
    rw [publishCollected_eq hbuf]
    rfl
  | again => exact ⟨s, text, hbuf, rfl, rfl⟩
  | failed => exact ⟨s.clipboardClearRead, [], holdsRead_null, rfl, rfl⟩
  | data chunk alloc =>
    unfold RawRead.result Bridge.clipboardReadChunk
    dsimp only
    -- both levels refuse the same chunks
    by_cases hrefuses : Refuses s.buf chunk alloc
    · rw [clipboardReadChunk_of_refuses hbuf hrefuses]
      rw [refuses_iff hbuf.holds] at hrefuses
      refine ⟨s.clipboardClearRead, [], holdsRead_null, ?_⟩
      split
      · exact ⟨rfl, rfl⟩
      · next hshort =>
        rw [if_pos (hrefuses.resolve_left hshort)]
        exact ⟨rfl, rfl⟩
    · obtain ⟨buf', hread, hholds⟩ := clipboardReadChunk_of_not_refuses (z := z) hbuf hrefuses env
      rw [refuses_iff hbuf.holds, not_or] at hrefuses
      rw [hread]
      refine ⟨{ s with buf := buf' }, text ++ chunk.bytes, hholds, ?_⟩
      rw [if_neg (show ¬wlxClipboardMax < (s.view text).read.buf.length + _ from hrefuses.1),
        if_neg hrefuses.2]
      exact ⟨rfl, rfl⟩

end ClipServer

/-- The outcomes are the same, and a loop that goes on holds the same text. -/
def MemSpin.Refines : MemSpin → SpinResult → Prop
  | .more loop, .more loop' => HoldsRead loop.buf loop'.buf ∧ loop.view loop'.buf = loop'
  | .done text, .done text' => text = text'
  | .abandoned, .abandoned => True
  | _, _ => False

namespace DragReadMem

variable {loop : DragReadMem} {buf : Buffer UInt8}

/-- The text that is used is all that was collected. -/
theorem finish_eq (hbuf : HoldsRead buf text) : finish buf = .ok (.done text) := by
  have hnone : (buf.block.isNone ∨ buf.len = 0) ↔ ¬(0 < buf.len ∧ buf.block.isSome) := by
    rw [← Option.not_isSome, Bool.not_eq_true']
    cases buf.block.isSome <;> simp
  unfold finish
  by_cases hne : text ≠ []
  · rw [if_neg (by rw [hnone, not_not]; exact (collected_iff hbuf.holds).mpr hne), hbuf.holds.contents]
    rfl
  · rw [if_pos (hnone.mpr (mt (collected_iff hbuf.holds).mp hne)), not_not.mp hne]
    rfl

/-- One more turn, with the same text, or the end. -/
theorem next_eq (hbuf : HoldsRead buf text) (dispatching : Bool) :
    loop.next buf dispatching = .ok (if loop.spins + 1 < 100
      then .more ⟨buf, loop.spins + 1, dispatching⟩ else .done text) := by
  unfold next
  split
  · rfl
  · exact finish_eq hbuf

/-- The drag's loop gives up where the clipboard's read does, -/
theorem spin_of_refuses (hbuf : HoldsRead loop.buf text) (h : Refuses loop.buf chunk alloc) :
    loop.spin z (.ready (.data chunk alloc)) = .ok .abandoned := by
  unfold spin
  dsimp only
  rw [takeChunk_of_refuses hbuf h]
  rfl

/-- and appends where that appends. -/
theorem spin_of_not_refuses (hbuf : HoldsRead loop.buf text) (h : ¬Refuses loop.buf chunk alloc) :
    ∃ buf', HoldsRead buf' (text ++ chunk.bytes) ∧
      loop.spin z (.ready (.data chunk alloc)) = .ok (if loop.spins + 1 < 100
        then .more ⟨buf', loop.spins + 1, false⟩ else .done (text ++ chunk.bytes)) := by
  obtain ⟨buf', htake, hholds⟩ := takeChunk_of_not_refuses (z := z) hbuf h
  refine ⟨buf', hholds, ?_⟩
  unfold spin
  dsimp only
  rw [htake]
  exact next_eq hholds false

/-- The end of a turn is that of the loop over texts. -/
theorem refines_next (loop : DragReadMem) (held : Text) (hbuf : HoldsRead buf text)
    (dispatching : Bool) :
    ∃ r, loop.next buf dispatching = .ok r ∧
      r.Refines ((loop.view held).next text dispatching) := by
  refine ⟨_, next_eq hbuf dispatching, ?_⟩
  unfold DragRead.next
  show MemSpin.Refines _ (if loop.spins + 1 < 100 then _ else _)
  split
  · exact ⟨hbuf, rfl⟩
  · exact rfl

/-- **The turn of `Dnd`.** -/
theorem spin_refines (hbuf : HoldsRead loop.buf text) (result : RawPoll) :
    ∃ r, loop.spin z result = .ok r ∧ r.Refines ((loop.view text).spin (result.poll loop.buf)) := by
  cases result with
  | failed => exact ⟨.done text, finish_eq hbuf, rfl⟩
  | timeout => exact refines_next loop text hbuf true
  | ready result =>
    cases result with
    | eof => exact ⟨.done text, finish_eq hbuf, rfl⟩
    | failed => exact ⟨.done text, finish_eq hbuf, rfl⟩
    -- nothing there, though `poll` said so: the loop goes on
    | again => exact refines_next loop text hbuf false
    | data chunk alloc =>
      unfold RawPoll.poll RawRead.result DragRead.spin
      dsimp only
      by_cases hrefuses : Refuses loop.buf chunk alloc
      -- refused by the buffer as by the list of bytes
      · refine ⟨.abandoned, spin_of_refuses hbuf hrefuses, ?_⟩
        rw [refuses_iff hbuf.holds] at hrefuses
        split
        · trivial
        · next hshort =>
          rw [if_pos (hrefuses.resolve_left hshort)]
          trivial
      · obtain ⟨buf', hholds, hspin⟩ := spin_of_not_refuses (z := z) hbuf hrefuses
        obtain ⟨r, hr, hrefines⟩ := refines_next loop text hholds false
        rw [next_eq hholds] at hr
        rw [refuses_iff hbuf.holds, not_or] at hrefuses
        rw [if_neg (show ¬wlxClipboardMax < (loop.view text).buf.length + _ from hrefuses.1),
          if_neg hrefuses.2]
        exact ⟨r, hspin.trans hr, hrefines⟩

end DragReadMem

end Functions

/-! ## `clipboard_read_fd` among the other handlers -/

/-- The server, whether it is inside the loop, and the chunks the read in progress has read. -/
structure ClipRun where
  server : ClipServer
  looping : Bool
  chunks : List Chunk

inductive ClipAction where
  /-- a client sets one of the selections -/
  | start (sel : Selection) (mime : Option Mime) (env : ExportEnv)
  | callback (mask : Mask) (env : PublishEnv)
  | read (result : RawRead) (env : PublishEnv)
  /-- any other handler: none of them touches the reader -/
  | other (bridge : Bridge)

namespace ClipRun

def init (clipboardWindow : XWindow) : ClipRun := ⟨⟨.fresh clipboardWindow, .null⟩, false, []⟩

/-- What the read in progress has read. -/
def text (s : ClipRun) : Text := s.chunks.flatMap Chunk.bytes

def enabled (s : ClipRun) : ClipAction → Bool
  | .start .. => !s.looping
  | .callback .. => !s.looping && s.server.bridge.read.reading
  | .read .. => s.looping
  | .other bridge => !s.looping && bridge.read = s.server.bridge.read

/-- The state after a callback, or a turn of its loop: with the read, what was read is gone. -/
def after (server : ClipServer) (looping : Bool) (chunks : List Chunk) : ClipRun :=
  ⟨server, looping, if server.bridge.read.reading then chunks else []⟩

def handle (z : SizeT) (s : ClipRun) : ClipAction → Except Fault ClipRun
  | .start sel mime env =>
    .ok ⟨s.server.exportWaylandSource sel mime env, false, if mime.isSome then [] else s.chunks⟩
  | .callback mask env => do
    let (server, enters) ← s.server.clipboardReadFd mask env
    return after server enters s.chunks
  | .read result env => do
    let (server, more) ← s.server.clipboardReadChunk z result env
    return after server more (s.chunks ++ result.chunks)
  | .other bridge => .ok { s with server := { s.server with bridge := bridge } }

/-- One step; there is none after a fault. -/
def step (z : SizeT) : Except Fault ClipRun → ClipAction → Option (Except Fault ClipRun)
  | .ok s, a => if s.enabled a then some (s.handle z a) else none
  | .error _, _ => none

/-- The buffer holds what was read; a loop belongs to a read in progress. -/
structure Sound (s : ClipRun) : Prop where
  holds : HoldsRead s.server.buf s.text
  looping : s.looping = true → s.server.bridge.read.reading = true
  idle : s.server.bridge.read.reading = false → s.chunks = []

/-- The read is given up: nothing is claimed, and the buffer is freed. -/
def abandoned (s : ClipRun) : ClipRun := ⟨s.server.clipboardClearRead, false, []⟩

/-- The read ends, and all that was read is published, if it was anything. -/
def published (env : PublishEnv) (s : ClipRun) : ClipRun :=
  ⟨⟨(s.server.view s.text).publishCollected env, .null⟩, false, []⟩

/-- What the action makes of `s`. -/
def Follows (s : ClipRun) (s' : ClipRun) : ClipAction → Prop
  | .start .. => { s'.server.bridge with read := s.server.bridge.read } = s.server.bridge
  | .callback mask env =>
    if mask.hangup || mask.error then s' = s.published env else s' = { s with looping := mask.readable }
  | .read (.data chunk alloc) _ =>
    if Refuses s.server.buf chunk alloc then s' = s.abandoned
    else s'.server.bridge = s.server.bridge ∧ s'.chunks = s.chunks ++ [chunk]
  | .read .eof env => s' = s.published env
  | .read .again _ => s' = { s with looping := false }
  | .read .failed _ => s' = s.abandoned
  | .other bridge => s' = { s with server := { s.server with bridge := bridge } }

/-- There was no fault, the buffer is sound, and so it is after the action, which does what it should. -/
def Accounts (z : SizeT) (t : Except Fault ClipRun) (a : ClipAction) : Prop :=
  ∃ s, t = .ok s ∧ s.Sound ∧
    ∀ t', step z t a = some t' → ∃ s', t' = .ok s' ∧ s'.Sound ∧ s.Follows s' a

section Steps

variable {z : SizeT} {s : ClipRun}

/-- No read is in progress at the start. -/
theorem sound_init (clipboardWindow : XWindow) : (init clipboardWindow).Sound where
  holds := holdsRead_null
  looping := fun h => nomatch h
  idle := fun _ => rfl

/-- A read that is given up leaves no buffer behind, -/
theorem Sound.abandoned (s : ClipRun) : s.abandoned.Sound where
  holds := holdsRead_null
  looping := fun h => nomatch h
  idle := fun _ => rfl

/-- and neither does one that is published. -/
theorem Sound.published (env : PublishEnv) (s : ClipRun) : (s.published env).Sound where
  holds := holdsRead_null
  looping := fun h => nomatch h
  idle := fun _ => rfl

/-- A change of anything but the reader. -/
theorem Sound.congr (h : s.Sound) {bridge : Bridge} {looping : Bool}
    (hread : bridge.read = s.server.bridge.read) (hloop : looping = true → s.server.bridge.read.reading) :
    Sound ⟨⟨bridge, s.server.buf⟩, looping, s.chunks⟩ where
  holds := h.holds
  looping := by
    show looping = true → bridge.read.reading = true
    rw [hread]
    exact hloop
  idle := by
    show bridge.read.reading = false → s.chunks = []
    rw [hread]
    exact h.idle

/-- A selection change begins a read with an empty buffer, or leaves the one in progress alone. -/
theorem Sound.start (h : s.Sound) (sel : Selection) (mime : Option Mime) (env : ExportEnv) :
    ∃ s', s.handle z (.start sel mime env) = .ok s' ∧ s'.Sound ∧ s.Follows s' (.start sel mime env) := by
  cases mime with
  | none => exact ⟨_, rfl, h.congr rfl (fun hl => nomatch hl), rfl⟩
  | some mime =>
    refine ⟨_, rfl, ⟨holdsRead_null, (fun hl => nomatch hl), fun _ => rfl⟩, ?_⟩
    show { (s.server.clipboardClearRead.bridge.exportWaylandSource sel (some mime) env) with
      read := s.server.bridge.read } = s.server.bridge
    unfold Bridge.exportWaylandSource
    dsimp only
    split <;> rfl

/-- A callback appends what it read, or ends the read. -/
theorem Sound.callback (h : s.Sound) (hreading : s.server.bridge.read.reading = true) (mask : Mask)
    (env : PublishEnv) :
    ∃ s', s.handle z (.callback mask env) = .ok s' ∧ s'.Sound ∧ s.Follows s' (.callback mask env) := by
  unfold handle ClipServer.clipboardReadFd Follows
  dsimp only
  split
  · rw [ClipServer.publishCollected_eq h.holds]
    exact ⟨s.published env, rfl, Sound.published env s, rfl⟩
  -- nothing is read yet, so the chunks stay
  · refine ⟨{ s with looping := mask.readable }, ?_, h.congr rfl (fun _ => hreading), rfl⟩
    show Except.ok (after s.server mask.readable s.chunks) = _
    rw [after, if_pos hreading]

/-- A chunk that is taken. -/
theorem Sound.taken (h : s.Sound) (hloop : s.looping = true) {chunk : Chunk} {alloc : Bool}
    (hrefuses : ¬ Refuses s.server.buf chunk alloc) (env : PublishEnv) :
    ∃ s' : ClipRun, s.handle z (.read (.data chunk alloc) env) = .ok s' ∧ s'.Sound ∧ s'.looping = true ∧
      s'.server.bridge = s.server.bridge ∧ s'.chunks = s.chunks ++ [chunk] := by
  have hreading := h.looping hloop
  obtain ⟨buf', hread, hholds⟩ :=
    ClipServer.clipboardReadChunk_of_not_refuses (z := z) h.holds hrefuses env
  have htext : (s.chunks ++ [chunk]).flatMap Chunk.bytes = s.text ++ chunk.bytes := by
    simp [text]
  refine ⟨⟨{ s.server with buf := buf' }, true, s.chunks ++ [chunk]⟩, ?_, ⟨?_, ?_, ?_⟩, rfl, rfl, rfl⟩
  · unfold handle
    dsimp only
    rw [hread]
    show Except.ok (after { s.server with buf := buf' } true (s.chunks ++ [chunk])) = _
    rw [after, if_pos hreading]
  · show HoldsRead buf' ((s.chunks ++ [chunk]).flatMap Chunk.bytes)
    rwa [htext]
  · exact fun _ => hreading
  · exact fun hidle => absurd hreading (by rw [hidle]; decide)

/-- One turn of the loop. -/
theorem Sound.read (h : s.Sound) (hloop : s.looping = true) (result : RawRead) (env : PublishEnv) :
    ∃ s', s.handle z (.read result env) = .ok s' ∧ s'.Sound ∧ s.Follows s' (.read result env) := by
  have hreading := h.looping hloop
  cases result with
  | data chunk alloc =>
    unfold Follows
    dsimp only
    split
    · next hrefuses =>
      unfold handle
      dsimp only
      rw [ClipServer.clipboardReadChunk_of_refuses h.holds hrefuses]
      exact ⟨s.abandoned, rfl, Sound.abandoned s, rfl⟩
    · next hrefuses =>
      obtain ⟨s', hs', hsound, -, hsame⟩ := h.taken (z := z) hloop hrefuses env
      exact ⟨s', hs', hsound, hsame⟩
  -- what was read is published
  | eof =>
    unfold handle ClipServer.clipboardReadChunk
    dsimp only
    rw [ClipServer.publishCollected_eq h.holds]
    exact ⟨s.published env, rfl, Sound.published env s, rfl⟩
  | again =>
    refine ⟨{ s with looping := false }, ?_, h.congr rfl (fun hl => nomatch hl), rfl⟩
    show Except.ok (after s.server false (s.chunks ++ [])) = _
    rw [after, if_pos hreading, List.append_nil]
  | failed => exact ⟨s.abandoned, rfl, Sound.abandoned s, rfl⟩

/-- **One step.** -/
theorem Sound.accounts (h : s.Sound) (a : ClipAction) : Accounts z (.ok s) a := by
  refine ⟨s, rfl, h, fun t' hstep => ?_⟩
  unfold step at hstep
  dsimp only at hstep
  split at hstep
  · next hen =>
    cases hstep
    cases a with
    | start sel mime env => exact h.start sel mime env
    | callback mask env =>
      rw [enabled, Bool.and_eq_true] at hen
      exact h.callback hen.2 mask env
    | read result env => exact h.read hen result env
    | other bridge =>
      rw [enabled, Bool.and_eq_true, decide_eq_true_eq] at hen
      exact ⟨_, rfl, h.congr hen.2 h.looping, rfl⟩
  · cases hstep

/-- **Every run.** -/
theorem Sound.run (h : s.Sound) (as : List ClipAction) : Run.Along (step z) (Accounts z) (.ok s) as := by
  refine Run.along_of_step (I := fun t => ∃ s, t = .ok s ∧ s.Sound) ?_ ⟨s, rfl, h⟩
  rintro t a ⟨s, rfl, hs⟩
  have haccounts : Accounts z (.ok s) a := hs.accounts a
  refine ⟨haccounts, fun t' hstep => ?_⟩
  obtain ⟨s₀, hs₀, -, hnext⟩ := haccounts
  cases hs₀
  obtain ⟨s', hs', hsound, -⟩ := hnext t' hstep
  exact ⟨s', hs', hsound⟩

/-- All of the chunks are taken, as long as they stay within the limit and each `realloc` finds memory. -/
theorem Sound.reads (h : s.Sound) (hloop : s.looping = true) (env : PublishEnv) (chunks : List Chunk)
    (hroom : s.text.length + (chunks.flatMap Chunk.bytes).length ≤ wlxClipboardMax) :
    ∃ s', Run.run (step z) (.ok s) (chunks.map fun chunk => .read (.data chunk true) env) = some (.ok s') ∧
      s'.Sound ∧ s'.looping = true ∧ s'.server.bridge = s.server.bridge ∧ s'.chunks = s.chunks ++ chunks := by
  induction chunks generalizing s with
  | nil => exact ⟨s, rfl, h, hloop, rfl, (List.append_nil _).symm⟩
  | cons chunk chunks ih =>
    rw [List.flatMap_cons, List.length_append] at hroom
    -- there is room for the first chunk, and then for the others
    have hrefuses : ¬ Refuses s.server.buf chunk true := by
      rintro (hmany | ⟨-, halloc⟩)
      · rw [h.holds.holds.len] at hmany
        omega
      · cases halloc
    obtain ⟨s₁, hs₁, hsound₁, hloop₁, hbridge₁, hchunks₁⟩ := h.taken (z := z) hloop hrefuses env
    have htext₁ : s₁.text = s.text ++ chunk.bytes := by simp [text, hchunks₁]
    obtain ⟨s', hs', hsound', hloop', hbridge', hchunks'⟩ :=
      ih hsound₁ hloop₁ (by rw [htext₁, List.length_append]; omega)
    refine ⟨s', ?_, hsound', hloop', hbridge'.trans hbridge₁, ?_⟩
    · have hstep : step z (.ok s) (.read (.data chunk true) env) = some (.ok s₁) := by
        rw [← hs₁]
        exact if_pos hloop
      rw [List.map_cons, Run.run_cons, hstep]
      exact hs'
    · rw [hchunks', hchunks₁, List.append_assoc]
      rfl

/-- What is published is kept, for those who ask for it. -/
theorem outText_publishCollected (b : Bridge) (hne : b.read.buf ≠ []) (owned : Bool) :
    ((b.publishCollected ⟨true, owned⟩).channel b.read.target).outText = some b.read.buf := by
  simp [Bridge.publishCollected, Bridge.clipboardSetX11Owner, Bridge.clipboardClearRead, Bridge.setChannel, hne]

/-- A client sets the selection, and its source writes these chunks and closes the pipe. -/
def wholeRead (sel : Selection) (mime : Mime) (chunks : List Chunk) : List ClipAction :=
  .start sel (some mime) ⟨true, true⟩ :: .callback ⟨true, false, false⟩ ⟨true, true⟩ ::
    (chunks.map (fun chunk => .read (.data chunk true) ⟨true, true⟩) ++ [.read .eof ⟨true, true⟩])

/-- **Whatever fits is published**: all of the chunks, however often the buffer has had to grow. -/
theorem wholeRead_published (z : SizeT) (clipboardWindow : XWindow) (sel : Selection) (mime : Mime) {chunks : List Chunk}
    (hsome : chunks ≠ []) (hroom : (chunks.flatMap Chunk.bytes).length ≤ wlxClipboardMax) :
    ∃ s, Run.run (step z) (.ok (init clipboardWindow)) (wholeRead sel mime chunks) = some (.ok s) ∧
      (s.server.bridge.channel sel).outText = some (chunks.flatMap Chunk.bytes) := by
  -- the read has begun, and its loop has been entered
  let s₁ : ClipRun := ⟨(init clipboardWindow).server.exportWaylandSource sel (some mime) ⟨true, true⟩, true, []⟩
  have hsound₁ : s₁.Sound := ⟨holdsRead_null, fun _ => rfl, fun hidle => nomatch hidle⟩
  obtain ⟨s₂, hs₂, hsound₂, hloop₂, hbridge₂, hchunks₂⟩ :=
    hsound₁.reads (z := z) rfl ⟨true, true⟩ chunks (by rw [show s₁.text = [] from rfl]; simpa using hroom)
  obtain ⟨s₃, hs₃, -, hpublished⟩ := hsound₂.read (z := z) hloop₂ .eof ⟨true, true⟩
  refine ⟨s₃, ?_, ?_⟩
  · show Run.run (step z) (.ok s₁) _ = _
    rw [Run.run_append, hs₂, Option.bind_some, Run.run_cons]
    have hstep : step z (.ok s₂) (.read .eof ⟨true, true⟩) = some (.ok s₃) := by
      rw [← hs₃]
      exact if_pos hloop₂
    rw [hstep]
    rfl
  · have htext : s₂.text = chunks.flatMap Chunk.bytes := by
      rw [text, hchunks₂]
      rfl
    have hne : s₂.text ≠ [] := by
      obtain ⟨chunk, rest, rfl⟩ := List.exists_cons_of_ne_nil hsome
      rw [htext, List.flatMap_cons]
      exact List.append_ne_nil_of_left_ne_nil (List.ne_nil_of_length_pos chunk.pos) _
    have htarget : s₂.server.bridge.read.target = sel := by
      rw [hbridge₂]
      rfl
    rw [show s₃ = s₂.published ⟨true, true⟩ from hpublished, ← htext]
    rw [← htarget]
    exact outText_publishCollected (s₂.server.view s₂.text) hne true

/-- As much as one `read` can return. -/
def fullChunk : Chunk where
  bytes := List.replicate 4096 97
  pos := by
    rw [List.length_replicate]
    decide
  le := le_of_eq List.length_replicate

/-- Two of them do not fit the buffer that is allocated for the first: it has room for the first and its NUL, and
has to grow. -/
theorem fullChunks_published (z : SizeT) (clipboardWindow : XWindow) (mime : Mime) :
    ∃ s, Run.run (step z) (.ok (init clipboardWindow)) (wholeRead .clipboard mime [fullChunk, fullChunk]) =
        some (.ok s) ∧
      (s.server.bridge.channel .clipboard).outText = some (List.replicate 8192 97) := by
  have htext : [fullChunk, fullChunk].flatMap Chunk.bytes = List.replicate 8192 97 := by
    rw [List.flatMap_cons, List.flatMap_singleton]
    exact List.replicate_append_replicate
  obtain ⟨s, hs, hpublished⟩ := wholeRead_published z clipboardWindow .clipboard mime
    (List.cons_ne_nil fullChunk [fullChunk]) (by rw [htext, List.length_replicate]; decide)
  exact ⟨s, hs, hpublished.trans (congrArg some htext)⟩

end Steps

end ClipRun

/-! ## The loop of `dnd_out_begin_from_source` among the other handlers -/

/-- The server, the locals until the function returns, and the chunks it has read. -/
structure DragReadRun where
  bridge : Bridge
  loop : Option DragReadMem
  chunks : List Chunk

inductive DragReadAction where
  | poll (result : RawPoll) (view : PointerView)
  /-- any handler, within the nested dispatch or after the function has returned -/
  | other (bridge : Bridge)

namespace DragReadRun

/-- Before the first turn. -/
def start (bridge : Bridge) : DragReadRun := ⟨bridge, some .start, []⟩

/-- What the function has read so far. -/
def text (s : DragReadRun) : Text := s.chunks.flatMap Chunk.bytes

def enabled (s : DragReadRun) : DragReadAction → Bool
  | .poll .. => s.loop.isSome
  | .other _ => s.loop.all (·.dispatching)

/-- The function has returned, and offers `text`, if it is not empty. -/
def prepared (s : DragReadRun) (text : Text) (view : PointerView) : DragReadRun :=
  ⟨s.bridge.dndOutPrepared text view, none, []⟩

/-- It has returned without. -/
def abandoned (s : DragReadRun) : DragReadRun := ⟨s.bridge, none, []⟩

def handle (z : SizeT) (s : DragReadRun) : DragReadAction → Except Fault DragReadRun
  | .poll result view =>
    match s.loop with
    | none => .ok s
    | some loop => do
      match ← loop.spin z result with
      | .more loop => return ⟨s.bridge, some loop, s.chunks ++ result.chunks⟩
      | .done text => return s.prepared text view
      | .abandoned => return s.abandoned
  | .other bridge => .ok { s with bridge := bridge }

/-- One step; there is none after a fault. -/
def step (z : SizeT) : Except Fault DragReadRun → DragReadAction → Option (Except Fault DragReadRun)
  | .ok s, a => if s.enabled a then some (s.handle z a) else none
  | .error _, _ => none

/-- The buffer holds what was read. -/
def Sound (s : DragReadRun) : Prop := ∀ loop, s.loop = some loop → HoldsRead loop.buf s.text

/-- The loop goes on with the chunks read, or it was the last of its turns, and all of them are
offered. -/
def GoesOn (s s' : DragReadRun) (chunks : List Chunk) (view : PointerView) : Prop :=
  s'.bridge = s.bridge ∧ s'.loop.isSome ∧ s'.chunks = chunks ∨
    s' = s.prepared (chunks.flatMap Chunk.bytes) view

/-- What the action makes of `s`. -/
def Follows (s s' : DragReadRun) : DragReadAction → Prop
  | .poll (.ready (.data chunk alloc)) view => ∀ loop, s.loop = some loop →
    if Refuses loop.buf chunk alloc then s' = s.abandoned
    else s.GoesOn s' (s.chunks ++ [chunk]) view
  | .poll .timeout view | .poll (.ready .again) view => s.GoesOn s' s.chunks view
  | .poll .failed view | .poll (.ready .eof) view | .poll (.ready .failed) view =>
    s' = s.prepared s.text view
  | .other bridge => s' = { s with bridge := bridge }

/-- There was no fault, the buffer is sound, and so it is after the action, which does what it should. -/
def Accounts (z : SizeT) (t : Except Fault DragReadRun) (a : DragReadAction) : Prop :=
  ∃ s, t = .ok s ∧ s.Sound ∧
    ∀ t', step z t a = some t' → ∃ s', t' = .ok s' ∧ s'.Sound ∧ s.Follows s' a

section Steps

variable {z : SizeT} {s : DragReadRun} {loop : DragReadMem}

/-- The loop begins with no buffer. -/
theorem sound_start (bridge : Bridge) : (start bridge).Sound := by
  rintro loop ⟨⟩
  exact holdsRead_null

/-- After it there is none. -/
theorem Sound.returned {bridge : Bridge} {chunks : List Chunk} :
    Sound ⟨bridge, none, chunks⟩ := fun _ h => nomatch h

/-- A turn that has not refused anything. -/
theorem goesOn_spin (result : RawPoll) (view : PointerView) {buf : Buffer UInt8} {dispatching : Bool}
    (hloop : s.loop = some loop)
    (hbuf : HoldsRead buf ((s.chunks ++ result.chunks).flatMap Chunk.bytes))
    (hspin : loop.spin z result = .ok (if loop.spins + 1 < 100
      then .more ⟨buf, loop.spins + 1, dispatching⟩
      else .done ((s.chunks ++ result.chunks).flatMap Chunk.bytes))) :
    ∃ s', s.handle z (.poll result view) = .ok s' ∧ s'.Sound ∧
      s.GoesOn s' (s.chunks ++ result.chunks) view := by
  unfold handle
  dsimp only
  rw [hloop]
  dsimp only
  rw [hspin]
  split
  · refine ⟨⟨s.bridge, some ⟨buf, loop.spins + 1, dispatching⟩, s.chunks ++ result.chunks⟩, rfl, ?_,
      .inl ⟨rfl, rfl, rfl⟩⟩
    rintro loop' ⟨⟩
    exact hbuf
  · exact ⟨_, rfl, .returned, .inr rfl⟩

/-- A turn that ends the loop: the file has ended, or there was an error. -/
theorem prepared_spin {result : RawPoll} {view : PointerView} (hloop : s.loop = some loop)
    (hspin : loop.spin z result = .ok (.done s.text)) :
    s.handle z (.poll result view) = .ok (s.prepared s.text view) := by
  unfold handle
  dsimp only
  rw [hloop]
  dsimp only
  rw [hspin]
  rfl

/-- One turn of the loop. -/
theorem Sound.poll (h : s.Sound) (hloop : s.loop = some loop) (result : RawPoll) (view : PointerView) :
    ∃ s', s.handle z (.poll result view) = .ok s' ∧ s'.Sound ∧ s.Follows s' (.poll result view) := by
  have hbuf := h loop hloop
  have hsame : (s.chunks ++ []).flatMap Chunk.bytes = s.text := by rw [List.append_nil, text]
  -- a turn that reads nothing
  have hwaits : ∀ result dispatching, result.chunks = [] →
      loop.spin z result = loop.next loop.buf dispatching →
      ∃ s', s.handle z (.poll result view) = .ok s' ∧ s'.Sound ∧ s.GoesOn s' s.chunks view := by
    intro result dispatching hnone hspin
    have hgoes := @goesOn_spin z s loop result view loop.buf dispatching
    rw [hnone, hsame, List.append_nil] at hgoes
    exact hgoes hloop hbuf (hspin.trans (DragReadMem.next_eq hbuf dispatching))
  -- a turn that ends the read
  have hends : ∀ result, loop.spin z result = DragReadMem.finish loop.buf →
      ∃ s', s.handle z (.poll result view) = .ok s' ∧ s'.Sound ∧ s' = s.prepared s.text view :=
    fun result hspin =>
      ⟨_, prepared_spin hloop (hspin.trans (DragReadMem.finish_eq hbuf)), .returned, rfl⟩
  cases result with
  | failed => exact hends .failed rfl
  | timeout => exact hwaits .timeout true rfl rfl
  | ready result =>
    cases result with
    | eof => exact hends (.ready .eof) rfl
    | failed => exact hends (.ready .failed) rfl
    | again => exact hwaits (.ready .again) false rfl rfl
    | data chunk alloc =>
      by_cases hrefuses : Refuses loop.buf chunk alloc
      · refine ⟨s.abandoned, ?_, .returned, ?_⟩
        · unfold handle
          dsimp only
          rw [hloop]
          dsimp only
          rw [DragReadMem.spin_of_refuses hbuf hrefuses]
          rfl
        · intro loop' hloop'
          cases hloop.symm.trans hloop'
          rw [if_pos hrefuses]
      · obtain ⟨buf', hbuf', hspin⟩ :=
          DragReadMem.spin_of_not_refuses (z := z) hbuf hrefuses
        have htext : (s.chunks ++ [chunk]).flatMap Chunk.bytes = s.text ++ chunk.bytes := by
          simp [text]
        rw [← htext] at hbuf' hspin
        obtain ⟨s', hs', hsound, hgoes⟩ :=
          goesOn_spin (.ready (.data chunk alloc)) view hloop hbuf' hspin
        refine ⟨s', hs', hsound, fun loop' hloop' => ?_⟩
        cases hloop.symm.trans hloop'
        rw [if_neg hrefuses]
        exact hgoes

/-- **One step.** -/
theorem Sound.accounts (h : s.Sound) (a : DragReadAction) : Accounts z (.ok s) a := by
  refine ⟨s, rfl, h, fun t' hstep => ?_⟩
  unfold step at hstep
  dsimp only at hstep
  split at hstep
  · next hen =>
    cases hstep
    cases a with
    | poll result view =>
      obtain ⟨loop, hloop⟩ := Option.isSome_iff_exists.mp hen
      exact h.poll hloop result view
    | other bridge => exact ⟨{ s with bridge := bridge }, rfl, h, rfl⟩
  · cases hstep

/-- **Every run.** -/
theorem Sound.run (h : s.Sound) (as : List DragReadAction) :
    Run.Along (step z) (Accounts z) (.ok s) as := by
  refine Run.along_of_step (I := fun t => ∃ s, t = .ok s ∧ s.Sound) ?_ ⟨s, rfl, h⟩
  rintro t a ⟨s, rfl, hs⟩
  have haccounts : Accounts z (.ok s) a := hs.accounts a
  refine ⟨haccounts, fun t' hstep => ?_⟩
  obtain ⟨s₀, hs₀, -, hnext⟩ := haccounts
  cases hs₀
  obtain ⟨s', hs', hsound, -⟩ := hnext t' hstep
  exact ⟨s', hs', hsound⟩

end Steps

end DragReadRun

/-- **The readers.** Whatever is read in whatever chunks, and whatever the other handlers do in between,
neither loop stores outside of its buffer, overflows a size or goes on doubling for ever; each buffer
holds what was read; and a chunk that is too much, or finds no memory, ends its read unpublished. -/
theorem readers_account (z : SizeT) :
    (∀ (clipboardWindow : XWindow) (as : List ClipAction),
      Run.Along (ClipRun.step z) (ClipRun.Accounts z) (.ok (.init clipboardWindow)) as) ∧
      ∀ (bridge : Bridge) (as : List DragReadAction),
        Run.Along (DragReadRun.step z) (DragReadRun.Accounts z) (.ok (.start bridge)) as :=
  ⟨fun clipboardWindow as => (ClipRun.sound_init clipboardWindow).run as,
    fun bridge as => (DragReadRun.sound_start bridge).run as⟩

end Wlx
