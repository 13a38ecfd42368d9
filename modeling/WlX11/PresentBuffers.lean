import WlX11.Lib.Run
import WlX11.Lib.Tally
import WlX11.Scale

/-!
# WlX11 — buffers the X server reads

What is shown in an X window is a buffer the server has been given with `PresentPixmap`, and reads until it
sends an `IdleNotify` for it. Until then the buffer must not be drawn into. wlroots counts the users of a
buffer (`n_locks`); the X11 backend locks a buffer once for each present that is not idle yet (`n_busy`),
in each window it is presented in; a swapchain gives out what nobody has locked.

* **`BufferPool`** — the buffers in memory, those known to the X server, the slots of an output's
  swapchain. A failed assertion, or the use of a freed buffer, is `aborted`.
* **`BufferPool.Accounted`** — each lock is one of a present the server has not returned, or one the rest
  of the compositor holds.
* **`PresentSession.never_aborts`**, **`acquired_not_read`**, **`dropped_freed`** — no assertion fails, no
  buffer is drawn into that the server reads, none stays that nobody has.
-/

namespace Wlx

/-! ## Buffers -/

/-- `struct wlr_buffer`. -/
structure WlrBuffer where
  size : Size
  nLocks : Nat
  dropped : Bool
deriving DecidableEq

/-- `struct wlr_x11_buffer`, of the `buffers` of the output or the present window `win`. -/
structure X11Buffer where
  win : Nat
  buffer : Nat
  pixmap : Nat
  nBusy : Nat
deriving DecidableEq

/-- `struct wlr_swapchain_slot`. -/
structure SwapchainSlot where
  buffer : Option Nat
  acquired : Bool
deriving DecidableEq

structure BufferPool where
  /-- the buffers that have not been freed -/
  table : Nat → Option WlrBuffer
  /-- the outputs and present windows there are -/
  windows : List Nat
  x11 : List X11Buffer
  /-- the slots of the output's swapchain, none if it has no swapchain -/
  slots : List SwapchainSlot
  /-- its `width` and `height` -/
  swapchainSize : Size
  nextBuffer : Nat
  nextPixmap : Nat
  nextWindow : Nat
  aborted : Bool

namespace BufferPool

def init : BufferPool where
  table _ := none
  windows := []
  x11 := []
  slots := []
  swapchainSize := ⟨0, 0⟩
  nextBuffer := 0
  nextPixmap := 0
  nextWindow := 0
  aborted := false

variable (p : BufferPool)

def abort : BufferPool := { p with aborted := true }

def setBuffer (b : Nat) (w : Option WlrBuffer) : BufferPool :=
  { p with table := Function.update p.table b w }

/-- `wlr_buffer_init`. -/
def create (size : Size) : BufferPool :=
  { p.setBuffer p.nextBuffer (some ⟨size, 0, false⟩) with nextBuffer := p.nextBuffer + 1 }

/-- `wlr_buffer_lock`. -/
def lock (b : Nat) : BufferPool :=
  match p.table b with
  | none => p.abort
  | some w => p.setBuffer b (some { w with nLocks := w.nLocks + 1 })

/-- `slot_handle_release`, of the slots that listen to the buffer. -/
def emitRelease (b : Nat) : BufferPool :=
  { p with slots := p.slots.map fun s => if s.buffer = some b then { s with acquired := false } else s }

/-- `wlr_buffer_finish`: `buffer_handle_buffer_destroy` destroys the X11 buffers, and returns locks that
are not there if there are busy ones; nobody may wait for the buffer's release. -/
def destroy (b : Nat) : BufferPool :=
  { p.setBuffer b none with
    x11 := p.x11.filter fun x => x.buffer ≠ b
    aborted := p.aborted || p.x11.any (fun x => x.buffer = b && 0 < x.nBusy) ||
      p.slots.any fun s => s.buffer = some b && s.acquired }

/-- `buffer_consider_destroy`. -/
def considerDestroy (b : Nat) : BufferPool :=
  match p.table b with
  | none => p
  | some w => if !w.dropped || 0 < w.nLocks then p else p.destroy b

/-- `wlr_buffer_unlock`. -/
def unlock (b : Nat) : BufferPool :=
  match p.table b with
  | none => p.abort
  | some w =>
    -- `assert(buffer->n_locks > 0)`
    if w.nLocks = 0 then p.abort
    else
      let p := p.setBuffer b (some { w with nLocks := w.nLocks - 1 })
      let p := if w.nLocks - 1 = 0 then p.emitRelease b else p
      p.considerDestroy b

def unlockMany (b : Nat) : Nat → BufferPool → BufferPool
  | 0, p => p
  | n + 1, p => unlockMany b n (p.unlock b)

/-- `wlr_buffer_drop`. -/
def drop (b : Nat) : BufferPool :=
  match p.table b with
  | none => p.abort
  | some w =>
    -- `assert(!buffer->dropped)`
    if w.dropped then p.abort
    else (p.setBuffer b (some { w with dropped := true })).considerDestroy b

/-! ### The X11 backend -/

def setBusy (x : X11Buffer) (n : Nat) : BufferPool :=
  { p with x11 := Tally.replace X11Buffer.pixmap x { x with nBusy := n } p.x11 }

/-- `x11_buffer_get_or_create`; an import can fail. -/
def x11BufferGetOrCreate (importable : Bool) (win b : Nat) : BufferPool × Option Nat :=
  match p.x11.find? fun x => x.win = win && x.buffer = b with
  | some x => ((p.lock b).setBusy x (x.nBusy + 1), some x.pixmap)
  | none =>
    if importable then
      let locked := p.lock b
      ({ locked with x11 := ⟨win, b, p.nextPixmap, 1⟩ :: p.x11, nextPixmap := p.nextPixmap + 1 },
        some p.nextPixmap)
    else (p, none)

/-- `handle_x11_present_event`, of a `PresentIdleNotify`. -/
def handleIdleNotify (win pixmap : Nat) : BufferPool :=
  -- "Got PresentIdleNotify event for unknown window"
  if win ∉ p.windows then p
  else match p.x11.find? fun x => x.win = win && x.pixmap = pixmap with
    -- "Got PresentIdleNotify event for unknown buffer"
    | none => p
    | some x =>
      -- `assert(buffer->n_busy > 0)`
      if x.nBusy = 0 then p.abort
      else (p.setBusy x (x.nBusy - 1)).unlock x.buffer

/-- `x11_buffer_destroy`. -/
def x11BufferDestroy (x : X11Buffer) : BufferPool :=
  unlockMany x.buffer x.nBusy { p with x11 := p.x11.erase x }

/-- `x11_output_create`, or `wlr_x11_present_window_create`. -/
def createWindow : BufferPool :=
  { p with windows := p.nextWindow :: p.windows, nextWindow := p.nextWindow + 1 }

/-- `output_destroy`, or `wlr_x11_present_window_destroy`. -/
def destroyWindow (win : Nat) : BufferPool :=
  let p := (p.x11.filter fun x => x.win = win).foldl x11BufferDestroy p
  { p with windows := p.windows.erase win }

/-! ### The swapchain -/

/-- The slots before and after the first one that meets `f`. -/
def acquireSlot : List SwapchainSlot → Option (Nat × List SwapchainSlot)
  | [] => none
  | s :: slots =>
    match s.acquired, s.buffer with
    | false, some b => some (b, { s with acquired := true } :: slots)
    | _, _ => (acquireSlot slots).map fun (b, slots) => (b, s :: slots)

/-- The last free slot takes a new buffer. -/
def fillSlot (b : Nat) : List SwapchainSlot → Option (List SwapchainSlot)
  | [] => none
  | s :: slots =>
    match fillSlot b slots with
    | some slots => some (s :: slots)
    | none =>
      if !s.acquired && s.buffer.isNone then some ({ buffer := some b, acquired := true } :: slots) else none

/-- `wlr_swapchain_acquire`; an allocation can fail. -/
def swapchainAcquire (allocated : Bool) : BufferPool × Option Nat :=
  match acquireSlot p.slots with
  | some (b, slots) => ({ p with slots := slots }.lock b, some b)
  | none =>
    match fillSlot p.nextBuffer p.slots with
    | none => (p, none)
    | some slots =>
      if allocated then
        ({ p.create p.swapchainSize with slots := slots }.lock p.nextBuffer, some p.nextBuffer)
      else (p, none)

/-- `wlr_swapchain_destroy`: the slots no longer wait for a release, then their buffers are dropped. -/
def swapchainDestroy : BufferPool :=
  (p.slots.filterMap (·.buffer)).foldl drop { p with slots := [] }

/-- The slots of a swapchain that has been tested: one buffer has been acquired and released. -/
def testedSlots (b : Nat) : List SwapchainSlot :=
  [⟨none, false⟩, ⟨none, false⟩, ⟨none, false⟩, ⟨some b, false⟩]

/-- `wlr_output_configure_primary_swapchain` where a new swapchain is needed, and passes its test. -/
def swapchainReplace (size : Size) : BufferPool :=
  let old := p.swapchainDestroy
  { old.create size with slots := testedSlots old.nextBuffer, swapchainSize := size }

/-! ### What belongs to whom -/

/-- The presents of a buffer that are not idle. -/
def busy (b : Nat) : Nat := Tally.total X11Buffer.buffer X11Buffer.nBusy b p.x11

/-- Each lock is one of `others`, or of a present that has not been returned; `out` are these, with the
window and the pixmap. -/
structure Balanced (others : Nat → Nat) (out : List (Nat × Nat)) : Prop where
  sound : p.aborted = false
  locks : ∀ b w, p.table b = some w → w.nLocks = others b + p.busy b
  gone : ∀ b, p.table b = none → others b = 0 ∧ ∀ x ∈ p.x11, x.buffer ≠ b
  slots : ∀ s ∈ p.slots, ∀ b, s.buffer = some b →
    ∃ w, p.table b = some w ∧ w.size = p.swapchainSize ∧ w.dropped = false ∧
      (s.acquired = true ↔ 0 < w.nLocks)
  distinct : (p.slots.filterMap (·.buffer)).Nodup
  pixmaps : (p.x11.map (·.pixmap)).Nodup
  oneEach : (p.x11.map fun x => (x.win, x.buffer)).Nodup
  known : ∀ x ∈ p.x11, x.win ∈ p.windows
  counted : ∀ x ∈ p.x11, x.nBusy = out.count (x.win, x.pixmap)
  pixmapsUsed : ∀ x ∈ p.x11, x.pixmap < p.nextPixmap
  outUsed : ∀ i ∈ out, i.2 < p.nextPixmap ∧ i.1 < p.nextWindow
  buffersUsed : ∀ b w, p.table b = some w → b < p.nextBuffer
  windowsUsed : p.windows.Nodup ∧ ∀ win ∈ p.windows, win < p.nextWindow

/-- And what nobody has is freed. -/
structure Accounted (others : Nat → Nat) (out : List (Nat × Nat)) : Prop
    extends Balanced p others out where
  kept : ∀ b w, p.table b = some w → w.dropped = true → 0 < w.nLocks

/-! ## Every operation keeps the accounts -/

variable {p} {others others' : Nat → Nat} {out out' : List (Nat × Nat)} {b : Nat} {w : WlrBuffer}

@[simp] theorem setBuffer_table (b' : Nat) (w : Option WlrBuffer) :
    (p.setBuffer b w).table b' = if b' = b then w else p.table b' := by
  unfold setBuffer
  exact Function.update_apply p.table b w b'

/-- Another count of locks, and what is to follow from it. -/
theorem Balanced.setLocks (h : p.Balanced others out) (hb : p.table b = some w) {n : Nat}
    (hn : n = others' b + p.busy b) (helse : ∀ b', b' ≠ b → others' b' = others b')
    {slots : List SwapchainSlot} (hbuffers : slots.map (·.buffer) = p.slots.map (·.buffer))
    (hslots : ∀ s ∈ slots, ∀ b', s.buffer = some b' →
      if b' = b then s.acquired = true ↔ 0 < n else s ∈ p.slots) :
    { p.setBuffer b (some { w with nLocks := n }) with slots := slots }.Balanced others' out where
  sound := h.sound
  locks b' w' hb' := by
    change (p.setBuffer b (some { w with nLocks := n })).table b' = some w' at hb'
    rw [setBuffer_table] at hb'
    split_ifs at hb' with heq
    · cases hb'
      subst heq
      exact hn
    · rw [helse b' heq]
      exact h.locks b' w' hb'
  gone b' hb' := by
    change (p.setBuffer b (some { w with nLocks := n })).table b' = none at hb'
    rw [setBuffer_table] at hb'
    split_ifs at hb' with heq
    rw [helse b' heq]
    exact h.gone b' hb'
  slots s hs b' hsb' := by
    show ∃ w', (p.setBuffer b (some { w with nLocks := n })).table b' = some w' ∧ _
    rw [setBuffer_table]
    have hacq := hslots s hs b' hsb'
    split_ifs at hacq ⊢ with heq
    · -- the slot that had it before
      have hmem : some b' ∈ p.slots.map (·.buffer) := hbuffers ▸ List.mem_map.mpr ⟨s, hs, hsb'⟩
      obtain ⟨s', hs', hs'b⟩ := List.mem_map.mp hmem
      obtain ⟨w', hw', hsize, hdropped, -⟩ := h.slots s' hs' b' hs'b
      rw [heq, hb] at hw'
      cases hw'
      exact ⟨_, rfl, hsize, hdropped, hacq⟩
    · exact h.slots s hacq b' hsb'
  distinct := by
    have hmap : ∀ l : List SwapchainSlot, l.filterMap (·.buffer) = (l.map (·.buffer)).filterMap id := by
      intro l
      rw [List.filterMap_map]
      rfl
    show (slots.filterMap (·.buffer)).Nodup
    rw [hmap, hbuffers, ← hmap]
    exact h.distinct
  -- what is said of windows and pixmaps does not mention locks
  pixmaps := h.pixmaps
  oneEach := h.oneEach
  known := h.known
  counted := h.counted
  pixmapsUsed := h.pixmapsUsed
  outUsed := h.outUsed
  buffersUsed b' w' hb' := by
    change (p.setBuffer b (some { w with nLocks := n })).table b' = some w' at hb'
    rw [setBuffer_table] at hb'
    split_ifs at hb' with heq
    · exact heq ▸ h.buffersUsed b w hb
    · exact h.buffersUsed b' w' hb'
  windowsUsed := h.windowsUsed

theorem setBuffer_slots (p : BufferPool) (b : Nat) (w : Option WlrBuffer) :
    p.setBuffer b w = { p.setBuffer b w with slots := p.slots } := rfl

/-- **Lock.** Whoever locks a swapchain buffer has a lock of it already. -/
theorem Accounted.lock (h : p.Accounted others out) (hb : p.table b = some w)
    (hslot : 0 < w.nLocks ∨ ∀ s ∈ p.slots, s.buffer ≠ some b) :
    (p.lock b).Accounted (Function.update others b (others b + 1)) out := by
  have hlock : p.lock b = p.setBuffer b (some { w with nLocks := w.nLocks + 1 }) := by
    unfold BufferPool.lock
    rw [hb]
  have hlocks := h.locks b w hb
  rw [hlock]
  refine ⟨?_, fun b' w' hb' hdropped => ?_⟩
  · rw [setBuffer_slots]
    refine h.toBalanced.setLocks hb ?_ (fun b' hne => Function.update_of_ne hne _ _) rfl ?_
    · rw [Function.update_self]
      omega
    · intro s hs b' hsb
      split_ifs with heq
      · subst heq
        -- in a slot, the buffer is acquired and stays so
        rcases hslot with hpos | hnone
        · obtain ⟨w', hw', -, -, hiff⟩ := h.slots s hs b' hsb
          rw [hb] at hw'
          cases hw'
          rw [hiff]
          omega
        · exact absurd hsb (hnone s hs)
      · exact hs
  · rw [setBuffer_table] at hb'
    split_ifs at hb' with heq
    · cases hb'
      exact Nat.succ_pos _
    · exact h.kept b' w' hb' hdropped

/-- A buffer is idle if none of its X11 buffers is busy. -/
theorem busy_eq_zero_iff : p.busy b = 0 ↔ ∀ x ∈ p.x11, x.buffer = b → x.nBusy = 0 := by
  constructor
  · intro h x hx hxb
    have hle : x.nBusy ≤ p.busy x.buffer := Tally.le_total hx
    rw [hxb, h] at hle
    exact Nat.le_zero.mp hle
  · exact Tally.total_eq_zero

/-- What may be freed is freed. -/
theorem Balanced.considerDestroy (h : p.Balanced others out)
    (hkept : ∀ b' w, b' ≠ b → p.table b' = some w → w.dropped = true → 0 < w.nLocks) :
    (p.considerDestroy b).Accounted others out := by
  unfold BufferPool.considerDestroy
  cases hb : p.table b with
  | none =>
    refine ⟨h, fun b' w' hb' => hkept b' w' ?_ hb'⟩
    rintro rfl
    rw [hb] at hb'
    cases hb'
  | some w =>
    dsimp only
    split_ifs with hstays
    · refine ⟨h, fun b' w' hb' hdropped => ?_⟩
      by_cases heq : b' = b
      · subst heq
        rw [hb] at hb'
        cases hb'
        simpa [hdropped] using hstays
      · exact hkept b' w' heq hb' hdropped
    · -- dropped, and nobody has a lock
      obtain ⟨hdropped, hlocks⟩ : w.dropped = true ∧ w.nLocks = 0 := by simpa using hstays
      have hsum := h.locks b w hb
      have hidle := busy_eq_zero_iff.mp (show p.busy b = 0 by omega)
      have hslot : ∀ s ∈ p.slots, s.buffer ≠ some b := by
        intro s hs hsb
        obtain ⟨w', hw', -, hlive, -⟩ := h.slots s hs b hsb
        rw [hb] at hw'
        cases hw'
        rw [hdropped] at hlive
        cases hlive
      have hsub : (p.x11.filter fun x => x.buffer ≠ b) ⊆ p.x11 :=
        fun x hx => List.mem_of_mem_filter hx
      have htable : ∀ b', (p.destroy b).table b' = if b' = b then none else p.table b' :=
        fun b' => setBuffer_table b' none
      refine ⟨⟨?_, ?_, ?_, ?_, h.distinct, ?_, ?_, ?_, ?_, ?_, h.outUsed, ?_, h.windowsUsed⟩, ?_⟩
      -- nothing that is freed is waited for: the assertions hold
      · show (p.aborted || _ || _) = false
        rw [h.sound, Bool.false_or, Bool.or_eq_false_iff, List.any_eq_false, List.any_eq_false]
        constructor
        · intro x hx hbusy
          obtain ⟨hxb, hpos⟩ : x.buffer = b ∧ 0 < x.nBusy := by simpa using hbusy
          exact absurd (hidle x hx hxb) hpos.ne'
        · intro s hs hacq
          exact hslot s hs (by simpa using (Bool.and_eq_true_iff.mp hacq).1)
      · intro b' w' hb'
        rw [htable] at hb'
        split_ifs at hb' with heq
        show w'.nLocks = others b' + Tally.total X11Buffer.buffer X11Buffer.nBusy b'
          (p.x11.filter fun x => x.buffer ≠ b)
        rw [Tally.total_filter_ne heq]
        exact h.locks b' w' hb'
      · intro b' hb'
        rw [htable] at hb'
        split_ifs at hb' with heq
        · subst heq
          refine ⟨by omega, fun x hx => ?_⟩
          simpa using (List.mem_filter.mp hx).2
        · obtain ⟨hzero, hnone⟩ := h.gone b' hb'
          exact ⟨hzero, fun x hx => hnone x (hsub hx)⟩
      · intro s hs b' hsb
        obtain ⟨w', hw', hrest⟩ := h.slots s hs b' hsb
        refine ⟨w', ?_, hrest⟩
        rw [htable, if_neg]
        · exact hw'
        · rintro rfl
          exact hslot s hs hsb
      · exact h.pixmaps.sublist (List.filter_sublist.map _)
      · exact h.oneEach.sublist (List.filter_sublist.map _)
      · exact fun x hx => h.known x (hsub hx)
      · exact fun x hx => h.counted x (hsub hx)
      · exact fun x hx => h.pixmapsUsed x (hsub hx)
      · intro b' w' hb'
        rw [htable] at hb'
        split_ifs at hb'
        exact h.buffersUsed b' w' hb'
      · intro b' w' hb' hdropped'
        rw [htable] at hb'
        split_ifs at hb' with heq
        exact hkept b' w' heq hb' hdropped'

/-- What somebody has locked is there. -/
theorem Balanced.alive (h : p.Balanced others out) (hpos : 0 < others b) :
    ∃ w, p.table b = some w ∧ 0 < w.nLocks := by
  cases hb : p.table b with
  | none =>
    have hzero := (h.gone b hb).1
    omega
  | some w =>
    have hlocks := h.locks b w hb
    exact ⟨w, rfl, by omega⟩

/-- **Unlock**, by whoever has a lock. -/
theorem Accounted.unlock (h : p.Accounted others out) (hpos : 0 < others b) :
    (p.unlock b).Accounted (Function.update others b (others b - 1)) out := by
  obtain ⟨w, hb, -⟩ := h.alive hpos
  have hlocks := h.locks b w hb
  obtain ⟨slots, hcode, hbuffers, hslots⟩ : ∃ slots,
      p.unlock b = BufferPool.considerDestroy
        { p.setBuffer b (some { w with nLocks := w.nLocks - 1 }) with slots := slots } b ∧
      slots.map (·.buffer) = p.slots.map (·.buffer) ∧
      ∀ s ∈ slots, ∀ b', s.buffer = some b' →
        if b' = b then s.acquired = true ↔ 0 < w.nLocks - 1 else s ∈ p.slots := by
    unfold BufferPool.unlock
    rw [hb]
    dsimp only
    rw [if_neg (by omega)]
    by_cases hlast : w.nLocks - 1 = 0
    · -- the last lock: the slot is told
      rw [if_pos hlast]
      refine ⟨_, rfl, ?_, ?_⟩
      · show ((p.slots.map _).map _) = _
        rw [List.map_map]
        refine List.map_congr_left fun s _ => ?_
        simp only [Function.comp]
        split_ifs <;> rfl
      · intro s hs b' hsb
        obtain ⟨t, ht, rfl⟩ := List.mem_map.mp hs
        split_ifs with heq htb htb
        · simp only [false_iff]
          omega
        · rw [if_neg htb] at hsb
          exact absurd (heq ▸ hsb) htb
        · rw [if_pos htb] at hsb
          exact absurd (Option.some.inj (hsb.symm.trans htb)) heq
        · exact ht
    · rw [if_neg hlast]
      refine ⟨p.slots, rfl, rfl, fun s hs b' hsb => ?_⟩
      split_ifs with heq
      · subst heq
        obtain ⟨w', hw', -, -, hiff⟩ := h.slots s hs b' hsb
        rw [hb] at hw'
        cases hw'
        rw [hiff]
        omega
      · exact hs
  rw [hcode]
  -- without its last lock a dropped buffer is freed
  apply Balanced.considerDestroy
  · refine h.toBalanced.setLocks hb ?_ (fun b' hne => Function.update_of_ne hne _ _) hbuffers hslots
    rw [Function.update_self]
    omega
  · intro b' w' hne hb'
    change (p.setBuffer b _).table b' = some w' at hb'
    rw [setBuffer_table, if_neg hne] at hb'
    exact h.kept b' w' hb'

/-- Several locks returned at once, as when a window goes. -/
theorem Accounted.unlockMany {n : Nat} (h : p.Accounted others out) (hn : n ≤ others b) :
    (unlockMany b n p).Accounted (Function.update others b (others b - n)) out := by
  induction n generalizing p others with
  | zero =>
    rw [Nat.sub_zero, Function.update_eq_self]
    exact h
  | succ n ih =>
    have hnext := ih (h.unlock (b := b) (by omega)) (by rw [Function.update_self]; omega)
    rw [Function.update_idem, Function.update_self] at hnext
    rw [show others b - (n + 1) = others b - 1 - n by omega]
    exact hnext

/-- **Drop**, by whoever has made the buffer. -/
theorem Accounted.drop (h : p.Accounted others out) (hb : p.table b = some w)
    (hlive : w.dropped = false) (hslot : ∀ s ∈ p.slots, s.buffer ≠ some b) :
    (p.drop b).Accounted others out := by
  have hcode : p.drop b = (p.setBuffer b (some { w with dropped := true })).considerDestroy b := by
    unfold BufferPool.drop
    rw [hb]
    dsimp only
    rw [hlive]
    rfl
  rw [hcode]
  -- dropped, it is freed if nobody has a lock
  apply Balanced.considerDestroy
  · refine ⟨h.sound, ?_, ?_, ?_, h.distinct, h.pixmaps, h.oneEach, h.known, h.counted, h.pixmapsUsed,
      h.outUsed, ?_, h.windowsUsed⟩
    · intro b' w' hb'
      rw [setBuffer_table] at hb'
      split_ifs at hb' with heq
      · cases hb'
        subst heq
        exact h.locks b' w hb
      · exact h.locks b' w' hb'
    · intro b' hb'
      rw [setBuffer_table] at hb'
      split_ifs at hb'
      exact h.gone b' hb'
    · intro s hs b' hsb
      obtain ⟨w', hw', hrest⟩ := h.slots s hs b' hsb
      refine ⟨w', ?_, hrest⟩
      rw [setBuffer_table, if_neg]
      · exact hw'
      · rintro rfl
        exact hslot s hs hsb
    · intro b' w' hb'
      rw [setBuffer_table] at hb'
      split_ifs at hb' with heq
      · exact heq ▸ h.buffersUsed b w hb
      · exact h.buffersUsed b' w' hb'
  · intro b' w' hne hb'
    rw [setBuffer_table, if_neg hne] at hb'
    exact h.kept b' w' hb'

/-! ### Presents -/

/-- Locks move between the presents of a buffer and the rest of the compositor. -/
theorem Accounted.setBusy (h : p.Accounted others out) {x : X11Buffer} (hx : x ∈ p.x11) {n : Nat}
    (hothers : others' x.buffer + n = others x.buffer + x.nBusy)
    (helse : ∀ b', b' ≠ x.buffer → others' b' = others b')
    (hout : out'.count (x.win, x.pixmap) = n)
    (houtElse : ∀ i, i ≠ (x.win, x.pixmap) → out'.count i = out.count i)
    (hused : ∀ i ∈ out', i.2 < p.nextPixmap ∧ i.1 < p.nextWindow) :
    (p.setBusy x n).Accounted others' out' := by
  have hmem : ∀ {y}, y ∈ (p.setBusy x n).x11 ↔ y = { x with nBusy := n } ∨ y ∈ p.x11 ∧ y.pixmap ≠ x.pixmap :=
    fun {y} => Tally.mem_replace_iff X11Buffer.pixmap hx
  -- the presents of this buffer make up the difference
  have hbusy : ∀ b', (if x.buffer = b' then x.nBusy else 0) + (p.setBusy x n).busy b' =
      (if x.buffer = b' then n else 0) + p.busy b' :=
    fun b' => Tally.total_replace h.pixmaps hx rfl
  refine ⟨⟨h.sound, ?_, ?_, h.slots, h.distinct, ?_, ?_, ?_, ?_, ?_, hused, h.buffersUsed, h.windowsUsed⟩,
    h.kept⟩
  · intro b' w' hb'
    have hlocks := h.locks b' w' hb'
    have hmoved := hbusy b'
    by_cases heq : x.buffer = b'
    · subst heq
      rw [if_pos rfl, if_pos rfl] at hmoved
      omega
    · rw [if_neg heq, if_neg heq] at hmoved
      rw [helse b' (Ne.symm heq)]
      omega
  · intro b' hb'
    obtain ⟨hzero, hnone⟩ := h.gone b' hb'
    refine ⟨?_, fun y hy => ?_⟩
    · rw [helse b' (Ne.symm (hnone x hx))]
      exact hzero
    · rcases hmem.mp hy with rfl | ⟨hy, -⟩
      · exact hnone x hx
      · exact hnone y hy
  · have hkeys : (p.setBusy x n).x11.map X11Buffer.pixmap = p.x11.map X11Buffer.pixmap :=
      Tally.map_key_replace X11Buffer.pixmap rfl
    have hnd : ((p.setBusy x n).x11.map X11Buffer.pixmap).Nodup := hkeys.symm ▸ h.pixmaps
    exact hnd
  · have hmap : (p.setBusy x n).x11.map (fun x => (x.win, x.buffer)) =
        p.x11.map fun x => (x.win, x.buffer) := by
      show ((p.x11.map _).map _) = _
      rw [List.map_map]
      refine List.map_congr_left fun y hy => ?_
      simp only [Function.comp]
      split_ifs with hkey
      · rw [List.inj_on_of_nodup_map h.pixmaps hy hx hkey]
      · rfl
    rw [hmap]
    exact h.oneEach
  · intro y hy
    rcases hmem.mp hy with rfl | ⟨hy, -⟩
    · exact h.known x hx
    · exact h.known y hy
  · intro y hy
    rcases hmem.mp hy with rfl | ⟨hy, hne⟩
    · exact hout.symm
    · rw [houtElse]
      · exact h.counted y hy
      · exact fun heq => hne (congrArg Prod.snd heq)
  · intro y hy
    rcases hmem.mp hy with rfl | ⟨hy, -⟩
    · exact h.pixmapsUsed x hx
    · exact h.pixmapsUsed y hy

/-- What has come back from a window or of a pixmap that is not there any more does not count. -/
theorem Accounted.setOut (h : p.Accounted others out)
    (hout : ∀ x ∈ p.x11, out'.count (x.win, x.pixmap) = out.count (x.win, x.pixmap))
    (hused : ∀ i ∈ out', i.2 < p.nextPixmap ∧ i.1 < p.nextWindow) : p.Accounted others out' where
  toBalanced :=
    { h.toBalanced with
      counted := fun x hx => (h.counted x hx).trans (hout x hx).symm
      outUsed := hused }
  kept := h.kept

/-- **Present**, of a buffer of a swapchain by whoever has a lock of it. The server gets the pixmap. -/
theorem Accounted.x11BufferGetOrCreate (h : p.Accounted others out) (importable : Bool) {win : Nat}
    (hb : p.table b = some w) (hslot : 0 < w.nLocks ∨ ∀ s ∈ p.slots, s.buffer ≠ some b) (hwin : win ∈ p.windows) :
    match p.x11BufferGetOrCreate importable win b with
    | (p', some pixmap) => p'.Accounted others ((win, pixmap) :: out)
    | (p', none) => p' = p := by
  have hlocked := h.lock hb hslot
  have hx11 : (p.lock b).x11 = p.x11 := by
    unfold BufferPool.lock
    rw [hb]
    rfl
  have hnext : (p.lock b).nextPixmap = p.nextPixmap ∧ (p.lock b).nextWindow = p.nextWindow ∧
      (p.lock b).windows = p.windows := by
    unfold BufferPool.lock
    rw [hb]
    exact ⟨rfl, rfl, rfl⟩
  have hused : ∀ i ∈ out, i.2 < (p.lock b).nextPixmap ∧ i.1 < (p.lock b).nextWindow := hlocked.outUsed
  have hwinUsed := h.windowsUsed.2 win hwin
  unfold BufferPool.x11BufferGetOrCreate
  cases hfind : p.x11.find? fun x => x.win = win && x.buffer = b with
  | some x =>
    -- the window has a pixmap of the buffer already
    obtain ⟨hxwin, rfl⟩ : x.win = win ∧ x.buffer = b := by simpa using List.find?_some hfind
    have hx := List.mem_of_find?_eq_some hfind
    dsimp only
    apply hlocked.setBusy (hx11 ▸ hx)
    · rw [Function.update_self]
      omega
    · exact fun b' hne => (Function.update_of_ne hne _ _).symm
    · rw [hxwin, List.count_cons_self, ← hxwin, h.counted x hx]
    · exact fun i hne => List.count_cons_of_ne (hxwin ▸ Ne.symm hne)
    · intro i hi
      rcases List.mem_cons.mp hi with rfl | hi
      · exact ⟨hlocked.pixmapsUsed x (hx11 ▸ hx), hnext.2.1 ▸ hwinUsed⟩
      · exact hused i hi
  | none =>
    dsimp only
    split_ifs with himport
    · -- a pixmap nobody has used
      have hnone : ∀ x ∈ p.x11, ¬(x.win = win ∧ x.buffer = b) := by
        intro x hx hxb
        have := List.find?_eq_none.mp hfind x hx
        simp [hxb.1, hxb.2] at this
      have hcount : out.count (win, p.nextPixmap) = 0 := by
        rw [List.count_eq_zero]
        intro hi
        exact absurd (h.outUsed _ hi).1 (lt_irrefl _)
      have htable := hlocked.locks
      refine ⟨⟨hlocked.sound, ?_, ?_, hlocked.slots, hlocked.distinct, ?_, ?_, ?_, ?_, ?_, ?_,
        hlocked.buffersUsed, hlocked.windowsUsed⟩, hlocked.kept⟩
      · intro b' w' hb'
        show w'.nLocks = others b' + ((if b = b' then 1 else 0) + p.busy b')
        have hsum := hlocked.locks b' w' hb'
        rw [show (p.lock b).busy b' = p.busy b' by unfold busy; rw [hx11]] at hsum
        by_cases heq : b' = b
        · subst heq
          rw [Function.update_self] at hsum
          rw [if_pos rfl]
          omega
        · rw [Function.update_of_ne heq] at hsum
          rw [if_neg (Ne.symm heq)]
          omega
      · intro b' hb'
        obtain ⟨hzero, hgone⟩ := hlocked.gone b' hb'
        have hne : b' ≠ b := by
          rintro rfl
          rw [Function.update_self] at hzero
          omega
        rw [Function.update_of_ne hne] at hzero
        refine ⟨hzero, fun x hx => ?_⟩
        rcases List.mem_cons.mp hx with rfl | hx
        · exact Ne.symm hne
        · exact hgone x (hx11 ▸ hx)
      · refine List.nodup_cons.mpr ⟨fun hi => ?_, h.pixmaps⟩
        obtain ⟨x, hx, hxp⟩ := List.mem_map.mp hi
        exact absurd (h.pixmapsUsed x hx) (by rw [hxp]; exact lt_irrefl _)
      · refine List.nodup_cons.mpr ⟨fun hi => ?_, h.oneEach⟩
        obtain ⟨x, hx, hxb⟩ := List.mem_map.mp hi
        exact hnone x hx ⟨congrArg Prod.fst hxb, congrArg Prod.snd hxb⟩
      · intro x hx
        rcases List.mem_cons.mp hx with rfl | hx
        · exact hnext.2.2 ▸ hwin
        · exact hnext.2.2 ▸ h.known x hx
      · intro x hx
        rcases List.mem_cons.mp hx with rfl | hx
        · rw [List.count_cons_self, hcount]
        · rw [List.count_cons_of_ne]
          · exact h.counted x hx
          · intro heq
            obtain ⟨-, hpix⟩ := Prod.mk.inj heq
            exact absurd (h.pixmapsUsed x hx) (hpix ▸ lt_irrefl _)
      · intro x hx
        rcases List.mem_cons.mp hx with rfl | hx
        · exact Nat.lt_succ_self _
        · exact (h.pixmapsUsed x hx).trans (Nat.lt_succ_self _)
      · intro i hi
        rcases List.mem_cons.mp hi with rfl | hi
        · exact ⟨Nat.lt_succ_self _, hnext.2.1 ▸ hwinUsed⟩
        · exact ⟨(h.outUsed i hi).1.trans (Nat.lt_succ_self _), (hused i hi).2⟩
    · rfl

/-- **Idle.** The server gives a pixmap back. -/
theorem Accounted.handleIdleNotify {i : Nat × Nat} (h : p.Accounted others (i :: out)) :
    (p.handleIdleNotify i.1 i.2).Accounted others out := by
  have hused : ∀ j ∈ out, j.2 < p.nextPixmap ∧ j.1 < p.nextWindow :=
    fun j hj => h.outUsed j (List.mem_cons_of_mem _ hj)
  have hstale : (∀ x ∈ p.x11, (x.win, x.pixmap) ≠ i) → p.Accounted others out := by
    intro hnone
    exact h.setOut (fun x hx => (List.count_cons_of_ne (Ne.symm (hnone x hx))).symm) hused
  unfold BufferPool.handleIdleNotify
  by_cases hwin : i.1 ∉ p.windows
  · rw [if_pos hwin]
    apply hstale
    rintro x hx rfl
    exact hwin (h.known x hx)
  · rw [if_neg hwin]
    cases hfind : p.x11.find? fun x => x.win = i.1 && x.pixmap = i.2 with
    | none =>
      apply hstale
      rintro x hx rfl
      have := List.find?_eq_none.mp hfind x hx
      simp at this
    | some x =>
      obtain ⟨hxwin, hxpix⟩ : x.win = i.1 ∧ x.pixmap = i.2 := by simpa using List.find?_some hfind
      have hx := List.mem_of_find?_eq_some hfind
      have hi : i = (x.win, x.pixmap) := Prod.ext hxwin.symm hxpix.symm
      have hcount := h.counted x hx
      rw [hi, List.count_cons_self] at hcount
      dsimp only
      rw [if_neg (by omega)]
      -- one of its locks is in hand, and is given back
      have hinHand : (p.setBusy x (x.nBusy - 1)).Accounted
          (Function.update others x.buffer (others x.buffer + 1)) out := by
        apply h.setBusy hx
        · rw [Function.update_self]
          omega
        · exact fun b' hne => Function.update_of_ne hne _ _
        · omega
        · exact fun j hne => (List.count_cons_of_ne (hi ▸ Ne.symm hne)).symm
        · exact hused
      have hback := hinHand.unlock (b := x.buffer) (by rw [Function.update_self]; exact Nat.succ_pos _)
      rw [Function.update_idem, Function.update_self, Nat.add_sub_cancel, Function.update_eq_self] at hback
      exact hback

/-! ### Windows -/

/-- What else happens to the X11 buffers when a lock is returned: those of a freed buffer go. -/
theorem unlock_x11 (p : BufferPool) (b : Nat) :
    (p.unlock b).windows = p.windows ∧
      ((p.unlock b).x11 = p.x11 ∨ (p.unlock b).x11 = p.x11.filter fun x => x.buffer ≠ b) := by
  unfold BufferPool.unlock
  cases p.table b with
  | none => exact ⟨rfl, .inl rfl⟩
  | some w =>
    dsimp only
    split_ifs
    · exact ⟨rfl, .inl rfl⟩
    all_goals
      unfold BufferPool.considerDestroy
      split
      · exact ⟨rfl, .inl rfl⟩
      -- freed with the last lock, if it has been dropped
      · split_ifs
        · exact ⟨rfl, .inl rfl⟩
        · exact ⟨rfl, .inr rfl⟩

/-- A buffer that is freed takes no window with it. -/
theorem unlockMany_windows (b n : Nat) (p : BufferPool) : (unlockMany b n p).windows = p.windows := by
  induction n generalizing p with
  | zero => rfl
  | succ n ih => exact (ih (p.unlock b)).trans (unlock_x11 p b).1

/-- Of the X11 buffers only those of this buffer may go. -/
theorem mem_unlockMany_x11 {b n : Nat} {x : X11Buffer} (p : BufferPool) :
    (x ∈ (unlockMany b n p).x11 → x ∈ p.x11) ∧
      (x ∈ p.x11 → x.buffer ≠ b → x ∈ (unlockMany b n p).x11) := by
  induction n generalizing p with
  | zero => exact ⟨id, fun hx _ => hx⟩
  | succ n ih =>
    obtain ⟨hback, hforth⟩ := ih (p.unlock b)
    -- the buffer is freed with one of the unlocks, or not
    rcases (unlock_x11 p b).2 with h | h
    · rw [h] at hback hforth
      exact ⟨hback, hforth⟩
    · rw [h] at hback hforth
      refine ⟨fun hx => (List.mem_filter.mp (hback hx)).1, fun hx hne => hforth ?_ hne⟩
      exact List.mem_filter.mpr ⟨hx, by simpa using hne⟩

/-- `x11_buffer_destroy` returns one lock for each present that was not idle. -/
theorem Accounted.x11BufferDestroy (h : p.Accounted others out) {x : X11Buffer} (hx : x ∈ p.x11) :
    (p.x11BufferDestroy x).Accounted others out := by
  have hsub : ∀ y, y ∈ p.x11.erase x → y ∈ p.x11 := fun y => List.mem_of_mem_erase
  -- the window's locks are in hand, and are given back
  have hinHand : ({ p with x11 := p.x11.erase x } : BufferPool).Accounted
      (Function.update others x.buffer (others x.buffer + x.nBusy)) out := by
    refine ⟨⟨h.sound, ?_, ?_, h.slots, h.distinct, ?_, ?_, fun y hy => h.known y (hsub y hy),
      fun y hy => h.counted y (hsub y hy), fun y hy => h.pixmapsUsed y (hsub y hy), h.outUsed,
      h.buffersUsed, h.windowsUsed⟩, h.kept⟩
    · intro b' w' hb'
      have hlocks := h.locks b' w' hb'
      have herase := Tally.total_erase X11Buffer.buffer X11Buffer.nBusy b' hx
      show w'.nLocks = _ + Tally.total X11Buffer.buffer X11Buffer.nBusy b' (p.x11.erase x)
      unfold busy at hlocks
      by_cases heq : x.buffer = b'
      · subst heq
        rw [Function.update_self]
        rw [if_pos rfl] at herase
        omega
      · rw [Function.update_of_ne (Ne.symm heq)]
        rw [if_neg heq] at herase
        omega
    · intro b' hb'
      obtain ⟨hzero, hnone⟩ := h.gone b' hb'
      refine ⟨?_, fun y hy => hnone y (hsub y hy)⟩
      rw [Function.update_of_ne (Ne.symm (hnone x hx))]
      exact hzero
    · exact h.pixmaps.sublist (List.erase_sublist.map _)
    · exact h.oneEach.sublist (List.erase_sublist.map _)
  have hback := hinHand.unlockMany (b := x.buffer) (n := x.nBusy)
    (by rw [Function.update_self]; exact Nat.le_add_left _ _)
  rw [Function.update_idem, Function.update_self, Nat.add_sub_cancel, Function.update_eq_self] at hback
  exact hback

/-- Those of other buffers stay. -/
theorem mem_x11BufferDestroy {x y : X11Buffer} (hnd : p.x11.Nodup) :
    (y ∈ (p.x11BufferDestroy x).x11 → y ∈ p.x11 ∧ y ≠ x) ∧
      (y ∈ p.x11 → y.buffer ≠ x.buffer → y ∈ (p.x11BufferDestroy x).x11) := by
  obtain ⟨hback, hforth⟩ := mem_unlockMany_x11 (b := x.buffer) (n := x.nBusy) (x := y)
    { p with x11 := p.x11.erase x }
  constructor
  · intro hy
    exact ((List.Nodup.mem_erase_iff hnd).mp (hback hy)).symm
  · intro hy hne
    apply hforth _ hne
    exact (List.Nodup.mem_erase_iff hnd).mpr ⟨fun heq => hne (heq ▸ rfl), hy⟩

/-- Pixmaps are not shared. -/
theorem Balanced.x11_nodup (h : p.Balanced others out) : p.x11.Nodup := h.pixmaps.of_map

/-- The X11 buffers of a window, one after the other. -/
theorem Accounted.destroyAll {win : Nat} {xs : List X11Buffer} (h : p.Accounted others out)
    (hxs : ∀ x ∈ xs, x ∈ p.x11 ∧ x.win = win) (hnd : (xs.map (·.buffer)).Nodup) :
    (xs.foldl BufferPool.x11BufferDestroy p).Accounted others out ∧
      (xs.foldl BufferPool.x11BufferDestroy p).windows = p.windows ∧
      ∀ y ∈ (xs.foldl BufferPool.x11BufferDestroy p).x11, y ∈ p.x11 ∧ y ∉ xs := by
  induction xs generalizing p with
  | nil => exact ⟨h, rfl, fun y hy => ⟨hy, List.not_mem_nil⟩⟩
  | cons x xs ih =>
    obtain ⟨hhead, htail⟩ := List.nodup_cons.mp hnd
    obtain ⟨hx, hxwin⟩ := hxs x List.mem_cons_self
    -- the first goes, the others stay to be destroyed
    have hrest : ∀ y ∈ xs, y ∈ (p.x11BufferDestroy x).x11 ∧ y.win = win := by
      intro y hy
      obtain ⟨hy', hywin⟩ := hxs y (List.mem_cons_of_mem _ hy)
      refine ⟨(mem_x11BufferDestroy h.x11_nodup).2 hy' fun heq => hhead ?_, hywin⟩
      exact List.mem_map.mpr ⟨y, hy, heq⟩
    obtain ⟨hacc, hwindows, hleft⟩ := ih (h.x11BufferDestroy hx) hrest htail
    refine ⟨hacc, hwindows.trans (unlockMany_windows _ _ _), fun y hy => ?_⟩
    obtain ⟨hy', hnot⟩ := hleft y hy
    obtain ⟨hy'', hne⟩ := (mem_x11BufferDestroy h.x11_nodup).1 hy'
    exact ⟨hy'', fun hmem => (List.mem_cons.mp hmem).elim hne hnot⟩

/-- **A window goes.** Its locks are returned with it; the server's answers will not find it. -/
theorem Accounted.destroyWindow (h : p.Accounted others out) (win : Nat) :
    (p.destroyWindow win).Accounted others out := by
  have hxs : ∀ x ∈ p.x11.filter (fun x => x.win = win), x ∈ p.x11 ∧ x.win = win := by
    intro x hx
    obtain ⟨hmem, hxwin⟩ := List.mem_filter.mp hx
    exact ⟨hmem, by simpa using hxwin⟩
  -- one X11 buffer for each pair of window and buffer
  have hnd : ((p.x11.filter fun x => x.win = win).map (·.buffer)).Nodup := by
    have hpairs := h.oneEach.sublist ((List.filter_sublist (p := fun x => x.win = win)).map _)
    refine List.Nodup.of_map (f := fun b => (win, b)) ?_
    rw [List.map_map]
    refine (List.map_congr_left fun x hx => ?_).symm ▸ hpairs
    rw [← (hxs x hx).2]
    rfl
  obtain ⟨hacc, hwindows, hleft⟩ := h.destroyAll hxs hnd
  unfold BufferPool.destroyWindow
  refine ⟨⟨hacc.sound, hacc.locks, hacc.gone, hacc.slots, hacc.distinct, hacc.pixmaps, hacc.oneEach, ?_,
    hacc.counted, hacc.pixmapsUsed, hacc.outUsed, hacc.buffersUsed, ?_⟩, hacc.kept⟩
  · intro x hx
    obtain ⟨hmem, hnot⟩ := hleft x hx
    refine (List.mem_erase_of_ne fun heq => hnot ?_).mpr (hacc.known x hx)
    exact List.mem_filter.mpr ⟨hmem, by simpa using heq⟩
  · refine ⟨hacc.windowsUsed.1.erase _, fun v hv => ?_⟩
    exact hacc.windowsUsed.2 v (List.mem_of_mem_erase hv)

/-- A window begins without buffers. -/
theorem Accounted.createWindow (h : p.Accounted others out) : p.createWindow.Accounted others out := by
  refine ⟨⟨h.sound, h.locks, h.gone, h.slots, h.distinct, h.pixmaps, h.oneEach, ?_, h.counted,
    h.pixmapsUsed, ?_, h.buffersUsed, ?_⟩, h.kept⟩
  · exact fun x hx => List.mem_cons_of_mem _ (h.known x hx)
  · exact fun i hi => ⟨(h.outUsed i hi).1, (h.outUsed i hi).2.trans (Nat.lt_succ_self _)⟩
  · refine ⟨List.nodup_cons.mpr ⟨fun hi => ?_, h.windowsUsed.1⟩, fun v hv => ?_⟩
    · exact absurd (h.windowsUsed.2 _ hi) (lt_irrefl _)
    · rcases List.mem_cons.mp hv with rfl | hv
      · exact Nat.lt_succ_self _
      · exact (h.windowsUsed.2 v hv).trans (Nat.lt_succ_self _)

/-- A new buffer is locked by nobody. -/
theorem Accounted.create (h : p.Accounted others out) (size : Size) :
    (p.create size).Accounted others out := by
  -- the next number is that of no buffer
  have hnone : p.table p.nextBuffer = none := by
    cases hb : p.table p.nextBuffer with
    | none => rfl
    | some w => exact absurd (h.buffersUsed _ w hb) (lt_irrefl _)
  obtain ⟨hothers, hx11⟩ := h.gone _ hnone
  have htable : ∀ b, (p.create size).table b =
      if b = p.nextBuffer then some ⟨size, 0, false⟩ else p.table b :=
    fun b => setBuffer_table b _
  refine ⟨⟨h.sound, ?_, ?_, ?_, h.distinct, h.pixmaps, h.oneEach, h.known, h.counted, h.pixmapsUsed,
    h.outUsed, ?_, h.windowsUsed⟩, ?_⟩
  · intro b w hb
    rw [htable] at hb
    split_ifs at hb with heq
    · cases hb
      subst heq
      have hbusy : p.busy p.nextBuffer = 0 := busy_eq_zero_iff.mpr fun x hx hxb => absurd hxb (hx11 x hx)
      rw [hothers, Nat.zero_add]
      exact hbusy.symm
    · exact h.locks b w hb
  · intro b hb
    rw [htable] at hb
    split_ifs at hb
    exact h.gone b hb
  · intro s hs b hsb
    obtain ⟨w, hw, hrest⟩ := h.slots s hs b hsb
    refine ⟨w, ?_, hrest⟩
    rw [htable, if_neg]
    · exact hw
    · rintro rfl
      rw [hnone] at hw
      cases hw
  · intro b w hb
    rw [htable] at hb
    split_ifs at hb with heq
    · exact heq ▸ Nat.lt_succ_self _
    · exact (h.buffersUsed b w hb).trans (Nat.lt_succ_self _)
  · intro b w hb hdropped
    rw [htable] at hb
    split_ifs at hb
    · cases hb
      cases hdropped
    · exact h.kept b w hb hdropped

/-! ### Swapchains -/

/-- The slot that is taken is free and has a buffer already. -/
theorem acquireSlot_spec {slots slots' : List SwapchainSlot} (h : acquireSlot slots = some (b, slots')) :
    ∃ before after, slots = before ++ ⟨some b, false⟩ :: after ∧
      slots' = before ++ ⟨some b, true⟩ :: after := by
  induction slots generalizing slots' with
  | nil => cases h
  | cons s slots ih =>
    unfold acquireSlot at h
    split at h
    -- this one is free and has a buffer
    · rename_i hacquired hbuffer
      cases h
      obtain ⟨buffer, acquired⟩ := s
      dsimp only at hacquired hbuffer
      subst hacquired hbuffer
      exact ⟨[], slots, rfl, rfl⟩
    · obtain ⟨⟨b', rest⟩, hrest, heq⟩ := Option.map_eq_some_iff.mp h
      obtain ⟨rfl, rfl⟩ := Prod.mk.inj heq
      obtain ⟨before, after, rfl, rfl⟩ := ih hrest
      exact ⟨s :: before, after, rfl, rfl⟩

/-- A slot that is filled has none before. -/
theorem fillSlot_spec {slots slots' : List SwapchainSlot} (h : fillSlot b slots = some slots') :
    ∃ before after, slots = before ++ ⟨none, false⟩ :: after ∧
      slots' = before ++ ⟨some b, true⟩ :: after := by
  induction slots generalizing slots' with
  | nil => cases h
  | cons s slots ih =>
    unfold fillSlot at h
    split at h
    · rename_i rest hrest
      cases h
      obtain ⟨before, after, rfl, rfl⟩ := ih hrest
      exact ⟨s :: before, after, rfl, rfl⟩
    -- nothing further on was to be filled
    · split_ifs at h with hfree
      cases h
      obtain ⟨buffer, acquired⟩ := s
      obtain ⟨rfl, rfl⟩ : acquired = false ∧ buffer = none := by simpa using hfree
      exact ⟨[], slots, rfl, rfl⟩

/-- The buffers of the slots around one. -/
theorem slotBuffers_append (before after : List SwapchainSlot) (b : Nat) (acquired : Bool) :
    (before ++ ⟨some b, acquired⟩ :: after).filterMap (·.buffer) =
      before.filterMap (·.buffer) ++ b :: after.filterMap (·.buffer) := by
  simp

/-- No other slot has the buffer of one. -/
theorem slots_ne_of_nodup {before after : List SwapchainSlot} {acquired : Bool}
    (hnd : ((before ++ ⟨some b, acquired⟩ :: after).filterMap (·.buffer)).Nodup) {s : SwapchainSlot}
    (hs : s ∈ before ++ after) : s.buffer ≠ some b := by
  intro hsb
  rw [slotBuffers_append, List.nodup_middle, List.nodup_cons, ← List.filterMap_append] at hnd
  exact hnd.1 (List.mem_filterMap.mpr ⟨s, hs, hsb⟩)

/-- A slot takes a lock of its own when its buffer has none. -/
theorem Accounted.acquire (h : p.Accounted others out) {slots : List SwapchainSlot}
    (hb : p.table b = some w) (hfree : w.nLocks = 0) (hsize : w.size = p.swapchainSize)
    (hlive : w.dropped = false) (hslots : ∀ s ∈ slots, s ∈ p.slots ∧ s.buffer ≠ some b ∨ s = ⟨some b, true⟩)
    (hdistinct : (slots.filterMap (·.buffer)).Nodup) :
    (BufferPool.lock { p with slots := slots } b).Accounted
      (Function.update others b (others b + 1)) out := by
  have hlock : BufferPool.lock { p with slots := slots } b =
      { p.setBuffer b (some { w with nLocks := w.nLocks + 1 }) with slots := slots } := by
    unfold BufferPool.lock
    dsimp only
    rw [hb]
    rfl
  have hlocks := h.locks b w hb
  have htable : ∀ b', (BufferPool.lock { p with slots := slots } b).table b' =
      if b' = b then some { w with nLocks := w.nLocks + 1 } else p.table b' := by
    intro b'
    rw [hlock]
    exact setBuffer_table b' _
  have hx11 : (BufferPool.lock { p with slots := slots } b).x11 = p.x11 := by rw [hlock]; rfl
  refine ⟨⟨by rw [hlock]; exact h.sound, ?_, ?_, ?_, by rw [hlock]; exact hdistinct,
    by rw [hlock]; exact h.pixmaps, by rw [hlock]; exact h.oneEach, by rw [hlock]; exact h.known,
    by rw [hlock]; exact h.counted, by rw [hlock]; exact h.pixmapsUsed, by rw [hlock]; exact h.outUsed,
    ?_, by rw [hlock]; exact h.windowsUsed⟩, ?_⟩
  · intro b' w' hb'
    rw [htable] at hb'
    unfold busy
    rw [hx11]
    split_ifs at hb' with heq
    · cases hb'
      subst heq
      rw [Function.update_self]
      unfold busy at hlocks
      dsimp only
      omega
    · rw [Function.update_of_ne heq]
      exact h.locks b' w' hb'
  · intro b' hb'
    rw [htable] at hb'
    split_ifs at hb' with heq
    rw [Function.update_of_ne heq, hx11]
    exact h.gone b' hb'
  · intro s hs b' hsb
    rw [hlock] at hs
    rw [htable, show (BufferPool.lock { p with slots := slots } b).swapchainSize = p.swapchainSize by
      rw [hlock]; rfl]
    -- the other slots are as they were
    rcases hslots s hs with ⟨hmem, hne⟩ | rfl
    · rw [if_neg (by rintro rfl; exact hne hsb)]
      exact h.slots s hmem b' hsb
    · cases hsb
      rw [if_pos rfl]
      exact ⟨_, rfl, hsize, hlive, by simp⟩
  · intro b' w' hb'
    rw [htable] at hb'
    rw [show (BufferPool.lock { p with slots := slots } b).nextBuffer = p.nextBuffer by rw [hlock]; rfl]
    split_ifs at hb' with heq
    · exact heq ▸ h.buffersUsed b w hb
    · exact h.buffersUsed b' w' hb'
  · intro b' w' hb' hdropped
    rw [htable] at hb'
    split_ifs at hb'
    · cases hb'
      exact Nat.succ_pos _
    · exact h.kept b' w' hb' hdropped

/-- **Acquire.** Nobody has what a swapchain gives out, the server included. -/
theorem Accounted.swapchainAcquire (h : p.Accounted others out) (allocated : Bool) :
    match p.swapchainAcquire allocated with
    | (p', some b) => p'.Accounted (Function.update others b (others b + 1)) out ∧ others b = 0 ∧
        p.busy b = 0
    | (p', none) => p' = p := by
  unfold BufferPool.swapchainAcquire
  cases hacquire : acquireSlot p.slots with
  | some r =>
    obtain ⟨b, slots⟩ := r
    obtain ⟨before, after, hbefore, rfl⟩ := acquireSlot_spec hacquire
    have hdistinct := h.distinct
    rw [hbefore] at hdistinct
    obtain ⟨w, hw, hsize, hlive, hiff⟩ := h.slots ⟨some b, false⟩
      (hbefore ▸ List.mem_append_right _ List.mem_cons_self) b rfl
    -- a slot is free as long as nobody has a lock
    have hfree : w.nLocks = 0 := by simpa using hiff
    have hlocks := h.locks b w hw
    dsimp only
    refine ⟨h.acquire hw hfree hsize hlive (fun s hs => ?_) ?_, by omega, by omega⟩
    · rcases List.mem_append.mp hs with hs | hs
      · refine .inl ⟨hbefore ▸ List.mem_append_left _ hs, ?_⟩
        exact slots_ne_of_nodup hdistinct (List.mem_append_left _ hs)
      · rcases List.mem_cons.mp hs with rfl | hs
        · exact .inr rfl
        · refine .inl ⟨hbefore ▸ List.mem_append_right _ (List.mem_cons_of_mem _ hs), ?_⟩
          exact slots_ne_of_nodup hdistinct (List.mem_append_right _ hs)
    · rw [slotBuffers_append] at hdistinct ⊢
      exact hdistinct
  | none =>
    dsimp only
    cases hfill : fillSlot p.nextBuffer p.slots with
    | none => rfl
    | some slots =>
      dsimp only
      split_ifs
      · -- a buffer that has just been made
        obtain ⟨before, after, hbefore, rfl⟩ := fillSlot_spec hfill
        have hnone : p.table p.nextBuffer = none := by
          cases hb : p.table p.nextBuffer with
          | none => rfl
          | some w => exact absurd (h.buffersUsed _ w hb) (lt_irrefl _)
        obtain ⟨hothers, hx11⟩ := h.gone _ hnone
        have hfresh : ∀ s ∈ p.slots, s.buffer ≠ some p.nextBuffer := by
          intro s hs hsb
          obtain ⟨w, hw, -⟩ := h.slots s hs _ hsb
          rw [hnone] at hw
          cases hw
        have hw : (p.create p.swapchainSize).table p.nextBuffer = some ⟨p.swapchainSize, 0, false⟩ := by
          show (p.setBuffer p.nextBuffer _).table p.nextBuffer = _
          rw [setBuffer_table, if_pos rfl]
        refine ⟨(h.create p.swapchainSize).acquire hw rfl rfl rfl (fun s hs => ?_) ?_, hothers, ?_⟩
        · rcases List.mem_append.mp hs with hs | hs
          · have hmem : s ∈ p.slots := hbefore ▸ List.mem_append_left _ hs
            exact .inl ⟨hmem, hfresh s hmem⟩
          · rcases List.mem_cons.mp hs with rfl | hs
            · exact .inr rfl
            · have hmem : s ∈ p.slots := hbefore ▸ List.mem_append_right _ (List.mem_cons_of_mem _ hs)
              exact .inl ⟨hmem, hfresh s hmem⟩
        · have hdistinct := h.distinct
          rw [hbefore, List.filterMap_append, List.filterMap_cons_none rfl] at hdistinct
          rw [slotBuffers_append, List.nodup_middle, List.nodup_cons]
          refine ⟨fun hi => ?_, hdistinct⟩
          rw [← List.filterMap_append] at hi
          obtain ⟨s, hs, hsb⟩ := List.mem_filterMap.mp hi
          refine hfresh s (hbefore ▸ ?_) hsb
          rcases List.mem_append.mp hs with hs | hs
          · exact List.mem_append_left _ hs
          · exact List.mem_append_right _ (List.mem_cons_of_mem _ hs)
        · exact busy_eq_zero_iff.mpr fun x hx hxb => absurd hxb (hx11 x hx)
      · rfl

/-- The buffers of a swapchain are dropped one after the other, when no slot waits for them any more. -/
theorem Accounted.dropAll {bs : List Nat} (h : p.Accounted others out) (hslots : p.slots = [])
    (hbs : ∀ b ∈ bs, ∃ w, p.table b = some w ∧ w.dropped = false) (hnd : bs.Nodup) :
    (bs.foldl BufferPool.drop p).Accounted others out := by
  induction bs generalizing p with
  | nil => exact h
  | cons b bs ih =>
    obtain ⟨hhead, htail⟩ := List.nodup_cons.mp hnd
    obtain ⟨w, hw, hlive⟩ := hbs b List.mem_cons_self
    have hnone : ∀ s ∈ p.slots, s.buffer ≠ some b := by
      rw [hslots]
      exact fun s hs => absurd hs List.not_mem_nil
    -- to drop one leaves the others on the list
    have hdrop : (p.drop b).slots = p.slots ∧ ∀ b', b' ≠ b → (p.drop b).table b' = p.table b' := by
      unfold BufferPool.drop
      rw [hw]
      dsimp only
      rw [hlive, if_neg Bool.false_ne_true]
      unfold BufferPool.considerDestroy
      have hother : ∀ (v : Option WlrBuffer) b', b' ≠ b → (p.setBuffer b v).table b' = p.table b' := by
        intro v b' hne
        rw [setBuffer_table, if_neg hne]
      split
      · exact ⟨rfl, hother _⟩
      · split_ifs
        · exact ⟨rfl, hother _⟩
        · refine ⟨rfl, fun b' hne => ?_⟩
          show ((p.setBuffer b _).setBuffer b none).table b' = _
          rw [setBuffer_table, if_neg hne, hother _ b' hne]
    refine ih (h.drop hw hlive hnone) (hdrop.1.trans hslots) (fun b' hb' => ?_) htail
    rw [hdrop.2 b' (fun heq => hhead (heq ▸ hb'))]
    exact hbs b' (List.mem_cons_of_mem _ hb')

/-- Buffers that are still locked outlive their swapchain. -/
theorem Accounted.swapchainDestroy (h : p.Accounted others out) :
    p.swapchainDestroy.Accounted others out := by
  refine Accounted.dropAll ?_ rfl (fun b hb => ?_) h.distinct
  · exact ⟨⟨h.sound, h.locks, h.gone, fun s hs => absurd hs List.not_mem_nil, List.nodup_nil, h.pixmaps,
      h.oneEach, h.known, h.counted, h.pixmapsUsed, h.outUsed, h.buffersUsed, h.windowsUsed⟩, h.kept⟩
  · obtain ⟨s, hs, hsb⟩ := List.mem_filterMap.mp hb
    obtain ⟨w, hw, -, hlive, -⟩ := h.slots s hs b hsb
    exact ⟨w, hw, hlive⟩

/-- The old swapchain goes, and the new one has a buffer that nobody has. -/
theorem Accounted.swapchainReplace (h : p.Accounted others out) (size : Size) :
    (p.swapchainReplace size).Accounted others out := by
  have hnew := h.swapchainDestroy.create size
  have htable : (p.swapchainDestroy.create size).table p.swapchainDestroy.nextBuffer =
      some ⟨size, 0, false⟩ := by
    show (p.swapchainDestroy.setBuffer _ _).table _ = _
    rw [setBuffer_table, if_pos rfl]
  unfold BufferPool.swapchainReplace
  refine ⟨⟨hnew.sound, hnew.locks, hnew.gone, fun s hs b hsb => ?_, ?_, hnew.pixmaps, hnew.oneEach,
    hnew.known, hnew.counted, hnew.pixmapsUsed, hnew.outUsed, hnew.buffersUsed, hnew.windowsUsed⟩,
    hnew.kept⟩
  -- three empty slots, and the one the test has filled
  · simp only [testedSlots, List.mem_cons, List.not_mem_nil, or_false] at hs
    rcases hs with rfl | rfl | rfl | rfl
    · cases hsb
    · cases hsb
    · cases hsb
    · cases hsb
      exact ⟨_, htable, rfl, rfl, by simp⟩
  · exact List.nodup_singleton _

end BufferPool

/-! ## Sessions -/

/-- The buffers, and what is known of them elsewhere. -/
structure PresentSession where
  pool : BufferPool
  /-- the locks of clients, scenes and frames in the making -/
  others : Nat → Nat
  /-- the windows and pixmaps of presents the server has not finished with -/
  held : List (Nat × Nat)
  /-- the `IdleNotify`s on their way -/
  idles : List (Nat × Nat)

inductive BufferAction where
  /-- a client makes a buffer -/
  | create (size : Size)
  | lock (b : Nat)
  | unlock (b : Nat)
  /-- a client is done with a buffer -/
  | drop (b : Nat)
  /-- a frame is begun -/
  | acquire (allocated : Bool)
  | replaceSwapchain (size : Size)
  | destroySwapchain
  | createWindow
  | destroyWindow (win : Nat)
  | present (importable : Bool) (win b : Nat)
  /-- the server is done with a present, and says so -/
  | finish (n : Nat)
  | readIdle
deriving DecidableEq

namespace PresentSession

def init : PresentSession := ⟨.init, fun _ => 0, [], []⟩

def out (s : PresentSession) : List (Nat × Nat) := s.idles ++ s.held

/-- What the rest of the compositor promises: to lock and present what there is, and swapchain buffers only as long
as it has a lock of them, to unlock what it has locked, and to drop a buffer of its own once. What
`popup_render_and_present` and `subpresent_render_and_present` draw is presented without a lock, and dropped. -/
def step (s : PresentSession) : BufferAction → Option PresentSession
  | .create size => some { s with pool := s.pool.create size }
  | .lock b =>
    if (s.pool.table b).isSome ∧ (0 < s.others b ∨ ∀ t ∈ s.pool.slots, t.buffer ≠ some b) then
      some { s with pool := s.pool.lock b, others := Function.update s.others b (s.others b + 1) }
    else none
  | .unlock b =>
    if 0 < s.others b then
      some { s with pool := s.pool.unlock b, others := Function.update s.others b (s.others b - 1) }
    else none
  | .drop b =>
    if (s.pool.table b).any (fun w => !w.dropped) ∧ ∀ t ∈ s.pool.slots, t.buffer ≠ some b then
      some { s with pool := s.pool.drop b }
    else none
  | .acquire allocated =>
    match s.pool.swapchainAcquire allocated with
    | (pool, some b) => some { s with pool := pool, others := Function.update s.others b (s.others b + 1) }
    | (pool, none) => some { s with pool := pool }
  | .replaceSwapchain size => some { s with pool := s.pool.swapchainReplace size }
  | .destroySwapchain => some { s with pool := s.pool.swapchainDestroy }
  | .createWindow => some { s with pool := s.pool.createWindow }
  | .destroyWindow win => some { s with pool := s.pool.destroyWindow win }
  | .present importable win b =>
    if (s.pool.table b).isSome ∧ (0 < s.others b ∨ ∀ t ∈ s.pool.slots, t.buffer ≠ some b) ∧
        win ∈ s.pool.windows then
      match s.pool.x11BufferGetOrCreate importable win b with
      | (pool, some pixmap) => some { s with pool := pool, held := (win, pixmap) :: s.held }
      | (pool, none) => some { s with pool := pool }
    else none
  | .finish n =>
    match s.held[n]? with
    | some i => some { s with held := s.held.eraseIdx n, idles := s.idles ++ [i] }
    | none => none
  | .readIdle =>
    match s.idles with
    | [] => none
    | i :: idles => some { s with pool := s.pool.handleIdleNotify i.1 i.2, idles := idles }

/-- The session's accounts. -/
def Sound (s : PresentSession) : Prop := s.pool.Accounted s.others s.out

/-- At the start all accounts are empty. -/
theorem sound_init : init.Sound := by
  refine ⟨⟨rfl, nofun, fun b _ => ⟨rfl, nofun⟩, nofun, List.nodup_nil, List.nodup_nil, List.nodup_nil,
    nofun, nofun, nofun, nofun, nofun, List.nodup_nil, nofun⟩, nofun⟩

/-- Each operation keeps the accounts. One case per operation. -/
theorem step_sound {s s' : PresentSession} {a : BufferAction} (h : s.Sound) (hs : s.step a = some s') :
    s'.Sound := by
  cases a with
  | create size =>
    cases hs
    exact h.create size
  | lock b =>
    simp only [step] at hs
    split_ifs at hs with hok
    cases hs
    obtain ⟨w, hw⟩ := Option.isSome_iff_exists.mp hok.1
    have hlocks := h.locks b w hw
    exact h.lock hw (hok.2.imp_left fun hpos => by omega)
  | unlock b =>
    simp only [step] at hs
    split_ifs at hs with hok
    cases hs
    exact h.unlock hok
  | drop b =>
    simp only [step] at hs
    split_ifs at hs with hok
    cases hs
    obtain ⟨w, hw, hlive⟩ := (Option.any_eq_true _ _).mp hok.1
    exact h.drop hw (by simpa using hlive) hok.2
  | acquire allocated =>
    have hacquire := h.swapchainAcquire allocated
    simp only [step] at hs
    split at hs
    · rename_i pool b heq
      rw [heq] at hacquire
      cases hs
      exact hacquire.1
    · rename_i pool heq
      rw [heq] at hacquire
      cases hs
      exact hacquire ▸ h
  | replaceSwapchain size =>
    cases hs
    exact h.swapchainReplace size
  | destroySwapchain =>
    cases hs
    exact h.swapchainDestroy
  | createWindow =>
    cases hs
    exact h.createWindow
  | destroyWindow win =>
    cases hs
    exact h.destroyWindow win
  | present importable win b =>
    simp only [step] at hs
    split_ifs at hs with hok
    obtain ⟨halive, hslot, hwin⟩ := hok
    obtain ⟨w, hw⟩ := Option.isSome_iff_exists.mp halive
    have hlocks := h.locks b w hw
    have hpresent := h.x11BufferGetOrCreate importable hw (hslot.imp_left fun hpos => by omega) hwin
    split at hs
    · rename_i pool pixmap heq
      rw [heq] at hpresent
      cases hs
      exact hpresent.setOut (fun x _ => List.perm_middle.count_eq _)
        fun i hi => hpresent.outUsed i (List.perm_middle.mem_iff.mp hi)
    · rename_i pool heq
      rw [heq] at hpresent
      cases hs
      exact hpresent ▸ h
  | finish n =>
    simp only [step] at hs
    split at hs
    · rename_i i hi
      cases hs
      -- the server has done with the frame, and its answer is under way
      have hperm : (s.idles ++ [i] ++ s.held.eraseIdx n).Perm s.out := by
        rw [List.append_assoc]
        refine List.Perm.append_left _ ?_
        obtain ⟨hlt, rfl⟩ := List.getElem?_eq_some_iff.mp hi
        exact List.getElem_cons_eraseIdx_perm hlt
      exact h.setOut (fun x _ => hperm.count_eq _) fun j hj => h.outUsed j (hperm.mem_iff.mp hj)
    · cases hs
  | readIdle =>
    simp only [step] at hs
    split at hs
    · cases hs
    · rename_i i idles heq
      cases hs
      have hout : s.out = i :: (idles ++ s.held) := by rw [out, heq, List.cons_append]
      exact (hout ▸ h : s.pool.Accounted s.others (i :: (idles ++ s.held))).handleIdleNotify

/-- So they hold after every run. -/
theorem sound_of_reachable {s : PresentSession} (h : Run.Reachable step init s) : s.Sound := by
  obtain ⟨as, has⟩ := h
  exact Run.run_invariant (fun s a t hs ht => step_sound hs ht) sound_init has

/-- **No assertion fails** in any run: no lock is returned that is not there, no present comes back twice,
nothing that has been freed is used. -/
theorem never_aborts {s : PresentSession} (h : Run.Reachable step init s) : s.pool.aborted = false :=
  (sound_of_reachable h).sound

/-- **Nothing the server reads is drawn into.** What a swapchain gives out has no present in a window there
is that the server has not returned, and nobody else has a lock of it. -/
theorem acquired_not_read {s : PresentSession} (h : Run.Reachable step init s) {allocated : Bool}
    {pool : BufferPool} {b : Nat} (hacquire : s.pool.swapchainAcquire allocated = (pool, some b)) :
    s.others b = 0 ∧ ∀ x ∈ s.pool.x11, x.buffer = b → (x.win, x.pixmap) ∉ s.out := by
  have hsound := sound_of_reachable h
  have hfree := hsound.swapchainAcquire allocated
  rw [hacquire] at hfree
  obtain ⟨-, hothers, hbusy⟩ := hfree
  refine ⟨hothers, fun x hx hxb hout => ?_⟩
  have hzero := BufferPool.busy_eq_zero_iff.mp hbusy x hx hxb
  rw [hsound.counted x hx] at hzero
  exact List.count_eq_zero.mp hzero hout

/-- **Nothing leaks.** A dropped buffer that is still there is locked by somebody, or the server has it. -/
theorem dropped_freed {s : PresentSession} (h : Run.Reachable step init s) {b : Nat} {w : WlrBuffer}
    (hb : s.pool.table b = some w) (hdropped : w.dropped = true) :
    0 < s.others b ∨ ∃ x ∈ s.pool.x11, x.buffer = b ∧ (x.win, x.pixmap) ∈ s.out := by
  have hsound := sound_of_reachable h
  have hpos := hsound.kept b w hb hdropped
  have hlocks := hsound.locks b w hb
  by_contra hnone
  push Not at hnone
  obtain ⟨hothers, hx11⟩ := hnone
  have hbusy : s.pool.busy b = 0 := by
    refine BufferPool.busy_eq_zero_iff.mpr fun x hx hxb => ?_
    rw [hsound.counted x hx]
    exact List.count_eq_zero.mpr (hx11 x hx hxb)
  omega

/-- The frame of a popup: it is there for as long as the server reads it. -/
example :
    (Run.run step init [.createWindow, .create ⟨120, 80⟩, .present true 0 0, .drop 0]).map
      (fun s => (s.pool.table 0).isSome) = some true ∧
    (Run.run step init [.createWindow, .create ⟨120, 80⟩, .present true 0 0, .drop 0, .finish 0, .readIdle]).map
      (fun s => (s.pool.table 0).isSome) = some false := by
  decide

/-- A frame is on the screen, or about to be, and the next one is begun. -/
def busyFrames : List BufferAction :=
  [.createWindow, .replaceSwapchain ⟨640, 480⟩, .acquire true, .present true 0 0, .unlock 0]

def busySession : PresentSession := (Run.run step init busyFrames).getD init

/-- A session with a frame on the screen is reached, -/
theorem busySession_reachable : Run.Reachable step init busySession := ⟨busyFrames, rfl⟩

/-- no assertion has failed in it, -/
theorem busySession_sound : busySession.pool.aborted = false := never_aborts busySession_reachable

/-- and the buffer of the next frame is not with the server. -/
theorem busySession_acquires_other :
    busySession.others 1 = 0 ∧
      ∀ x ∈ busySession.pool.x11, x.buffer = 1 → (x.win, x.pixmap) ∉ busySession.out :=
  acquired_not_read busySession_reachable
    (show busySession.pool.swapchainAcquire true = (_, some 1) from rfl)

/-- The output is resized while the server has a frame of the old size. -/
def resizedSession : PresentSession :=
  (Run.run step init (busyFrames ++ [.replaceSwapchain ⟨800, 600⟩])).getD init

/-- A buffer of the old size is still there because it is in use. -/
theorem resizedSession_keeps_old :
    0 < resizedSession.others 0 ∨
      ∃ x ∈ resizedSession.pool.x11, x.buffer = 0 ∧ (x.win, x.pixmap) ∈ resizedSession.out :=
  dropped_freed ⟨busyFrames ++ [.replaceSwapchain ⟨800, 600⟩], rfl⟩ rfl rfl

end PresentSession

end Wlx
