import WlX11.Repaint

/-!
# WlX11 — what is painted, and what will be shown

What `Repaint` does keeps three things in step: the buffers and the presents of them, the damage ring and what
is in the buffers, the pending damage and what the window will show.

* **`BufferPool.Keeps`** — what no operation on buffers does to those that are in use.
* **`Backed`**, **`Ringed`**, **`Shown`** — the three; **`Painted`** is all of it.
* **`Built`**, **`Committed`**, **`Framed`** — a frame, step by step.
* **`step_painted`**, **`painted_init`** — it holds in every state; `RepaintRest` says what follows.
-/

namespace Wlx

namespace BufferPool

variable {p p' : BufferPool} {others : Nat → Nat} {out : List (Nat × Nat)} {b : Nat}

/-- In a slot of the swapchain. -/
def Swapped (p : BufferPool) (b : Nat) : Prop := ∃ s ∈ p.slots, s.buffer = some b

/-- A slot's buffer is one of before, or new. -/
structure KeepsSlots (p p' : BufferPool) : Prop where
  nextBuffer : p.nextBuffer ≤ p'.nextBuffer
  slots : ∀ b, p'.Swapped b → p.Swapped b ∨ p.nextBuffer ≤ b
  size : p'.swapchainSize = p.swapchainSize ∨ ∀ b, p'.Swapped b → p.nextBuffer ≤ b

/-- What an operation on buffers does not do: the X11 buffers that are busy stay. -/
structure Keeps (p p' : BufferPool) : Prop extends KeepsSlots p p' where
  windows : p'.windows = p.windows
  busy : ∀ x ∈ p.x11, 0 < x.nBusy →
    ∃ x' ∈ p'.x11, x'.win = x.win ∧ x'.pixmap = x.pixmap ∧ x'.buffer = x.buffer ∧ x.nBusy ≤ x'.nBusy

/-- Pixmaps may be added, and buffers made. -/
theorem Keeps.of_x11 (hwindows : p'.windows = p.windows) (hnext : p.nextBuffer ≤ p'.nextBuffer)
    (hslots : ∀ b, p'.Swapped b → p.Swapped b ∨ p.nextBuffer ≤ b)
    (hsize : p'.swapchainSize = p.swapchainSize) (hx11 : p.x11 ⊆ p'.x11) : p.Keeps p' where
  windows := hwindows
  nextBuffer := hnext
  slots := hslots
  size := .inl hsize
  busy x hx _ := ⟨x, hx11 hx, rfl, rfl, rfl, le_rfl⟩

/-- One buffer is replaced by another state of it. -/
theorem keeps_setBuffer (p : BufferPool) (b : Nat) (w : Option WlrBuffer) : p.Keeps (p.setBuffer b w) :=
  .of_x11 rfl le_rfl (fun _ => .inl) rfl (fun _ => id)

/-- An assertion that fails changes nothing else. -/
theorem keeps_abort (p : BufferPool) : p.Keeps p.abort :=
  .of_x11 rfl le_rfl (fun _ => .inl) rfl (fun _ => id)

/-- Which buffers a swapchain has does not depend on the rest of its slots. -/
theorem swapped_iff_of_buffers {slots slots' : List SwapchainSlot}
    (h : slots'.map (·.buffer) = slots.map (·.buffer)) :
    (∃ s ∈ slots', s.buffer = some b) ↔ ∃ s ∈ slots, s.buffer = some b := by
  rw [← List.mem_map, ← List.mem_map, h]

/-- A slot that is told of a release stays what it was. -/
theorem keeps_emitRelease (p : BufferPool) (b : Nat) : p.Keeps (p.emitRelease b) := by
  refine .of_x11 rfl le_rfl (fun c hc => .inl ((swapped_iff_of_buffers ?_).mp hc)) rfl (fun _ => id)
  show (p.slots.map _).map _ = _
  rw [List.map_map]
  refine List.map_congr_left fun s _ => ?_
  simp only [Function.comp]
  split_ifs <;> rfl

/-- A lock is counted. -/
theorem keeps_lock (p : BufferPool) (b : Nat) : p.Keeps (p.lock b) := by
  unfold lock
  split
  · exact keeps_abort p
  · exact keeps_setBuffer p b _

/-- What is destroyed without a failed assertion was not busy. -/
theorem keeps_considerDestroy (h : (p.considerDestroy b).aborted = false) :
    p.Keeps (p.considerDestroy b) := by
  unfold considerDestroy at h ⊢
  split
  · exact .of_x11 rfl le_rfl (fun _ => .inl) rfl (fun _ => id)
  · rename_i w hw
    rw [hw] at h
    dsimp only at h
    split_ifs at h ⊢
    · exact .of_x11 rfl le_rfl (fun _ => .inl) rfl (fun _ => id)
    -- a busy X11 buffer would have failed the assertion
    · have hidle : p.x11.any (fun x => x.buffer = b && 0 < x.nBusy) = false := by
        have habort : (p.aborted || p.x11.any (fun x => x.buffer = b && 0 < x.nBusy) || _) = false := h
        simp only [Bool.or_eq_false_iff] at habort
        exact habort.1.2
      refine ⟨⟨le_rfl, fun _ => .inl, .inl rfl⟩, rfl, fun x hx hbusy => ⟨x, ?_, rfl, rfl, rfl, le_rfl⟩⟩
      refine List.mem_filter.mpr ⟨hx, ?_⟩
      have hx' := List.any_eq_false.mp hidle x hx
      simp only [Bool.and_eq_true, decide_eq_true_eq, not_and] at hx'
      exact decide_eq_true fun hxb => hx' hxb hbusy

/-- One call after another. -/
theorem Keeps.trans {p'' : BufferPool} (h : p.Keeps p') (h' : p'.Keeps p'') : p.Keeps p'' where
  windows := h'.windows.trans h.windows
  nextBuffer := h.nextBuffer.trans h'.nextBuffer
  slots b hb := by
    rcases h'.slots b hb with hb | hb
    · exact h.slots b hb
    · exact .inr (h.nextBuffer.trans hb)
  -- either the size is the old one, or all buffers are new
  size := by
    rcases h'.size with hsize | hall
    · rcases h.size with hsize' | hall'
      · exact .inl (hsize.trans hsize')
      · refine .inr fun b hb => ?_
        rcases h'.slots b hb with hb | hb
        · exact hall' b hb
        · exact h.nextBuffer.trans hb
    · exact .inr fun b hb => h.nextBuffer.trans (hall b hb)
  busy x hx hpos := by
    obtain ⟨x', hx', hwin, hpixmap, hbuffer, hle⟩ := h.busy x hx hpos
    obtain ⟨x'', hx'', hwin', hpixmap', hbuffer', hle'⟩ := h'.busy x' hx' (hpos.trans_le hle)
    exact ⟨x'', hx'', hwin'.trans hwin, hpixmap'.trans hpixmap, hbuffer'.trans hbuffer, hle.trans hle'⟩

/-- The last unlock may free the buffer, and the pixmap with it. -/
theorem keeps_unlock (h : (p.unlock b).aborted = false) : p.Keeps (p.unlock b) := by
  unfold unlock at h ⊢
  split
  · exact keeps_abort p
  · rename_i w hw
    rw [hw] at h
    dsimp only at h ⊢
    split_ifs at h ⊢
    · exact keeps_abort p
    · have hset := keeps_setBuffer p b (some { w with nLocks := w.nLocks - 1 })
      exact (hset.trans (keeps_emitRelease _ b)).trans (keeps_considerDestroy h)
    · exact (keeps_setBuffer p b _).trans (keeps_considerDestroy h)

/-- A buffer that is dropped goes, unless it is locked. -/
theorem keeps_drop (h : (p.drop b).aborted = false) : p.Keeps (p.drop b) := by
  unfold drop at h ⊢
  split
  · exact keeps_abort p
  · rename_i w hw
    rw [hw] at h
    dsimp only at h ⊢
    split_ifs at h ⊢
    · exact keeps_abort p
    · exact (keeps_setBuffer p b _).trans (keeps_considerDestroy h)

/-- A new buffer has a name of its own. -/
theorem keeps_create (p : BufferPool) (size : Size) : p.Keeps (p.create size) :=
  .of_x11 rfl (Nat.le_succ _) (fun _ => .inl) rfl (fun _ => id)

/-- Another present of a pixmap. -/
theorem keeps_setBusy (p : BufferPool) {x : X11Buffer} (hx : x ∈ p.x11)
    (hnd : (p.x11.map (·.pixmap)).Nodup) : p.Keeps (p.setBusy x (x.nBusy + 1)) where
  windows := rfl
  nextBuffer := le_rfl
  slots _ := .inl
  size := .inl rfl
  busy y hy _ := by
    -- pixmaps tell the X11 buffers apart
    by_cases hkey : y.pixmap = x.pixmap
    · obtain rfl := List.inj_on_of_nodup_map hnd hy hx hkey
      exact ⟨_, (Tally.mem_replace_iff X11Buffer.pixmap hx).mpr (.inl rfl), rfl, rfl, rfl, Nat.le_succ _⟩
    · exact ⟨y, (Tally.mem_replace_iff X11Buffer.pixmap hx).mpr (.inr ⟨hy, hkey⟩), rfl, rfl, rfl, le_rfl⟩

/-- The X11 buffer that is presented is there afterwards. -/
theorem keeps_x11BufferGetOrCreate (h : p.Balanced others out) (importable : Bool) (win : Nat) :
    match p.x11BufferGetOrCreate importable win b with
    | (p', some pixmap) => p.Keeps p' ∧
        ∃ x ∈ p'.x11, x.win = win ∧ x.pixmap = pixmap ∧ x.buffer = b
    | (_, none) => True := by
  have hx11 : (p.lock b).x11 = p.x11 := by
    unfold lock
    split <;> rfl
  have hlock := keeps_lock p b
  unfold x11BufferGetOrCreate
  cases hfind : p.x11.find? fun x => x.win = win && x.buffer = b with
  -- "already imported": one more present of it
  | some x =>
    obtain ⟨hxwin, hxb⟩ : x.win = win ∧ x.buffer = b := by simpa using List.find?_some hfind
    have hx := List.mem_of_find?_eq_some hfind
    have hmem : x ∈ (p.lock b).x11 := hx11 ▸ hx
    refine ⟨hlock.trans (keeps_setBusy _ hmem ?_), { x with nBusy := x.nBusy + 1 },
      (Tally.mem_replace_iff X11Buffer.pixmap hmem).mpr (.inl rfl), hxwin, rfl, hxb⟩
    rw [hx11]
    exact h.pixmaps
  | none =>
    dsimp only
    split_ifs
    -- `create_x11_buffer` has succeeded
    · refine ⟨?_, _, List.mem_cons_self, rfl, rfl, rfl⟩
      exact .of_x11 hlock.windows hlock.nextBuffer hlock.slots
        (hlock.size.elim id fun hall => by unfold lock; split <;> rfl)
        fun x hx => List.mem_cons_of_mem _ hx
    · trivial

/-- What a swapchain gives out is in one of its slots. -/
theorem keeps_swapchainAcquire {allocated : Bool} (h : p.swapchainAcquire allocated = (p', some b)) :
    p.Keeps p' ∧ p'.Swapped b := by
  unfold swapchainAcquire at h
  cases hacquire : acquireSlot p.slots with
  | some r =>
    obtain ⟨c, slots⟩ := r
    obtain ⟨before, after, hbefore, rfl⟩ := acquireSlot_spec hacquire
    rw [hacquire] at h
    obtain ⟨rfl, hc⟩ := Prod.mk.inj h
    obtain rfl := Option.some.inj hc
    -- a slot that nobody has is taken again
    have hslots : p.Keeps { p with slots := before ++ ⟨some c, true⟩ :: after } := by
      refine .of_x11 rfl le_rfl (fun d hd => .inl ((swapped_iff_of_buffers ?_).mp hd)) rfl (fun _ => id)
      rw [hbefore, List.map_append, List.map_append, List.map_cons, List.map_cons]
    refine ⟨hslots.trans (keeps_lock _ c), ?_⟩
    unfold lock
    split
    all_goals exact ⟨_, List.mem_append_right _ List.mem_cons_self, rfl⟩
  | none =>
    rw [hacquire] at h
    dsimp only at h
    cases hfill : fillSlot p.nextBuffer p.slots with
    | none =>
      rw [hfill] at h
      cases h
    | some slots =>
      obtain ⟨before, after, hbefore, rfl⟩ := fillSlot_spec hfill
      rw [hfill] at h
      dsimp only at h
      split_ifs at h
      -- an empty slot gets a new buffer
      · obtain ⟨rfl, hc⟩ := Prod.mk.inj h
        obtain rfl := Option.some.inj hc
        have hslots : p.Keeps { p.create p.swapchainSize with
            slots := before ++ ⟨some p.nextBuffer, true⟩ :: after } := by
          refine .of_x11 rfl (Nat.le_succ _) (fun d hd => ?_) rfl (fun _ => id)
          obtain ⟨s, hs, hsd⟩ := hd
          rcases List.mem_append.mp hs with hs | hs
          · exact .inl ⟨s, hbefore ▸ List.mem_append_left _ hs, hsd⟩
          · rcases List.mem_cons.mp hs with rfl | hs
            · exact .inr (Option.some.inj hsd).le
            · exact .inl ⟨s, hbefore ▸ List.mem_append_right _ (List.mem_cons_of_mem _ hs), hsd⟩
        refine ⟨hslots.trans (keeps_lock _ _), ?_⟩
        unfold lock
        split
        all_goals exact ⟨_, List.mem_append_right _ List.mem_cons_self, rfl⟩
      · cases h

/-- To acquire a buffer makes no pixmap. -/
theorem swapchainAcquire_frame {allocated : Bool} (h : p.swapchainAcquire allocated = (p', some b)) :
    p'.swapchainSize = p.swapchainSize ∧ p'.x11 = p.x11 := by
  -- a lock is all there is to a buffer that is there
  have hlock : ∀ (q : BufferPool) c, (q.lock c).swapchainSize = q.swapchainSize ∧ (q.lock c).x11 = q.x11 := by
    intro q c
    unfold lock
    split
    all_goals exact ⟨rfl, rfl⟩
  unfold swapchainAcquire at h
  split at h
  · obtain ⟨rfl, -⟩ := Prod.mk.inj h
    exact hlock _ _
  · split at h
    · cases h
    · split_ifs at h
      · obtain ⟨rfl, -⟩ := Prod.mk.inj h
        exact hlock _ _
      · cases h

/-- An assertion that has failed before stays failed. -/
theorem aborted_of_drop (h : (p.drop b).aborted = false) : p.aborted = false := by
  unfold drop at h
  split at h
  · cases h
  · split_ifs at h
    · cases h
    · unfold considerDestroy at h
      split at h
      · exact h
      · split_ifs at h
        · exact h
        · have habort : (p.aborted || _ || _) = false := h
          simp only [Bool.or_eq_false_iff] at habort
          exact habort.1.1

/-- The old swapchain's buffers go, one by one. -/
theorem keeps_dropAll {bs : List Nat} (h : (bs.foldl drop p).aborted = false) :
    p.Keeps (bs.foldl drop p) := by
  have hsound : ∀ {cs : List Nat} {q : BufferPool}, (cs.foldl drop q).aborted = false →
      q.aborted = false := by
    intro cs
    induction cs with
    | nil => exact id
    | cons c cs ih => exact fun hq => aborted_of_drop (ih hq)
  induction bs generalizing p with
  | nil => exact .of_x11 rfl le_rfl (fun _ => .inl) rfl (fun _ => id)
  | cons b bs ih => exact (keeps_drop (hsound h)).trans (ih h)

/-- The slots of another swapchain have new buffers. -/
theorem keeps_swapchainReplace {size : Size} (h : (p.swapchainReplace size).aborted = false) :
    p.Keeps (p.swapchainReplace size) := by
  have hempty : p.Keeps { p with slots := [] } :=
    .of_x11 rfl le_rfl (fun b hb => absurd hb (by rintro ⟨s, hs, -⟩; exact List.not_mem_nil hs)) rfl
      (fun _ => id)
  have hold : p.Keeps p.swapchainDestroy := hempty.trans (keeps_dropAll h)
  have hnew : ∀ b, (p.swapchainReplace size).Swapped b → p.nextBuffer ≤ b := by
    rintro b ⟨s, hs, hsb⟩
    have hs' : s ∈ testedSlots p.swapchainDestroy.nextBuffer := hs
    simp only [testedSlots, List.mem_cons, List.not_mem_nil, or_false] at hs'
    -- the one buffer the new swapchain has is the one it was tested with
    rcases hs' with rfl | rfl | rfl | rfl
    · cases hsb
    · cases hsb
    · cases hsb
    · exact (Option.some.inj hsb) ▸ hold.nextBuffer
  exact ⟨⟨hold.nextBuffer.trans (Nat.le_succ _), fun b hb => .inr (hnew b hb), .inr hnew⟩, hold.windows,
    hold.busy⟩

/-- The X11 buffers that are still busy when one present is idle stay. -/
theorem keepsSlots_handleIdleNotify {i : Nat × Nat} (h : (p.handleIdleNotify i.1 i.2).aborted = false)
    (hnd : (p.x11.map (·.pixmap)).Nodup) :
    p.KeepsSlots (p.handleIdleNotify i.1 i.2) ∧
      (p.handleIdleNotify i.1 i.2).windows = p.windows ∧
      ∀ x ∈ p.x11, (if (x.win, x.pixmap) = i then 1 else 0) < x.nBusy →
        ∃ x' ∈ (p.handleIdleNotify i.1 i.2).x11,
          x'.win = x.win ∧ x'.pixmap = x.pixmap ∧ x'.buffer = x.buffer := by
  have hsame : p.KeepsSlots p ∧ p.windows = p.windows ∧
      ∀ x ∈ p.x11, (if (x.win, x.pixmap) = i then 1 else 0) < x.nBusy →
        ∃ x' ∈ p.x11, x'.win = x.win ∧ x'.pixmap = x.pixmap ∧ x'.buffer = x.buffer :=
    ⟨⟨le_rfl, fun _ => .inl, .inl rfl⟩, rfl, fun x hx _ => ⟨x, hx, rfl, rfl, rfl⟩⟩
  unfold handleIdleNotify at h ⊢
  split_ifs at h ⊢
  · split
    · exact hsame
    · rename_i x hfind
      rw [hfind] at h
      dsimp only at h
      obtain ⟨hxwin, hxpixmap⟩ : x.win = i.1 ∧ x.pixmap = i.2 := by simpa using List.find?_some hfind
      have hx := List.mem_of_find?_eq_some hfind
      split_ifs at h ⊢
      · cases h
      · have hunlock := keeps_unlock h
        refine ⟨⟨hunlock.nextBuffer, hunlock.slots, hunlock.size⟩, hunlock.windows, fun y hy hbusy => ?_⟩
        suffices hstays : ∃ x' ∈ (p.setBusy x (x.nBusy - 1)).x11,
            x'.win = y.win ∧ x'.pixmap = y.pixmap ∧ x'.buffer = y.buffer ∧ 0 < x'.nBusy by
          obtain ⟨x', hx', hwin, hpixmap, hbuffer, hpos⟩ := hstays
          obtain ⟨x'', hx'', hwin', hpixmap', hbuffer', -⟩ := hunlock.busy x' hx' hpos
          exact ⟨x'', hx'', hwin'.trans hwin, hpixmap'.trans hpixmap, hbuffer'.trans hbuffer⟩
        -- the pixmap of the event has another present out, or it is not this one
        by_cases hkey : y.pixmap = x.pixmap
        · obtain rfl := List.inj_on_of_nodup_map hnd hy hx hkey
          rw [if_pos (Prod.ext hxwin hxpixmap)] at hbusy
          exact ⟨_, (Tally.mem_replace_iff X11Buffer.pixmap hy).mpr (.inl rfl), rfl, rfl, rfl,
            Nat.sub_pos_of_lt hbusy⟩
        · exact ⟨y, (Tally.mem_replace_iff X11Buffer.pixmap hx).mpr (.inr ⟨hy, hkey⟩), rfl, rfl, rfl,
            (Nat.zero_le _).trans_lt hbusy⟩
  · exact hsame

end BufferPool

namespace PaintedOutput

open BufferPool (Swapped)

variable {Color : Type} {o o' : PaintedOutput Color} {nRects : Region → Nat} {b : Nat}

/-! ## What holds -/

/-- Every present in the queue is of a buffer the server has. -/
structure Backed (o : PaintedOutput Color) : Prop where
  accounts : o.buffers.Sound
  here : o.win ∈ o.buffers.pool.windows
  queued : ∀ q ∈ o.queue, ∃ x ∈ o.buffers.pool.x11,
    x.win = o.win ∧ x.pixmap = q.pixmap ∧ x.buffer = q.buffer
  queueHeld : ∀ i, (o.queue.map fun q => (o.win, q.pixmap)).count i ≤ o.buffers.held.count i

/-- The swapchain's buffers show the scene, but for what they owe. -/
structure Ringed (o : PaintedOutput Color) : Prop where
  owe : BuffersOwe o.size o.buffers.pool.Swapped o.scene o.content o.damageRing
  used : ∀ b ∈ o.damageRing.keys, b < o.buffers.pool.nextBuffer
  sized : o.buffers.pool.swapchainSize = o.size ∨
    ∀ b, o.buffers.pool.Swapped b → o.damageRing.owed b = none

/-- An `Expose` on its way tells of the pixel. -/
def Lost (o : PaintedOutput Color) (p : Pixel) : Prop := ∃ region, .expose region ∈ o.events ∧ p ∈ region

/-- What is not to be painted any more, and has not been presented unlike the scene, will be in the window. -/
def Shown (o : PaintedOutput Color) : Prop :=
  ∀ p ∈ o.size.rect, p ∉ o.pendingCommitDamage → p ∉ o.exposed → ¬ o.Lost p → p ∉ o.astray →
    o.finalWindow p = o.scene p

structure Painted (o : PaintedOutput Color) : Prop where
  backed : o.Backed
  ringed : o.Ringed
  shown : o.Shown

/-- Only the buffers, what is in them and the ring are others. -/
def OnlyBuffers (o o' : PaintedOutput Color) : Prop :=
  o' = { o with buffers := o'.buffers, damageRing := o'.damageRing, content := o'.content }

theorem OnlyBuffers.refl (o : PaintedOutput Color) : o.OnlyBuffers o := rfl

/-- The size is not a matter of buffers. -/
theorem OnlyBuffers.size_eq (h : o.OnlyBuffers o') : o'.size = o.size := by
  unfold OnlyBuffers at h
  rw [h]

/-- Nor is the size the program knows. -/
theorem OnlyBuffers.lastOutput_eq (h : o.OnlyBuffers o') : o'.lastOutput = o.lastOutput := by
  unfold OnlyBuffers at h
  rw [h]

/-- Nor is what has been shown. -/
theorem OnlyBuffers.astray_eq (h : o.OnlyBuffers o') : o'.astray = o.astray := by
  unfold OnlyBuffers at h
  rw [h]

/-- One handler after another. -/
theorem OnlyBuffers.trans {o'' : PaintedOutput Color} (h : o.OnlyBuffers o') (h' : o'.OnlyBuffers o'') :
    o.OnlyBuffers o'' := by
  unfold OnlyBuffers at *
  rw [h', h]

/-- The flags, the callbacks, and the size the program knows, are nothing to it. -/
theorem Painted.flags (h : o.Painted) (needsFrame framePending idleFrame stalled : Bool)
    (callbacks : List Nat) (surfaces : Nat → SurfacePacing) (lastOutput : Size) :
    { o with
      needsFrame := needsFrame, framePending := framePending, idleFrame := idleFrame, stalled := stalled,
      callbacks := callbacks, surfaces := surfaces, lastOutput := lastOutput }.Painted :=
  ⟨⟨h.backed.accounts, h.backed.here, h.backed.queued, h.backed.queueHeld⟩,
    ⟨h.ringed.owe, h.ringed.used, h.ringed.sized⟩, h.shown⟩

/-- The server has what is queued. -/
theorem Backed.busy (h : o.Backed) {q : QueuedPresent} (hq : q ∈ o.queue) :
    ∃ x ∈ o.buffers.pool.x11, x.win = o.win ∧ x.pixmap = q.pixmap ∧ x.buffer = q.buffer ∧ 0 < x.nBusy := by
  obtain ⟨x, hx, hwin, hpixmap, hbuffer⟩ := h.queued q hq
  refine ⟨x, hx, hwin, hpixmap, hbuffer, ?_⟩
  have hmem : (x.win, x.pixmap) ∈ o.queue.map fun q => (o.win, q.pixmap) :=
    List.mem_map.mpr ⟨q, hq, by rw [hwin, hpixmap]⟩
  have hcount := h.queueHeld (x.win, x.pixmap)
  have hpos := List.count_pos_iff.mpr hmem
  rw [h.accounts.counted x hx, PresentSession.out, List.count_append]
  omega

/-- Nobody draws into what is queued. -/
theorem Backed.ne_of_idle (h : o.Backed) (hidle : o.buffers.pool.busy b = 0) {q : QueuedPresent}
    (hq : q ∈ o.queue) : q.buffer ≠ b := by
  rintro rfl
  obtain ⟨x, hx, -, -, hbuffer, hpos⟩ := h.busy hq
  have hzero := BufferPool.busy_eq_zero_iff.mp hidle x hx hbuffer
  omega

/-- The accounts of the buffers are kept by what keeps their pixmaps. -/
theorem Backed.setBuffers (h : o.Backed) {buffers : PresentSession} (hsound : buffers.Sound)
    (hkeeps : o.buffers.pool.Keeps buffers.pool) (hheld : buffers.held = o.buffers.held) :
    { o with buffers := buffers }.Backed where
  accounts := hsound
  here := hkeeps.windows ▸ h.here
  queued q hq := by
    obtain ⟨x, hx, hwin, hpixmap, hbuffer, hpos⟩ := h.busy hq
    obtain ⟨x', hx', hwin', hpixmap', hbuffer', -⟩ := hkeeps.busy x hx hpos
    exact ⟨x', hx', hwin'.trans hwin, hpixmap'.trans hpixmap, hbuffer'.trans hbuffer⟩
  queueHeld i := hheld ▸ h.queueHeld i

/-- The ring knows nothing of a buffer that is still to be made. -/
theorem Ringed.owed_eq_none (h : o.Ringed) (hb : o.buffers.pool.nextBuffer ≤ b) :
    o.damageRing.owed b = none := by
  rw [Debt.Ledger.owed_eq_none_iff]
  intro hmem
  exact absurd (h.used b hmem) (not_lt.mpr hb)

/-- The ring owes what it did, as long as the swapchain has no buffer it did not have or could not know. -/
theorem Ringed.setBuffers (h : o.Ringed) {buffers : PresentSession}
    (hkeeps : o.buffers.pool.KeepsSlots buffers.pool) : { o with buffers := buffers }.Ringed where
  owe := h.owe.congr (fun _ _ => rfl) (fun b hb => (hkeeps.slots b hb).imp_right h.owed_eq_none)
    fun _ _ => rfl
  used b hb := (h.used b hb).trans_le hkeeps.nextBuffer
  sized := by
    rcases hkeeps.size with hsize | hnew
    · rcases h.sized with hsized | hnone
      · exact .inl (hsize.trans hsized)
      · exact .inr fun b hb => (hkeeps.slots b hb).elim (hnone b) h.owed_eq_none
    · exact .inr fun b hb => h.owed_eq_none (hnew b hb)

/-- So everything is kept that does not concern the buffers. -/
theorem Painted.setBuffers (h : o.Painted) {buffers : PresentSession} (hsound : buffers.Sound)
    (hkeeps : o.buffers.pool.Keeps buffers.pool) (hheld : buffers.held = o.buffers.held) :
    { o with buffers := buffers }.Painted :=
  ⟨h.backed.setBuffers hsound hkeeps hheld, h.ringed.setBuffers hkeeps.toKeepsSlots, h.shown⟩

/-- What is in a slot is there. -/
theorem Backed.alive (h : o.Backed) (hb : o.buffers.pool.Swapped b) :
    ∃ w, o.buffers.pool.table b = some w ∧ w.size = o.buffers.pool.swapchainSize := by
  obtain ⟨s, hs, hsb⟩ := hb
  obtain ⟨w, hw, hsize, -⟩ := h.accounts.slots s hs b hsb
  exact ⟨w, hw, hsize⟩

/-- Buffers that have been freed leave the ring. -/
theorem Painted.reap (h : o.Painted) : o.reap.Painted := by
  suffices hring : ∀ (bs : List Nat) (ring : DamageRing), { o with damageRing := ring }.Ringed →
      { o with damageRing := bs.foldl (fun ring b =>
        if (o.buffers.pool.table b).isNone then ring.bufferHandleDestroy b else ring) ring }.Ringed from
    ⟨⟨h.backed.accounts, h.backed.here, h.backed.queued, h.backed.queueHeld⟩, hring _ _ h.ringed, h.shown⟩
  intro bs
  -- one buffer at a time
  induction bs with
  | nil => exact fun _ => id
  | cons b bs ih =>
    intro ring hringed
    refine ih _ ?_
    dsimp only
    split_ifs with hgone
    -- a buffer of the swapchain is not freed
    · have hb : ¬ o.buffers.pool.Swapped b := by
        intro hb
        obtain ⟨w, hw, -⟩ := h.backed.alive hb
        rw [hw] at hgone
        cases hgone
      refine ⟨hringed.owe.remove hb, fun c hc => hringed.used c (Debt.Ledger.keys_forget hc), ?_⟩
      refine hringed.sized.imp_right fun hnone c hc => ?_
      have hne : c ≠ b := by
        rintro rfl
        exact hb hc
      exact (Debt.Ledger.owed_forget hne).trans (hnone c hc)
    · exact hringed

/-! ## Buffers -/

/-- The compositor locks a buffer it has locked already. -/
theorem Painted.lockBuffer (h : o.Painted) (hpos : 0 < o.buffers.others b) :
    (o.lockBuffer b).Painted := by
  have hacc := h.backed.accounts
  refine h.setBuffers (?_ : BufferPool.Accounted _ _ _) (BufferPool.keeps_lock _ b) rfl
  obtain ⟨w, hw, hlocks⟩ := hacc.alive hpos
  exact hacc.lock hw (.inl hlocks)

/-- The compositor gives up a lock it has. -/
theorem Painted.unlockBuffer (h : o.Painted) (hpos : 0 < o.buffers.others b) :
    (o.unlockBuffer b).Painted := by
  have hunlock := h.backed.accounts.unlock hpos
  have hsound : PresentSession.Sound { o.buffers with
      pool := o.buffers.pool.unlock b
      others := Function.update o.buffers.others b (o.buffers.others b - 1) } := hunlock
  exact (h.setBuffers hsound (BufferPool.keeps_unlock hunlock.sound) rfl).reap

/-- The swapchain of this size is kept or made; nothing is drawn. -/
theorem Painted.configurePrimarySwapchain (h : o.Painted) {size : Size} {configured : Bool}
    (ho' : o.configurePrimarySwapchain size configured = some o') :
    o'.Painted ∧ o.OnlyBuffers o' ∧ o'.buffers.others = o.buffers.others ∧
      o'.buffers.pool.swapchainSize = size := by
  unfold PaintedOutput.configurePrimarySwapchain at ho'
  split_ifs at ho' with hsame hok
  · cases ho'
    exact ⟨h, .refl o, rfl, hsame.2⟩
  · cases ho'
    have hreplace := h.backed.accounts.swapchainReplace size
    have hsound : PresentSession.Sound { o.buffers with pool := o.buffers.pool.swapchainReplace size } :=
      hreplace
    exact ⟨(h.setBuffers hsound (BufferPool.keeps_swapchainReplace hreplace.sound) rfl).reap, rfl, rfl, rfl⟩

/-- Nobody has the buffer a frame is drawn into. -/
theorem Painted.acquireBuffer (h : o.Painted) {allocated : Bool}
    (ho' : o.acquireBuffer allocated = some (o', b)) :
    o'.Painted ∧ o.OnlyBuffers o' ∧
      o'.buffers.others = Function.update o.buffers.others b (o.buffers.others b + 1) ∧
      o'.buffers.pool.swapchainSize = o.buffers.pool.swapchainSize ∧ o'.buffers.pool.Swapped b ∧
      o'.buffers.pool.busy b = 0 := by
  unfold PaintedOutput.acquireBuffer at ho'
  have hacquire := h.backed.accounts.swapchainAcquire allocated
  split at ho'
  · cases ho'
  · rename_i pool c heq
    cases ho'
    rw [heq] at hacquire
    obtain ⟨hacc, -, hidle⟩ := hacquire
    obtain ⟨hkeeps, hswapped⟩ := BufferPool.keeps_swapchainAcquire heq
    have hsound : PresentSession.Sound { o.buffers with
        pool := pool
        others := Function.update o.buffers.others b (o.buffers.others b + 1) } := hacc
    obtain ⟨hsize, hx11⟩ := BufferPool.swapchainAcquire_frame heq
    -- the pool has given it away as idle
    refine ⟨h.setBuffers hsound hkeeps rfl, rfl, rfl, hsize, hswapped, ?_⟩
    unfold BufferPool.busy at hidle ⊢
    rw [hx11]
    exact hidle

/-! ## Drawing -/

/-- The server shows the same as long as nobody draws into what it has been given. -/
theorem foldl_execute_congr {content content' : Nat → Pixel → Color} {queue : List QueuedPresent}
    (h : ∀ q ∈ queue, content' q.buffer = content q.buffer) (window : Pixel → Color) :
    queue.foldl (execute content') window = queue.foldl (execute content) window := by
  induction queue generalizing window with
  | nil => rfl
  | cons q queue ih =>
    have hq : execute content' window q = execute content window q := by
      unfold execute
      rw [h q List.mem_cons_self]
    rw [List.foldl_cons, List.foldl_cons, hq]
    exact ih (fun q hq => h q (List.mem_cons_of_mem _ hq)) _

/-- **Drawing.** What is queued is not drawn into; the ring has to know of the rest. -/
theorem Painted.draw (h : o.Painted) (hidle : o.buffers.pool.busy b = 0) {image : Pixel → Color}
    {ring : DamageRing}
    (howe : BuffersOwe o.size o.buffers.pool.Swapped o.scene (Function.update o.content b image) ring)
    (hused : ∀ c ∈ ring.keys, c < o.buffers.pool.nextBuffer)
    (hsized : o.buffers.pool.swapchainSize = o.size ∨
      ∀ c, o.buffers.pool.Swapped c → ring.owed c = none) :
    { o with damageRing := ring, content := Function.update o.content b image }.Painted where
  backed := ⟨h.backed.accounts, h.backed.here, h.backed.queued, h.backed.queueHeld⟩
  ringed := ⟨howe, hused, hsized⟩
  shown := by
    intro p hp hpending hexposed hlost hastray
    rw [← h.shown p hp hpending hexposed hlost hastray]
    refine congrFun (foldl_execute_congr (fun q hq => ?_) o.window) p
    exact Function.update_of_ne (h.backed.ne_of_idle hidle hq) _ _

/-- A buffer of the swapchain has been made. -/
theorem Backed.swapped_lt (h : o.Backed) (hb : o.buffers.pool.Swapped b) :
    b < o.buffers.pool.nextBuffer := by
  obtain ⟨w, hw, -⟩ := h.alive hb
  exact h.accounts.buffersUsed b w hw

/-- The ring knows of buffers that have been made, and only of these. -/
theorem Painted.keys_rotate (h : o.Painted) (hb : o.buffers.pool.Swapped b) {c : Nat}
    (hc : c ∈ (o.damageRing.settle b).keys) : c < o.buffers.pool.nextBuffer := by
  rcases List.mem_cons.mp (Debt.Ledger.keys_settle hc) with rfl | hc
  · exact h.backed.swapped_lt hb
  · exact h.ringed.used c hc

/-- What is in the buffer is the scene, wherever the output is. -/
def ShowsScene (o : PaintedOutput Color) (b : Nat) : Prop := ∀ p ∈ o.size.rect, o.content b p = o.scene p

variable (nRects) in
/-- **A drawn buffer shows the scene**, whether all of it has been drawn or only what the ring says. -/
theorem Painted.drawScene (h : o.Painted) (hb : o.buffers.pool.Swapped b)
    (hidle : o.buffers.pool.busy b = 0) (hsize : o.buffers.pool.swapchainSize = o.size) :
    (o.drawScene nRects b).Painted ∧ (o.drawScene nRects b).ShowsScene b := by
  obtain ⟨drawn, hcode, hseen, hwhole⟩ : ∃ drawn : Region,
      o.drawScene nRects b = { o with
        damageRing := (o.damageRing.rotateBuffer nRects b o.size).2
        content := Function.update o.content b fun p =>
          if p ∈ drawn then o.scene p else o.content b p } ∧
      (o.isOpaque = true → drawn = (o.damageRing.rotateBuffer nRects b o.size).1) ∧
      (o.isOpaque = false → drawn = o.size.rect) :=
    ⟨_, rfl, fun hyes => if_pos hyes, fun hno => if_neg (by rw [hno]; exact Bool.false_ne_true)⟩
  have hdrawn : ∀ p ∈ o.size.rect, (if p ∈ drawn then o.scene p else o.content b p) = o.scene p := by
    -- what the ring does not say is in the buffer already
    cases hformat : o.isOpaque with
    | true => exact h.ringed.owe.redrawn hb fun p => by rw [hseen hformat]
    | false => exact fun p hp => if_pos (hwhole hformat ▸ hp)
  have hself : ∀ p ∈ o.size.rect, (o.drawScene nRects b).content b p = o.scene p := by
    intro p hp
    rw [hcode]
    dsimp only
    rw [Function.update_self]
    exact hdrawn p hp
  refine ⟨?_, fun p hp => (hself p hp).trans (by rw [hcode])⟩
  rw [hcode]
  refine h.draw hidle (h.ringed.owe.rotate (fun p hp => ?_) fun c _ hne => Function.update_of_ne hne _ _)
    (fun c hc => ?_) (.inl hsize)
  · rw [Function.update_self]
    exact hdrawn p hp
  · rw [DamageRing.rotateBuffer_ring] at hc
    exact h.keys_rotate hb hc

/-- A buffer that is undefined is owed everything, and so is every other one. -/
theorem Painted.trashBuffer (h : o.Painted) (hb : o.buffers.pool.Swapped b)
    (hidle : o.buffers.pool.busy b = 0) (hsize : o.buffers.pool.swapchainSize = o.size)
    (hpos : 0 < o.buffers.others b) (garbage : Pixel → Color) :
    (o.trashBuffer nRects b garbage).Painted := by
  obtain ⟨w, hw, hwsize⟩ := h.backed.alive hb
  have hbsize : ((o.buffers.pool.table b).map (·.size)).getD ⟨0, 0⟩ = o.size := by
    rw [hw]
    exact hwsize.trans hsize
  -- all is owed to all of them, so nothing depends on the garbage
  have howe : BuffersOwe o.size o.buffers.pool.Swapped o.scene (Function.update o.content b garbage)
      ((o.damageRing.rotateBuffer nRects b o.size).2.addWhole
        fun b => ((o.buffers.pool.table b).map (·.size)).getD ⟨0, 0⟩) :=
    h.ringed.owe.trash hbsize fun c _ hne => Function.update_of_ne hne _ _
  refine (h.draw hidle howe (fun c hc => ?_) (.inl hsize)).unlockBuffer hpos
  change c ∈ (DamageRing.rotateBuffer nRects o.damageRing b o.size).2.keys at hc
  rw [DamageRing.rotateBuffer_ring] at hc
  exact h.keys_rotate hb hc

/-- What comes of building a frame: nothing, or a buffer, locked once more. -/
structure Built (o o' : PaintedOutput Color) (buffer : Option Nat) : Prop where
  painted : o'.Painted
  only : o.OnlyBuffers o'
  others : o'.buffers.others = match buffer with
    | none => o.buffers.others
    | some b => Function.update o.buffers.others b (o.buffers.others b + 1)

/-- A buffer that has been composed shows the scene. -/
structure Composed (o o' : PaintedOutput Color) (buffer : Option Nat) : Prop extends Built o o' buffer where
  shows : ∀ b ∈ buffer, o'.ShowsScene b

/-- There is no frame. -/
theorem Built.composed (h : o.Built o' none) : o.Composed o' none := ⟨h, nofun⟩

/-- A lock that is given up again. -/
theorem update_sub_add (others : Nat → Nat) (b : Nat) :
    Function.update (Function.update others b (others b + 1)) b
      (Function.update others b (others b + 1) b - 1) = others := by
  rw [Function.update_idem, Function.update_self, Nat.add_sub_cancel, Function.update_eq_self]

variable (nRects) in
/-- What is composed shows the scene; what is not leaves the output as it was. -/
theorem compose_built (h : o.Painted) (out : FrameOutcome Color) :
    o.Composed (o.compose nRects out).1 (o.compose nRects out).2 := by
  unfold compose
  split
  · exact Built.composed ⟨h, .refl o, rfl⟩
  · rename_i o₁ hconfigure
    obtain ⟨h₁, honly₁, hothers₁, hsize₁⟩ := h.configurePrimarySwapchain hconfigure
    split
    · exact Built.composed ⟨h₁, honly₁, hothers₁⟩
    · rename_i o₂ b hacquire
      obtain ⟨h₂, honly₂, hothers₂, hsize₂, hswapped, hidle⟩ := h₁.acquireBuffer hacquire
      have honly := honly₁.trans honly₂
      have hsize : o₂.buffers.pool.swapchainSize = o₂.size := by
        rw [hsize₂, hsize₁]
        exact honly.size_eq.symm
      have hpos : 0 < o₂.buffers.others b := by
        rw [hothers₂, Function.update_self]
        exact Nat.succ_pos _
      have hback : Function.update o₂.buffers.others b (o₂.buffers.others b - 1) = o.buffers.others := by
        rw [hothers₂, hothers₁]
        exact update_sub_add _ _
      -- the pass cannot begin, or is not submitted; only then is there a frame
      split_ifs
      · exact Built.composed ⟨h₂.unlockBuffer hpos, honly.trans rfl, hback⟩
      · exact Built.composed ⟨h₂.trashBuffer hswapped hidle hsize hpos _, honly.trans rfl, hback⟩
      · obtain ⟨hdrawn, hshows⟩ := h₂.drawScene nRects hswapped hidle hsize
        refine ⟨⟨hdrawn, honly.trans rfl, ?_⟩, ?_⟩
        · show o₂.buffers.others = _
          rw [hothers₂, hothers₁]
        · rintro c hc
          cases hc
          exact hshows

variable (nRects) in
/-- The same of a frame that may be scanned out, but for what it shows. -/
theorem buildState_built (h : o.Painted) (out : FrameOutcome Color) :
    o.Built (o.buildState nRects out).1 (o.buildState nRects out).2 := by
  unfold buildState
  split
  · split_ifs with hscan
    -- a client's buffer is only locked; nothing is known of what it shows
    · exact ⟨h.lockBuffer hscan.1, rfl, rfl⟩
    · exact (compose_built nRects h out).toBuilt
  · exact (compose_built nRects h out).toBuilt

/-! ## Committing -/

/-- The last present is executed last. -/
theorem finalWindow_append (o : PaintedOutput Color) (q : QueuedPresent) :
    (o.queue ++ [q]).foldl (execute o.content) o.window = execute o.content o.finalWindow q := by
  rw [List.foldl_append]
  rfl

/-- A buffer has been given to the server, which will show it where the present says. -/
structure Committed (o o' : PaintedOutput Color) (q : QueuedPresent) : Prop where
  only : o' = { o with
    buffers := o'.buffers, queue := o.queue ++ [q], exposed := ∅ }
  backed : o'.Backed
  ringed : o'.Ringed
  keeps : o.buffers.pool.KeepsSlots o'.buffers.pool
  others : o'.buffers.others = o.buffers.others

/-- The buffer is in the server's queue, with the damage and what has been exposed. -/
theorem Painted.outputCommitBuffer (h : o.Painted) {size : Size} {damage : Option Region}
    {importable : Bool} (hpos : 0 < o.buffers.others b)
    (ho' : o.outputCommitBuffer b size damage importable = some o') :
    ∃ q : QueuedPresent, q.buffer = b ∧ q.size = size ∧
      q.region = (if o.isOpaque then damage.map (o.exposed ∪ ·) else none) ∧ o.Committed o' q := by
  unfold PaintedOutput.outputCommitBuffer at ho'
  obtain ⟨w, hw, hlocks⟩ := h.backed.accounts.alive hpos
  have hacc := h.backed.accounts.x11BufferGetOrCreate importable hw (.inl hlocks) h.backed.here
  have hkept := BufferPool.keeps_x11BufferGetOrCreate (b := b) h.backed.accounts.toBalanced importable o.win
  split at ho'
  · cases ho'
  · rename_i pool pixmap heq
    cases ho'
    rw [heq] at hacc hkept
    obtain ⟨hkeeps, x, hx, hxwin, hxpixmap, hxb⟩ := hkept
    have hperm : (o.buffers.idles ++ (o.win, pixmap) :: o.buffers.held).Perm
        ((o.win, pixmap) :: o.buffers.out) := List.perm_middle
    have hsound : PresentSession.Sound { o.buffers with
        pool := pool, held := (o.win, pixmap) :: o.buffers.held } :=
      hacc.setOut (fun x _ => hperm.count_eq _) fun i hi => hacc.outUsed i (hperm.mem_iff.mp hi)
    have hringed : Ringed { o with buffers := { o.buffers with
        pool := pool, held := (o.win, pixmap) :: o.buffers.held } } :=
      h.ringed.setBuffers hkeeps.toKeepsSlots
    refine ⟨_, rfl, rfl, rfl, rfl, ⟨hsound, ?_, ?_, ?_⟩, ⟨hringed.owe, hringed.used, hringed.sized⟩,
      hkeeps.toKeepsSlots, rfl⟩
    · exact hkeeps.windows ▸ h.backed.here
    -- the pixmaps of all that is queued are there
    · intro q hq
      rcases List.mem_append.mp hq with hq | hq
      · obtain ⟨y, hy, hwin, hpixmap, hbuffer, hbusy⟩ := h.backed.busy hq
        obtain ⟨y', hy', hwin', hpixmap', hbuffer', -⟩ := hkeeps.busy y hy hbusy
        exact ⟨y', hy', hwin'.trans hwin, hpixmap'.trans hpixmap, hbuffer'.trans hbuffer⟩
      · rw [List.mem_singleton.mp hq]
        exact ⟨x, hx, hxwin, hxpixmap, hxb⟩
    -- there is one more present that the server has not returned
    · intro i
      have hcount := h.backed.queueHeld i
      show (List.map (fun q : QueuedPresent => (o.win, q.pixmap)) (o.queue ++ [_])).count i ≤
        ((o.win, pixmap) :: o.buffers.held).count i
      rw [List.map_append, List.count_append, List.map_singleton, List.count_singleton, List.count_cons]
      exact Nat.add_le_add_right hcount _

/-- On an output without an alpha channel the damage is copied, on others everything. -/
theorem mem_presented {damage : Region} {p : Pixel} :
    p ∈ o.presented damage ↔ (o.isOpaque = true → p ∈ o.exposed ∪ damage) ∧ p ∈ o.size.rect := by
  rw [presented, Finset.mem_inter]
  refine and_congr_left fun hp => ?_
  cases o.isOpaque with
  | true => simp
  | false => simpa using hp

/-- The server copies what is presented. -/
theorem copied_eq_presented {q : QueuedPresent} {damage : Region} (hsize : q.size = o.size)
    (hregion : q.region = if o.isOpaque then some (o.exposed ∪ damage) else none) :
    copied q = o.presented damage := by
  unfold copied presented
  rw [hregion, hsize]
  cases o.isOpaque <;> rfl

/-- Astray is where the buffer is unlike the scene; elsewhere what was. -/
theorem mem_astrayAfter [DecidableEq Color] {damage : Region} {p : Pixel} :
    p ∈ o.astrayAfter b damage ↔
      if p ∈ o.presented damage then o.content b p ≠ o.scene p else p ∈ o.astray := by
  rw [astrayAfter, Finset.mem_union, Finset.mem_sdiff, Finset.mem_filter]
  split_ifs with hp
  · simp [hp]
  · simp [hp]

/-- After a frame's commit the window will show the scene, but for what has been lost and not told yet, and where
the buffer is not like it. -/
theorem Painted.committed_shown [DecidableEq Color] (h : o.Painted) {q : QueuedPresent}
    (hq : o.Committed o' q) (hsize : q.size = o.size)
    (hregion : q.region = if o.isOpaque then some (o.exposed ∪ o.pendingCommitDamage) else none) :
    ∀ p ∈ o'.size.rect, ¬ o'.Lost p → p ∉ o.astrayAfter q.buffer o.pendingCommitDamage →
      o'.finalWindow p = o'.scene p := by
  obtain ⟨buffers, rfl⟩ : ∃ buffers, o' = { o with
      buffers := buffers, queue := o.queue ++ [q], exposed := ∅ } := ⟨_, hq.only⟩
  intro p hp hlost hastray
  show (o.queue ++ [q]).foldl (execute o.content) o.window p = o.scene p
  rw [finalWindow_append]
  unfold execute
  rw [copied_eq_presented hsize hregion]
  rw [mem_astrayAfter] at hastray
  split_ifs at hastray ⊢ with hpresented
  -- copied: it is the buffer's pixel, and no other one than the scene's
  · exact not_not.mp hastray
  · -- not copied: it was shown before
    have hnot : p ∉ o.exposed ∪ o.pendingCommitDamage := fun hin =>
      hpresented (mem_presented.mpr ⟨fun _ => hin, hp⟩)
    rw [Finset.mem_union, not_or] at hnot
    exact h.shown p hp hnot.2 hnot.1 hlost hastray

/-- The result of a frame keeps what holds, and the locks. -/
structure Framed (o o' : PaintedOutput Color) : Prop where
  painted : o'.Painted
  others : o'.buffers.others = o.buffers.others
  size : o'.size = o.size

/-- A commit that succeeds takes off the damage that it shows, and no other. -/
theorem Painted.commitFrame [DecidableEq Color] (h : o.Painted) (out : FrameOutcome Color)
    (hpos : 0 < o.buffers.others b) : o.Framed (o.commitFrame b out) := by
  unfold PaintedOutput.commitFrame
  -- the state is refused by the tests of the output, or of the backend
  split_ifs
  · exact ⟨h.flags _ _ _ _ _ _ _, rfl, rfl⟩
  · exact ⟨h.flags _ _ _ _ _ _ _, rfl, rfl⟩
  · have hidle : { o with idleFrame := false }.Painted := h.flags _ _ _ _ _ _ _
    dsimp only
    split
    · exact ⟨h.flags _ _ _ _ _ _ _, rfl, rfl⟩
    · rename_i o' ho'
      obtain ⟨q, rfl, hqsize, hqregion, hq⟩ := hidle.outputCommitBuffer hpos ho'
      have hfinal := hidle.committed_shown hq hqsize hqregion
      have hothers := hq.others
      have hsize : o'.size = o.size := by rw [hq.only]
      refine ⟨⟨⟨hq.backed.accounts, hq.backed.here, hq.backed.queued, hq.backed.queueHeld⟩,
        ⟨hq.ringed.owe, hq.ringed.used, hq.ringed.sized⟩, fun p hp _ _ hlost hastray => ?_⟩,
        hothers, hsize⟩
      exact hfinal p hp hlost hastray

variable (nRects) in
/-- The lock of the frame is given up in the end. -/
theorem Painted.sceneOutputCommit [DecidableEq Color] (h : o.Painted) (out : FrameOutcome Color) :
    o.Framed (o.sceneOutputCommit nRects out) := by
  unfold PaintedOutput.sceneOutputCommit
  split_ifs
  · exact ⟨h, rfl, rfl⟩
  · have hbuilt := buildState_built nRects h out
    split
    · rename_i o₁ heq
      rw [heq] at hbuilt
      exact ⟨hbuilt.painted.flags _ _ _ _ _ _ _, hbuilt.others, hbuilt.only.size_eq⟩
    · rename_i o₁ b heq
      rw [heq] at hbuilt
      have hothers : o₁.buffers.others = Function.update o.buffers.others b (o.buffers.others b + 1) :=
        hbuilt.others
      -- the frame has its own lock until it is committed
      have hpos : 0 < o₁.buffers.others b := by
        rw [hothers, Function.update_self]
        exact Nat.succ_pos _
      obtain ⟨hpainted, hcommit, hsize⟩ :=
        hbuilt.painted.commitFrame out hpos
      refine ⟨hpainted.unlockBuffer (hcommit ▸ hpos), ?_, ?_⟩
      · show Function.update (o₁.commitFrame b out).buffers.others b _ = _
        rw [hcommit, hothers]
        exact update_sub_add _ _
      · exact hsize.trans hbuilt.only.size_eq

/-! ## Damage -/

/-- A frame is needed; and it is scheduled unless one is pending. -/
theorem scheduleFrame_eq (o : PaintedOutput Color) :
    o.scheduleFrame = { o with
      needsFrame := true, idleFrame := o.idleFrame || !o.framePending, stalled := false } := by
  unfold scheduleFrame updateNeedsFrame
  split_ifs with hneeds
  · rw [show o = { o with needsFrame := true } by rw [← hneeds]]
    rfl
  · unfold addIdleFrame
    simp only [Bool.or_assoc, Bool.or_self]

/-- What is painted does not depend on what is scheduled. -/
theorem Painted.scheduleFrame (h : o.Painted) : o.scheduleFrame.Painted := by
  rw [scheduleFrame_eq]
  exact h.flags _ _ _ _ _ _ _

/-- Damage, and a scene that has changed there. -/
theorem Painted.damage (h : o.Painted) {scene : Pixel → Color} {damage : Region}
    (hscene : ∀ p, p ∉ damage → scene p = o.scene p) :
    ({ o with scene := scene }.sceneOutputDamage damage).Painted := by
  unfold sceneOutputDamage
  dsimp only
  split_ifs with hempty
  · -- nothing of it is in the output
    have hsame : ∀ p ∈ o.size.rect, scene p = o.scene p := by
      intro p hp
      refine hscene p fun hin => ?_
      exact absurd (Finset.mem_inter.mpr ⟨hin, hp⟩) (hempty ▸ Finset.notMem_empty p)
    refine ⟨⟨h.backed.accounts, h.backed.here, h.backed.queued, h.backed.queueHeld⟩,
      ⟨h.ringed.owe.congr hsame (fun _ => .inl) fun _ _ => rfl, h.ringed.used, h.ringed.sized⟩,
      fun p hp hpending hexposed hlost hastray => ?_⟩
    exact (h.shown p hp hpending hexposed hlost hastray).trans (hsame p hp).symm
  -- what is damaged is pending, and owed to every buffer
  · have hsame : ∀ p ∈ o.size.rect, p ∉ damage ∩ o.size.rect → scene p = o.scene p :=
      fun p hp hnot => hscene p fun hin => hnot (Finset.mem_inter.mpr ⟨hin, hp⟩)
    rw [scheduleFrame_eq]
    refine ⟨⟨h.backed.accounts, h.backed.here, h.backed.queued, h.backed.queueHeld⟩,
      ⟨h.ringed.owe.add hsame, h.ringed.used, ?_⟩, fun p hp hpending hexposed hlost hastray => ?_⟩
    · refine h.ringed.sized.imp_right fun hnone b hb => ?_
      show (o.damageRing.charge _).owed b = none
      rw [Debt.Ledger.owed_charge, hnone b hb]
      rfl
    · rw [Finset.mem_union, not_or] at hpending
      exact (h.shown p hp hpending.1 hexposed hlost hastray).trans (hsame p hp hpending.2).symm

/-- What changes is damaged. -/
theorem Painted.sceneChange (h : o.Painted) (region : Region) (image : Pixel → Color) :
    (o.sceneChange region image).Painted :=
  h.damage fun _ hp => if_neg hp

/-- What damage does not touch. -/
structure Undamaged (o o' : PaintedOutput Color) : Prop where
  buffers : o'.buffers = o.buffers
  size : o'.size = o.size
  lastOutput : o'.lastOutput = o.lastOutput
  queue : o'.queue = o.queue
  exposed : o'.exposed = o.exposed
  astray : o'.astray = o.astray

/-- Damage is all that is added to the output. -/
theorem sceneOutputDamage_frame (o : PaintedOutput Color) (damage : Region) :
    o.Undamaged (o.sceneOutputDamage damage) := by
  unfold sceneOutputDamage
  dsimp only
  split_ifs
  · exact ⟨rfl, rfl, rfl, rfl, rfl, rfl⟩
  · rw [scheduleFrame_eq]
    exact ⟨rfl, rfl, rfl, rfl, rfl, rfl⟩

variable (nRects) in
/-- A frame that is scaled before. -/
theorem Painted.paint [DecidableEq Color] (h : o.Painted) (f : FrameInput Color) :
    o.Framed (o.paint nRects f) := by
  obtain ⟨hpainted, hothers, hsize⟩ :=
    (h.sceneChange f.rescaled f.image).sceneOutputCommit nRects f.outcome
  obtain ⟨hbuffers, hsame, -⟩ := sceneOutputDamage_frame
    { o with scene := fun p => if p ∈ f.rescaled then f.image p else o.scene p } f.rescaled
  exact ⟨hpainted, hothers.trans (congrArg PresentSession.others hbuffers), hsize.trans hsame⟩

/-- The frame of an event. -/
theorem Painted.sendFrame [DecidableEq Color] (h : o.Painted) (f : FrameInput Color) :
    (o.sendFrame nRects f).Painted := by
  have hpending : { o with framePending := false }.Painted := h.flags _ _ _ _ _ _ _
  exact (hpending.paint nRects f).painted.flags _ _ _ _ _ _ _

/-! ## A new size -/

/-- The empty buffer of a new size is not one of the ring's. -/
theorem acquireEmptyBuffer_built (h : o.Painted) {size : Size} (hsize : size ≠ o.size) (blank : Color)
    (out : FrameOutcome Color) :
    let r := o.acquireEmptyBuffer size blank out
    r.1.Painted ∧ o.OnlyBuffers r.1 ∧
      (r.1.buffers.others = match r.2 with
        | none => o.buffers.others
        | some b => Function.update o.buffers.others b (o.buffers.others b + 1)) ∧
      (r.2.isSome → r.1.buffers.pool.swapchainSize = size) := by
  unfold acquireEmptyBuffer
  split
  · exact ⟨h, .refl o, rfl, nofun⟩
  · rename_i o₁ hconfigure
    obtain ⟨h₁, honly₁, hothers₁, hsize₁⟩ := h.configurePrimarySwapchain hconfigure
    split
    · exact ⟨h₁, honly₁, hothers₁, nofun⟩
    · rename_i o₂ b hacquire
      obtain ⟨h₂, honly₂, hothers₂, hsize₂, hswapped, hidle⟩ := h₁.acquireBuffer hacquire
      have honly := honly₁.trans honly₂
      have hpos : 0 < o₂.buffers.others b := by
        rw [hothers₂, Function.update_self]
        exact Nat.succ_pos _
      have hback : Function.update o₂.buffers.others b (o₂.buffers.others b - 1) = o.buffers.others := by
        rw [hothers₂, hothers₁]
        exact update_sub_add _ _
      -- the swapchain is of the new size, so the ring knows none of its buffers
      have hnone : ∀ c, o₂.buffers.pool.Swapped c → o₂.damageRing.owed c = none := by
        refine h₂.ringed.sized.resolve_left fun heq => hsize ?_
        rw [← hsize₁, ← hsize₂, heq, honly.size_eq]
      have hdraw : ∀ image, { o₂ with content := Function.update o₂.content b image }.Painted := by
        intro image
        refine h₂.draw hidle (fun c hc owed howed => ?_) h₂.ringed.used (.inr hnone)
        rw [Option.mem_def, hnone c hc] at howed
        cases howed
      split_ifs
      · exact ⟨h₂.unlockBuffer hpos, honly.trans rfl, hback, nofun⟩
      · exact ⟨(hdraw out.garbage).unlockBuffer hpos, honly.trans rfl, hback, nofun⟩
      · refine ⟨hdraw _, honly.trans rfl, ?_, fun _ => hsize₂.trans hsize₁⟩
        show o₂.buffers.others = _
        rw [hothers₂, hothers₁]

variable (nRects) in
/-- The listener paints at once, or schedules a frame. -/
theorem Painted.outputCommitListener [DecidableEq Color] (h : o.Painted) (f : FrameInput Color) :
    o.Framed (o.outputCommitListener nRects f) := by
  unfold PaintedOutput.outputCommitListener
  split_ifs
  · exact ⟨h, rfl, rfl⟩
  · have hknown : { o with lastOutput := o.size }.Painted := h.flags _ _ _ _ _ _ _
    dsimp only
    split_ifs
    · obtain ⟨hpainted, hothers, hsize⟩ := hknown.paint nRects f
      exact ⟨hpainted, hothers, hsize⟩
    · refine ⟨hknown.scheduleFrame, ?_, ?_⟩
      all_goals
        rw [scheduleFrame_eq]

/-- All of a buffer that is not in the ring is drawn, and all that is damaged will be shown. -/
theorem Backed.damageWhole (h : o.Backed) (hused : ∀ b ∈ o.damageRing.keys, b < o.buffers.pool.nextBuffer)
    (hnone : ∀ b, o.buffers.pool.Swapped b → o.damageRing.owed b = none) :
    o.sceneOutputDamageWhole.Painted := by
  have howe : ∀ ring : DamageRing, (∀ b, o.buffers.pool.Swapped b → ring.owed b = none) →
      BuffersOwe o.size o.buffers.pool.Swapped o.scene o.content ring := by
    intro ring hring b hb owed howed
    rw [Option.mem_def, hring b hb] at howed
    cases howed
  unfold sceneOutputDamageWhole sceneOutputDamage
  dsimp only
  rw [Finset.inter_self]
  -- an output of no size has nothing to damage
  split_ifs with hempty
  · refine ⟨h, ⟨howe _ hnone, hused, .inr hnone⟩, fun p hp => ?_⟩
    rw [hempty] at hp
    exact absurd hp (Finset.notMem_empty p)
  · have hcharged : ∀ b, o.buffers.pool.Swapped b →
        (o.damageRing.add o.size.rect).owed b = none := by
      intro b hb
      rw [DamageRing.add, Debt.Ledger.owed_charge, hnone b hb]
      rfl
    rw [scheduleFrame_eq]
    refine ⟨⟨h.accounts, h.here, h.queued, h.queueHeld⟩, ⟨howe _ hcharged, hused, .inr hcharged⟩, ?_⟩
    intro p hp hpending
    exact absurd (Finset.mem_union_right _ hp) hpending

variable (nRects) in
/-- A new size is not taken, or all of it is to be painted and its empty buffer is with the server. -/
theorem Painted.commitMode_cases [DecidableEq Color] (h : o.Painted) {size : Size} (hsize : size ≠ o.size)
    (blank : Color) (out : FrameOutcome Color) (f : FrameInput Color) :
    (∃ o₁, o₁.Painted ∧ o.OnlyBuffers o₁ ∧ (o.commitMode nRects size blank out f = o₁ ∨
      o.commitMode nRects size blank out f = { o₁ with idleFrame := false })) ∨
    ∃ o₂ : PaintedOutput Color, ∃ b, o₂.Painted ∧ 0 < o₂.buffers.others b ∧ o₂.queue ≠ [] ∧ o₂.exposed = ∅ ∧
      o₂.astray = o.astray ∧
      o.commitMode nRects size blank out f = (o₂.outputCommitListener nRects f).unlockBuffer b := by
  unfold PaintedOutput.commitMode
  split
  · exact .inl ⟨o, h, .refl o, .inl rfl⟩
  · have hempty := acquireEmptyBuffer_built h hsize blank out
    split
    · rename_i o₁ heq
      rw [heq] at hempty
      exact .inl ⟨o₁, hempty.1, hempty.2.1, .inl rfl⟩
    · rename_i o₁ b heq
      rw [heq] at hempty
      obtain ⟨h₁, honly, hothers, hswapchain⟩ := hempty
      have hidle : { o₁ with idleFrame := false }.Painted := h₁.flags _ _ _ _ _ _ _
      have hpos : 0 < o₁.buffers.others b := by
        have hupdate : o₁.buffers.others = Function.update o.buffers.others b (o.buffers.others b + 1) :=
          hothers
        rw [hupdate, Function.update_self]
        exact Nat.succ_pos _
      have hgivenBack := h₁.unlockBuffer hpos
      dsimp only
      split
      -- `output_test` refuses the state, or the backend cannot import the buffer
      · exact .inl ⟨o₁.unlockBuffer b, hgivenBack, honly.trans rfl, .inr rfl⟩
      · split
        · exact .inl ⟨o₁.unlockBuffer b, hgivenBack, honly.trans rfl, .inr rfl⟩
        · rename_i o₂ hcommit
          obtain ⟨q, -, -, -, hq⟩ := hidle.outputCommitBuffer hpos hcommit
          have hring : o₂.damageRing = o₁.damageRing := by rw [hq.only]
          have hnone : ∀ c, o₂.buffers.pool.Swapped c → o₂.damageRing.owed c = none := by
            have hnone₁ := h₁.ringed.sized.resolve_left fun heq => hsize <| by
              rw [← hswapchain rfl, heq, honly.size_eq]
            exact fun c hc => hring ▸ (hq.keeps.slots c hc).elim (hnone₁ c) h₁.ringed.owed_eq_none
          have hresized : (({ o₂.applyCommit with size := size }.sceneOutputHandleCommit
              none).sceneOutputDamageWhole).Painted :=
            Backed.damageWhole ⟨hq.backed.accounts, hq.backed.here, hq.backed.queued, hq.backed.queueHeld⟩
              hq.ringed.used hnone
          refine .inr ⟨_, b, hresized, ?_, ?_, ?_, ?_, rfl⟩
          · rw [sceneOutputDamageWhole, (sceneOutputDamage_frame _ _).buffers]
            exact hq.others ▸ hpos
          · rw [sceneOutputDamageWhole, (sceneOutputDamage_frame _ _).queue]
            show o₂.queue ≠ []
            rw [hq.only]
            exact List.append_ne_nil_of_right_ne_nil _ (List.cons_ne_nil _ _)
          · rw [sceneOutputDamageWhole, (sceneOutputDamage_frame _ _).exposed]
            show o₂.exposed = ∅
            rw [hq.only]
          · rw [sceneOutputDamageWhole, (sceneOutputDamage_frame _ _).astray]
            show o₂.astray = o.astray
            rw [hq.only]
            exact honly.astray_eq

variable (nRects) in
/-- A new size: all is damaged, and nothing is astray that was not. -/
theorem Painted.commitMode [DecidableEq Color] (h : o.Painted) {size : Size} (hsize : size ≠ o.size)
    (blank : Color) (out : FrameOutcome Color) (f : FrameInput Color) :
    (o.commitMode nRects size blank out f).Painted := by
  rcases h.commitMode_cases nRects hsize blank out f with
    ⟨o₁, h₁, -, heq | heq⟩ | ⟨o₂, b, h₂, hpos, -, -, -, heq⟩
  · exact heq ▸ h₁
  · exact heq ▸ h₁.flags _ _ _ _ _ _ _
  · obtain ⟨hpainted, hkept, -⟩ := h₂.outputCommitListener nRects f
    exact heq ▸ hpainted.unlockBuffer (hkept ▸ hpos)

/-- The program's resize notes the size, the host's has noted it already. -/
theorem Painted.resize [DecidableEq Color] (h : o.Painted) {size : Size} (hsize : size ≠ o.size)
    (byHost : Bool) (blank : Color) (out : FrameOutcome Color) (f : FrameInput Color) :
    (o.resize nRects byHost size blank out f).Painted := by
  have hmode := h.commitMode nRects hsize blank out f
  unfold PaintedOutput.resize
  dsimp only
  split
  · exact hmode.scheduleFrame
  · have hknown : { o.commitMode nRects size blank out f with
        lastOutput := (o.commitMode nRects size blank out f).size }.Painted := hmode.flags _ _ _ _ _ _ _
    exact hknown.scheduleFrame

/-! ## Runs -/

/-- A pixmap that is idle is unlocked; the buffer may go. -/
theorem Painted.readIdle (h : o.Painted) {buffers : PresentSession}
    (hbuffers : o.buffers.step .readIdle = some buffers) : { o with buffers := buffers }.Painted := by
  have hsound := PresentSession.step_sound h.backed.accounts hbuffers
  simp only [PresentSession.step] at hbuffers
  split at hbuffers
  · cases hbuffers
  · rename_i i idles hidles
    cases hbuffers
    obtain ⟨hslots, hwindows, hx11⟩ :=
      BufferPool.keepsSlots_handleIdleNotify hsound.sound h.backed.accounts.pixmaps
    have hringed : Ringed { o with buffers := { o.buffers with
        pool := o.buffers.pool.handleIdleNotify i.1 i.2, idles := idles } } :=
      h.ringed.setBuffers hslots
    refine ⟨⟨hsound, hwindows ▸ h.backed.here, fun q hq => ?_, h.backed.queueHeld⟩, hringed, h.shown⟩
    -- what is queued has not come back yet
    obtain ⟨x, hx, hwin, hpixmap, hbuffer⟩ := h.backed.queued q hq
    have hheld : 0 < o.buffers.held.count (x.win, x.pixmap) := by
      refine (List.count_pos_iff.mpr (List.mem_map.mpr ⟨q, hq, ?_⟩)).trans_le (h.backed.queueHeld _)
      rw [hwin, hpixmap]
    have hcount := h.backed.accounts.counted x hx
    rw [PresentSession.out, hidles, List.cons_append, List.count_cons, List.count_append] at hcount
    obtain ⟨x', hx', hwin', hpixmap', hbuffer'⟩ := hx11 x hx (by
      simp only [beq_iff_eq, eq_comm (a := i)] at hcount
      omega)
    exact ⟨x', hx', hwin'.trans hwin, hpixmap'.trans hpixmap, hbuffer'.trans hbuffer⟩

/-- What clients do with their buffers leaves what is queued alone. -/
theorem Painted.client (h : o.Painted) {a : BufferAction} (ha : ofClient a = true)
    {buffers : PresentSession} (hbuffers : o.buffers.step a = some buffers) :
    { o with buffers := buffers }.Painted := by
  have hsound := PresentSession.step_sound h.backed.accounts hbuffers
  cases a with
  | create size =>
    cases hbuffers
    exact h.setBuffers hsound (BufferPool.keeps_create _ _) rfl
  | lock b =>
    simp only [PresentSession.step] at hbuffers
    split_ifs at hbuffers
    cases hbuffers
    exact h.setBuffers hsound (BufferPool.keeps_lock _ _) rfl
  | unlock b =>
    simp only [PresentSession.step] at hbuffers
    split_ifs at hbuffers
    cases hbuffers
    exact h.setBuffers hsound (BufferPool.keeps_unlock hsound.sound) rfl
  | drop b =>
    simp only [PresentSession.step] at hbuffers
    split_ifs at hbuffers
    cases hbuffers
    exact h.setBuffers hsound (BufferPool.keeps_drop hsound.sound) rfl
  -- clients have no part in these
  | acquire | replaceSwapchain | destroySwapchain | createWindow | destroyWindow | present | finish |
    readIdle => cases ha

/-- What the server is done with is not queued. -/
theorem Painted.finish (h : o.Painted) {n : Nat}
    (hdone : (o.buffers.held[n]?).any (fun i => (o.queue.map fun q => (o.win, q.pixmap)).count i <
      o.buffers.held.count i) = true)
    {buffers : PresentSession} (hbuffers : o.buffers.step (.finish n) = some buffers) :
    { o with buffers := buffers }.Painted := by
  have hsound := PresentSession.step_sound h.backed.accounts hbuffers
  simp only [PresentSession.step] at hbuffers
  split at hbuffers
  · rename_i i hi
    cases hbuffers
    rw [hi] at hdone
    have hless := of_decide_eq_true hdone
    refine ⟨⟨hsound, h.backed.here, h.backed.queued, fun j => ?_⟩,
      ⟨h.ringed.owe, h.ringed.used, h.ringed.sized⟩, h.shown⟩
    have hcount := h.backed.queueHeld j
    obtain ⟨hlt, rfl⟩ := List.getElem?_eq_some_iff.mp hi
    -- one present less is held, and it was not queued
    have herase := (List.getElem_cons_eraseIdx_perm hlt).count_eq j
    rw [List.count_cons] at herase
    show (o.queue.map fun q => (o.win, q.pixmap)).count j ≤ (o.buffers.held.eraseIdx n).count j
    by_cases hj : o.buffers.held[n] = j
    · subst hj
      rw [beq_self_eq_true, if_pos rfl] at herase
      omega
    · rw [beq_false_of_ne hj, if_neg Bool.false_ne_true] at herase
      omega
  · cases hbuffers

/-- A client draws into a buffer of its own, when nobody has it. -/
theorem Painted.drawOwn (h : o.Painted) (image : Pixel → Color)
    (hfree : (o.buffers.pool.table b).any (fun w => w.nLocks = 0) = true)
    (hown : ∀ s ∈ o.buffers.pool.slots, s.buffer ≠ some b) :
    { o with content := Function.update o.content b image }.Painted := by
  obtain ⟨w, hw, hzero⟩ := (Option.any_eq_true _ _).mp hfree
  have hlocks := h.backed.accounts.locks b w hw
  have hidle : o.buffers.pool.busy b = 0 := by
    have := of_decide_eq_true hzero
    omega
  refine h.draw hidle (h.ringed.owe.congr (fun _ _ => rfl) (fun _ => .inl) ?_) h.ringed.used h.ringed.sized
  rintro c ⟨s, hs, hsc⟩
  refine Function.update_of_ne ?_ _ _
  rintro rfl
  exact hown s hs hsc

/-- A present is executed: what the window will show is the same. -/
theorem Painted.execute (h : o.Painted) {q : QueuedPresent} {queue : List QueuedPresent}
    (hqueue : o.queue = q :: queue) :
    { o with
      window := PaintedOutput.execute o.content o.window q, queue := queue,
      events := o.events ++ [OutputEvent.presentComplete] }.Painted := by
  refine ⟨⟨h.backed.accounts, h.backed.here, fun r hr => ?_, fun i => ?_⟩,
    ⟨h.ringed.owe, h.ringed.used, h.ringed.sized⟩, fun p hp hpending hexposed hlost hastray => ?_⟩
  · exact h.backed.queued r (hqueue ▸ List.mem_cons_of_mem _ hr)
  · refine le_trans ?_ (h.backed.queueHeld i)
    rw [hqueue, List.map_cons]
    exact (List.sublist_cons_self _ _).count_le i
  -- what an Expose will tell stays lost until then
  · have hkept : ¬ o.Lost p := fun ⟨region, hregion, hin⟩ =>
      hlost ⟨region, List.mem_append_left _ hregion, hin⟩
    rw [← h.shown p hp hpending hexposed hkept hastray]
    unfold finalWindow
    rw [hqueue]
    rfl

/-- What is not copied is what it was. -/
theorem foldl_execute_apply {content : Nat → Pixel → Color} {queue : List QueuedPresent}
    {window window' : Pixel → Color} {p : Pixel} (h : window' p = window p) :
    queue.foldl (PaintedOutput.execute content) window' p =
      queue.foldl (PaintedOutput.execute content) window p := by
  induction queue generalizing window window' with
  | nil => exact h
  | cons q queue ih =>
    refine ih ?_
    unfold PaintedOutput.execute
    rw [h]

/-- The server loses what it shows, and will say so. -/
theorem Painted.lose (h : o.Painted) (region : Region) (image : Pixel → Color) :
    { o with
      window := fun p => if p ∈ region then image p else o.window p,
      events := o.events ++ [OutputEvent.expose region] }.Painted := by
  refine ⟨⟨h.backed.accounts, h.backed.here, h.backed.queued, h.backed.queueHeld⟩,
    ⟨h.ringed.owe, h.ringed.used, h.ringed.sized⟩, fun p hp hpending hexposed hlost hastray => ?_⟩
  have hout : p ∉ region := fun hin => hlost ⟨region, List.mem_append_right _ (List.mem_singleton_self _), hin⟩
  have hkept : ¬ o.Lost p := fun ⟨r, hr, hin⟩ => hlost ⟨r, List.mem_append_left _ hr, hin⟩
  rw [← h.shown p hp hpending hexposed hkept hastray]
  exact foldl_execute_apply (if_neg hout)

/-- The backend reads of what has been lost. -/
theorem Painted.expose (h : o.Painted) {region : Region} {events : List OutputEvent}
    (hevents : o.events = .expose region :: events) :
    { o with events := events, exposed := o.exposed ∪ region }.Painted := by
  refine ⟨⟨h.backed.accounts, h.backed.here, h.backed.queued, h.backed.queueHeld⟩,
    ⟨h.ringed.owe, h.ringed.used, h.ringed.sized⟩, fun p hp hpending hexposed hlost hastray => ?_⟩
  rw [Finset.mem_union, not_or] at hexposed
  refine h.shown p hp hpending hexposed.1 ?_ hastray
  rintro ⟨r, hr, hin⟩
  rw [hevents] at hr
  rcases List.mem_cons.mp hr with heq | hr
  · cases heq
    exact hexposed.2 hin
  · exact hlost ⟨r, hr, hin⟩

/-- An event that is read shows nothing. -/
theorem Painted.readComplete (h : o.Painted) {events : List OutputEvent}
    (hevents : o.events = .presentComplete :: events) : { o with events := events }.Painted := by
  refine ⟨⟨h.backed.accounts, h.backed.here, h.backed.queued, h.backed.queueHeld⟩,
    ⟨h.ringed.owe, h.ringed.used, h.ringed.sized⟩, fun p hp hpending hexposed hlost hastray => ?_⟩
  refine h.shown p hp hpending hexposed ?_ hastray
  rintro ⟨r, hr, hin⟩
  rw [hevents] at hr
  exact hlost ⟨r, (List.mem_cons.mp hr).resolve_left nofun, hin⟩

/-- What `wlr_output_update_needs_frame` does, in one piece. -/
theorem updateNeedsFrame_eq (o : PaintedOutput Color) :
    o.updateNeedsFrame = { o with
      needsFrame := true
      idleFrame := if o.needsFrame then o.idleFrame else o.idleFrame || !o.framePending
      stalled := if o.needsFrame then o.stalled else false } := by
  unfold updateNeedsFrame addIdleFrame
  cases hneeds : o.needsFrame with
  | true =>
    simp only [if_true]
    rw [← hneeds]
  | false => rfl

/-- **Every action keeps it.** -/
theorem step_painted [DecidableEq Color] (h : o.Painted) {blank : Color} {a : RepaintAction Color}
    (hstep : o.step nRects blank a = some o') : o'.Painted := by
  cases a with
  | change region image =>
    cases hstep
    exact h.sceneChange region image
  | requestCallback surface =>
    cases hstep
    have hcallback : { o with callbacks := o.callbacks ++ [surface] }.Painted := h.flags _ _ _ _ _ _ _
    dsimp only
    split
    · exact hcallback.scheduleFrame
    · exact hcallback
  | pace surfaces | dropCallback surface =>
    cases hstep
    exact h.flags _ _ _ _ _ _ _
  | schedule =>
    cases hstep
    exact h.scheduleFrame
  | idleTimer f =>
    simp only [PaintedOutput.step] at hstep
    split_ifs at hstep
    cases hstep
    have hidle : { o with idleFrame := false }.Painted := h.flags _ _ _ _ _ _ _
    -- the timer calls for a frame only if it is still wanted
    unfold handleIdleTimer
    dsimp only
    split
    · exact hidle
    · exact hidle.sendFrame f
  | readEvent f =>
    simp only [PaintedOutput.step] at hstep
    split at hstep
    · cases hstep
    · rename_i hevents
      cases hstep
      rw [updateNeedsFrame_eq]
      exact (h.expose hevents).flags _ _ _ _ _ _ _
    · rename_i hevents
      cases hstep
      exact (h.readComplete hevents).sendFrame f
  | resize byHost size out f =>
    simp only [PaintedOutput.step] at hstep
    split_ifs at hstep with hguard
    cases hstep
    exact h.resize (fun heq => hguard (.inl heq)) byHost blank out f
  | client a =>
    simp only [PaintedOutput.step] at hstep
    split_ifs at hstep with ha
    obtain ⟨buffers, hbuffers, rfl⟩ := Option.map_eq_some_iff.mp hstep
    exact (h.client ha hbuffers).reap
  | draw b image =>
    simp only [PaintedOutput.step] at hstep
    split_ifs at hstep with hguard
    cases hstep
    exact h.drawOwn image hguard.1 hguard.2
  | execute =>
    simp only [PaintedOutput.step] at hstep
    split at hstep
    · cases hstep
    · rename_i hqueue
      cases hstep
      exact h.execute hqueue
  | lose region image =>
    cases hstep
    exact h.lose region image
  | finish n =>
    simp only [PaintedOutput.step] at hstep
    split_ifs at hstep with hdone
    obtain ⟨buffers, hbuffers, rfl⟩ := Option.map_eq_some_iff.mp hstep
    exact h.finish hdone hbuffers
  | readIdle =>
    simp only [PaintedOutput.step] at hstep
    obtain ⟨buffers, hbuffers, rfl⟩ := Option.map_eq_some_iff.mp hstep
    exact (h.readIdle hbuffers).reap

/-- The modeset has presented an empty buffer, and everything is damaged. -/
theorem painted_init (isOpaque : Bool) (size : Size) (blank : Color) (scene window : Pixel → Color) :
    (init isOpaque size blank scene window).Painted := by
  unfold init
  refine Backed.damageWhole ⟨?_, ?_, ?_, ?_⟩ nofun fun _ _ => rfl
  · exact PresentSession.sound_of_reachable ⟨firstCommit size, rfl⟩
  · exact List.mem_cons_self
  · intro q hq
    rw [List.mem_singleton.mp hq]
    exact ⟨_, List.mem_cons_self, rfl, rfl, rfl⟩
  · exact fun i => le_rfl

end PaintedOutput

end Wlx
