import Mathlib.Data.Finset.Prod
import Mathlib.Data.Finset.Union
import WlX11.Lib.Debt
import WlX11.Scale

/-!
# WlX11 — the damage ring

A buffer that is drawn into again shows a frame of some time ago. `wlr_damage_ring` tells what has to be drawn
to make the current frame of it: it remembers the damage since the last frame, and with each buffer it knows
the damage between the frame in it and the one before. It is a ledger of debts.

* **`DamageRing.rotateBuffer`** — `wlr_damage_ring_rotate_buffer`: what a buffer owes is to be redrawn.
* **`BuffersOwe`** — every buffer shows the frame, but for what it owes.
* **`BuffersOwe.redrawn`** — a buffer redrawn there shows all of it; **`BuffersOwe.rotate`**,
  **`BuffersOwe.trash`**, **`BuffersOwe.add`**, **`BuffersOwe.remove`** — the others go on to owe what they owe.
-/

namespace Wlx

/-- A pixel of a buffer. -/
abbrev Pixel := Int × Int

/-- `pixman_region32_t`: the pixels in it. -/
abbrev Region := Finset Pixel

/-- The coordinates from `a` on, before `b`. -/
def coords (a b : Int) : Finset Int := ((List.range (b - a).toNat).map fun n : Nat => a + n).toFinset

theorem mem_coords {a b x : Int} : x ∈ coords a b ↔ a ≤ x ∧ x < b := by
  simp only [coords, List.mem_toFinset, List.mem_map, List.mem_range]
  constructor
  · rintro ⟨n, hn, rfl⟩
    omega
  · rintro ⟨ha, hb⟩
    exact ⟨(x - a).toNat, by omega, by omega⟩

/-- `pixman_region32_init_rect`, at the origin. -/
def Size.rect (s : Size) : Region := coords 0 s.width ×ˢ coords 0 s.height

theorem Size.mem_rect {s : Size} {p : Pixel} :
    p ∈ s.rect ↔ (0 ≤ p.1 ∧ p.1 < s.width) ∧ 0 ≤ p.2 ∧ p.2 < s.height := by
  rw [rect, Finset.mem_product, mem_coords, mem_coords]

theorem Size.rect_subset {s t : Size} (hw : s.width ≤ t.width) (hh : s.height ≤ t.height) :
    s.rect ⊆ t.rect := by
  intro p hp
  rw [Size.mem_rect] at hp ⊢
  omega

/-- What lies between two coordinates of a set. -/
def between (xs : Finset Int) : Finset Int := xs.biUnion fun a => xs.biUnion fun b => coords a (b + 1)

/-- `pixman_region32_extents`. -/
def Region.extents (r : Region) : Region := between (r.image Prod.fst) ×ˢ between (r.image Prod.snd)

theorem mem_between {xs : Finset Int} {x : Int} (h : x ∈ xs) : x ∈ between xs := by
  refine Finset.mem_biUnion.mpr ⟨x, h, Finset.mem_biUnion.mpr ⟨x, h, mem_coords.mpr ?_⟩⟩
  omega

theorem Region.subset_extents (r : Region) : r ⊆ r.extents := fun _ hp =>
  Finset.mem_product.mpr ⟨mem_between (Finset.mem_image_of_mem _ hp), mem_between (Finset.mem_image_of_mem _ hp)⟩

/-- `struct wlr_damage_ring`: `current`, and the `damage` of each buffer, the one drawn last first. -/
abbrev DamageRing := Debt.Ledger Nat Region

namespace DamageRing

/-- `wlr_damage_ring_init`. -/
def init : DamageRing := ⟨∅, []⟩

/-- `wlr_damage_ring_add`. -/
def add (ring : DamageRing) (damage : Region) : DamageRing := ring.charge damage

/-- `wlr_damage_ring_add_whole`: the whole of the largest buffer known. -/
def addWhole (sizeOf : Nat → Size) (ring : DamageRing) : DamageRing :=
  let sizes := ring.entries.map fun e => sizeOf e.1
  ring.charge (Size.rect ⟨(sizes.map (·.width)).foldr max 0, (sizes.map (·.height)).foldr max 0⟩)

/-- `buffer_handle_destroy`. -/
def bufferHandleDestroy (ring : DamageRing) (b : Nat) : DamageRing := ring.forget b

/-- `WLR_DAMAGE_RING_MAX_RECTS`. -/
def maxRects : Nat := 20

/-- `wlr_damage_ring_rotate_buffer`: what has to be drawn, and the ring afterwards. `nRects` counts the
rectangles pixman makes of a region. -/
def rotateBuffer (nRects : Region → Nat) (ring : DamageRing) (b : Nat) (size : Size) :
    Region × DamageRing :=
  match ring.owed b with
  | some owed =>
    let damage := owed ∩ size.rect
    (if maxRects < nRects damage then damage ∪ damage.extents else damage, ring.settle b)
  | none => (size.rect, ring.settle b)

variable {ring : DamageRing} {nRects : Region → Nat} {b : Nat} {size : Size}

theorem rotateBuffer_ring : (rotateBuffer nRects ring b size).2 = ring.settle b := by
  unfold rotateBuffer
  split <;> rfl

/-- What a buffer owes, and all of it if it is not known, is drawn. -/
theorem rotateBuffer_covers (owed : Region) (howed : ∀ o ∈ ring.owed b, o = owed) {p : Pixel}
    (hp : p ∈ size.rect) (h : ring.owed b = none ∨ p ∈ owed) : p ∈ (rotateBuffer nRects ring b size).1 := by
  unfold rotateBuffer
  cases hb : ring.owed b with
  | none => exact hp
  | some o =>
    obtain rfl := howed o hb
    have hin : p ∈ o ∩ size.rect := Finset.mem_inter.mpr ⟨h.resolve_left (by rw [hb]; nofun), hp⟩
    dsimp only
    split_ifs
    · exact Finset.mem_union_left _ hin
    · exact hin

end DamageRing

/-! ## What the buffers show -/

section Buffers

variable {Color : Type} {size : Size} {kept : Nat → Prop} {frame frame' : Pixel → Color}
  {content content' : Nat → Pixel → Color} {ring : DamageRing} {nRects : Region → Nat} {b : Nat}

/-- The buffers there are show the frame, but for what they owe. -/
def BuffersOwe (size : Size) (kept : Nat → Prop) (frame : Pixel → Color) (content : Nat → Pixel → Color)
    (ring : DamageRing) : Prop :=
  Debt.Sound size.rect kept frame content ring

theorem BuffersOwe.add (h : BuffersOwe size kept frame content ring) {damage : Region}
    (hframe : ∀ p ∈ size.rect, p ∉ damage → frame' p = frame p) :
    BuffersOwe size kept frame' content (ring.add damage) :=
  Debt.Sound.change h hframe

/-- What is not drawn yet is nobody's. -/
theorem BuffersOwe.congr {kept' : Nat → Prop} (h : BuffersOwe size kept frame content ring)
    (hframe : ∀ p ∈ size.rect, frame' p = frame p) (hkept : ∀ b, kept' b → kept b ∨ ring.owed b = none)
    (hcontent : ∀ b, kept b → content' b = content b) : BuffersOwe size kept' frame' content' ring :=
  Debt.Sound.congr h hframe hkept hcontent

theorem BuffersOwe.remove (h : BuffersOwe size kept frame content ring) (hb : ¬ kept b) :
    BuffersOwe size kept frame content (ring.bufferHandleDestroy b) :=
  Debt.Sound.forget h (fun _ => id) hb

/-- **The partial redraw is the whole one.** A buffer drawn over where the ring says shows the frame. -/
theorem BuffersOwe.redrawn (h : BuffersOwe size kept frame content ring) (hb : kept b)
    {c : Pixel → Color}
    (hc : ∀ p, c p = if p ∈ (ring.rotateBuffer nRects b size).1 then frame p else content b p) :
    ∀ p ∈ size.rect, c p = frame p := by
  intro p hp
  rw [hc]
  split_ifs with hdrawn
  · rfl
  · cases howed : ring.owed b with
    | none =>
      exact absurd (DamageRing.rotateBuffer_covers ∅ (by rw [howed]; nofun) hp (.inl howed)) hdrawn
    | some owed =>
      refine h b hb owed howed p hp fun hin => hdrawn ?_
      exact DamageRing.rotateBuffer_covers owed (fun o ho => by rw [howed] at ho; exact (Option.some.inj ho).symm) hp
        (.inr hin)

/-- The buffer that was drawn owes nothing now, the others what they owed. -/
theorem BuffersOwe.rotate (h : BuffersOwe size kept frame content ring)
    (hdrawn : ∀ p ∈ size.rect, content' b p = frame p)
    (helse : ∀ b', kept b' → b' ≠ b → content' b' = content b') :
    BuffersOwe size kept frame content' (ring.rotateBuffer nRects b size).2 := by
  rw [DamageRing.rotateBuffer_ring]
  exact Debt.Sound.refresh h hdrawn helse

/-- **A frame that could not be drawn.** What its buffer shows is not known, and all is drawn next time. -/
theorem BuffersOwe.trash (h : BuffersOwe size kept frame content ring) {sizeOf : Nat → Size}
    (hsize : sizeOf b = size) (helse : ∀ b', kept b' → b' ≠ b → content' b' = content b') :
    BuffersOwe size kept frame content' ((ring.rotateBuffer nRects b size).2.addWhole sizeOf) := by
  have hrotated : BuffersOwe size kept frame (Function.update content b frame)
      (ring.rotateBuffer nRects b size).2 :=
    h.rotate (fun p _ => by rw [Function.update_self]) fun b' _ hne => Function.update_of_ne hne _ _
  refine Debt.Sound.spoil (Debt.Sound.change hrotated fun _ _ _ => rfl) (fun owed howed => ?_)
    fun b' hb' hne => (helse b' hb' hne).trans (Function.update_of_ne hne _ _).symm
  -- the buffer is the first of the ring
  have hmax : ∀ (l : List Int) (n : Int), n ∈ l → n ≤ l.foldr max 0 := by
    intro l n hn
    induction l with
    | nil => cases hn
    | cons m l ih =>
      rcases List.mem_cons.mp hn with rfl | hn
      · exact le_max_left _ _
      · exact (ih hn).trans (le_max_right _ _)
  have hfirst : sizeOf b ∈ (ring.settle b).entries.map fun e => sizeOf e.1 :=
    List.mem_map.mpr ⟨_, List.mem_cons_self, rfl⟩
  rw [DamageRing.rotateBuffer_ring, DamageRing.addWhole, Debt.Ledger.owed_charge,
    Debt.Ledger.owed_settle_self] at howed
  cases howed
  refine Finset.Subset.trans ?_ Finset.subset_union_right
  rw [← hsize]
  exact Size.rect_subset (hmax _ _ (List.mem_map.mpr ⟨_, hfirst, rfl⟩))
    (hmax _ _ (List.mem_map.mpr ⟨_, hfirst, rfl⟩))

end Buffers

end Wlx
