import WlX11.SceneVisibility

/-!
# WlX11 — what a frame of a scene shows

A frame draws the nodes that are not hidden, each where it is visible, and only inside the damage. That this
is the whole picture rests on all that has been kept since the scene was made, and on what clients promise about
their buffers.

* **`Honest`** — what is called opaque covers what is below it, and what is called black is black.
* **`visible_exact`** — after any calls, `visible` is where a node is not hidden.
* **`damage_covers`** — what changes is damaged.
* **`render_eq_displayed`** — inside the damage a frame draws the scene, and leaves black nodes out.
* **`displayed_eq_picture`** — nobody misses them on an opaque output. Others are cleared to transparent, and there
  a black node is a hole (`menuScene_hole`).
* **`frame_shows_picture`** — so a buffer that showed the scene shows it again.
-/

namespace Wlx

/-! ## Opaque nodes -/

namespace NodeContent

variable {Look Color : Type} (content : NodeContent Look Color) (pal : Palette Look Color)

/-- A pixel of the node, with nothing below. -/
def plain (p : Pixel) : Color :=
  match content with
  | .tree => pal.clear
  | .rect _ color => color
  | .buffer b => pal.sample b.texture p

/-- What clients and the renderer have to keep to: opaque pixels are not blended with what is below, what is
invisible adds nothing to it, and what is called black is opaque and black. -/
structure Honest [DecidableEq Color] : Prop where
  solid : ∀ p ∈ content.opaqueRegion pal, ∀ below, content.color pal p below = content.plain pal p
  invisible : content.invisible pal = true → ∀ p below, content.color pal p below = below
  blackSolid : content.isBlack pal = true → content.opaqueRegion pal = content.getSize.rect
  black : content.isBlack pal = true → ∀ p, content.plain pal p = pal.black

variable {content pal}

/-- A black node is black, whatever is below. -/
theorem Honest.color_of_isBlack [DecidableEq Color] (h : content.Honest pal) (hblack : content.isBlack pal = true)
    {p : Pixel} (hp : p ∈ content.getSize.rect) (below : Color) : content.color pal p below = pal.black := by
  rw [← h.blackSolid hblack] at hp
  rw [h.solid p hp, h.black hblack]

end NodeContent

namespace SceneGraph

variable {Look Color : Type} {pal : Palette Look Color} {ground : Ground Color} {s s' : SceneGraph Look Color}
  {e : PlacedNode Look Color} {A B : List (PlacedNode Look Color)} {p q o : Pixel}

/-- A pixel of the node, in the node's own coordinates. -/
theorem mem_box_iff : p ∈ e.box ↔ (p.1 - e.origin.1, p.2 - e.origin.2) ∈ e.node.content.getSize.rect :=
  Region.mem_translate

/-- A pixel of its opaque region, likewise. -/
theorem mem_opaqueRegion_iff :
    p ∈ e.opaqueRegion pal ↔ (p.1 - e.origin.1, p.2 - e.origin.2) ∈ e.node.content.opaqueRegion pal :=
  Region.mem_translate

/-- From the layout to the buffer of an output at `o`. -/
theorem mem_toOutput {r : Region} : p ∈ r.translate (-o.1, -o.2) ↔ (p.1 + o.1, p.2 + o.2) ∈ r := by
  rw [Region.mem_translate, Int.sub_neg, Int.sub_neg]

variable [DecidableEq Color]

def Honest (pal : Palette Look Color) (s : SceneGraph Look Color) : Prop :=
  ∀ e ∈ s.nodes, e.node.content.Honest pal

/-- A node covers what is behind it only while visibility is calculated. -/
theorem mem_solid_iff {calculateVisibility : Bool} :
    p ∈ (sheet pal calculateVisibility ground e).solid ↔ calculateVisibility = true ∧ p ∈ e.opaqueRegion pal := by
  show p ∈ (if calculateVisibility then e.opaqueRegion pal else ∅) ↔ _
  cases calculateVisibility <;> simp

/-- Opaque nodes hide what is below, and so do black ones, whatever shows in their place. -/
theorem hides_of_honest (h : e.node.content.Honest pal) (calculateVisibility : Bool) :
    (sheet pal calculateVisibility ground e).Hides := by
  intro p hp c c'
  obtain ⟨-, hcovers⟩ := mem_solid_iff.mp hp
  rw [mem_opaqueRegion_iff] at hcovers
  show NodeContent.shade _ pal _ _ _ c = NodeContent.shade _ pal _ _ _ c'
  unfold NodeContent.shade
  rw [h.solid _ hcovers, h.solid _ hcovers]

/-! ## What is visible -/

/-- A node is visible where no node above is opaque. -/
theorem Sound.visible_iff (h : s.Sound pal) (hnodes : s.nodes = A ++ e :: B) (hp : p ∈ e.box) :
    p ∈ s.visible e.id ↔ ∀ e' ∈ A, s.calculateVisibility = true → p ∉ e'.opaqueRegion pal := by
  have hseen := h.seen ⟨pal.clear, none⟩ p
  rw [sheets, hnodes, List.map_append, List.map_cons, Sheet.seenAt_append] at hseen
  refine (hseen.2.1 hp).trans ?_
  rw [false_or]
  constructor
  · exact fun hfree e' he' hcalculate hcovers =>
      hfree ⟨_, List.mem_map_of_mem he', mem_solid_iff.mpr ⟨hcalculate, hcovers⟩⟩
  · rintro hfree ⟨l, hl, hsolid⟩
    obtain ⟨e', he', rfl⟩ := List.mem_map.mp hl
    obtain ⟨hcalculate, hcovers⟩ := mem_solid_iff.mp hsolid
    exact hfree e' he' hcalculate hcovers

variable [DecidableEq Look] {a : SceneAction Look Color} {as : List (SceneAction Look Color)}

/-- The scene has been made by calls of these functions, and the buffers were `Steady`. -/
def Made (pal : Palette Look Color) (s : SceneGraph Look Color) : Prop :=
  ∃ calculateVisibility as, Run.run (SceneGraph.step pal) (init calculateVisibility) as = some s ∧
    Run.Along (SceneGraph.step pal) (Steady pal) (init calculateVisibility) as

/-- A scene that is laid out by the calls is one they keep. -/
theorem Made.sound (h : s.Made pal) : s.Sound pal := by
  obtain ⟨calculateVisibility, as, hrun, hsteady⟩ := h
  exact (sound_init calculateVisibility).run hrun hsteady

/-- **What is kept is what would be computed anew.** After any calls a node is visible where it is, and no node
above it is opaque. -/
theorem visible_exact (h : s.Made pal) (hnodes : s.nodes = A ++ e :: B) (hp : p ∈ e.box) :
    p ∈ s.visible e.id ↔ ∀ e' ∈ A, s.calculateVisibility = true → p ∉ e'.opaqueRegion pal :=
  h.sound.visible_iff hnodes hp

/-! ## What is damaged -/

/-- What is asked of the clients between two moments: their buffers are `Steady`, they damage what they change, and
the contents are `Honest`. -/
structure Kept (pal : Palette Look Color) (ground : Ground Color) (s : SceneGraph Look Color)
    (a : SceneAction Look Color) : Prop where
  steady : s.Steady pal a
  damaging : s.Damaging pal ground a
  honest : s.Honest pal

/-- Along a run of calls the damage grows, and what is not damaged looks the same. -/
theorem Sound.drawing_run (h : s.Sound pal) (hrun : Run.run (SceneGraph.step pal) s as = some s')
    (hkept : Run.Along (SceneGraph.step pal) (Kept pal ground) s as) :
    s.damage ⊆ s'.damage ∧ ∀ p ∉ s'.damage, s'.drawing pal ground p = s.drawing pal ground p := by
  induction as generalizing s with
  | nil =>
    cases hrun
    exact ⟨Finset.Subset.refl _, fun _ _ => rfl⟩
  | cons a as ih =>
    obtain ⟨s₁, hs₁, hrest⟩ := Run.run_cons_inv hrun
    obtain ⟨ha, has⟩ := (Run.along_cons hs₁).mp hkept
    have hstep := h.step ha.steady ha.damaging hs₁
    obtain ⟨hdamage, hdrawing⟩ := ih hstep.sound hrest has
    refine ⟨hstep.damage.trans hdamage, fun p hp => (hdrawing p hp).trans ?_⟩
    -- this call has damaged what it changed, and damage is not taken back
    exact hstep.drawing (fun e he => hides_of_honest (ha.honest e he) _) p fun hp' => hp (hdamage hp')

/-- Calls on the scene, from the moment its damage has been taken, with all that is asked of the clients. -/
def Calls (pal : Palette Look Color) (ground : Ground Color) (s s' : SceneGraph Look Color) : Prop :=
  ∃ as, Run.run (SceneGraph.step pal) { s with damage := ∅ } as = some s' ∧
    Run.Along (SceneGraph.step pal) (Kept pal ground) { s with damage := ∅ } as

/-- What calls make of a sound scene is sound, -/
theorem Calls.sound (hcalls : s.Calls pal ground s') (h : s.Sound pal) : s'.Sound pal := by
  obtain ⟨as, hrun, hkept⟩ := hcalls
  have hundamaged : Sound pal { s with damage := ∅ } := ⟨h.unique, h.seen⟩
  exact Run.run_invariant_of_along (fun _ _ _ hs ha hstep => hs.step_sound ha.steady hstep) hundamaged hkept hrun

/-- and looks the same outside its damage. -/
theorem Calls.drawing (hcalls : s.Calls pal ground s') (h : s.Sound pal) (hp : p ∉ s'.damage) :
    s'.drawing pal ground p = s.drawing pal ground p := by
  obtain ⟨as, hrun, hkept⟩ := hcalls
  have hundamaged : Sound pal { s with damage := ∅ } := ⟨h.unique, h.seen⟩
  exact (hundamaged.drawing_run hrun hkept).2 p hp

omit [DecidableEq Look] in
/-- Drawing a node inside the damage does what the node does, where it is visible. -/
theorem entryRender_of_mem {damage : Region} {target : Pixel → Color} (h : e.node.content.Honest pal)
    (hblack : (s.calculateVisibility && e.node.content.isBlack pal) = false) (hp : p ∈ damage) :
    s.entryRender pal o damage e target p =
      if (p.1 + o.1, p.2 + o.2) ∈ e.box ∧ (p.1 + o.1, p.2 + o.2) ∈ s.visible e.id then
        e.shade pal s.calculateVisibility ground.black (p.1 + o.1, p.2 + o.2) (target p)
      else target p := by
  have hshade : e.shade pal s.calculateVisibility ground.black (p.1 + o.1, p.2 + o.2) (target p) =
      e.node.content.color pal (p.1 + o.1 - e.origin.1, p.2 + o.2 - e.origin.2) (target p) := by
    rw [PlacedNode.shade, NodeContent.shade, hblack, if_neg Bool.false_ne_true]
  have hregion : p ∈ (s.visible e.id).translate (-o.1, -o.2) ∩ damage ∩ e.box.translate (-o.1, -o.2) ↔
      (p.1 + o.1, p.2 + o.2) ∈ e.box ∧ (p.1 + o.1, p.2 + o.2) ∈ s.visible e.id := by
    rw [Finset.mem_inter, Finset.mem_inter, mem_toOutput, mem_toOutput]
    exact ⟨fun hin => ⟨hin.2, hin.1.1⟩, fun hin => ⟨⟨hin.2, hp⟩, hin.1⟩⟩
  unfold entryRender
  dsimp only
  by_cases hin : (p.1 + o.1, p.2 + o.2) ∈ e.box ∧ (p.1 + o.1, p.2 + o.2) ∈ s.visible e.id
  · rw [if_pos hin, if_pos (hregion.mpr hin), hshade]
    split
    · rename_i b hcontent
      split
      · rename_i hsolid
        -- it is not blended, but it is opaque here
        have hsubset := of_decide_eq_true (Bool.and_eq_true_iff.mp (Bool.and_eq_true_iff.mp hsolid).1).2
        have hcovers : (p.1 + o.1, p.2 + o.2) ∈ e.opaqueRegion pal :=
          mem_toOutput.mp (hsubset (Finset.mem_inter.mpr ⟨mem_toOutput.mpr hin.2, hp⟩))
        rw [h.solid _ (mem_opaqueRegion_iff.mp hcovers), hcontent]
        rfl
      · rfl
    · rfl
  · rw [if_neg hin, if_neg fun hin' => hin (hregion.mp hin')]

omit [DecidableEq Color] [DecidableEq Look] in
/-- Nothing is drawn outside of the damage. -/
theorem entryRender_of_notMem {damage : Region} {target : Pixel → Color} (hp : p ∉ damage) :
    s.entryRender pal o damage e target p = target p := by
  refine if_neg fun hin => hp ?_
  exact (Finset.mem_inter.mp (Finset.mem_inter.mp hin).1).2

omit [DecidableEq Look] in
/-- The list is of the nodes that meet the box and are not left out. -/
theorem mem_renderList {box : Region} :
    e ∈ s.renderList pal box ↔ e ∈ s.nodes ∧ e.box ∩ box ≠ ∅ ∧ s.listed pal box e = true := by
  rw [renderList, List.mem_filter, nodesInBox, List.mem_filter, decide_eq_true_iff, and_assoc]

/-- The nodes that are drawn, by their names. -/
def drawn (pal : Palette Look Color) (s : SceneGraph Look Color) (box : Region) (l : Sheet Nat Pixel Color) : Bool :=
  l.key ∈ (s.renderList pal box).map PlacedNode.id

variable (ground) in
omit [DecidableEq Look] in
/-- As a sheet, a node is drawn if it is on the list. -/
theorem Unique.drawn_iff (h : Unique s.tree) {box : Region} (he : e ∈ s.nodes) :
    s.drawn pal box (sheet pal s.calculateVisibility ground e) = true ↔ e ∈ s.renderList pal box := by
  refine decide_eq_true_iff.trans ⟨fun hmem => ?_, fun hmem => List.mem_map_of_mem hmem⟩
  obtain ⟨e', he', hid⟩ := List.mem_map.mp hmem
  rwa [← List.inj_on_of_nodup_map h.nodes (mem_renderList.mp he').1 he hid]

variable (ground) in
omit [DecidableEq Look] in
/-- To draw the nodes of the list is to draw what is seen of the sheets. -/
theorem foldr_entryRender {damage box : Region} {base : Pixel → Color} (hunique : Unique s.tree)
    (hhonest : s.Honest pal) (hp : p ∈ damage) :
    (s.renderList pal box).foldr (s.entryRender pal o damage) base p =
      Sheet.paintSeen s.visible (s.drawn pal box) (base p) (s.sheets pal ground) (p.1 + o.1, p.2 + o.2) := by
  have hpart : ∀ L : List (PlacedNode Look Color), (∀ e ∈ L, e ∈ s.nodes) →
      ((L.filter fun e => e.box ∩ box ≠ ∅).filter (s.listed pal box)).foldr (s.entryRender pal o damage) base p =
        Sheet.paintSeen s.visible (s.drawn pal box) (base p) (L.map (sheet pal s.calculateVisibility ground))
          (p.1 + o.1, p.2 + o.2) := by
    intro L hL
    induction L with
    | nil => rfl
    | cons e L ih =>
      have ih' := ih fun e' he' => hL e' (List.mem_cons_of_mem e he')
      have he := hL e List.mem_cons_self
      have hiff : s.drawn pal box (sheet pal s.calculateVisibility ground e) = true ↔ e ∈ s.renderList pal box :=
        hunique.drawn_iff ground he
      rw [mem_renderList] at hiff
      rw [List.map_cons, Sheet.paintSeen_cons, ← ih', List.filter_cons]
      -- either both leave the node out, or both draw it where it is visible
      by_cases hlist : e.box ∩ box ≠ ∅ ∧ s.listed pal box e = true
      · rw [if_pos (decide_eq_true hlist.1), List.filter_cons, if_pos hlist.2, List.foldr_cons]
        have hlisted := hlist.2
        simp only [listed, Bool.and_eq_true, Bool.not_eq_true'] at hlisted
        rw [entryRender_of_mem (hhonest e he) hlisted.1.2 hp]
        have hdrawn := hiff.mpr ⟨he, hlist⟩
        by_cases hin : (p.1 + o.1, p.2 + o.2) ∈ e.box ∧ (p.1 + o.1, p.2 + o.2) ∈ s.visible e.id
        · rw [if_pos hin, if_pos ⟨hdrawn, hin⟩]
          rfl
        · rw [if_neg hin, if_neg fun hcond => hin hcond.2]
      · refine Eq.trans ?_ (if_neg fun hcond => hlist (hiff.mp hcond.1).2).symm
        split
        · rename_i hnear
          rw [List.filter_cons, if_neg fun hl => hlist ⟨of_decide_eq_true hnear, hl⟩]
        · rfl
  exact hpart s.nodes fun _ he => he

omit [DecidableEq Look] in
/-- A node that is not drawn where it is visible either does nothing, or is black and hides what is below. -/
theorem Sound.skipped (h : s.Sound pal) (hhonest : s.Honest pal) {backdrop : Color} {box : Region} (hq : q ∈ box) :
    ∀ l ∈ s.sheets pal ⟨backdrop, some backdrop⟩, s.drawn pal box l = false → q ∈ l.box → q ∈ s.visible l.key →
      (∀ c, l.tint q c = c) ∨ q ∈ l.solid ∧ ∀ c, l.tint q c = backdrop := by
  intro l hl hdrawn hbox hvisible
  obtain ⟨e, he, rfl⟩ := List.mem_map.mp hl
  have hnot : ¬ s.listed pal box e = true := by
    intro hlisted
    have hmem := (h.unique.drawn_iff ⟨backdrop, some backdrop⟩ he).mpr
      (mem_renderList.mpr ⟨he, Finset.nonempty_iff_ne_empty.mp ⟨q, Finset.mem_inter.mpr ⟨hbox, hq⟩⟩, hlisted⟩)
    rw [hdrawn] at hmem
    exact Bool.false_ne_true hmem
  have hseen : s.visible e.id ∩ box ≠ ∅ :=
    Finset.nonempty_iff_ne_empty.mp ⟨q, Finset.mem_inter.mpr ⟨hvisible, hq⟩⟩
  show (∀ c, NodeContent.shade _ pal _ _ _ c = c) ∨
    q ∈ (sheet pal s.calculateVisibility ⟨backdrop, some backdrop⟩ e).solid ∧
      ∀ c, NodeContent.shade _ pal _ _ _ c = backdrop
  unfold NodeContent.shade
  cases hblack : s.calculateVisibility && e.node.content.isBlack pal with
  | true =>
    -- "ignore rendering everything under the rect, and even the rect itself"
    obtain ⟨hcalculate, hisBlack⟩ := Bool.and_eq_true_iff.mp hblack
    refine .inr ⟨mem_solid_iff.mpr ⟨hcalculate, mem_opaqueRegion_iff.mpr ?_⟩, fun _ => rfl⟩
    rw [(hhonest e he).blackSolid hisBlack]
    exact mem_box_iff.mp hbox
  | false =>
    cases hinvisible : e.node.content.invisible pal with
    | true => exact .inl fun c => (hhonest e he).invisible hinvisible _ c
    | false =>
      refine absurd ?_ hnot
      rw [listed, hinvisible, hblack]
      exact decide_eq_true hseen

omit [DecidableEq Look] in
/-- **What a frame draws inside the damage is what is displayed**, whatever was in the buffer. -/
theorem Sound.render_eq_displayed (h : s.Sound pal) (hhonest : s.Honest pal) {isOpaque : Bool} {size : Size}
    {damage : Region} {target : Pixel → Color} (hsize : p ∈ size.rect) (hdamage : isOpaque = true → p ∈ damage) :
    s.render pal isOpaque o size damage target p =
      s.displayed pal (pal.backdrop isOpaque) (p.1 + o.1, p.2 + o.2) := by
  let ground : Ground Color := ⟨pal.backdrop isOpaque, some (pal.backdrop isOpaque)⟩
  have hbox : (p.1 + o.1, p.2 + o.2) ∈ size.rect.translate o := by
    rw [Region.mem_translate, Int.add_sub_cancel, Int.add_sub_cancel]
    exact hsize
  have hides : ∀ l ∈ s.sheets pal ground, l.Hides := by
    intro l hl
    obtain ⟨e, he, rfl⟩ := List.mem_map.mp hl
    exact hides_of_honest (hhonest e he) _
  have hpaint : Sheet.paintSeen s.visible (s.drawn pal (size.rect.translate o)) (pal.backdrop isOpaque)
      (s.sheets pal ground) (p.1 + o.1, p.2 + o.2) =
        s.displayed pal (pal.backdrop isOpaque) (p.1 + o.1, p.2 + o.2) := by
    rw [displayed, drawing_eq_paint]
    exact (h.seen ground _).paintSeen_eq_paint (fun h => h) hides (h.skipped hhonest hbox)
  rw [← hpaint]
  unfold render
  dsimp only
  cases isOpaque with
  | false =>
    -- cleared, and all of it drawn anew
    rw [if_neg Bool.false_ne_true, foldr_entryRender ground h.unique hhonest hsize, if_pos hsize]
    rfl
  | true =>
    have hp := hdamage rfl
    rw [if_pos rfl, foldr_entryRender ground h.unique hhonest hp]
    by_cases hback : p ∈ s.background pal o damage (s.renderList pal (size.rect.translate o))
    · rw [if_pos (Finset.mem_inter.mpr ⟨hback, hsize⟩)]
      rfl
    · -- the background is left out below an opaque node that is drawn
      refine Sheet.paintSeen_congr hides ?_
      unfold background at hback
      split at hback
      · rename_i hcalculate
        have hcovered := not_not.mp fun hnot => hback (Finset.mem_sdiff.mpr ⟨hp, hnot⟩)
        obtain ⟨r, hr, hpr⟩ := Region.mem_unionAll.mp hcovered
        obtain ⟨e, he, rfl⟩ := List.mem_map.mp hr
        obtain ⟨hcovers, hvisible⟩ := Finset.mem_inter.mp (mem_toOutput.mp hpr)
        have hnode := (mem_renderList.mp he).1
        exact ⟨_, List.mem_map_of_mem hnode, (h.unique.drawn_iff _ hnode).mpr he,
          mem_solid_iff.mpr ⟨hcalculate, hcovers⟩, hvisible⟩
      · exact absurd hp hback

/-- A black node is seen there. -/
def BlackAt (pal : Palette Look Color) (s : SceneGraph Look Color) (q : Pixel) : Prop :=
  s.calculateVisibility = true ∧
    ∃ e ∈ s.nodes, e.node.content.isBlack pal = true ∧ q ∈ e.box ∧ q ∈ s.visible e.id

instance : Decidable (s.BlackAt pal q) := inferInstanceAs (Decidable (_ ∧ _))

omit [DecidableEq Look] in
/-- **Black nodes may be left out** over black: "the background should always be black". Over anything else they
are missed where they are seen. -/
theorem Sound.displayed_eq_picture (h : s.Sound pal) (hhonest : s.Honest pal) {backdrop : Color}
    (hblack : backdrop = pal.black ∨ ¬ s.BlackAt pal q) : s.displayed pal backdrop q = s.picture pal backdrop q := by
  rw [displayed, picture, drawing_eq_paint, drawing_eq_paint]
  refine (h.seen ⟨backdrop, some backdrop⟩ q).paint_map_congr (fun h => h) (fun _ _ => rfl)
    (fun e he => hides_of_honest (hhonest e he) _) fun e he hbox hvisible c => ?_
  show NodeContent.shade _ pal _ _ _ c = NodeContent.shade _ pal _ _ _ c
  unfold NodeContent.shade
  split_ifs with hnode
  · obtain ⟨hcalculate, hisBlack⟩ := Bool.and_eq_true_iff.mp hnode
    rcases hblack with rfl | hnone
    · exact ((hhonest e he).color_of_isBlack hisBlack (mem_box_iff.mp hbox) c).symm
    · exact absurd ⟨hcalculate, e, he, hisBlack, hbox, hvisible⟩ hnone
  · rfl

omit [DecidableEq Look] in
/-- Outside of the damage the buffer is as it was. -/
theorem render_of_notMem {size : Size} {damage : Region} {target : Pixel → Color} (hp : p ∉ damage) :
    s.render pal true o size damage target p = target p := by
  have hlist : ∀ L : List (PlacedNode Look Color), ∀ base : Pixel → Color,
      L.foldr (s.entryRender pal o damage) base p = base p := by
    intro L base
    induction L with
    | nil => rfl
    | cons e L ih => exact (entryRender_of_notMem hp).trans ih
  have hback : p ∉ s.background pal o damage (s.renderList pal (size.rect.translate o)) := by
    unfold background
    split
    · exact fun hback => hp (Finset.mem_sdiff.mp hback).1
    · exact hp
  exact (hlist _ _).trans (if_neg fun hback' => hback (Finset.mem_inter.mp hback').1)

/-- **A buffer that showed the scene shows it again**, once a frame has drawn into it what has been damaged since;
one with an alpha channel, whatever it showed. Of the scene only black nodes may be missing, and only there. -/
theorem frame_shows_picture {isOpaque : Bool} (h : s.Made pal)
    (hcalls : s.Calls pal ⟨pal.backdrop isOpaque, none⟩ s') (hhonest : s'.Honest pal) {size : Size}
    {damage : Region} {target : Pixel → Color}
    (htarget : isOpaque = true → ∀ p ∈ size.rect, target p = s.picture pal pal.black (p.1 + o.1, p.2 + o.2))
    (hdamage : isOpaque = true → ∀ p ∈ size.rect, (p.1 + o.1, p.2 + o.2) ∈ s'.damage → p ∈ damage)
    (hp : p ∈ size.rect) :
    s'.render pal isOpaque o size damage target p =
        s'.displayed pal (pal.backdrop isOpaque) (p.1 + o.1, p.2 + o.2) ∧
      (isOpaque = true ∨ ¬ s'.BlackAt pal (p.1 + o.1, p.2 + o.2) →
        s'.render pal isOpaque o size damage target p =
          s'.picture pal (pal.backdrop isOpaque) (p.1 + o.1, p.2 + o.2)) := by
  have hsound := hcalls.sound h.sound
  have hback : ∀ {q}, isOpaque = true ∨ ¬ s'.BlackAt pal q →
      s'.displayed pal (pal.backdrop isOpaque) q = s'.picture pal (pal.backdrop isOpaque) q := by
    intro q hblack
    exact hsound.displayed_eq_picture hhonest (hblack.imp_left fun hformat => if_pos hformat)
  have hrender : s'.render pal isOpaque o size damage target p =
      s'.displayed pal (pal.backdrop isOpaque) (p.1 + o.1, p.2 + o.2) := by
    by_cases hdrawn : isOpaque = true ∧ p ∉ damage
    · -- not drawn, so not damaged: what the buffer showed is still right
      obtain ⟨rfl, hout⟩ := hdrawn
      rw [render_of_notMem hout, htarget rfl p hp, hback (.inl rfl)]
      exact (hcalls.drawing h.sound fun hin => hout (hdamage rfl p hp hin)).symm
    · exact hsound.render_eq_displayed hhonest hp fun hformat => not_not.mp fun hout => hdrawn ⟨hformat, hout⟩
  exact ⟨hrender, fun hblack => hrender.trans (hback hblack)⟩

/-- A renderer of black and white, and of nothing. -/
def inks : Palette Unit (Option Bool) where
  blend := fun color below => color <|> below
  clear := none
  black := some false
  alpha := fun color => if color.isSome then 1 else 0
  sample := fun b p => b.buffer.bind fun image => image.pixels p

/-- A rectangle has no pixels but its colour. -/
theorem rect_honest (size : Size) (color : Option Bool) : (NodeContent.rect size color).Honest inks := by
  cases color with
  | none => exact ⟨fun _ hp => absurd hp (Finset.notMem_empty _), fun _ _ _ => rfl, nofun, nofun⟩
  | some color =>
    exact ⟨fun _ _ _ => rfl, nofun, fun _ => rfl, fun hblack _ => of_decide_eq_true hblack⟩

/-- A panel, and a black menu over its first pixel. -/
def menuScene : SceneGraph Unit (Option Bool) :=
  (Run.run (SceneGraph.step inks) (init true)
    [.create 0 1 (.rect ⟨2, 1⟩ (some true)), .create 0 2 (.rect ⟨1, 1⟩ (some false))]).getD (init true)

theorem menuScene_made : menuScene.Made inks :=
  ⟨true, [.create 0 1 (.rect ⟨2, 1⟩ (some true)), .create 0 2 (.rect ⟨1, 1⟩ (some false))], rfl,
    ⟨trivial, trivial, trivial⟩⟩

theorem menuScene_honest : menuScene.Honest inks := by
  have hnodes : menuScene.nodes =
      [⟨⟨2, true, (0, 0), .rect ⟨1, 1⟩ (some false)⟩, (0, 0)⟩,
        ⟨⟨1, true, (0, 0), .rect ⟨2, 1⟩ (some true)⟩, (0, 0)⟩] := rfl
  intro e he
  rw [hnodes] at he
  rcases List.mem_pair.mp he with rfl | rfl <;> exact rect_honest _ _

/-- A corner of the lower node is visible, since no opaque node is above it. -/
theorem menuScene_visible : (0, 0) ∈ menuScene.visible 1 ↔
    ∀ e' ∈ [(⟨⟨2, true, (0, 0), .rect ⟨1, 1⟩ (some false)⟩, (0, 0)⟩ : PlacedNode Unit (Option Bool))],
      menuScene.calculateVisibility = true → (0, 0) ∉ e'.opaqueRegion inks :=
  visible_exact (e := ⟨⟨1, true, (0, 0), .rect ⟨2, 1⟩ (some true)⟩, (0, 0)⟩) (B := []) menuScene_made rfl
    (by decide +kernel)

/-- On an output with an alpha channel the menu is a hole: neither it nor the panel below is drawn. -/
theorem menuScene_hole :
    menuScene.render inks false (0, 0) ⟨3, 1⟩ ∅ (fun _ => some true) (0, 0) = none ∧
      menuScene.picture inks none (0, 0) = some false := by
  decide +kernel

/-- A surface over the panel, whose next buffer has an alpha channel. -/
def openedScene : SceneGraph Unit (Option Bool) :=
  let image (isOpaque : Bool) : ClientImage (Option Bool) := ⟨⟨2, 1⟩, isOpaque, none, fun _ => some false⟩
  (Run.run (SceneGraph.step inks) (init true)
    [.create 0 1 (.rect ⟨2, 1⟩ (some true)), .create 0 2 (.buffer ⟨none, ∅, ⟨2, 1⟩, .normal, 1, ()⟩),
      .bufferSetBuffer 2 (some (image true)) none, .bufferSetBuffer 2 (some (image false)) none]).getD (init true)

/-- The panel could be seen through it, and is not looked at again: buffers have to be `Steady`. -/
theorem openedScene_stale :
    (0, 0) ∉ openedScene.visible 1 ∧ ∀ e ∈ openedScene.nodes, e.id = 2 → (0, 0) ∉ e.opaqueRegion inks := by
  decide +kernel

/-- The menu moves to the other pixel. -/
def movedScene : SceneGraph Unit (Option Bool) :=
  (Run.run (SceneGraph.step inks) { menuScene with damage := ∅ } [.setPosition 2 (1, 0)]).getD menuScene

theorem movedScene_calls (ground : Ground (Option Bool)) : menuScene.Calls inks ground movedScene :=
  ⟨[.setPosition 2 (1, 0)], rfl, ⟨⟨trivial, trivial, menuScene_honest⟩, trivial⟩⟩

theorem movedScene_honest : movedScene.Honest inks := by
  have hnodes : movedScene.nodes =
      [⟨⟨2, true, (1, 0), .rect ⟨1, 1⟩ (some false)⟩, (1, 0)⟩,
        ⟨⟨1, true, (0, 0), .rect ⟨2, 1⟩ (some true)⟩, (0, 0)⟩] := rfl
  intro e he
  rw [hnodes] at he
  rcases List.mem_pair.mp he with rfl | rfl <;> exact rect_honest _ _

/-- The damaged frame over the old picture is the new picture. -/
theorem movedScene_shown :
    movedScene.render inks true (0, 0) ⟨3, 1⟩ movedScene.damage (menuScene.picture inks (some false)) (1, 0) =
      movedScene.picture inks (some false) (1, 0) :=
  (frame_shows_picture menuScene_made (movedScene_calls _) movedScene_honest
    (fun _ p _ => by rw [Int.add_zero, Int.add_zero]; rfl)
    (fun _ p _ h => by rwa [Int.add_zero, Int.add_zero] at h) (by decide +kernel)).2 (.inl rfl)

end SceneGraph

end Wlx
