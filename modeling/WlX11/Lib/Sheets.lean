import Mathlib.Data.Finset.Basic
import Mathlib.Data.List.Nodup

/-!
# Sheets — what is seen of a stack

Sheets of any shape lie on top of each other, the top one first in the list. A sheet hides what is below it
where it is solid. What is seen of each of them is kept as a set of points, and is brought up to date in a
region only. Nothing in this module is about any particular program.

* **`Sheet`** — the points it lies on, those where it is solid, and what it does to the colour below.
* **`Seen`** — the sets that are kept are what is seen of each sheet.
* **`paint`**, **`paint_exchange`** — some sheets go and others come: the picture changes only where they are
  seen.
* **`SeenAt.paint_map_congr`** — what is not seen may look like anything.
* **`paintSeen`**, **`paintSeen_eq_paint`** — it is enough to draw what is seen.
* **`refresh`**, **`Seen.refresh`** — where they were seen, and where they lie now, is all there is to look at.
-/

universe u v w

structure Sheet (ι : Type u) (X : Type v) (Color : Type w) where
  key : ι
  box : Finset X
  solid : Finset X
  solid_subset : solid ⊆ box
  tint : X → Color → Color

namespace Sheet

variable {ι : Type u} {X : Type v} {Color : Type w}

/-! ## What is seen -/

/-- One of them hides what is below. -/
def Cover (L : List (Sheet ι X Color)) (p : X) : Prop := ∃ l ∈ L, p ∈ l.solid

/-- What is kept is right at a point, where `above` says whether something above the list hides it. -/
def SeenAt (seen : ι → Finset X) (p : X) (above : Prop) : List (Sheet ι X Color) → Prop
  | [] => True
  | l :: L => (p ∈ l.box → (p ∈ seen l.key ↔ ¬ above)) ∧ SeenAt seen p (above ∨ p ∈ l.solid) L

def Seen (seen : ι → Finset X) (L : List (Sheet ι X Color)) : Prop := ∀ p, SeenAt seen p False L

variable {seen seen' : ι → Finset X} {p : X} {above : Prop} {L M A B N : List (Sheet ι X Color)}
  {l : Sheet ι X Color}

theorem cover_cons : Cover (l :: L) p ↔ p ∈ l.solid ∨ Cover L p := by
  simp only [Cover, List.mem_cons, exists_eq_or_imp]

theorem seenAt_append :
    SeenAt seen p above (L ++ M) ↔ SeenAt seen p above L ∧ SeenAt seen p (above ∨ Cover L p) M := by
  induction L generalizing above with
  | nil => simp [SeenAt, Cover]
  | cons l L ih =>
    rw [List.cons_append, SeenAt, SeenAt, ih, and_assoc, cover_cons, or_assoc]

theorem SeenAt.congr (h : SeenAt seen p above L)
    (hsame : ∀ l ∈ L, p ∈ l.box → (p ∈ seen' l.key ↔ p ∈ seen l.key)) : SeenAt seen' p above L := by
  induction L generalizing above with
  | nil => trivial
  | cons l L ih =>
    obtain ⟨hl, hL⟩ := h
    refine ⟨fun hp => ?_, ih hL fun m hm => hsame m (List.mem_cons_of_mem l hm)⟩
    rw [hsame l List.mem_cons_self hp]
    exact hl hp

/-- It is only a matter of where the sheets are, and where they are solid. -/
theorem seenAt_congr_sheets (h : L.map (fun l => (l.key, l.box, l.solid)) = M.map fun l => (l.key, l.box, l.solid)) :
    SeenAt seen p above L ↔ SeenAt seen p above M := by
  induction L generalizing M above with
  | nil => rw [List.map_eq_nil_iff.mp h.symm]
  | cons l L ih =>
    obtain ⟨m, M, rfl, hm, hM⟩ := List.map_eq_cons_iff.mp h.symm
    obtain ⟨hkey, hbox, hsolid⟩ : m.key = l.key ∧ m.box = l.box ∧ m.solid = l.solid := by simpa using hm
    rw [SeenAt, SeenAt, hkey, hbox, hsolid, ih hM.symm]

/-- What is not seen anywhere hides nothing that is not hidden anyway. -/
theorem SeenAt.above_of_cover (h : SeenAt seen p above N) (hN : ∀ n ∈ N, p ∈ n.box → p ∉ seen n.key)
    (hcover : Cover N p) : above := by
  induction N generalizing above with
  | nil =>
    obtain ⟨n, hn, -⟩ := hcover
    cases hn
  | cons n N ih =>
    obtain ⟨hn, hrest⟩ := h
    have hself : p ∈ n.solid → above := by
      intro hp
      have hbox := n.solid_subset hp
      by_contra habove
      exact hN n List.mem_cons_self hbox ((hn hbox).mpr habove)
    rcases cover_cons.mp hcover with hp | hcover
    · exact hself hp
    · exact (ih hrest (fun m hm => hN m (List.mem_cons_of_mem n hm)) hcover).elim (fun h => h) hself

theorem SeenAt.drop (h : SeenAt seen p above (A ++ N ++ B))
    (hN : ∀ n ∈ N, p ∈ n.box → p ∉ seen n.key) : SeenAt seen p above (A ++ B) := by
  rw [List.append_assoc, seenAt_append, seenAt_append] at h
  obtain ⟨hA, hN', hB⟩ := h
  have hcover : ((above ∨ Cover A p) ∨ Cover N p) = (above ∨ Cover A p) :=
    propext ⟨fun hor => hor.elim (fun h => h) fun hcover => hN'.above_of_cover hN hcover, .inl⟩
  rw [hcover] at hB
  exact seenAt_append.mpr ⟨hA, hB⟩

theorem SeenAt.insert (h : SeenAt seen p above (A ++ B)) (hN : ∀ n ∈ N, p ∉ n.box) :
    SeenAt seen p above (A ++ N ++ B) := by
  obtain ⟨hA, hB⟩ := seenAt_append.mp h
  have hcover : (above ∨ Cover (A ++ N) p) = (above ∨ Cover A p) := by
    refine propext (or_congr_right ⟨?_, ?_⟩)
    · rintro ⟨l, hl, hp⟩
      rcases List.mem_append.mp hl with hl | hl
      · exact ⟨l, hl, hp⟩
      · exact absurd (l.solid_subset hp) (hN l hl)
    · exact fun ⟨l, hl, hp⟩ => ⟨l, List.mem_append_left N hl, hp⟩
  have hboxes : ∀ above, SeenAt seen p above N := by
    clear h hcover hB
    induction N with
    | nil => exact fun _ => trivial
    | cons n N ih =>
      intro above
      refine ⟨fun hp => absurd hp (hN n List.mem_cons_self), ?_⟩
      exact ih (fun m hm => hN m (List.mem_cons_of_mem n hm)) _
  refine seenAt_append.mpr ⟨seenAt_append.mpr ⟨hA, hboxes _⟩, ?_⟩
  rwa [hcover]

theorem seenAt_filter {near : Sheet ι X Color → Bool} (hnear : ∀ l ∈ L, near l = false → p ∉ l.box) :
    SeenAt seen p above (L.filter near) ↔ SeenAt seen p above L := by
  induction L generalizing above with
  | nil => rfl
  | cons l L ih =>
    have hL := fun m hm => hnear m (List.mem_cons_of_mem l hm)
    cases hl : near l with
    | true => rw [List.filter_cons_of_pos hl, SeenAt, SeenAt, ih hL]
    | false =>
      have hp := hnear l List.mem_cons_self hl
      have hsolid : p ∉ l.solid := fun hs => hp (l.solid_subset hs)
      rw [List.filter_cons_of_neg (by rw [hl]; exact Bool.false_ne_true), SeenAt, ih hL,
        or_iff_left hsolid]
      exact ⟨fun h => ⟨fun hbox => absurd hbox hp, h⟩, And.right⟩

/-! ## The picture -/

variable [DecidableEq X] {A' B' N' : List (Sheet ι X Color)} {backdrop c c' : Color}

/-- Where it is solid, what is below does not matter. -/
def Hides (l : Sheet ι X Color) : Prop := ∀ p ∈ l.solid, ∀ c c', l.tint p c = l.tint p c'

/-- All of them drawn, from the bottom. -/
def paint (backdrop : Color) (L : List (Sheet ι X Color)) (p : X) : Color :=
  L.foldr (fun l c => if p ∈ l.box then l.tint p c else c) backdrop

theorem paint_cons : paint backdrop (l :: L) p =
    if p ∈ l.box then l.tint p (paint backdrop L p) else paint backdrop L p := rfl

theorem paint_append : paint backdrop (A ++ B) p = paint (paint backdrop B p) A p :=
  List.foldr_append

theorem paint_of_cover (hides : ∀ l ∈ A, l.Hides) (hcover : Cover A p) : paint c A p = paint c' A p := by
  induction A with
  | nil =>
    obtain ⟨l, hl, -⟩ := hcover
    cases hl
  | cons l A ih =>
    rw [paint_cons, paint_cons]
    rcases cover_cons.mp hcover with hp | hcover
    · rw [if_pos (l.solid_subset hp), if_pos (l.solid_subset hp)]
      exact hides l List.mem_cons_self p hp _ _
    · rw [ih (fun m hm => hides m (List.mem_cons_of_mem l hm)) hcover]

theorem paint_of_notMem (hN : ∀ n ∈ N, p ∉ n.box) : paint c N p = c := by
  induction N with
  | nil => rfl
  | cons n N ih =>
    rw [paint_cons, if_neg (hN n List.mem_cons_self)]
    exact ih fun m hm => hN m (List.mem_cons_of_mem n hm)

/-- A sheet is as good as another that does the same to what is below. -/
theorem paint_replace {l l' : Sheet ι X Color} (hbox : p ∈ l.box ↔ p ∈ l'.box)
    (htint : p ∈ l.box → ∀ c, l.tint p c = l'.tint p c) :
    paint backdrop (A ++ [l] ++ B) p = paint backdrop (A ++ [l'] ++ B) p := by
  have hone : ∀ c, paint c [l] p = paint c [l'] p := by
    intro c
    rw [paint_cons, paint_cons]
    show (if p ∈ l.box then l.tint p c else c) = if p ∈ l'.box then l'.tint p c else c
    by_cases hp : p ∈ l.box
    · rw [if_pos hp, if_pos (hbox.mp hp), htint hp]
    · rw [if_neg hp, if_neg fun hp' => hp (hbox.mpr hp')]
  simp only [paint_append, hone]

/-- What is not seen is not in the picture. -/
theorem SeenAt.paint_drop (h : SeenAt seen p False (A ++ N ++ B)) (hides : ∀ l ∈ A, l.Hides)
    (hN : ∀ n ∈ N, p ∈ n.box → p ∉ seen n.key) :
    paint backdrop (A ++ N ++ B) p = paint backdrop (A ++ B) p := by
  rw [List.append_assoc, paint_append, paint_append, paint_append]
  by_cases hbox : ∀ n ∈ N, p ∉ n.box
  · rw [paint_of_notMem hbox]
  · push Not at hbox
    obtain ⟨n, hn, hp⟩ := hbox
    obtain ⟨N₁, N₂, rfl⟩ := List.append_of_mem hn
    -- something above it hides it, and that is in `A` in the end
    rw [List.append_assoc, seenAt_append, List.append_assoc, seenAt_append] at h
    obtain ⟨-, hN₁, hsee, -⟩ := h
    have hcover : Cover A p := by
      have habove : (False ∨ Cover A p) ∨ Cover N₁ p := by
        by_contra hfree
        exact hN n hn hp ((hsee hp).mpr hfree)
      refine habove.elim (·.resolve_left fun h => h) fun hcover => ?_
      exact (hN₁.above_of_cover (fun m hm => hN m (List.mem_append_left _ hm)) hcover).resolve_left fun h => h
    exact paint_of_cover hides hcover

/-- **The picture changes where what goes and comes is seen**, and nowhere else. -/
theorem paint_exchange (h : Seen seen (A ++ N ++ B)) (h' : Seen seen' (A' ++ N' ++ B'))
    (hrest : A ++ B = A' ++ B') (hides : ∀ l ∈ A ++ B, l.Hides)
    (hold : ∀ n ∈ N, p ∈ n.box → p ∉ seen n.key) (hnew : ∀ n ∈ N', p ∈ n.box → p ∉ seen' n.key) :
    paint backdrop (A ++ N ++ B) p = paint backdrop (A' ++ N' ++ B') p := by
  have hides' : ∀ l ∈ A', l.Hides := fun l hl => hides l (hrest ▸ List.mem_append_left B' hl)
  calc paint backdrop (A ++ N ++ B) p
      = paint backdrop (A ++ B) p :=
        (h p).paint_drop (fun l hl => hides l (List.mem_append_left B hl)) hold
    _ = paint backdrop (A' ++ B') p := by rw [hrest]
    _ = paint backdrop (A' ++ N' ++ B') p := ((h' p).paint_drop hides' hnew).symm

/-- Two ways to look at the same stack: it is enough that they agree on what is seen of each sheet. -/
theorem SeenAt.paint_map_congr {α : Type*} {K : List α} {f g : α → Sheet ι X Color}
    (h : SeenAt seen p above (K.map f)) (habove : ¬ above) (hbox : ∀ a ∈ K, (g a).box = (f a).box)
    (hides : ∀ a ∈ K, (f a).Hides)
    (htint : ∀ a ∈ K, p ∈ (f a).box → p ∈ seen (f a).key → ∀ c, (f a).tint p c = (g a).tint p c) :
    paint backdrop (K.map f) p = paint backdrop (K.map g) p := by
  induction K generalizing above with
  | nil => rfl
  | cons a K ih =>
    obtain ⟨ha, hK⟩ := h
    have ih' := fun hnot => ih hK (not_or.mpr ⟨habove, hnot⟩) (fun b hb => hbox b (List.mem_cons_of_mem a hb))
      (fun b hb => hides b (List.mem_cons_of_mem a hb)) fun b hb => htint b (List.mem_cons_of_mem a hb)
    rw [List.map_cons, List.map_cons, paint_cons, paint_cons, hbox a List.mem_cons_self]
    by_cases hp : p ∈ (f a).box
    · have hsame := htint a List.mem_cons_self hp ((ha hp).mpr habove)
      rw [if_pos hp, if_pos hp, ← hsame]
      -- below a solid sheet the two may differ, but nothing of it is seen
      by_cases hsolid : p ∈ (f a).solid
      · exact hides a List.mem_cons_self p hsolid _ _
      · rw [ih' hsolid]
    · rw [if_neg hp, if_neg hp]
      exact ih' fun hsolid => hp ((f a).solid_subset hsolid)

/-! ## To draw what is seen -/

variable {drawn : Sheet ι X Color → Bool}

/-- Those that are drawn, where they are seen. -/
def paintSeen (seen : ι → Finset X) (drawn : Sheet ι X Color → Bool) (c : Color)
    (L : List (Sheet ι X Color)) (p : X) : Color :=
  L.foldr (fun l c => if drawn l ∧ p ∈ l.box ∧ p ∈ seen l.key then l.tint p c else c) c

theorem paintSeen_cons : paintSeen seen drawn c (l :: L) p =
    if drawn l ∧ p ∈ l.box ∧ p ∈ seen l.key then l.tint p (paintSeen seen drawn c L p)
    else paintSeen seen drawn c L p := rfl

theorem SeenAt.paintSeen_of_above (h : SeenAt seen p above L) (habove : above) :
    paintSeen seen drawn c L p = c := by
  induction L generalizing above with
  | nil => rfl
  | cons l L ih =>
    rw [paintSeen_cons, if_neg, ih h.2 (.inl habove)]
    exact fun hl => (h.1 hl.2.1).mp hl.2.2 habove

/-- **It is enough to draw what is seen**, and to leave out what does nothing, or what shows the backdrop. -/
theorem SeenAt.paintSeen_eq_paint (h : SeenAt seen p above L) (habove : ¬ above)
    (hides : ∀ l ∈ L, l.Hides)
    (hskip : ∀ l ∈ L, drawn l = false → p ∈ l.box → p ∈ seen l.key →
      (∀ c, l.tint p c = c) ∨ p ∈ l.solid ∧ ∀ c, l.tint p c = backdrop) :
    paintSeen seen drawn backdrop L p = paint backdrop L p := by
  induction L generalizing above with
  | nil => rfl
  | cons l L ih =>
    obtain ⟨hl, hL⟩ := h
    have ih' := fun hnot => ih hL (not_or.mpr ⟨habove, hnot⟩)
      (fun m hm => hides m (List.mem_cons_of_mem l hm)) fun m hm => hskip m (List.mem_cons_of_mem l hm)
    rw [paintSeen_cons, paint_cons]
    by_cases hbox : p ∈ l.box
    · rw [if_pos hbox]
      by_cases hsolid : p ∈ l.solid
      · rw [hL.paintSeen_of_above (.inr hsolid)]
        cases hdrawn : drawn l with
        | true =>
          rw [if_pos ⟨rfl, hbox, (hl hbox).mpr habove⟩]
          exact hides l List.mem_cons_self p hsolid _ _
        | false =>
          rw [if_neg fun hcond => Bool.false_ne_true hcond.1, hides l List.mem_cons_self p hsolid _ backdrop]
          exact (hskip l List.mem_cons_self hdrawn hbox ((hl hbox).mpr habove)).elim (fun hid => (hid _).symm)
            fun hconst => (hconst.2 _).symm
      · rw [ih' hsolid]
        cases hdrawn : drawn l with
        | true => rw [if_pos ⟨rfl, hbox, (hl hbox).mpr habove⟩]
        | false =>
          rw [if_neg fun hcond => Bool.false_ne_true hcond.1]
          exact (hskip l List.mem_cons_self hdrawn hbox ((hl hbox).mpr habove)).elim (fun hid => (hid _).symm)
            fun hconst => absurd hconst.1 hsolid
    · rw [if_neg hbox, if_neg fun hcond => hbox hcond.2.1]
      exact ih' fun hsolid => hbox (l.solid_subset hsolid)

/-- Where one that is drawn is solid and seen, it does not matter what there was. -/
theorem paintSeen_congr (hides : ∀ l ∈ L, l.Hides)
    (hdrawn : ∃ l ∈ L, drawn l = true ∧ p ∈ l.solid ∧ p ∈ seen l.key) :
    paintSeen seen drawn c L p = paintSeen seen drawn c' L p := by
  induction L with
  | nil =>
    obtain ⟨l, hl, -⟩ := hdrawn
    cases hl
  | cons m L ih =>
    obtain ⟨l, hl, hd, hsolid, hseen⟩ := hdrawn
    rw [paintSeen_cons, paintSeen_cons]
    rcases List.mem_cons.mp hl with rfl | hl
    · have hcond : drawn l = true ∧ p ∈ l.box ∧ p ∈ seen l.key := ⟨hd, l.solid_subset hsolid, hseen⟩
      rw [if_pos hcond, if_pos hcond]
      exact hides l List.mem_cons_self p hsolid _ _
    · rw [ih (fun m' hm' => hides m' (List.mem_cons_of_mem m hm')) ⟨l, hl, hd, hsolid, hseen⟩]

/-! ## To look again in a region -/

variable [DecidableEq ι] {region : Finset X}

/-- Look at a sheet, where nothing above hides the region. -/
def refreshOne (region : Finset X) (state : (ι → Finset X) × Finset X) (l : Sheet ι X Color) :
    (ι → Finset X) × Finset X :=
  (Function.update state.1 l.key (((state.1 l.key \ region) ∪ state.2) ∩ l.box), state.2 \ l.solid)

/-- Look at the sheets that are near the region, from the top. -/
def refresh (near : Sheet ι X Color → Bool) (region : Finset X) (seen : ι → Finset X)
    (L : List (Sheet ι X Color)) : ι → Finset X :=
  ((L.filter near).foldl (refreshOne region) (seen, region)).1

theorem foldl_refreshOne_other {state : (ι → Finset X) × Finset X} {i : ι} (hi : i ∉ L.map (·.key)) :
    (L.foldl (refreshOne region) state).1 i = state.1 i := by
  induction L generalizing state with
  | nil => rfl
  | cons l L ih =>
    rw [List.map_cons, List.mem_cons, not_or] at hi
    rw [List.foldl_cons, ih hi.2]
    exact Function.update_of_ne hi.1 _ _

/-- Inside the region everything is as it is seen. -/
theorem seenAt_foldl_refreshOne {state : (ι → Finset X) × Finset X} (hids : (L.map (·.key)).Nodup)
    (hp : p ∈ region) (hstate : p ∈ state.2 ↔ ¬ above) :
    SeenAt (L.foldl (refreshOne region) state).1 p above L := by
  induction L generalizing state above with
  | nil => trivial
  | cons l L ih =>
    obtain ⟨hl, hL⟩ := List.nodup_cons.mp hids
    refine ⟨fun hbox => ?_, ih hL ?_⟩
    · rw [List.foldl_cons, foldl_refreshOne_other hl]
      simp [refreshOne, hbox, hp, hstate]
    · simp only [refreshOne, Finset.mem_sdiff, hstate, not_or]

/-- Outside of it nothing is touched. -/
theorem mem_foldl_refreshOne_outside {state : (ι → Finset X) × Finset X} (hids : (L.map (·.key)).Nodup)
    (hp : p ∉ region) (hstate : state.2 ⊆ region) (hl : l ∈ L) (hbox : p ∈ l.box) :
    p ∈ (L.foldl (refreshOne region) state).1 l.key ↔ p ∈ state.1 l.key := by
  induction L generalizing state with
  | nil => cases hl
  | cons m L ih =>
    obtain ⟨hm, hL⟩ := List.nodup_cons.mp hids
    have hstate' : (refreshOne region state m).2 ⊆ region := Finset.sdiff_subset.trans hstate
    rw [List.foldl_cons]
    rcases List.mem_cons.mp hl with rfl | hl
    · have hkept : p ∉ state.2 := fun h => hp (hstate h)
      rw [foldl_refreshOne_other hm]
      simp [refreshOne, hbox, hp, hkept]
    · rw [ih hL hstate' hl]
      have hne : l.key ≠ m.key := fun heq => hm (List.mem_map.mpr ⟨l, hl, heq⟩)
      have hkept : (refreshOne region state m).1 l.key = state.1 l.key := Function.update_of_ne hne _ _
      rw [hkept]

variable {near : Sheet ι X Color → Bool}

/-- **Sheets go and come.** Of the sheets in `N` what is seen is in the region, and those in `N'` lie in it:
to look again there is enough. -/
theorem Seen.refresh (h : Seen seen (A ++ N ++ B)) (hrest : A ++ B = A' ++ B')
    (hids : ((A' ++ N' ++ B').map (·.key)).Nodup)
    (hold : ∀ n ∈ N, ∀ p ∈ n.box, p ∈ seen n.key → p ∈ region) (hnew : ∀ n ∈ N', n.box ⊆ region)
    (hsame : ∀ l ∈ A ++ B, seen' l.key = seen l.key)
    (hnear : ∀ l ∈ A' ++ N' ++ B', near l = false → Disjoint l.box region) :
    Seen (Sheet.refresh near region seen' (A' ++ N' ++ B')) (A' ++ N' ++ B') := by
  have hfiltered : (((A' ++ N' ++ B').filter near).map (·.key)).Nodup :=
    hids.sublist (List.filter_sublist.map _)
  intro p
  by_cases hp : p ∈ region
  · refine (seenAt_filter fun l hl hfar hbox => ?_).mp (seenAt_foldl_refreshOne hfiltered hp (by simpa))
    exact Finset.disjoint_left.mp (hnear l hl hfar) hbox hp
  · have hgone : SeenAt seen' p False (A ++ B) := by
      refine ((h p).drop fun n hn hbox hseen => hp (hold n hn p hbox hseen)).congr fun l hl _ => ?_
      rw [hsame l hl]
    rw [hrest] at hgone
    refine (hgone.insert fun n hn hbox => hp (hnew n hn hbox)).congr fun l hl hbox => ?_
    cases hfar : near l with
    | true =>
      exact mem_foldl_refreshOne_outside hfiltered hp (Finset.Subset.refl _) (List.mem_filter.mpr ⟨hl, hfar⟩) hbox
    | false =>
      have hl' : l.key ∉ ((A' ++ N' ++ B').filter near).map (·.key) := by
        intro hmem
        obtain ⟨m, hm, heq⟩ := List.mem_map.mp hmem
        obtain ⟨hm, htrue⟩ := List.mem_filter.mp hm
        rw [List.inj_on_of_nodup_map hids hm hl heq, hfar] at htrue
        cases htrue
      rw [Sheet.refresh, foldl_refreshOne_other hl']

end Sheet
