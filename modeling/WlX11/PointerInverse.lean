import Mathlib.Tactic.FieldSimp
import Mathlib.Tactic.Linarith
import WlX11.PointerLookup

/-!
# WlX11 — delivered places and shown places

A pointer event should carry the place in the surface that is seen under the pointer: the distance
from where the surface's pixels begin on the root, divided by `--scale`. The lookup goes through the
scene, where all popups are parked in one place, and takes the size a buffer is drawn in for the
scale.

* **`HostSnapshot.Inverts`** — what is delivered is where it is shown, and what is seen and takes
  input gets the event.
* **`HostSnapshot.Fitting`** — what the lookup finds belongs to the window that is under the pointer,
  and its size was not rounded.
* **`inverts_iff_fitting`** — the two are equivalent, in every snapshot.
-/

namespace Wlx

/-! ## The scale -/

/-- Without a scale there is nothing to divide by. -/
theorem Config.wlxPointerToSurface_eq (cfg : Config) (x y : ℚ) :
    cfg.wlxPointerToSurface x y = (x / cfg.drawScale, y / cfg.drawScale) := by
  unfold wlxPointerToSurface drawScale
  split
  · next h => rw [if_neg (not_lt.mpr h), div_one, div_one]
  · next h =>
    rw [if_pos (not_le.mp h)]
    split
    · next h1 => rw [h1, div_one, div_one]
    · rfl

/-- The drawn size stands for the scale where it was not rounded, and at the edge. -/
theorem drawn_ratio_iff {s : ℚ} {h size dest : Int} (hs : 0 < s) (hdest : 0 < dest) :
    (h : ℚ) * size / dest = h / s ↔ h = 0 ∨ (size : ℚ) * s = dest := by
  have hdest' : (dest : ℚ) ≠ 0 := by exact_mod_cast hdest.ne'
  rw [div_eq_div_iff hdest' hs.ne', mul_assoc, mul_eq_mul_left_iff, Int.cast_eq_zero, or_comm]

/-- The target's own surface is shown where its corner is taken to be. -/
theorem corner_ratio_iff {s c : ℚ} {pix d : Int} (hs : 0 < s) :
    (pix : ℚ) / s + c = ((pix + d : Int) : ℚ) / s ↔ (d : ℚ) = c * s := by
  rw [Int.cast_add, add_div, add_right_inj, eq_div_iff hs.ne', eq_comm]

/-- A surface that takes input at a place of its node is drawn in a size of its own. -/
theorem InputSurface.toSurface_eq {f : InputSurface} {dest : Size} {h : Point}
    (hdest : dest.isSet = true) (hsize : f.size.isSet = true) :
    f.toSurface dest h =
      ((h.x : ℚ) * f.size.width / dest.width, (h.y : ℚ) * f.size.height / dest.height) := by
  unfold toSurface
  rw [hdest, hsize]
  split
  · rfl
  · next hne =>
    have heq : dest = f.size := by simpa using hne
    rw [Size.isSet_iff] at hsize
    have hw : (f.size.width : ℚ) ≠ 0 := by exact_mod_cast hsize.1.ne'
    have hh : (f.size.height : ℚ) ≠ 0 := by exact_mod_cast hsize.2.ne'
    rw [heq, mul_div_cancel_right₀ _ hw, mul_div_cancel_right₀ _ hh]

theorem InputSurface.size_of_accepts {f : InputSurface} {s : ℚ × ℚ}
    (h : f.pointAcceptsInput s = true) : f.size.isSet = true := by
  simp only [pointAcceptsInput, Bool.and_eq_true, decide_eq_true_eq] at h
  obtain ⟨⟨⟨hx, hx'⟩, hy, hy'⟩, -⟩ := h
  rw [Size.isSet_iff]
  have hw : (0 : ℚ) < f.size.width := lt_of_le_of_lt hx hx'
  have hh : (0 : ℚ) < f.size.height := lt_of_le_of_lt hy hy'
  exact ⟨by exact_mod_cast hw, by exact_mod_cast hh⟩

theorem Box.size_of_covers {b : Box} {q : Point} (h : b.covers q = true) :
    b.size.isSet = true := by
  simp only [covers, Bool.and_eq_true, decide_eq_true_eq] at h
  rw [Size.isSet_iff]
  show 0 < b.width ∧ 0 < b.height
  omega

/-! ## Targets -/

namespace PointerTarget

def box : PointerTarget → Box
  | .popup _ box | .subpresent _ box | .window _ box => box

/-- The surface that is taken where the scene has none. -/
def surface : PointerTarget → SurfaceRef
  | .popup pop _ => pop.surface
  | .subpresent sp _ => sp.surface
  | .window win _ => win.surface

/-- The place of this surface that is taken to be in the corner of the box. -/
def corner (cfg : Config) : PointerTarget → Point
  | .window win _ =>
    if !cfg.preferCsd && win.geometry.size.isSet then ⟨win.geometry.x, win.geometry.y⟩ else ⟨0, 0⟩
  | _ => ⟨0, 0⟩

end PointerTarget

namespace HostSnapshot

variable (s : HostSnapshot)

theorem defaultHit_eq (t : PointerTarget) :
    s.defaultHit t = ⟨t, t.surface,
      (((t.box.offset s.pointer).x : ℚ) / s.cfg.drawScale + (t.corner s.cfg).x,
        ((t.box.offset s.pointer).y : ℚ) / s.cfg.drawScale + (t.corner s.cfg).y)⟩ := by
  cases t with
  | popup pop box =>
    show PointerHit.mk _ _ _ = PointerHit.mk _ _ (_ + ((0 : Int) : ℚ), _ + ((0 : Int) : ℚ))
    rw [Config.wlxPointerToSurface_eq, Int.cast_zero, add_zero, add_zero]
    rfl
  | subpresent sp box =>
    show PointerHit.mk _ _ _ = PointerHit.mk _ _ (_ + ((0 : Int) : ℚ), _ + ((0 : Int) : ℚ))
    rw [Config.wlxPointerToSurface_eq, Int.cast_zero, add_zero, add_zero]
    rfl
  | window win box =>
    unfold defaultHit PointerTarget.corner
    dsimp only
    rw [Config.wlxPointerToSurface_eq]
    split
    · rfl
    · rw [Int.cast_zero, add_zero, add_zero]
      rfl

/-- The window of a target shows the place of the scene that is looked up. -/
theorem toScene_window (t : PointerTarget) :
    (s.window t).toScene s.pointer = s.scenePointer t := by
  cases t with
  | popup pop box => rfl
  | subpresent sp box =>
    have hback : ∀ a c : Int, a + (c - a) = c := fun a c => by omega
    show Point.mk (box.x + (s.pointer.x - box.x)) (box.y + (s.pointer.y - box.y)) = s.pointer
    rw [hback, hback]
  | window win box => rfl

theorem window_box (t : PointerTarget) : (s.window t).box = t.box := by cases t <;> rfl

/-! ## Delivered where it is shown -/

/-- What the pointer sees and what it gets are the same. -/
structure Inverts : Prop where
  /-- the place is the distance from where the surface is shown, divided by the scale -/
  place : ∀ hit ∈ s.surfaceUnderRootPointer, ∃ b ∈ (s.window hit.target).shown,
    b.1 = hit.surface ∧ hit.place = s.cfg.wlxPointerToSurface
      (s.pointer.x - ((s.window hit.target).origin b).x : Int)
      (s.pointer.y - ((s.window hit.target).origin b).y : Int)
  /-- a surface that takes input, and is not covered by another one, is hit -/
  hits : ∀ t ∈ s.pointed, ∀ b ∈ (s.window t).surfaceAt s.pointer,
    s.accepts ((s.window t).toScene s.pointer) b = true →
      ∃ hit ∈ s.surfaceUnderRootPointer, hit.surface = b.1

/-- The surface seen under the pointer, if there is one, takes no input there. -/
def TakesNothing : Prop :=
  ∀ t ∈ s.pointed, ∀ b ∈ (s.window t).surfaceAt s.pointer,
    s.accepts ((s.window t).toScene s.pointer) b = false

/-- What is found in the scene is what the window shows, drawn in exactly the scaled size or hit at
its edge; where nothing is found, the window shows the target's own surface, exactly where its
corner is taken to be. -/
def Fits (t : PointerTarget) : Prop :=
  match s.lookup t with
  | some b =>
    b ∈ (s.window t).shown ∧
      ((b.2.offset (s.scenePointer t)).x = 0 ∨
        ((s.surfaces b.1).size.width : ℚ) * s.cfg.drawScale = b.2.width) ∧
      ((b.2.offset (s.scenePointer t)).y = 0 ∨
        ((s.surfaces b.1).size.height : ℚ) * s.cfg.drawScale = b.2.height)
  | none =>
    ∃ b ∈ (s.window t).shown, b.1 = t.surface ∧
      ((s.window t).node.x - b.2.x : Int) = ((t.corner s.cfg).x : ℚ) * s.cfg.drawScale ∧
      ((s.window t).node.y - b.2.y : Int) = ((t.corner s.cfg).y : ℚ) * s.cfg.drawScale

/-- Besides, the pointer is in the X window of the target; or in another one that takes nothing
there. -/
def Fitting : Prop :=
  match s.target with
  | some t => s.Fits t ∧ (s.pointed.map s.window = some (s.window t) ∨ s.TakesNothing)
  | none => s.TakesNothing

/-! ## What is looked up -/

variable {s}

theorem presentWindow_of_findSome {pop : PointerTarget} (h : s.popupAtRootPointer = some pop) :
    ∃ p ∈ s.popups, ∃ box, p.rootBox = some box ∧ pop = .popup p box := by
  obtain ⟨p, hp, heq⟩ := List.exists_of_findSome?_eq_some h
  obtain ⟨-, heq⟩ := Option.ite_none_right_eq_some.mp heq
  obtain ⟨box, hbox, rfl⟩ := Option.map_eq_some_iff.mp heq
  exact ⟨p, hp, box, (Option.filter_eq_some_iff.mp hbox).1, rfl⟩

/-- A target is a popup, a subpresent, or the toplevel whose window the pointer is in. -/
theorem target_cases {t : PointerTarget} (h : s.target = some t) :
    (∃ pop ∈ s.popups, ∃ box, pop.rootBox = some box ∧ t = .popup pop box) ∨
      (∃ sp ∈ s.subpresents, ∃ box, sp.rootBox = some box ∧ t = .subpresent sp box) ∨
      (s.pointed = some t ∧ ∃ win box, t = .window win box) := by
  unfold target at h
  rw [Option.or_eq_some_iff, Option.or_eq_some_iff] at h
  rcases h with (h | ⟨-, h⟩) | ⟨-, h⟩
  · exact Or.inl (presentWindow_of_findSome h)
  · obtain ⟨sp, hsp, heq⟩ := List.exists_of_findSome?_eq_some h
    obtain ⟨-, heq⟩ := Option.ite_none_right_eq_some.mp heq
    obtain ⟨box, hbox, rfl⟩ := Option.map_eq_some_iff.mp heq
    exact Or.inr (Or.inl ⟨sp, hsp, box, (Option.filter_eq_some_iff.mp hbox).1, rfl⟩)
  · obtain ⟨hpointed, hwin⟩ := Option.filter_eq_some_iff.mp h
    refine Or.inr (Or.inr ⟨hpointed, ?_⟩)
    cases t with
    | popup pop box => cases hwin
    | subpresent sp box => cases hwin
    | window win box => exact ⟨win, box, rfl⟩

/-- A target is the toplevel under the pointer, or a present window. -/
theorem target_presented {t : PointerTarget} (h : s.target = some t) :
    s.pointed = some t ∨ t ∈ s.presentWindows := by
  rcases target_cases h with ⟨pop, hpop, box, hbox, rfl⟩ | ⟨sp, hsp, box, hbox, rfl⟩ | ⟨h, -⟩
  · refine Or.inr (List.mem_append_left _ (List.mem_filterMap.mpr ⟨pop, hpop, ?_⟩))
    rw [hbox]
    rfl
  · refine Or.inr (List.mem_append_right _ (List.mem_filterMap.mpr ⟨sp, hsp, ?_⟩))
    rw [hbox]
    rfl
  · exact Or.inl h

/-- **A lookup finds the topmost buffer of the scene** that is under the pointer and takes it. -/
theorem sceneAt_eq (q : Point) :
    s.sceneAt q = topmost (fun b => b.2.covers q && s.accepts q b) s.buffers :=
  SceneNode.childBufferAt_eq s.scene ⟨0, 0⟩

end HostSnapshot

namespace PointerState

variable {s : PointerState}

/-- Only subpresents are not looked up, and only they show what is not in the scene. -/
theorem lookup_cases {t : PointerTarget} (h : s.target = some t) :
    (s.lookup t = none ∧ ∃ box, s.window t = ⟨box, ⟨box.x, box.y⟩, [(t.surface, box)]⟩) ∨
      (s.lookup t = s.sceneAt (s.scenePointer t) ∧
        (s.window t).shown.Sublist s.buffers) := by
  rcases HostSnapshot.target_cases h with ⟨pop, hpop, box, -, rfl⟩ | ⟨sp, -, box, -, rfl⟩ |
    ⟨-, win, box, rfl⟩
  · refine Or.inr ⟨rfl, ?_⟩
    have htree := s.inScene pop hpop
    unfold HostSnapshot.window
    dsimp only
    split
    · exact List.filter_sublist.trans htree
    · exact htree
  · exact Or.inl ⟨rfl, box, rfl⟩
  · exact Or.inr ⟨rfl, List.filter_sublist⟩

theorem nodup_buffers : s.buffers.Nodup := s.distinct.of_map

/-- A surface has one buffer in the scene. -/
theorem buffer_unique {b b' : SurfaceRef × Box} (hb : b ∈ s.buffers) (hb' : b' ∈ s.buffers)
    (h : b.1 = b'.1) : b = b' :=
  List.inj_on_of_nodup_map s.distinct hb hb' h

/-- The distance of the pointer from where a surface is shown is its distance in the scene. -/
theorem origin_offset (t : PointerTarget) (b : SurfaceRef × Box) :
    (⟨s.pointer.x - ((s.window t).origin b).x, s.pointer.y - ((s.window t).origin b).y⟩ : Point) =
      b.2.offset (s.scenePointer t) := by
  rw [← s.toScene_window t]
  unfold HostWindow.origin HostWindow.toScene Point.add Box.offset
  dsimp only
  rw [Point.mk.injEq]
  omega

/-! ## The two are equivalent -/

theorem deliver_target (t : PointerTarget) : (s.deliver t).target = t := by
  unfold HostSnapshot.deliver
  cases s.lookup t with
  | some b => rfl
  | none => rw [s.defaultHit_eq]

/-- **The delivered place is where the surface is shown** iff what is found fits. -/
theorem placed_iff_fits {t : PointerTarget} (ht : s.target = some t) :
    (∃ b ∈ (s.window t).shown, b.1 = (s.deliver t).surface ∧
      (s.deliver t).place = s.cfg.wlxPointerToSurface
        (s.pointer.x - ((s.window t).origin b).x : Int)
        (s.pointer.y - ((s.window t).origin b).y : Int)) ↔ s.Fits t := by
  have hscale := s.cfg.drawScale_pos
  unfold HostSnapshot.Fits HostSnapshot.deliver
  cases hl : s.lookup t with
  | some c =>
    rcases lookup_cases ht with ⟨hnone, -⟩ | ⟨heq, hsub⟩
    · rw [hnone] at hl
      cases hl
    rw [heq, HostSnapshot.sceneAt_eq] at hl
    obtain ⟨hmem, htest⟩ := topmost_spec hl
    obtain ⟨hcovers, haccepts⟩ := (Bool.and_eq_true _ _).mp htest
    have hdest := Box.size_of_covers hcovers
    have hplace : s.placeIn (s.scenePointer t) c = _ :=
      InputSurface.toSurface_eq hdest (InputSurface.size_of_accepts haccepts)
    have hdest' := Size.isSet_iff.mp hdest
    dsimp only
    rw [hplace]
    -- the place of the pointer in the scene is the place on the root
    have hoffset := Point.mk.inj (origin_offset (s := s) t c)
    constructor
    · rintro ⟨b, hb, hbc, hp⟩
      obtain rfl := buffer_unique (hsub.subset hb) hmem hbc
      rw [Config.wlxPointerToSurface_eq, hoffset.1, hoffset.2] at hp
      obtain ⟨hx, hy⟩ := Prod.mk.inj hp
      exact ⟨hb, (drawn_ratio_iff hscale hdest'.1).mp hx, (drawn_ratio_iff hscale hdest'.2).mp hy⟩
    · rintro ⟨hc, hx, hy⟩
      refine ⟨c, hc, rfl, ?_⟩
      rw [Config.wlxPointerToSurface_eq, hoffset.1, hoffset.2]
      exact Prod.ext ((drawn_ratio_iff hscale hdest'.1).mpr hx)
        ((drawn_ratio_iff hscale hdest'.2).mpr hy)
  | none =>
    dsimp only
    rw [s.defaultHit_eq]
    refine exists_congr fun b => and_congr_right fun _ => and_congr_right fun _ => ?_
    have hx : s.pointer.x - ((s.window t).origin b).x =
        (t.box.offset s.pointer).x + ((s.window t).node.x - b.2.x) := by
      rw [← s.window_box t]
      unfold HostWindow.origin Box.offset
      dsimp only
      omega
    have hy : s.pointer.y - ((s.window t).origin b).y =
        (t.box.offset s.pointer).y + ((s.window t).node.y - b.2.y) := by
      rw [← s.window_box t]
      unfold HostWindow.origin Box.offset
      dsimp only
      omega
    rw [Config.wlxPointerToSurface_eq, hx, hy, Prod.mk.injEq, corner_ratio_iff hscale,
      corner_ratio_iff hscale]

/-- **The surface seen in the window that is looked up gets the event**, if what is found there fits
and the surface takes input. -/
theorem deliver_surface {t : PointerTarget} (ht : s.target = some t) (hfits : s.Fits t)
    {b : SurfaceRef × Box} (hb : (s.window t).surfaceAt s.pointer = some b)
    (ha : s.accepts ((s.window t).toScene s.pointer) b = true) : (s.deliver t).surface = b.1 := by
  unfold HostWindow.surfaceAt at hb
  obtain ⟨-, htop⟩ := Option.ite_none_right_eq_some.mp hb
  obtain ⟨hmem, hcovers⟩ := topmost_spec htop
  rw [s.toScene_window t] at htop hcovers ha
  unfold HostSnapshot.Fits at hfits
  unfold HostSnapshot.deliver
  rcases lookup_cases ht with ⟨hl, box, hwin⟩ | ⟨hl, hsub⟩
  · -- a subpresent's window shows nothing but its surface
    rw [hwin] at hmem
    rw [hl, List.mem_singleton.mp hmem]
    dsimp only
    rw [s.defaultHit_eq]
  · rw [hl, HostSnapshot.sceneAt_eq] at hfits ⊢
    cases hfound : topmost (fun b => b.2.covers (s.scenePointer t) &&
        s.accepts (s.scenePointer t) b) s.buffers with
    | some c =>
      rw [hfound] at hfits
      dsimp only
      rw [topmost_of_sublist hsub nodup_buffers htop ha hfound hfits.1]
    | none =>
      have hfalse := topmost_eq_none hfound (hsub.subset hmem)
      rw [hcovers, ha] at hfalse
      cases hfalse

end PointerState

/-- **The pointer sees and gets the same, in every snapshot**, iff what is found fits and the
pointer's X window is the one that was looked up, or takes nothing there. -/
theorem inverts_iff_fitting (s : PointerState) : s.Inverts ↔ s.Fitting := by
  unfold HostSnapshot.Fitting
  cases ht : s.target with
  | none =>
    have hnone : s.surfaceUnderRootPointer = none := by
      unfold HostSnapshot.surfaceUnderRootPointer
      rw [ht]
      rfl
    dsimp only
    constructor
    · intro h t htp b hb
      cases ha : s.accepts ((s.window t).toScene s.pointer) b with
      | false => rfl
      | true =>
        obtain ⟨hit, hhit, -⟩ := h.hits t htp b hb ha
        rw [hnone] at hhit
        cases hhit
    · intro h
      refine ⟨fun hit hhit => ?_, fun t htp b hb ha => ?_⟩
      · rw [hnone] at hhit
        cases hhit
      · rw [h t htp b hb] at ha
        cases ha
  | some t =>
    have hsome : s.surfaceUnderRootPointer = some (s.deliver t) := by
      unfold HostSnapshot.surfaceUnderRootPointer
      rw [ht]
      rfl
    dsimp only
    constructor
    · intro h
      obtain ⟨c, hc, hcs, hplace⟩ := h.place _ hsome
      rw [PointerState.deliver_target] at hc hplace
      refine ⟨(PointerState.placed_iff_fits ht).mp ⟨c, hc, hcs, hplace⟩, ?_⟩
      refine or_iff_not_imp_left.mpr fun hne t' ht' b hb => ?_
      -- another window than the one looked up is under the pointer, and shows other surfaces
      cases ha : s.accepts ((s.window t').toScene s.pointer) b with
      | false => rfl
      | true =>
        obtain ⟨hit, hhit, hsurface⟩ := h.hits t' ht' b hb ha
        rw [hsome] at hhit
        cases hhit
        have hdiff : s.window t' ≠ s.window t := by
          intro heq
          rw [Option.mem_def.mp ht'] at hne
          exact hne (congrArg some heq)
        rcases HostSnapshot.target_presented ht with hp | hp
        · rw [Option.mem_def.mp ht'] at hp
          cases hp
          exact absurd rfl hdiff
        · have hmem := (topmost_spec (Option.ite_none_right_eq_some.mp hb).2).1
          exact absurd (hcs.trans hsurface) (s.apart t hp t' ht' hdiff c hc b hmem)
    · rintro ⟨hfits, hpointed⟩
      refine ⟨fun hit hhit => ?_, fun t' ht' b hb ha => ?_⟩
      · rw [hsome] at hhit
        cases hhit
        rw [PointerState.deliver_target]
        exact (PointerState.placed_iff_fits ht).mpr hfits
      · refine ⟨_, hsome, ?_⟩
        rcases hpointed with heq | hnothing
        · rw [Option.mem_def.mp ht'] at heq
          rw [Option.some.inj heq] at hb ha
          exact PointerState.deliver_surface ht hfits hb ha
        · rw [hnothing t' ht' b hb] at ha
          cases ha

/-- A popup of one surface, parked where all popups are. -/
def parkedPopup (surface : Nat) (box : Box) : PointerPopup where
  surface := ⟨0, surface⟩
  mapped := true
  rootBox := some box
  node := ⟨-100000, -100000⟩
  tree := .tree true ⟨-100000, -100000⟩
    [.tree true ⟨0, 0⟩ [.buffer true ⟨0, 0⟩ box.size ⟨0, surface⟩]]
  direct := true

/-- A menu with an open submenu to its right, and the pointer in the upper left of the menu. -/
def menuAndSubmenu : HostSnapshot :=
  let menu := parkedPopup 1 ⟨100, 100, 200, 300⟩
  let submenu := parkedPopup 2 ⟨300, 150, 150, 100⟩
  { cfg := ⟨1, false⟩
    pointer := ⟨110, 120⟩
    scene := [menu.tree, submenu.tree]
    surfaces := fun f => ⟨if f.surface = 1 then ⟨200, 300⟩ else ⟨150, 100⟩, fun _ _ => true⟩
    popups := [submenu, menu]
    subpresents := []
    pointed := some (.popup menu ⟨100, 100, 200, 300⟩) }

/-- The trees of all popups are parked at one place, the newest on top: a pointer in the menu finds
the submenu. -/
theorem menu_finds_submenu : ¬ ∀ s : PointerState, s.Inverts := by
  intro h
  have hinverts := h { menuAndSubmenu with
    distinct := by decide
    inScene := by decide
    apart := by decide }
  have hfound : menuAndSubmenu.surfaceUnderRootPointer.map (·.surface) = some ⟨0, 2⟩ := by
    decide +kernel
  have hseen : (menuAndSubmenu.window (.popup (parkedPopup 1 ⟨100, 100, 200, 300⟩)
      ⟨100, 100, 200, 300⟩)).surfaceAt menuAndSubmenu.pointer =
      some (⟨0, 1⟩, ⟨-100000, -100000, 200, 300⟩) := by
    decide +kernel
  obtain ⟨hit, hhit, hsurface⟩ := hinverts.hits _ rfl _ hseen (by decide +kernel)
  rw [Option.mem_def.mp hhit, Option.map_some, hsurface] at hfound
  exact absurd hfound (by decide)

end Wlx
