import Mathlib.Data.List.DropRight
import WlX11.Lib.Rose
import WlX11.Dnd
import WlX11.PointerLookup

/-!
# WlX11 — the target of an outbound drag

Which X window the drag is over is a question to the X server: the windows under the root pointer
form a path, and the first one on it, from the deepest up, that is `XdndAware` is the target, unless
one of the bridge's own windows comes first.

`dnd_out_update_position` asks the compositor's scene first, at the cursor of the output layout. That
cursor follows the pointer at best roughly: it is clamped to the outputs, and the outputs lie side by
side in the layout wherever their windows are on the root. `surface_at_cursor` says of itself "mostly
unused for focus; kept for DnD".

* **`DragScreen.target`** — what the X server's windows say.
* **`DragScreen.targets_iff`** — the session follows them, and is independent of the cursor, exactly
  if the scene has nothing under the cursor while there is a target, and the search sees the window
  that decides.
-/

namespace Wlx

/-! ## The windows of the X server -/

/-- A window of the X server. -/
structure TreeWindow where
  window : XWindow
  /-- the places of the root where it is mapped and shown -/
  shows : Point → Bool
  /-- the first item of its `XdndAware` property -/
  aware : Option (BitVec 32)
  /-- the bridge has created it: for a toplevel, a popup, a subpresent, or as its helper -/
  created : Bool

/-- The windows of the X server, topmost first among siblings; the label at the root is the root. -/
abbrev WindowTree := Rose TreeWindow

namespace WindowTree

/-- The child `TranslateCoordinates`, and for the root `QueryPointer`, names. -/
def childAt (q : Point) (t : WindowTree) : Option WindowTree := t.children.find? (·.label.shows q)

/-- The windows under a place of the root, from the deepest up, without the root. -/
def pathAt (q : Point) (t : WindowTree) : List TreeWindow := Rose.trailOf (·.shows q) t.children

/-- "Descend into the deepest child under the pointer for a better starting point": at most `depth`
times. A window comes with those above it, as `QueryTree` will name them. -/
def descend (q : Point) : Nat → WindowTree → List TreeWindow → List TreeWindow
  | 0, t, above => t.label :: above
  | depth + 1, t, above =>
    match childAt q t with
    | none => t.label :: above
    | some child => descend q depth child (t.label :: above)

/-- The windows `dnd_find_aware_target` walks up through. -/
def walk (q : Point) (t : WindowTree) : List TreeWindow :=
  match childAt q t with
  | none => []
  | some child => descend q 16 child []

end WindowTree

/-- What `QueryTree` and `GetProperty` say of a window; the version is read as an `int`. -/
def TreeWindow.reply (x : TreeWindow) : WindowReply := ⟨x.window, x.aware.map BitVec.toInt⟩

/-! ## The scene under the layout's cursor -/

/-- `toSurface` for a place within a pixel. -/
def InputSurface.toSurfaceAt (f : InputSurface) (dest : Size) (h : ℚ × ℚ) : ℚ × ℚ :=
  if dest.isSet && f.size.isSet && decide (dest ≠ f.size) then
    (h.1 * f.size.width / dest.width, h.2 * f.size.height / dest.height)
  else h

/-- The scene, and the cursor of the output layout. -/
structure LayoutView where
  scene : List SceneNode
  surfaces : SurfaceRef → InputSurface
  cursor : ℚ × ℚ

/-- `surface_at_cursor` -/
def LayoutView.surfaceAtCursor (v : LayoutView) : Option SurfaceRef :=
  let accepts (b : SurfaceRef × Box) : Bool :=
    let f := v.surfaces b.1
    f.pointAcceptsInput (f.toSurfaceAt b.2.size (v.cursor.1 - b.2.x, v.cursor.2 - b.2.y))
  (SceneNode.childBufferAt accepts ⟨v.cursor.1.floor, v.cursor.2.floor⟩ v.scene ⟨0, 0⟩).map (·.1)

/-! ## An active session and what it is updated from -/

/-- An active outbound session, the X server and the compositor's scene. -/
structure DragScreen where
  bridge : Bridge
  active : bridge.dndOut.active = true
  text : bridge.dndOut.text ≠ none
  tree : WindowTree
  /-- a window has one place in the tree -/
  distinct : ((tree.reach fun _ => true).map (·.window)).Nodup
  /-- the root pointer -/
  pointer : Point
  layout : LayoutView

namespace DragScreen

variable (w : DragScreen)

/-- What `dnd_out_update_position` gets to see. -/
def view : PointerView where
  position := some (w.pointer.x, w.pointer.y)
  overSurface := w.layout.surfaceAtCursor.isSome
  under := (w.tree.walk w.pointer).map TreeWindow.reply

/-- The target after `dnd_out_update_position`. -/
def updated : Option XWindow := (w.bridge.dndOutUpdatePosition w.view).dndOut.target

/-- The window is the bridge's, or what the window manager has put around one of those. -/
def own (x : TreeWindow) : Bool := x.created || w.bridge.dndWindowIsOurs x.window

/-- The window that decides: the first under the pointer that is the bridge's or `XdndAware`. -/
def decides : Option TreeWindow :=
  (w.tree.pathAt w.pointer).find? fun x => w.own x || x.aware.isSome

/-- The target by the windows of the X server. -/
def target : Option XWindow := (w.decides.filter fun x => !w.own x).map (·.window)

/-- The search stops at the window. -/
def stops (x : TreeWindow) : Bool :=
  w.bridge.dndWindowIsOurs x.window || x.aware.any fun version => 0 ≤ version.toInt

/-- The window the search stops at, of the 17 topmost under the pointer. -/
def stopsAt : Option TreeWindow := ((w.tree.pathAt w.pointer).rtake 17).find? w.stops

/-- If the window that decides is a target, then nothing is under the layout's cursor, that window is
one of the 17 topmost and its version is no negative `int`. If it is the bridge's, something is under
the cursor, or the search stops at one it takes for the bridge's, if at any. -/
def Sees : Prop :=
  ∀ x ∈ w.decides,
    if w.own x then
      w.layout.surfaceAtCursor.isSome = true ∨
        ∀ y ∈ w.stopsAt, w.bridge.dndWindowIsOurs y.window = true
    else
      w.layout.surfaceAtCursor.isSome = false ∧
        x.window ∈ ((w.tree.pathAt w.pointer).rtake 17).map (·.window) ∧
        x.aware.all (fun version => 0 ≤ version.toInt) = true

instance : Decidable w.Sees :=
  inferInstanceAs (Decidable (∀ x ∈ w.decides,
    if w.own x then
      w.layout.surfaceAtCursor.isSome = true ∨
        ∀ y ∈ w.stopsAt, w.bridge.dndWindowIsOurs y.window = true
    else
      w.layout.surfaceAtCursor.isSome = false ∧
        x.window ∈ ((w.tree.pathAt w.pointer).rtake 17).map (·.window) ∧
        x.aware.all (fun version => 0 ≤ version.toInt) = true))

/-- Two states agree on the X server's windows, on the bridge's own among them, on the pointer and on
the target before. -/
structure Agrees (w w' : DragScreen) : Prop where
  tree : w'.tree = w.tree
  pointer : w'.pointer = w.pointer
  clipboardWindow : w'.bridge.clipboardWindow = w.bridge.clipboardWindow
  windows : w'.bridge.windows = w.bridge.windows
  target : w'.bridge.dndOut.target = w.bridge.dndOut.target

end DragScreen

/-! ## The search -/

namespace WindowTree

/-- The limited descent keeps the end of the path. -/
theorem descend_eq (q : Point) (depth : Nat) (t : WindowTree) (above : List TreeWindow) :
    t.descend q depth above = (t.trail (·.shows q)).rtake (depth + 1) ++ above := by
  induction depth generalizing t above with
  | zero =>
    rw [Rose.trail_eq, List.rtake_concat_succ, List.rtake_zero]
    rfl
  | succ depth ih =>
    rw [Rose.trail_eq, List.rtake_concat_succ, Rose.trailOf_eq, descend]
    show (match t.children.find? (·.label.shows q) with
      | none => t.label :: above
      | some child => descend q depth child (t.label :: above)) = _
    cases t.children.find? (·.label.shows q) with
    | none =>
      dsimp only
      rw [List.rtake_nil]
      rfl
    | some child =>
      dsimp only
      rw [ih, List.append_assoc]
      rfl

/-- The search walks up from the 17th window at most. -/
theorem walk_eq (q : Point) (t : WindowTree) : t.walk q = (t.pathAt q).rtake 17 := by
  unfold walk pathAt childAt
  rw [Rose.trailOf_eq]
  cases t.children.find? (·.label.shows q) with
  | none => rfl
  | some child =>
    dsimp only
    rw [descend_eq, List.append_nil]

/-- The windows on a path are windows of the tree, each once. -/
theorem pathAt_distinct {t : WindowTree} (h : ((t.reach fun _ => true).map (·.window)).Nodup)
    (q : Point) : ((t.pathAt q).map (·.window)).Nodup := by
  have hsub : (t.pathAt q).reverse.Sublist (t.reach fun _ => true) := by
    cases t with
    | node root children =>
      exact (Rose.reverse_trailOf_sublist _ children).trans (List.sublist_cons_self _ _)
  have hnodup := h.sublist (hsub.map (·.window))
  rwa [List.map_reverse, List.nodup_reverse] at hnodup

end WindowTree

/-- The first element of a list that meets a test is also the first in a final part of it that meets
a narrower test, if it is in that part and meets that test. -/
theorem find?_rtake {α : Type} {p q : α → Bool} {l : List α} {x : α} {n : Nat} (hnodup : l.Nodup)
    (hpq : ∀ a, q a = true → p a = true) (hfind : l.find? p = some x) (hmem : x ∈ l.rtake n)
    (hq : q x = true) : (l.rtake n).find? q = some x := by
  have hsplit : l.take (l.length - n) ++ l.rtake n = l := List.take_append_drop ..
  rw [← hsplit] at hfind hnodup
  -- nothing in the part before meets the test
  have hnone : (l.take (l.length - n)).find? p = none := by
    cases hfirst : (l.take (l.length - n)).find? p with
    | none => rfl
    | some y =>
      rw [List.find?_append, hfirst, Option.some_or] at hfind
      cases hfind
      exact absurd hmem ((List.nodup_append'.mp hnodup).2.2 (List.mem_of_find?_eq_some hfirst))
  rw [List.find?_append, hnone, Option.none_or] at hfind
  obtain ⟨-, before, after, hpart, hbefore⟩ := List.find?_eq_some_iff_append.mp hfind
  rw [List.find?_eq_some_iff_append]
  refine ⟨hq, before, after, hpart, fun a ha => ?_⟩
  have hnot := hbefore a ha
  cases hqa : q a with
  | false => rfl
  | true =>
    rw [hpq a hqa] at hnot
    cases hnot

/-- `dnd_find_aware_target` stops at the first window that is ours or has a version. -/
theorem Bridge.dndFindAwareTarget_eq (s : Bridge) (path : List TreeWindow) :
    s.dndFindAwareTarget (path.map TreeWindow.reply) =
      (path.find? fun x =>
          s.dndWindowIsOurs x.window || x.aware.any fun version => 0 ≤ version.toInt).bind
        fun x => if s.dndWindowIsOurs x.window then none
          else some (x.window, min 5 (dndGetAwareVersion x.reply)) := by
  induction path with
  | nil => rfl
  | cons x path ih =>
    have hversion : (0 ≤ dndGetAwareVersion x.reply) ↔
        (x.aware.any fun version => 0 ≤ version.toInt) = true := by
      unfold dndGetAwareVersion TreeWindow.reply
      cases x.aware with
      | none => simp
      | some version => simp
    rw [List.map_cons, dndFindAwareTarget, List.find?_cons, ih]
    show (if s.dndWindowIsOurs x.window then none else _) = _
    cases hours : s.dndWindowIsOurs x.window with
    | true => simp [hours]
    | false =>
      cases haware : x.aware.any fun version => 0 ≤ version.toInt with
      | true =>
        rw [if_neg (by simp), if_pos (hversion.mpr haware)]
        simp [hours, TreeWindow.reply]
      | false =>
        rw [if_neg (by simp), if_neg (fun h => by simp [hversion.mp h] at haware)]
        rfl

section Update

variable (s : Bridge)

theorem Bridge.dndOutLeave_target : s.dndOutLeave.dndOut.target = none := by
  unfold dndOutLeave
  split
  · assumption
  · rfl

theorem Bridge.dndOutEnter_target (target : XWindow) (version : Int) :
    (s.dndOutEnter target version).dndOut.target = some target := by
  unfold dndOutEnter
  split
  · assumption
  · rfl

/-- The target after an update of an active session. -/
theorem Bridge.dndOutUpdatePosition_target (hactive : s.dndOut.active = true)
    (htext : s.dndOut.text ≠ none) {view : PointerView} {x y : Int}
    (hposition : view.position = some (x, y)) :
    (s.dndOutUpdatePosition view).dndOut.target =
      if view.overSurface then none else (s.dndFindAwareTarget view.under).map Prod.fst := by
  unfold dndOutUpdatePosition
  rw [if_neg (by simp [hactive, htext]), hposition]
  dsimp only
  split
  · exact s.dndOutLeave_target
  · cases s.dndFindAwareTarget view.under with
    | none => exact s.dndOutLeave_target
    | some found => exact s.dndOutEnter_target found.1 found.2

end Update

namespace DragScreen

variable (w : DragScreen)

/-- What the program makes of the scene, the pointer and the windows. -/
theorem updated_eq :
    w.updated = if w.layout.surfaceAtCursor.isSome then none
      else (w.stopsAt.filter fun x => !w.bridge.dndWindowIsOurs x.window).map (·.window) := by
  unfold updated
  rw [w.bridge.dndOutUpdatePosition_target w.active w.text rfl]
  show (if w.layout.surfaceAtCursor.isSome then none else
    (w.bridge.dndFindAwareTarget ((w.tree.walk w.pointer).map TreeWindow.reply)).map Prod.fst) = _
  rw [WindowTree.walk_eq, Bridge.dndFindAwareTarget_eq]
  congr 1
  show (w.stopsAt.bind _).map Prod.fst = _
  cases w.stopsAt with
  | none => rfl
  | some y => cases hours : w.bridge.dndWindowIsOurs y.window <;> simp [hours, Option.filter]

/-- The search stops at windows only that decide. -/
theorem stops_decides {x : TreeWindow} (h : w.stops x = true) :
    (w.own x || x.aware.isSome) = true := by
  unfold stops at h
  unfold own
  rcases Bool.or_eq_true _ _ |>.mp h with hours | haware
  · simp [hours]
  · obtain ⟨version, hversion, -⟩ := (Option.any_eq_true ..).mp haware
    simp [hversion]

theorem stopsAt_mem {y : TreeWindow} (h : w.stopsAt = some y) : y ∈ w.tree.pathAt w.pointer :=
  List.drop_subset _ _ (List.mem_of_find?_eq_some h)

/-- Where nothing decides, nothing stops the search. -/
theorem stopsAt_of_none (hdecides : w.decides = none) : w.stopsAt = none := by
  cases hstops : w.stopsAt with
  | none => rfl
  | some y =>
    have hnot := List.find?_eq_none.mp hdecides y (w.stopsAt_mem hstops)
    exact absurd (w.stops_decides (List.find?_some hstops)) hnot

/-- The search finds the window that decides, if that is not the bridge's: it is among the topmost, and
its version is not negative. -/
theorem found_iff {x : TreeWindow} (hdecides : w.decides = some x) (hown : w.own x = false) :
    (w.stopsAt.filter fun y => !w.bridge.dndWindowIsOurs y.window).map (·.window) = some x.window ↔
      x.window ∈ ((w.tree.pathAt w.pointer).rtake 17).map (·.window) ∧
        x.aware.all (fun version => 0 ≤ version.toInt) = true := by
  have hdistinct := WindowTree.pathAt_distinct w.distinct w.pointer
  have hx : x ∈ w.tree.pathAt w.pointer := List.mem_of_find?_eq_some hdecides
  have hours : w.bridge.dndWindowIsOurs x.window = false := by
    unfold own at hown
    exact (Bool.or_eq_false_iff.mp hown).2
  have hsame {y : TreeWindow} (hy : y ∈ w.tree.pathAt w.pointer) (h : y.window = x.window) : y = x :=
    List.inj_on_of_nodup_map hdistinct hy hx h
  constructor
  · intro h
    obtain ⟨y, hy, hwindow⟩ := Option.map_eq_some_iff.mp h
    obtain ⟨hstops, -⟩ := Option.filter_eq_some_iff.mp hy
    obtain rfl := hsame (w.stopsAt_mem hstops) hwindow
    refine ⟨List.mem_map_of_mem (List.mem_of_find?_eq_some hstops), ?_⟩
    have hstop : w.stops y = true := List.find?_some hstops
    unfold stops at hstop
    rw [hours, Bool.false_or] at hstop
    obtain ⟨version, hversion, hpositive⟩ := (Option.any_eq_true ..).mp hstop
    simpa [hversion] using hpositive
  · rintro ⟨hmem, hversion⟩
    obtain ⟨y, hy, hwindow⟩ := List.mem_map.mp hmem
    obtain rfl := hsame (List.drop_subset _ _ hy) hwindow
    have haware : y.aware.isSome = true := by
      have hmeets := List.find?_some hdecides
      simpa [hown] using hmeets
    obtain ⟨version, hv⟩ := Option.isSome_iff_exists.mp haware
    have hstop : w.stops y = true := by
      unfold stops
      rw [hours, hv]
      simpa [hv] using hversion
    -- nothing above it stops the search, or it would decide
    have hstops : w.stopsAt = some y :=
      find?_rtake hdistinct.of_map (fun _ => w.stops_decides) hdecides hy hstop
    rw [hstops]
    simp [Option.filter, hours]

/-- **One update**: the session follows the windows of the X server exactly if the search sees the one
that decides. -/
theorem updated_eq_target_iff : w.updated = w.target ↔ w.Sees := by
  rw [updated_eq]
  unfold target Sees
  cases hdecides : w.decides with
  | none =>
    rw [w.stopsAt_of_none hdecides]
    simp
  | some x =>
    simp only [Option.mem_some_iff, forall_eq']
    cases hown : w.own x with
    | true =>
      -- the bridge's own: the session must have no target
      simp only [Option.filter_some, hown, Bool.not_true, Bool.false_eq_true, if_false, if_true,
        Option.map_none]
      cases hsurface : w.layout.surfaceAtCursor.isSome with
      | true => simp
      | false =>
        simp only [Bool.false_eq_true, if_false, false_or]
        cases hstops : w.stopsAt with
        | none => simp
        | some y => cases hours : w.bridge.dndWindowIsOurs y.window <;> simp [hours]
    | false =>
      simp only [Option.filter_some, hown, Bool.not_false, if_true, Option.map_some,
        Bool.false_eq_true, if_false]
      cases hsurface : w.layout.surfaceAtCursor.isSome with
      | true => simp
      | false =>
        simp only [Bool.false_eq_true, if_false, true_and]
        exact w.found_iff hdecides hown

theorem Agrees.target_eq {w w' : DragScreen} (h : w.Agrees w') : w'.target = w.target := by
  have hown : w'.own = w.own := by
    funext x
    unfold own Bridge.dndWindowIsOurs
    rw [h.clipboardWindow, h.windows]
  unfold DragScreen.target decides
  rw [hown, h.tree, h.pointer]

/-- **The target of an outbound drag.** For any two states that agree on the X server's windows, the
pointer and the target before: after an update the first has the first `XdndAware` window under the
pointer for its target, or none if the bridge's own come first, and the second has the same, whatever
is under the layouts' cursors, exactly if in both the search sees the window that decides. -/
theorem targets_iff (w w' : DragScreen) (hagree : w.Agrees w') :
    w.updated = w.target ∧ w'.updated = w.updated ↔ w.Sees ∧ w'.Sees := by
  rw [← w.updated_eq_target_iff, ← w'.updated_eq_target_iff, hagree.target_eq]
  constructor
  · rintro ⟨h, h'⟩
    exact ⟨h, h'.trans h⟩
  · rintro ⟨h, h'⟩
    exact ⟨h, h'.trans h.symm⟩

/-- A file manager's window 7 on the root 1, with the pointer at (300, 20), and a toplevel of 200x100
in a corner of the layout, with the cursor at `cursor`. -/
def overFileManager (cursor : ℚ × ℚ) : DragScreen where
  bridge :=
    let s := Bridge.fresh 2
    { s with dndOut := { s.dndOut with active := true, text := some [104, 105] } }
  active := rfl
  text := nofun
  tree := .node ⟨1, fun _ => true, none, false⟩
    [.node ⟨7, fun q => 250 ≤ q.x, some 5, false⟩ [.node ⟨8, fun q => q.y < 50, none, false⟩ []]]
  distinct := by decide
  pointer := ⟨300, 20⟩
  layout := ⟨[.tree true ⟨0, 0⟩ [.buffer true ⟨0, 0⟩ ⟨200, 100⟩ ⟨0, 0⟩]],
    fun _ => ⟨⟨200, 100⟩, fun _ _ => true⟩, cursor⟩

/-- With the cursor beside the toplevel the file manager is entered. -/
theorem targets_over_file_manager :
    (overFileManager (300, 20)).updated = (overFileManager (300, 20)).target ∧
      (overFileManager (250, 7)).updated = (overFileManager (300, 20)).updated :=
  (targets_iff (overFileManager (300, 20)) (overFileManager (250, 7)) ⟨rfl, rfl, rfl, rfl, rfl⟩).mpr
    (by decide +kernel)

/-- With the cursor held over the toplevel by the edge of the layout it is not. -/
theorem cursor_hides_file_manager :
    ¬ ∀ w w' : DragScreen, w.Agrees w' → w.updated = w.target ∧ w'.updated = w.updated := by
  intro h
  have hlost := h (overFileManager (300, 20)) (overFileManager (199, 20)) ⟨rfl, rfl, rfl, rfl, rfl⟩
  exact absurd hlost.2 (by decide +kernel)

end DragScreen

end Wlx
