import Mathlib.Data.List.MinMax
import Mathlib.Data.List.Nodup
import Mathlib.Data.List.TakeWhile
import WlX11.Lib.Rose
import WlX11.Lib.Run
import WlX11.Selection

/-!
# WlX11 — which X window is the content

A toplevel knows three kinds of X windows: `xwin`, the decoration frame once the host's window manager
has made one, `content_xwin`, the window the output draws to, and `related`, all that was found below
`xwin` when it was last looked at. A `ReparentNotify` of the content window makes the program look
again, and guess the content by its size.

* **`HostSession.Identified`** — for every toplevel with an output the content is the output's window,
  `xwin` is its parent, or itself if that is the root, and both are looked up to this toplevel.
* **`HostSession.identified_iff`** — the states of a run are identified exactly if at each map and
  each `ReparentNotify` the guess is right and nobody else claims the windows.
-/

namespace Wlx

/-- A window of the X server. -/
structure HostNode where
  window : XWindow
  width : Nat
  height : Nat
deriving DecidableEq

/-- The windows of the X server; the label at the root is `xcb_root`. -/
abbrev HostTree := Rose HostNode

/-- The windows a walk by `query_root_children` meets from `w` down. -/
def windowsBelow (t : HostTree) (w : XWindow) : List XWindow :=
  match t.find? (·.window = w) with
  | some s => (s.reach fun _ => true).map (·.window)
  | none => [w]

/-- What `xcb_get_geometry` makes of a window's area; a window that is gone has none. -/
def windowArea (t : HostTree) (w : XWindow) : Nat :=
  ((t.find? (·.window = w)).map fun s => s.label.width * s.label.height).getD 0

def parentWindow (t : HostTree) (w : XWindow) : Option XWindow :=
  (t.parent? (·.window = w)).map (·.window)

/-- `WLX_MAX_RELATED_WINDOWS`. -/
def wlxMaxRelatedWindows : Nat := 32

/-- `struct wlx_window`, as far as X windows go. -/
structure XToplevel where
  id : Nat
  /-- `wlr_x11_output_get_window`, if there is an output -/
  own : Option XWindow
  xwin : Option XWindow
  contentXwin : Option XWindow
  related : List XWindow
deriving DecidableEq

namespace XToplevel

/-- It is one of the windows `window_from_xwin` compares with. -/
def identifies (win : XToplevel) (w : XWindow) : Prop :=
  win.xwin = some w ∨ win.contentXwin = some w ∨ w ∈ win.related

instance (win : XToplevel) (w : XWindow) : Decidable (win.identifies w) :=
  inferInstanceAs (Decidable (_ ∨ _ ∨ _))

/-- `ewmh_target_window`. -/
def ewmhTargetWindow (win : XToplevel) : Option XWindow := win.contentXwin.or win.xwin

/-- `configure_target_window`. -/
def configureTargetWindow (win : XToplevel) : Option XWindow := win.ewmhTargetWindow

/-- `outer_position_window`. -/
def outerPositionWindow (win : XToplevel) : Option XWindow := win.xwin.or win.contentXwin

/-- `register_x11_window_subtree`. -/
def registerX11WindowSubtree (t : HostTree) (w : XWindow) (win : XToplevel) : XToplevel :=
  { win with related := (win.related ++ windowsBelow t w).take wlxMaxRelatedWindows }

/-- `find_content_window`: the largest of the registered windows but the frame. -/
def findContentWindow (t : HostTree) (win : XToplevel) : Option XWindow :=
  (win.related.foldl (fun (best : Option XWindow × Nat) w =>
    if win.xwin = some w then best
    else if best.2 < windowArea t w then (some w, windowArea t w)
    else best) (none, 0)).1

/-- `create_output_for_window`, once the output has its window. -/
def createOutput (t : HostTree) (own : XWindow) (win : XToplevel) : XToplevel :=
  let win : XToplevel :=
    { win with own := some own, xwin := some own, contentXwin := some own, related := [own] }
  let win := win.registerX11WindowSubtree t own
  match win.findContentWindow t with
  | some found => { win with contentXwin := some found }
  | none => win

/-- The `ReparentNotify` branch of `handle_xcb_readable`, for a toplevel with the frame `frame`: "Client
was reparented under a new frame". -/
def handleReparentNotify (t : HostTree) (window parent frame : XWindow) (win : XToplevel) :
    XToplevel :=
  let framed := parent ≠ t.label.window ∧
    (win.xwin = some window ∨ win.contentXwin = some window)
  let frame := if framed then parent else frame
  let win : XToplevel :=
    { win with
      contentXwin := if framed then some window else win.contentXwin
      xwin := some frame
      related := [] }
  let win := win.registerX11WindowSubtree t frame
  match win.findContentWindow t with
  | some found => { win with contentXwin := some found }
  | none => { win with contentXwin := win.contentXwin.or win.xwin }

/-- `output_destroy`. -/
def outputDestroy (win : XToplevel) : XToplevel :=
  { win with own := none, xwin := none, contentXwin := none, related := [] }

end XToplevel

/-- `server->windows`, newest first, and the windows of the X server. -/
structure HostSession where
  tree : HostTree
  windows : List XToplevel

inductive HostAction where
  /-- `server_new_xdg_toplevel` -/
  | newToplevel (id : Nat)
  /-- `create_output_for_window`: the output gets the window `own`, a child of the root -/
  | map (id : Nat) (own : XWindow) (tree : HostTree)
  /-- the host reparents the content window, and the program handles the `ReparentNotify` -/
  | reparent (id : Nat) (tree : HostTree)
  | unmap (id : Nat)
  | destroy (id : Nat)

namespace HostSession

def init (root : HostNode) : HostSession := ⟨.node root [], []⟩

/-- `window_from_xwin`. -/
def windowFromXwin (v : HostSession) (w : XWindow) : Option XToplevel :=
  v.windows.find? fun win => win.identifies w

def window (v : HostSession) (id : Nat) : Option XToplevel := v.windows.find? (·.id = id)

/-- A toplevel gets other X windows. -/
def update (v : HostSession) (id : Nat) (f : XToplevel → XToplevel) : HostSession :=
  { v with windows := v.windows.map fun win => if win.id = id then f win else win }

/-- The parent of a content window, or the window itself if that is the root. -/
def frameOf (v : HostSession) (own : XWindow) : XWindow :=
  match parentWindow v.tree own with
  | some p => if p = v.tree.label.window then own else p
  | none => own

/-- The host may do what it likes to its own windows, but the other toplevels' stay where they are. -/
def Leaves (v : HostSession) (id : Nat) (t : HostTree) : Prop :=
  t.label.window = v.tree.label.window ∧ ∀ win ∈ v.windows, win.id ≠ id →
    ∀ own ∈ win.own, parentWindow t own = parentWindow v.tree own

instance (v : HostSession) (id : Nat) (t : HostTree) : Decidable (v.Leaves id t) :=
  inferInstanceAs (Decidable (_ ∧ ∀ win ∈ v.windows, _ → ∀ own ∈ win.own, _))

def step (v : HostSession) : HostAction → Option HostSession
  | .newToplevel id =>
    if v.window id = none then some { v with windows := ⟨id, none, none, none, []⟩ :: v.windows }
    else none
  | .map id own t =>
    (v.window id).bind fun win =>
      if win.own = none ∧ v.Leaves id t ∧ parentWindow t own = some t.label.window then
        some { v.update id (·.createOutput t own) with tree := t }
      else none
  | .reparent id t =>
    (v.window id).bind fun win => win.own.bind fun own => (parentWindow t own).bind fun parent =>
      if v.Leaves id t then
        some
          { (match v.windowFromXwin own with
            | none => v
            | some found => match found.xwin with
              | none => v
              | some frame => v.update found.id (·.handleReparentNotify t own parent frame)) with
            tree := t }
      else none
  | .unmap id => (v.window id).map fun _ => v.update id (·.outputDestroy)
  | .destroy id => (v.window id).map fun _ => { v with windows := v.windows.filter (·.id ≠ id) }

/-- Each toplevel with an output knows its content window and its frame, and is found by both. -/
def Identified (v : HostSession) : Prop :=
  ∀ win ∈ v.windows, ∀ own ∈ win.own,
    win.contentXwin = some own ∧ win.xwin = some (v.frameOf own) ∧
      v.windowFromXwin own = some win ∧ v.windowFromXwin (v.frameOf own) = some win

instance (v : HostSession) : Decidable v.Identified :=
  inferInstanceAs (Decidable (∀ win ∈ v.windows, ∀ own ∈ win.own, _))

/-- The state the step leads to is identified. -/
def StaysIdentified (v : HostSession) (a : HostAction) : Prop :=
  ∀ v', v.step a = some v' → v'.Identified

/-- The toplevels that are searched before this one. -/
def before (v : HostSession) (id : Nat) : List XToplevel := v.windows.takeWhile (·.id ≠ id)

/-- Of the windows registered below the frame `x` the content `own` is the largest, and the first of
these; or there is none with an area. -/
def Prominent (t : HostTree) (own x : XWindow) (below : List XWindow) : Prop :=
  let seen := below.filter fun w => w ≠ x ∧ 0 < windowArea t w
  seen = [] ∨ own ∈ seen ∧ (∀ w ∈ seen, windowArea t w ≤ windowArea t own) ∧
    ∀ w ∈ seen, windowArea t own ≤ windowArea t w → seen.idxOf own ≤ seen.idxOf w

/-- No toplevel that is searched before this one claims its windows, and it claims none of those that
are searched after it. -/
def Unclaimed (v : HostSession) (id : Nat) (own x : XWindow) (below : List XWindow) : Prop :=
  (∀ u ∈ v.before id, ¬u.identifies own ∧ ¬u.identifies x) ∧
    ∀ u ∈ v.windows, u.id ≠ id → id ∈ (v.before u.id).map (·.id) → ∀ own' ∈ u.own,
      ∀ w ∈ [own', v.frameOf own'], w ≠ x ∧ w ≠ own ∧ w ∉ below

/-- The guess is right, and nobody else claims the windows; and no content window comes back to the
root. -/
def Discerns (v : HostSession) : HostAction → Prop
  | .map id own t =>
    let below := (own :: windowsBelow t own).take wlxMaxRelatedWindows
    Prominent t own own below ∧ v.Unclaimed id own own below
  | .reparent id t =>
    ∀ win ∈ v.window id, ∀ own ∈ win.own, ∀ parent ∈ parentWindow t own,
      let x := if parent = t.label.window then own else parent
      let below := (windowsBelow t x).take wlxMaxRelatedWindows
      (parent = t.label.window → win.xwin = some own) ∧ Prominent t own x below ∧
        v.Unclaimed id own x below
  | .newToplevel _ | .unmap _ | .destroy _ => True

end HostSession

/-! ## The guess -/

namespace XToplevel

variable {t : HostTree} {win : XToplevel}

/-- What the search has after a part of the list is the best of that part. -/
theorem foldl_best (x : Option XWindow) (area : XWindow → Nat) (ws : List XWindow)
    (best : Option XWindow) :
    (ws.foldl (fun (best : Option XWindow × Nat) w =>
        if x = some w then best else if best.2 < area w then (some w, area w) else best)
      (best, (best.map area).getD 0)).1 =
    (ws.filter fun w => x ≠ some w ∧ 0 < area w).foldl (List.argAux fun b c => area c < area b) best := by
  induction ws generalizing best with
  | nil => rfl
  | cons w ws ih =>
    -- one window: it is passed over, or compared with the best
    have hstep : (if x = some w then (best, (best.map area).getD 0)
        else if (best.map area).getD 0 < area w then (some w, area w)
        else (best, (best.map area).getD 0)) =
        if x ≠ some w ∧ 0 < area w then
          (List.argAux (fun b c => area c < area b) best w,
            ((List.argAux (fun b c => area c < area b) best w).map area).getD 0)
        else (best, (best.map area).getD 0) := by
      by_cases hx : x = some w
      · simp [hx]
      · cases best with
        | none => simp [hx, List.argAux]
        | some c =>
          by_cases hbetter : area c < area w
          · have harea : 0 < area w := by omega
            simp [hx, harea, hbetter, List.argAux]
          · simp [hx, hbetter, List.argAux]
    rw [List.foldl_cons]
    dsimp only
    rw [hstep, List.filter_cons]
    by_cases hseen : x ≠ some w ∧ 0 < area w
    · rw [if_pos hseen, if_pos (by simpa using hseen), List.foldl_cons]
      exact ih _
    · rw [if_neg hseen, if_neg (by simpa using hseen)]
      exact ih _

theorem findContentWindow_eq_argmax {x : XWindow} (hx : win.xwin = some x) :
    win.findContentWindow t =
      (win.related.filter fun w => w ≠ x ∧ 0 < windowArea t w).argmax (windowArea t) := by
  have hbest := foldl_best win.xwin (windowArea t) win.related none
  unfold findContentWindow List.argmax
  rw [Option.map_none, Option.getD_none] at hbest
  rw [hbest, hx]
  congr 1
  apply List.filter_congr
  intro w _
  simp [eq_comm]

/-- The guess leaves the content as it is exactly if it is the prominent one. -/
theorem guess_iff (t : HostTree) (win : XToplevel) {own x : XWindow} (hx : win.xwin = some x) :
    (win.findContentWindow t).getD own = own ↔ HostSession.Prominent t own x win.related := by
  rw [findContentWindow_eq_argmax hx]
  unfold HostSession.Prominent
  dsimp only
  generalize win.related.filter (fun w => decide (w ≠ x ∧ 0 < windowArea t w)) = seen
  rw [← List.argmax_eq_some_iff, ← List.argmax_eq_none (f := windowArea t)]
  cases List.argmax (windowArea t) seen with
  | none => simp
  | some w => simp

/-- A toplevel that gets an output. -/
theorem createOutput_spec (t : HostTree) (own : XWindow) (win : XToplevel) :
    let below := (own :: windowsBelow t own).take wlxMaxRelatedWindows
    let win' := win.createOutput t own
    win'.id = win.id ∧ win'.own = some own ∧ win'.xwin = some own ∧ win'.related = below ∧
      (win'.contentXwin = some own ↔ HostSession.Prominent t own own below) := by
  dsimp only
  rw [← guess_iff t ⟨win.id, some own, some own, some own,
    (own :: windowsBelow t own).take wlxMaxRelatedWindows⟩ rfl]
  -- the search finds a content window, or it stays the toplevel's own
  unfold createOutput registerX11WindowSubtree
  dsimp only [List.singleton_append]
  split
  · rename_i found hfound
    refine ⟨rfl, rfl, rfl, rfl, ?_⟩
    rw [hfound]
    simp
  · rename_i hnone
    refine ⟨rfl, rfl, rfl, rfl, ?_⟩
    rw [hnone]
    simp

/-- A `ReparentNotify` of the content window. -/
theorem handleReparentNotify_spec {own : XWindow} (t : HostTree) (parent frame : XWindow)
    (hcontent : win.contentXwin = some own) :
    let x := if parent = t.label.window then frame else parent
    let below := (windowsBelow t x).take wlxMaxRelatedWindows
    let win' := win.handleReparentNotify t own parent frame
    win'.id = win.id ∧ win'.own = win.own ∧ win'.xwin = some x ∧ win'.related = below ∧
      (win'.contentXwin = some own ↔ HostSession.Prominent t own x below) := by
  -- below the root the window is its own frame no more
  have hx : (if parent ≠ t.label.window ∧ (win.xwin = some own ∨ win.contentXwin = some own)
      then parent else frame) = if parent = t.label.window then frame else parent := by
    by_cases hroot : parent = t.label.window
    · simp [hroot]
    · simp [hroot, hcontent]
  have hkept : (if parent ≠ t.label.window ∧ (win.xwin = some own ∨ win.contentXwin = some own)
      then some own else win.contentXwin) = some own := by
    -- the walk finds a largest window, or there is none
    split
    · rfl
    · exact hcontent
  dsimp only
  unfold handleReparentNotify registerX11WindowSubtree
  dsimp only
  rw [hx, hkept]
  generalize (if parent = t.label.window then frame else parent) = x
  rw [← guess_iff t ⟨win.id, win.own, some x, some own,
    (windowsBelow t x).take wlxMaxRelatedWindows⟩ rfl]
  dsimp only [List.nil_append]
  split
  · rename_i found hfound
    refine ⟨rfl, rfl, rfl, rfl, ?_⟩
    rw [hfound]
    simp
  · rename_i hnone
    refine ⟨rfl, rfl, rfl, rfl, ?_⟩
    rw [hnone]
    simp

end XToplevel

/-! ## Who is found -/

namespace HostSession

variable {v v' : HostSession} {id : Nat} {t : HostTree}

/-- No two toplevels have one id. -/
def Distinct (v : HostSession) : Prop := (v.windows.map (·.id)).Nodup

/-- A search in a list of toplevels finds the one that comes first. -/
theorem find_eq_some_iff {ws : List XToplevel} (hdistinct : (ws.map (·.id)).Nodup)
    {p : XToplevel → Bool} {win : XToplevel} :
    ws.find? p = some win ↔
      win ∈ ws ∧ p win = true ∧ ∀ u ∈ ws.takeWhile (·.id ≠ win.id), p u = false := by
  -- induction on the list; the toplevel with this id is the head or further down
  induction ws with
  | nil => simp
  | cons u us ih =>
    rw [List.map_cons, List.nodup_cons] at hdistinct
    obtain ⟨hu, hus⟩ := hdistinct
    by_cases hid : u.id = win.id
    · -- the only one with this id
      rw [List.takeWhile_cons_of_neg (by simp [hid])]
      have hmem : win ∈ u :: us ↔ win = u := by
        constructor
        · intro h
          rcases List.mem_cons.mp h with rfl | h
          · rfl
          · exact absurd (hid ▸ List.mem_map_of_mem h) hu
        · rintro rfl
          exact List.mem_cons_self
      rw [hmem, List.find?_cons]
      cases hp : p u with
      | true =>
        simp only [Option.some.injEq]
        constructor
        · rintro rfl
          exact ⟨rfl, hp, nofun⟩
        · exact fun h => h.1.symm
      | false =>
        dsimp only
        constructor
        · intro h
          exact absurd (hid ▸ List.mem_map_of_mem (List.mem_of_find?_eq_some h)) hu
        · rintro ⟨rfl, hp', -⟩
          rw [hp] at hp'
          cases hp'
    · rw [List.takeWhile_cons_of_pos (by simp [hid]), List.find?_cons, List.forall_mem_cons,
        List.mem_cons]
      have hne : win ≠ u := fun h => hid (by rw [h])
      cases hp : p u with
      | true => simp [hne.symm]
      | false => simp [ih hus, hne]

/-- The first toplevel of the list that is identified by the window gets the event. -/
theorem windowFromXwin_eq_some_iff (hdistinct : v.Distinct) {w : XWindow} {win : XToplevel} :
    v.windowFromXwin w = some win ↔
      win ∈ v.windows ∧ win.identifies w ∧ ∀ u ∈ v.before win.id, ¬u.identifies w := by
  unfold windowFromXwin before
  rw [find_eq_some_iff hdistinct]
  simp

instance (t : HostTree) (own x : XWindow) (below : List XWindow) :
    Decidable (Prominent t own x below) :=
  inferInstanceAs (Decidable (_ = [] ∨ _ ∧ (∀ w ∈ List.filter _ below, _) ∧ ∀ w ∈ List.filter _ below, _))

instance (own x : XWindow) (below : List XWindow) : Decidable (v.Unclaimed id own x below) :=
  have := fun u : XToplevel => Option.decidableForallMem (p := fun own' : XWindow =>
    ∀ w ∈ [own', v.frameOf own'], w ≠ x ∧ w ≠ own ∧ w ∉ below) (o := u.own)
  inferInstanceAs (Decidable (_ ∧ ∀ u ∈ v.windows, _ → _ → ∀ own' ∈ u.own, _))

instance : (a : HostAction) → Decidable (v.Discerns a)
  | .map .. => inferInstanceAs (Decidable (_ ∧ _))
  | .reparent id t =>
    inferInstanceAs (Decidable (∀ win ∈ v.window id, ∀ own ∈ win.own, ∀ parent ∈ parentWindow t own, _))
  | .newToplevel _ => isTrue trivial
  | .unmap _ => isTrue trivial
  | .destroy _ => isTrue trivial

/-- What `Identified` says of one toplevel. -/
structure Known (v : HostSession) (win : XToplevel) (own : XWindow) : Prop where
  content : win.contentXwin = some own
  frame : win.xwin = some (v.frameOf own)
  unclaimed : ∀ u ∈ v.before win.id, ¬u.identifies own ∧ ¬u.identifies (v.frameOf own)

/-- Every toplevel is identified by its own window exactly if it comes first in the list there. -/
theorem identified_iff_known (hdistinct : v.Distinct) :
    v.Identified ↔ ∀ win ∈ v.windows, ∀ own ∈ win.own, v.Known win own := by
  refine forall₂_congr fun win hwin => forall₂_congr fun own _ => ?_
  rw [windowFromXwin_eq_some_iff hdistinct, windowFromXwin_eq_some_iff hdistinct]
  constructor
  · rintro ⟨hcontent, hframe, ⟨-, -, hown⟩, -, -, hx⟩
    exact ⟨hcontent, hframe, fun u hu => ⟨hown u hu, hx u hu⟩⟩
  · intro h
    exact ⟨h.content, h.frame, ⟨hwin, Or.inr (Or.inl h.content), fun u hu => (h.unclaimed u hu).1⟩,
      hwin, Or.inl h.frame, fun u hu => (h.unclaimed u hu).2⟩

/-! ## A toplevel gets other X windows -/

/-- What comes before a toplevel is another one. -/
theorem mem_before {k : Nat} {u : XToplevel} (h : u ∈ v.before k) : u ∈ v.windows ∧ u.id ≠ k := by
  refine ⟨(List.takeWhile_sublist _).subset h, ?_⟩
  simpa using List.mem_takeWhile_imp h

/-- An update changes no id. -/
theorem update_windows_id {f : XToplevel → XToplevel} (hid : ∀ u, (f u).id = u.id) :
    (v.update id f).windows.map (·.id) = v.windows.map (·.id) := by
  unfold update
  rw [List.map_map]
  apply List.map_congr_left
  intro u _
  dsimp only [Function.comp]
  split
  · exact hid u
  · rfl

/-- Nor does it change the order. -/
theorem before_update {f : XToplevel → XToplevel} (hid : ∀ u, (f u).id = u.id) (k : Nat) :
    (v.update id f).before k = (v.before k).map fun u => if u.id = id then f u else u := by
  unfold update before
  rw [List.takeWhile_map]
  congr 2
  funext u
  dsimp only [Function.comp]
  split
  · rw [hid]
  · rfl

/-- A tree that leaves the others alone leaves them their frames. -/
theorem frameOf_of_leaves (h : v.Leaves id t) {u : XToplevel} (hu : u ∈ v.windows) (hne : u.id ≠ id)
    {own : XWindow} (hown : own ∈ u.own) {ws : List XToplevel} :
    frameOf ⟨t, ws⟩ own = v.frameOf own := by
  obtain ⟨hroot, hparent⟩ := h
  unfold frameOf
  dsimp only
  rw [hparent u hu hne own hown, hroot]

section Update

variable {f : XToplevel → XToplevel} {win : XToplevel}

/-- Ids are unique. -/
theorem eq_of_id (hdistinct : v.Distinct) (hwin : win ∈ v.windows) (hwinid : win.id = id)
    {u : XToplevel} (hu : u ∈ v.windows) (huid : u.id = id) : u = win :=
  List.inj_on_of_nodup_map hdistinct hu hwin (huid.trans hwinid.symm)

/-- The toplevel that has changed knows its windows if those searched before it do not claim them. -/
theorem known_changed_iff (hid : ∀ u, (f u).id = u.id) (hwinid : win.id = id) {own : XWindow} :
    Known { v.update id f with tree := t } (f win) own ↔
      let x := frameOf { v.update id f with tree := t } own
      (f win).contentXwin = some own ∧ (f win).xwin = some x ∧
        ∀ u ∈ v.before id, ¬u.identifies own ∧ ¬u.identifies x := by
  -- those that are searched before it have not changed
  have hbefore : before { v.update id f with tree := t } (f win).id =
      (v.before id).map fun u => if u.id = id then f u else u := by
    rw [hid, hwinid]
    exact before_update hid id
  constructor
  · intro h
    refine ⟨h.content, h.frame, fun u hu => h.unclaimed u ?_⟩
    rw [hbefore]
    exact List.mem_map.mpr ⟨u, hu, if_neg (mem_before hu).2⟩
  · rintro ⟨hcontent, hframe, hclaim⟩
    refine ⟨hcontent, hframe, fun y hy => ?_⟩
    rw [hbefore] at hy
    obtain ⟨u, hu, rfl⟩ := List.mem_map.mp hy
    rw [if_neg (mem_before hu).2]
    exact hclaim u hu

/-- Another toplevel goes on knowing its windows if the changed one does not claim them before. -/
theorem known_other_iff (hdistinct : v.Distinct) (hid : ∀ u, (f u).id = u.id) (hleaves : v.Leaves id t)
    (hwin : win ∈ v.windows) (hwinid : win.id = id) {u : XToplevel} (hu : u ∈ v.windows)
    (hne : u.id ≠ id) {own : XWindow} (hown : own ∈ u.own) (hknown : v.Known u own) :
    Known { v.update id f with tree := t } u own ↔
      (id ∈ (v.before u.id).map (·.id) → ∀ w ∈ [own, v.frameOf own], ¬(f win).identifies w) := by
  have hframe : frameOf { v.update id f with tree := t } own = v.frameOf own :=
    frameOf_of_leaves hleaves hu hne hown
  have hbefore : before { v.update id f with tree := t } u.id =
      (v.before u.id).map fun y => if y.id = id then f y else y := before_update hid u.id
  constructor
  · intro h hearlier w hw
    obtain ⟨y, hy, hyid⟩ := List.mem_map.mp hearlier
    obtain rfl := eq_of_id hdistinct hwin hwinid (mem_before hy).1 hyid
    -- the changed toplevel, searched before this one
    have hclaim := h.unclaimed (f y) (by
      rw [hbefore]
      exact List.mem_map.mpr ⟨y, hy, if_pos hyid⟩)
    rw [hframe] at hclaim
    simp only [List.mem_cons, List.not_mem_nil, or_false] at hw
    rcases hw with rfl | rfl
    · exact hclaim.1
    · exact hclaim.2
  · intro hclaims
    refine ⟨hknown.content, by rw [hframe]; exact hknown.frame, fun y' hy' => ?_⟩
    rw [hframe]
    rw [hbefore] at hy'
    obtain ⟨y, hy, rfl⟩ := List.mem_map.mp hy'
    by_cases hyid : y.id = id
    · -- the toplevel that has changed comes first
      obtain rfl := eq_of_id hdistinct hwin hwinid (mem_before hy).1 hyid
      rw [if_pos hyid]
      have hclaims := hclaims (hyid ▸ List.mem_map_of_mem hy)
      exact ⟨hclaims own List.mem_cons_self, hclaims _ (List.mem_cons_of_mem _ List.mem_cons_self)⟩
    · rw [if_neg hyid]
      exact hknown.unclaimed y hy

/-- **One toplevel changes.** The state is identified exactly if the toplevel knows its windows, those
searched before it do not claim them, and it claims none of those searched after it. -/
theorem identified_update_iff (hI : v.Identified) (hdistinct : v.Distinct)
    (hid : ∀ u, (f u).id = u.id) (hleaves : v.Leaves id t) (hwin : win ∈ v.windows)
    (hwinid : win.id = id) :
    ({ v.update id f with tree := t } : HostSession).Identified ↔
      (∀ own ∈ (f win).own,
        let x := frameOf { v.update id f with tree := t } own
        (f win).contentXwin = some own ∧ (f win).xwin = some x ∧
          ∀ u ∈ v.before id, ¬u.identifies own ∧ ¬u.identifies x) ∧
      ∀ u ∈ v.windows, u.id ≠ id → id ∈ (v.before u.id).map (·.id) → ∀ own' ∈ u.own,
        ∀ w ∈ [own', v.frameOf own'], ¬(f win).identifies w := by
  have hdistinct' : ({ v.update id f with tree := t } : HostSession).Distinct := by
    unfold Distinct
    show ((v.update id f).windows.map (·.id)).Nodup
    rw [update_windows_id hid]
    exact hdistinct
  have hknown := (identified_iff_known hdistinct).mp hI
  have hself : ∀ own, Known { v.update id f with tree := t } (f win) own ↔ _ := fun _ =>
    known_changed_iff hid hwinid
  -- the others know their windows as before, unless they are claimed
  have hothers := fun u hu hne own hown => known_other_iff (f := f) hdistinct hid hleaves hwin hwinid
    hu hne hown (hknown u hu own hown)
  rw [identified_iff_known hdistinct']
  constructor
  · intro h
    have hall : ∀ u ∈ v.windows, ∀ own ∈ (if u.id = id then f u else u).own,
        Known { v.update id f with tree := t } (if u.id = id then f u else u) own :=
      fun u hu => h _ (List.mem_map_of_mem hu)
    refine ⟨fun own hown => ?_, fun u hu hne hearlier own hown => ?_⟩
    · have hw := hall win hwin own (by rw [if_pos hwinid]; exact hown)
      rw [if_pos hwinid] at hw
      exact (hself own).mp hw
    · have hku := hall u hu own (by rw [if_neg hne]; exact hown)
      rw [if_neg hne] at hku
      exact (hothers u hu hne own hown).mp hku hearlier
  · rintro ⟨hchanged, hkept⟩ u' hu' own hown
    obtain ⟨u, hu, rfl⟩ := List.mem_map.mp hu'
    dsimp only at hown ⊢
    by_cases huid : u.id = id
    · obtain rfl := eq_of_id hdistinct hwin hwinid hu huid
      rw [if_pos huid] at hown ⊢
      exact (hself own).mpr (hchanged own hown)
    · rw [if_neg huid] at hown ⊢
      exact (hothers u hu huid own hown).mpr fun hearlier => hkept u hu huid hearlier own hown

/-- The same for a change by which a toplevel looks for its windows below `x`. -/
theorem identified_looked_iff (hI : v.Identified) (hdistinct : v.Distinct)
    (hid : ∀ u, (f u).id = u.id) (hleaves : v.Leaves id t) (hwin : win ∈ v.windows)
    (hwinid : win.id = id) {own x : XWindow} {below : List XWindow} (hown : (f win).own = some own)
    (hx : (f win).xwin = some x) (hrelated : (f win).related = below)
    (hcontent : (f win).contentXwin = some own ↔ Prominent t own x below) :
    ({ v.update id f with tree := t } : HostSession).Identified ↔
      x = frameOf { v.update id f with tree := t } own ∧ Prominent t own x below ∧
        v.Unclaimed id own x below := by
  rw [identified_update_iff hI hdistinct hid hleaves hwin hwinid, hown, hx]
  simp only [Option.mem_def, Option.some.injEq, forall_eq', hcontent]
  -- what is looked for below `x` is what is then claimed
  have hclaims : Prominent t own x below → ∀ w, (f win).identifies w ↔ w = x ∨ w = own ∨ w ∈ below := by
    intro hprominent w
    unfold XToplevel.identifies
    rw [hx, hcontent.mpr hprominent, hrelated]
    simp [eq_comm]
  constructor
  · rintro ⟨⟨hprominent, rfl, hbefore⟩, hafter⟩
    refine ⟨rfl, hprominent, hbefore, fun u hu hne hearlier own' hown' w hw => ?_⟩
    have hnot := hafter u hu hne hearlier own' hown' w hw
    rw [hclaims hprominent, not_or, not_or] at hnot
    exact hnot
  · rintro ⟨rfl, hprominent, hbefore, hafter⟩
    refine ⟨⟨hprominent, rfl, hbefore⟩, fun u hu hne hearlier own' hown' w hw => ?_⟩
    rw [hclaims hprominent, not_or, not_or]
    exact hafter u hu hne hearlier own' hown' w hw

end Update

/-! ## Each step -/

/-- What is found under an id is that toplevel. -/
theorem window_some {win : XToplevel} (h : v.window id = some win) : win ∈ v.windows ∧ win.id = id :=
  ⟨List.mem_of_find?_eq_some h, by simpa using List.find?_some h⟩

/-- A map is told apart if its own window is, and leaves the others theirs. -/
theorem staysIdentified_map (hI : v.Identified) (hdistinct : v.Distinct) {own : XWindow}
    (hstep : v.step (.map id own t) = some v') :
    v'.Identified ↔ v.Discerns (.map id own t) := by
  unfold step at hstep
  obtain ⟨win, hfind, hstep⟩ := Option.bind_eq_some_iff.mp hstep
  obtain ⟨⟨-, hleaves, hparent⟩, hstep⟩ := Option.ite_none_right_eq_some.mp hstep
  obtain rfl := Option.some.inj hstep
  obtain ⟨hwin, hwinid⟩ := window_some hfind
  obtain ⟨-, hown, hx, hrelated, hcontent⟩ := win.createOutput_spec t own
  rw [identified_looked_iff hI hdistinct (fun u => (u.createOutput_spec t own).1) hleaves hwin hwinid
    hown hx hrelated hcontent]
  -- the new window is not reparented yet, so it is its own frame
  have hframe : frameOf { v.update id (·.createOutput t own) with tree := t } own = own := by
    unfold frameOf
    dsimp only
    rw [hparent]
    exact if_pos rfl
  rw [hframe]
  exact and_iff_right rfl

/-- A reparent gives the toplevel another frame, and with it other windows. -/
theorem staysIdentified_reparent (hI : v.Identified) (hdistinct : v.Distinct)
    (hstep : v.step (.reparent id t) = some v') :
    v'.Identified ↔ v.Discerns (.reparent id t) := by
  unfold step at hstep
  obtain ⟨win, hfind, hstep⟩ := Option.bind_eq_some_iff.mp hstep
  obtain ⟨own, hown, hstep⟩ := Option.bind_eq_some_iff.mp hstep
  obtain ⟨parent, hparent, hstep⟩ := Option.bind_eq_some_iff.mp hstep
  obtain ⟨hleaves, hstep⟩ := Option.ite_none_right_eq_some.mp hstep
  obtain ⟨hwin, hwinid⟩ := window_some hfind
  obtain ⟨hcontent, hx, hfound, -⟩ := hI win hwin own hown
  -- the event finds the toplevel it is about
  rw [hfound] at hstep
  dsimp only at hstep
  rw [hx] at hstep
  dsimp only at hstep
  rw [hwinid] at hstep
  obtain rfl := Option.some.inj hstep
  obtain ⟨-, hown', hx', hrelated, hcontent'⟩ :=
    XToplevel.handleReparentNotify_spec t parent (v.frameOf own) hcontent
  have hid : ∀ u : XToplevel, (u.handleReparentNotify t own parent (v.frameOf own)).id = u.id := by
    intro u
    unfold XToplevel.handleReparentNotify
    dsimp only
    split <;> rfl
  rw [identified_looked_iff hI hdistinct hid hleaves hwin hwinid (hown'.trans hown) hx' hrelated
    hcontent']
  have hframe : frameOf { v.update id (·.handleReparentNotify t own parent (v.frameOf own)) with
      tree := t } own = if parent = t.label.window then own else parent := by
    unfold frameOf
    dsimp only
    rw [hparent]
  rw [hframe]
  unfold Discerns
  simp only [hfind, hown, hparent, hx, Option.mem_def, Option.some.injEq, forall_eq']
  by_cases hroot : parent = t.label.window
  · simp only [hroot, true_implies]
    constructor
    · rintro ⟨hsame, h⟩
      rw [hsame] at h
      exact ⟨hsame, h⟩
    · rintro ⟨hsame, h⟩
      rw [hsame]
      exact ⟨rfl, h⟩
  · simp only [hroot, if_false, false_implies, true_and]

/-- A toplevel without windows claims none. -/
theorem identified_unmap (hI : v.Identified) (hdistinct : v.Distinct)
    (hstep : v.step (.unmap id) = some v') : v'.Identified := by
  obtain ⟨win, hfind, rfl⟩ := Option.map_eq_some_iff.mp hstep
  obtain ⟨hwin, hwinid⟩ := window_some hfind
  have hleaves : v.Leaves id v.tree := ⟨rfl, fun _ _ _ _ _ => rfl⟩
  refine (identified_update_iff (f := XToplevel.outputDestroy) hI hdistinct (fun _ => rfl) hleaves hwin
    hwinid).mpr ⟨?_, ?_⟩
  · intro own hown
    cases hown
  · intro u _ _ _ own' _ w _
    rintro (h | h | h) <;> cases h

/-- Neither does a new one, -/
theorem identified_newToplevel (hI : v.Identified) (hstep : v.step (.newToplevel id) = some v') :
    v'.Identified := by
  obtain ⟨-, hstep⟩ := Option.ite_none_right_eq_some.mp hstep
  obtain rfl := Option.some.inj hstep
  have hskip : ∀ w, windowFromXwin ⟨v.tree, ⟨id, none, none, none, []⟩ :: v.windows⟩ w =
      v.windowFromXwin w := by
    intro w
    unfold windowFromXwin
    rw [List.find?_cons_of_neg]
    simp [XToplevel.identifies]
  intro win hwin own hown
  rcases List.mem_cons.mp hwin with rfl | hwin
  · cases hown
  · rw [hskip, hskip]
    exact hI win hwin own hown

/-- nor one that is gone. -/
theorem identified_destroy (hI : v.Identified) (hstep : v.step (.destroy id) = some v') :
    v'.Identified := by
  obtain ⟨-, -, rfl⟩ := Option.map_eq_some_iff.mp hstep
  intro win hwin own hown
  obtain ⟨hwin, hkept⟩ := List.mem_filter.mp hwin
  -- a toplevel that stays is found as before
  have hfind : ∀ w, v.windowFromXwin w = some win →
      windowFromXwin { v with windows := v.windows.filter (·.id ≠ id) } w = some win := by
    intro w hw
    unfold windowFromXwin at hw ⊢
    dsimp only
    rw [List.find?_filter]
    obtain ⟨hp, as, bs, hsplit, has⟩ := List.find?_eq_some_iff_append.mp hw
    refine List.find?_eq_some_iff_append.mpr ⟨?_, as, bs, hsplit, fun u hu => ?_⟩
    · rw [hkept, hp]
      rfl
    · have hu' := has u hu
      simp only [Bool.not_eq_true', decide_eq_false_iff_not] at hu'
      simp [hu']
  obtain ⟨hcontent, hframe, hown', hx⟩ := hI win hwin own hown
  exact ⟨hcontent, hframe, hfind _ hown', hfind _ hx⟩

/-- Ids stay distinct. -/
theorem Distinct.step (h : v.Distinct) {a : HostAction} (hstep : v.step a = some v') :
    v'.Distinct := by
  -- every handler but the first and the last changes toplevels in place
  have hupdate : ∀ {id : Nat} {f : XToplevel → XToplevel} {t : HostTree}, (∀ u, (f u).id = u.id) →
      Distinct { v.update id f with tree := t } := by
    intro id f t hid
    unfold Distinct
    show ((v.update id f).windows.map (·.id)).Nodup
    rw [update_windows_id hid]
    exact h
  cases a with
  | newToplevel id =>
    obtain ⟨hnew, hstep⟩ := Option.ite_none_right_eq_some.mp hstep
    obtain rfl := Option.some.inj hstep
    refine List.nodup_cons.mpr ⟨fun hmem => ?_, h⟩
    obtain ⟨u, hu, hid⟩ := List.mem_map.mp hmem
    have hnone := List.find?_eq_none.mp hnew u hu
    simp [hid] at hnone
  | map id own t =>
    unfold HostSession.step at hstep
    obtain ⟨win, -, hstep⟩ := Option.bind_eq_some_iff.mp hstep
    obtain ⟨-, hstep⟩ := Option.ite_none_right_eq_some.mp hstep
    obtain rfl := Option.some.inj hstep
    exact hupdate fun u => (u.createOutput_spec t own).1
  | reparent id t =>
    unfold HostSession.step at hstep
    obtain ⟨win, -, hstep⟩ := Option.bind_eq_some_iff.mp hstep
    obtain ⟨own, -, hstep⟩ := Option.bind_eq_some_iff.mp hstep
    obtain ⟨parent, -, hstep⟩ := Option.bind_eq_some_iff.mp hstep
    obtain ⟨-, hstep⟩ := Option.ite_none_right_eq_some.mp hstep
    obtain rfl := Option.some.inj hstep
    cases v.windowFromXwin own with
    | none => exact h
    | some found =>
      dsimp only
      cases found.xwin with
      | none => exact h
      | some frame =>
        apply hupdate
        intro u
        unfold XToplevel.handleReparentNotify
        dsimp only
        split <;> rfl
  | unmap id =>
    obtain ⟨win, -, rfl⟩ := Option.map_eq_some_iff.mp hstep
    exact hupdate (t := v.tree) fun _ => rfl
  | destroy id =>
    obtain ⟨win, -, rfl⟩ := Option.map_eq_some_iff.mp hstep
    exact (List.filter_sublist.map _).nodup h

/-- A step keeps every toplevel identified exactly if it lets them be told apart. -/
theorem staysIdentified_iff (hI : v.Identified) (hdistinct : v.Distinct) {a : HostAction}
    (hstep : v.step a = some v') : v.StaysIdentified a ↔ v.Discerns a := by
  unfold StaysIdentified
  rw [Run.forall_step_iff hstep]
  cases a with
  | newToplevel id => exact iff_of_true (identified_newToplevel hI hstep) trivial
  | map id own t => exact staysIdentified_map hI hdistinct hstep
  | reparent id t => exact staysIdentified_reparent hI hdistinct hstep
  | unmap id => exact iff_of_true (identified_unmap hI hdistinct hstep) trivial
  | destroy id => exact iff_of_true (identified_destroy hI hstep) trivial

/-- **Content and frame.** Along a run of toplevels that are mapped, reparented by the host in any
way, unmapped and destroyed, every state is identified exactly if at each map and each reparenting the
content is the prominent window below its frame, no other toplevel gets in between, and no content
window that has a frame goes back to the root. -/
theorem identified_iff {root : HostNode} {as : List HostAction}
    (hrun : Run.run step (init root) as = some v) :
    Run.Along step StaysIdentified (init root) as ↔ Run.Along step Discerns (init root) as := by
  refine Run.along_iff_of_step (I := fun v => v.Identified ∧ v.Distinct) ?_ ?_
    ⟨nofun, List.nodup_nil⟩ hrun
  · rintro v a v' ⟨-, hdistinct⟩ hstays hstep
    exact ⟨hstays v' hstep, hdistinct.step hstep⟩
  · rintro v a v' ⟨hI, hdistinct⟩ hstep
    exact staysIdentified_iff hI hdistinct hstep

/-- Window 10 is mapped, gets the frame 20 with a title bar, and is put back on the root. -/
def framedRun : List HostAction :=
  [.newToplevel 0, .map 0 10 (.node ⟨1, 1920, 1080⟩ [.node ⟨10, 640, 480⟩ []]),
    .reparent 0 (.node ⟨1, 1920, 1080⟩
      [.node ⟨20, 644, 504⟩ [.node ⟨21, 644, 24⟩ [], .node ⟨10, 640, 480⟩ []]])]

def unframed : HostAction :=
  .reparent 0 (.node ⟨1, 1920, 1080⟩ [.node ⟨20, 644, 504⟩ [], .node ⟨10, 640, 480⟩ []])

/-- A toplevel with a frame is identified from its map to its end. -/
theorem framedRun_identified :
    Run.Along step StaysIdentified (init ⟨1, 1920, 1080⟩) framedRun := by
  have hsome : (Run.run step (init ⟨1, 1920, 1080⟩) framedRun).isSome = true := by decide +kernel
  obtain ⟨v, hv⟩ := Option.isSome_iff_exists.mp hsome
  exact (identified_iff hv).mpr (by decide +kernel)

/-- Back on the root, the window's `xwin` is still the frame it has left. -/
theorem unframed_unidentified : ¬ ∀ (root : HostNode) (as : List HostAction) (v : HostSession),
    Run.run step (init root) as = some v → v.Identified := by
  intro h
  have hany : (Run.run step (init ⟨1, 1920, 1080⟩) (framedRun ++ [unframed])).any
      (fun v => !decide v.Identified) = true := by
    decide +kernel
  obtain ⟨v, hv, hnot⟩ := (Option.any_eq_true ..).mp hany
  rw [Bool.not_eq_true', decide_eq_false_iff_not] at hnot
  exact hnot (h ⟨1, 1920, 1080⟩ (framedRun ++ [unframed]) v hv)

end HostSession

end Wlx
