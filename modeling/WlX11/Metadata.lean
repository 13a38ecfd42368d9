import WlX11.ContentWindow
import WlX11.SizeHints

/-!
# WlX11 — what a toplevel tells the host about itself

Title, class and size limits of an `xdg_toplevel` are written to its X windows when it is mapped, and
again with its commits: the limits each time, the two texts when they differ from what is kept of them in
256 bytes. `WM_TRANSIENT_FOR` is written when the toplevel is mapped and when the host has reparented it,
if there is a parent then.

* **`MetaSession`** — the toplevels, their X windows and the properties of these.
* **`MetaSession.Exact`** — the output's window says what the toplevel is.
* **`MetaSession.mirrored_iff`** — as long as the program knows the content windows, it does so after
  each commit exactly if no text is the kept part of a longer one that is shown, both maxima are set or
  none, and the parent is the one found last.
-/

namespace Wlx

/-- The properties of an X window. -/
structure WindowProps where
  /-- `_NET_WM_NAME` and `WM_NAME` -/
  name : Option Text
  /-- both strings of `WM_CLASS` -/
  wmClass : Option Text
  /-- `WM_NORMAL_HINTS` -/
  normalHints : Option SizeHints
  /-- `WM_TRANSIENT_FOR` -/
  transientFor : Option XWindow
deriving DecidableEq

/-- An `xdg_toplevel`, and what its `wlx_window` keeps of the texts. -/
structure ShellToplevel where
  title : Option Text
  appId : Option Text
  /-- `pending.min_width` to `pending.max_height` -/
  pending : SizeLimits
  /-- `current.min_width` to `current.max_height` -/
  current : SizeLimits
  parent : Option Nat
  /-- the surface is mapped -/
  mapped : Bool
  lastTitle : Text
  lastAppId : Text
deriving DecidableEq

/-- `sizeof(win->last_title)`, `sizeof(win->last_app_id)`. -/
def wlxTextCache : Nat := 256

/-- `strncmp` finds no difference in the first `n` bytes, the NUL included. -/
def strncmpEq (n : Nat) (s t : Text) : Bool :=
  (s.map some ++ [none]).take n = (t.map some ++ [none]).take n

/-- `snprintf` with `%s` to a buffer of `n` bytes. -/
def snprintfText (n : Nat) (s : Text) : Text := s.take (n - 1)

/-- What `xwin_set_class` makes of an `app_id`: "wayland" stands for none. -/
def classText (appId : Text) : Text :=
  if appId = [] then [119, 97, 121, 108, 97, 110, 100] else appId

namespace ShellToplevel

def fresh : ShellToplevel := ⟨none, none, .none, .none, none, false, [], []⟩

/-- `win->toplevel->title ? win->toplevel->title : ""`. -/
def titleText (s : ShellToplevel) : Text := s.title.getD []

def appIdText (s : ShellToplevel) : Text := s.appId.getD []

/-- `reset_xdg_toplevel`. -/
def reset (s : ShellToplevel) : ShellToplevel := { s with title := none, appId := none, parent := none }

end ShellToplevel

/-- The windows that are written to with `win->xwin` and `win->content_xwin`. -/
def XToplevel.targets (win : XToplevel) : List XWindow := win.xwin.toList ++ win.contentXwin.toList

structure MetaSession where
  host : HostSession
  shell : Nat → ShellToplevel
  props : XWindow → WindowProps
  /-- the parent's window that has been found last since the toplevel was mapped; the program does not
  keep it -/
  hinted : Nat → Option XWindow

inductive MetaAction where
  | newToplevel (id : Nat)
  | setTitle (id : Nat) (title : Text)
  | setAppId (id : Nat) (appId : Text)
  /-- `set_min_size`, `set_max_size` -/
  | setLimits (id : Nat) (limits : SizeLimits)
  | setParent (id : Nat) (parent : Option Nat)
  /-- the first half of a commit of a first buffer: `xdg_toplevel_map`, with the output's window -/
  | map (id : Nat) (own : XWindow) (tree : HostTree) (policy : Window)
  /-- a commit, or the rest of it: `surface_commit` -/
  | commit (id : Nat) (policy : Window)
  /-- `win_sync_size_hints` from `output_commit` or `resize_output_to` -/
  | syncHints (id : Nat) (policy : Window)
  /-- the host reparents the content window -/
  | reparent (id : Nat) (tree : HostTree)
  | unmap (id : Nat)
  | destroy (id : Nat)

namespace MetaSession

def init (root : HostNode) : MetaSession :=
  ⟨.init root, fun _ => .fresh, fun _ => ⟨none, none, none, none⟩, fun _ => none⟩

def setShell (id : Nat) (s : ShellToplevel) (v : MetaSession) : MetaSession :=
  { v with shell := fun k => if k = id then s else v.shell k }

/-- `xcb_change_property` on each of the windows. -/
def write (ws : List XWindow) (f : WindowProps → WindowProps) (v : MetaSession) : MetaSession :=
  { v with props := fun w => if w ∈ ws then f (v.props w) else v.props w }

/-- `xwin_set_title`. -/
def xwinSetTitle (ws : List XWindow) (title : Text) (v : MetaSession) : MetaSession :=
  v.write ws ({ · with name := some title })

/-- `xwin_set_class`. -/
def xwinSetClass (ws : List XWindow) (appId : Text) (v : MetaSession) : MetaSession :=
  v.write ws ({ · with wmClass := some (classText appId) })

/-- `parent_x` of `apply_transient_hints`. -/
def parentX (v : MetaSession) (id : Nat) : Option XWindow :=
  ((v.shell id).parent.bind v.host.window).bind (·.ewmhTargetWindow)

/-- `apply_transient_hints`; without a parent, nothing is written and nothing deleted. -/
def applyTransientHints (id : Nat) (v : MetaSession) : MetaSession :=
  match v.host.window id with
  | none => v
  | some win =>
    if win.xwin = none then v
    else match v.parentX id with
      | none => v
      | some parent =>
        { v.write win.targets ({ · with transientFor := some parent }) with
          hinted := fun k => if k = id then some parent else v.hinted k }

/-- `win_sync_size_hints`; `policy` is the rest of the `wlx_window`. -/
def winSyncSizeHints (cfg : Config) (id : Nat) (policy : Window) (v : MetaSession) : MetaSession :=
  match v.host.window id with
  | none => v
  | some win =>
    if win.xwin = none then v
    else match policy.winSyncSizeHints cfg (v.shell id).current with
      | none => v
      | some hints => v.write win.targets ({ · with normalHints := some hints })

/-- What `create_output_for_window` says of the toplevel, first to `win->xwin` and then to
`win->content_xwin`. -/
def describe (cfg : Config) (id : Nat) (ws : List XWindow) (policy : Window) (v : MetaSession) :
    MetaSession :=
  let s := v.shell id
  let v := v.applyTransientHints id
  let v := v.xwinSetTitle ws s.titleText
  let v := v.xwinSetClass ws s.appIdText
  v.winSyncSizeHints cfg id policy

/-- The backend's new window `own`, without properties yet, is `win->xwin` and `win->content_xwin`. -/
def newOutput (id : Nat) (own : XWindow) (v : MetaSession) : MetaSession :=
  { v with
    host := v.host.update id fun win =>
      { win with own := some own, xwin := some own, contentXwin := some own, related := [own] }
    props := fun w => if w = own then ⟨none, none, none, none⟩ else v.props w
    hinted := fun k => if k = id then none else v.hinted k }

/-- `create_output_for_window`, for the output's window `own`; `host` is what there is to the X side of
it. -/
def createOutputForWindow (cfg : Config) (id : Nat) (own : XWindow) (policy : Window)
    (host : HostSession) (v : MetaSession) : MetaSession :=
  let s := v.shell id
  let v := (v.newOutput id own).describe cfg id [own] policy
  let v := { v with host := host }
  let content := (host.window id).bind (·.contentXwin)
  let v := if content = some own then v else v.describe cfg id content.toList policy
  v.setShell id
    { s with
      lastTitle := snprintfText wlxTextCache s.titleText
      lastAppId := snprintfText wlxTextCache s.appIdText }

/-- A title that differs from what is kept of the last one. -/
def syncTitle (id : Nat) (ws : List XWindow) (v : MetaSession) : MetaSession :=
  let s := v.shell id
  if strncmpEq wlxTextCache s.titleText s.lastTitle then v
  else
    (v.xwinSetTitle ws s.titleText).setShell id
      { s with lastTitle := snprintfText wlxTextCache s.titleText }

def syncAppId (id : Nat) (ws : List XWindow) (v : MetaSession) : MetaSession :=
  let s := v.shell id
  if strncmpEq wlxTextCache s.appIdText s.lastAppId then v
  else
    (v.xwinSetClass ws s.appIdText).setShell id
      { s with lastAppId := snprintfText wlxTextCache s.appIdText }

/-- `surface_commit`, as far as properties go. -/
def surfaceCommit (cfg : Config) (id : Nat) (policy : Window) (v : MetaSession) : MetaSession :=
  match v.host.window id with
  | none => v
  | some win =>
    let v := if win.own ≠ none then v.winSyncSizeHints cfg id policy else v
    if win.xwin = none then v else (v.syncTitle id win.targets).syncAppId id win.targets

/-- The check for a loop in `wlr_xdg_toplevel_set_parent`, over `fuel` ancestors. -/
def isAncestor (v : MetaSession) (id : Nat) : Nat → Option Nat → Bool
  | 0, _ | _, none => false
  | fuel + 1, some iter => iter = id || v.isAncestor id fuel (v.shell iter).parent

/-- `wlr_xdg_toplevel_set_parent`, past that check. -/
def setParent (v : MetaSession) (id : Nat) (parent : Option Nat) : MetaSession :=
  v.setShell id { v.shell id with parent := parent.filter fun p => (v.shell p).mapped }

/-- The surface is unmapped: `handle_parent_unmap` of the toplevels whose parent this one is, and then
`reset_xdg_toplevel`. -/
def unmapped (v : MetaSession) (id : Nat) : MetaSession :=
  let grandparent := (v.shell id).parent.filter fun p => p ≠ id && (v.shell p).mapped
  { v with
    shell := fun k =>
      if k = id then { (v.shell id).reset with mapped := false }
      else if (v.shell k).parent = some id then { v.shell k with parent := grandparent }
      else v.shell k }

/-- An output has positive sides, so that there are hints to publish. -/
def Sized (cfg : Config) (v : MetaSession) (id : Nat) (policy : Window) : Prop :=
  ((v.host.window id).bind (·.own)).isSome → (policy.winSyncSizeHints cfg (v.shell id).current).isSome

instance (cfg : Config) (v : MetaSession) (id : Nat) (policy : Window) : Decidable (v.Sized cfg id policy) :=
  inferInstanceAs (Decidable (_ → _))

def step (cfg : Config) (v : MetaSession) : MetaAction → Option MetaSession
  | .newToplevel id =>
    (v.host.step (.newToplevel id)).map fun host => { v with host := host }.setShell id .fresh
  | .setTitle id title => some (v.setShell id { v.shell id with title := some title })
  | .setAppId id appId => some (v.setShell id { v.shell id with appId := some appId })
  | .setLimits id limits => some (v.setShell id { v.shell id with pending := limits })
  | .setParent id parent =>
    -- "a toplevel cannot be a parent of itself or its ancestor"
    if v.isAncestor id (v.host.windows.length + 1) parent then none else some (v.setParent id parent)
  | .map id own tree policy =>
    (v.host.step (.map id own tree)).bind fun host =>
      let v := v.setShell id { v.shell id with current := (v.shell id).pending, mapped := true }
      -- the new output has positive sides as well
      if (policy.winSyncSizeHints cfg (v.shell id).current).isSome then
        some (v.createOutputForWindow cfg id own policy host)
      else none
  | .commit id policy =>
    let v := v.setShell id { v.shell id with current := (v.shell id).pending }
    if v.Sized cfg id policy then some (v.surfaceCommit cfg id policy) else none
  | .syncHints id policy => some (v.winSyncSizeHints cfg id policy)
  | .reparent id tree =>
    (v.host.step (.reparent id tree)).map fun host =>
      match (((v.host.window id).bind (·.own)).bind v.host.windowFromXwin).filter (·.xwin ≠ none) with
      | none => { v with host := host }
      | some found => { v with host := host }.applyTransientHints found.id
  | .unmap id =>
    if (v.shell id).mapped then
      (v.host.step (.unmap id)).map fun host => { v.unmapped id with host := host }
    else none
  | .destroy id =>
    (v.host.step (.destroy id)).map fun host => ({ v.unmapped id with host := host }).setShell id .fresh

/-- The host can take the size exactly if the client can, once that is scaled. -/
def LimitsMirrored (cfg : Config) (limits : SizeLimits) (hints : SizeHints) : Prop :=
  ∀ s : Size, 1 ≤ s.width → 1 ≤ s.height → (hints.Admits s ↔
    ((0 < limits.min.width → wlxScaleSize cfg limits.min.width ≤ s.width) ∧
      (0 < limits.max.width → s.width ≤ wlxScaleSize cfg limits.max.width)) ∧
    (0 < limits.min.height → wlxScaleSize cfg limits.min.height ≤ s.height) ∧
      (0 < limits.max.height → s.height ≤ wlxScaleSize cfg limits.max.height))

/-- The output's window of the parent. -/
def parentOwn (v : MetaSession) (id : Nat) : Option XWindow :=
  ((v.shell id).parent.bind v.host.window).bind (·.own)

/-- The window of the toplevel's output, if it has one, says what the toplevel is. -/
def Exact (cfg : Config) (v : MetaSession) (id : Nat) : Prop :=
  ∀ win ∈ v.host.window id, ∀ own ∈ win.own,
    (v.props own).name = some (v.shell id).titleText ∧
      (v.props own).wmClass = some (classText (v.shell id).appIdText) ∧
      (∃ hints ∈ (v.props own).normalHints, LimitsMirrored cfg (v.shell id).current hints) ∧
      ((v.props own).transientFor.isSome = (v.shell id).parent.isSome ∧
        (v.props own).transientFor = v.parentOwn id)

/-- After a commit, the toplevel's metadata is exact. -/
def Mirrored (cfg : Config) (v : MetaSession) (a : MetaAction) : Prop :=
  match a with
  | .commit id _ => ∀ v', v.step cfg a = some v' → v'.Exact cfg id
  | _ => True

/-- What is shown is no longer text that begins with this one, cut to the cache's size. -/
def Distinguished (shown : Option Text) (text : Text) : Prop :=
  ∀ t ∈ shown, t.length < wlxTextCache ∨ text ≠ snprintfText wlxTextCache t

/-- At a commit of a mapped toplevel both texts are distinguished, both maxima are set or none, and the
parent's window is the one that has been found last. -/
def Kept (v : MetaSession) : MetaAction → Prop
  | .commit id _ => ∀ win ∈ v.host.window id, ∀ own ∈ win.own,
    Distinguished (v.props own).name (v.shell id).titleText ∧
      Distinguished (v.props own).wmClass (v.shell id).appIdText ∧
      (v.shell id).pending.Paired ∧ v.hinted id = v.parentOwn id
  | _ => True

/-- Each toplevel with an output knows its content window, and no other one takes that for its own. -/
def ContentKnown (v : MetaSession) : Prop :=
  ∀ win ∈ v.host.windows, ∀ own ∈ win.own, win.contentXwin = some own ∧
    ∀ u ∈ v.host.windows, u.id ≠ win.id → own ∉ u.targets

instance (shown : Option Text) (text : Text) : Decidable (Distinguished shown text) :=
  inferInstanceAs (Decidable (∀ t ∈ shown, _))

instance (v : MetaSession) : (a : MetaAction) → Decidable (v.Kept a)
  | .commit id _ => inferInstanceAs (Decidable (∀ win ∈ v.host.window id, ∀ own ∈ win.own, _))
  | .newToplevel _ | .setTitle .. | .setAppId .. | .setLimits .. | .setParent .. | .map ..
  | .syncHints .. | .reparent .. | .unmap _ | .destroy _ => isTrue trivial

instance (v : MetaSession) : Decidable v.ContentKnown :=
  inferInstanceAs (Decidable (∀ win ∈ v.host.windows, ∀ own ∈ win.own, _))

end MetaSession

/-! ## The X windows of the toplevels -/

/-- A toplevel that is reparented keeps its own window, and has a window to be described on. -/
theorem XToplevel.handleReparentNotify_frame (t : HostTree) (window parent frame : XWindow)
    (win : XToplevel) :
    (win.handleReparentNotify t window parent frame).own = win.own ∧
      (win.handleReparentNotify t window parent frame).xwin ≠ none := by
  unfold handleReparentNotify
  dsimp only
  split <;> exact ⟨rfl, Option.some_ne_none _⟩

namespace HostSession

variable {v v' : HostSession} {id : Nat} {t : HostTree}

/-- An update by an id changes the toplevel with this id. -/
theorem window_update {f : XToplevel → XToplevel} (hid : ∀ u, (f u).id = u.id) (k : Nat) :
    (v.update id f).window k = (v.window k).map fun u => if k = id then f u else u := by
  unfold update window
  dsimp only
  rw [List.find?_map]
  -- an update keeps ids, so the same toplevel is found
  have hsame : ((fun win : XToplevel => decide (win.id = k)) ∘
      fun win => if win.id = id then f win else win) =
      fun win => decide (win.id = k) := by
    funext u
    dsimp only [Function.comp]
    split
    · rw [hid]
    · rfl
  rw [hsame]
  refine Option.map_congr fun u hu => ?_
  have hk := List.find?_some hu
  rw [of_decide_eq_true hk]

/-- A new toplevel has no windows yet, -/
theorem window_newToplevel (hstep : v.step (.newToplevel id) = some v') (k : Nat) :
    v'.window k = if k = id then some ⟨id, none, none, none, []⟩ else v.window k := by
  obtain ⟨-, hstep⟩ := Option.ite_none_right_eq_some.mp hstep
  obtain rfl := Option.some.inj hstep
  unfold window
  rw [List.find?_cons]
  by_cases hk : k = id
  · rw [if_pos hk, decide_eq_true hk.symm]
  · rw [if_neg hk, decide_eq_false (Ne.symm hk)]

/-- one that is unmapped loses those it has, -/
theorem window_unmap (hstep : v.step (.unmap id) = some v') (k : Nat) :
    v'.window k = (v.window k).map fun u => if k = id then u.outputDestroy else u := by
  obtain ⟨win, -, rfl⟩ := Option.map_eq_some_iff.mp hstep
  exact window_update (f := XToplevel.outputDestroy) (fun _ => rfl) k

/-- and one that is destroyed is gone. -/
theorem window_destroy (hstep : v.step (.destroy id) = some v') (k : Nat) :
    v'.window k = if k = id then none else v.window k := by
  obtain ⟨win, -, rfl⟩ := Option.map_eq_some_iff.mp hstep
  unfold window
  rw [List.find?_filter]
  split
  · rename_i hk
    refine List.find?_eq_none.mpr fun u _ => ?_
    simp [hk]
  · rename_i hk
    congr 1
    funext u
    by_cases hu : u.id = k
    · simp [hu, hk]
    · simp [hu]

/-- A map gives a toplevel its output, and leaves the others. -/
theorem window_map {own : XWindow} (hstep : v.step (.map id own t) = some v') :
    ∃ old, v.window id = some old ∧ v'.window id = some (old.createOutput t own) ∧
      ∀ k, k ≠ id → v'.window k = v.window k := by
  unfold step at hstep
  obtain ⟨win, hwin, hstep⟩ := Option.bind_eq_some_iff.mp hstep
  obtain ⟨-, hstep⟩ := Option.ite_none_right_eq_some.mp hstep
  obtain rfl := Option.some.inj hstep
  have hupdate (k : Nat) : (v.update id (·.createOutput t own)).window k =
      (v.window k).map fun u => if k = id then u.createOutput t own else u :=
    window_update (fun u => (u.createOutput_spec t own).1) k
  refine ⟨win, hwin, ?_, fun k hk => ?_⟩
  · refine (hupdate id).trans ?_
    rw [hwin, Option.map_some, if_pos rfl]
  · refine (hupdate k).trans ?_
    simp only [if_neg hk, Option.map_id']

/-- Under its id one finds the toplevel itself. -/
theorem window_of_mem (hdistinct : v.Distinct) {win : XToplevel} (hwin : win ∈ v.windows) :
    v.window win.id = some win := by
  cases hfind : v.window win.id with
  | none =>
    have hnone := List.find?_eq_none.mp hfind win hwin
    simp at hnone
  | some u =>
    obtain ⟨hu, huid⟩ := window_some hfind
    rw [eq_of_id hdistinct hwin rfl hu huid]

/-- A `ReparentNotify` changes the toplevel that is found, if it has a frame. -/
theorem window_reparent (hdistinct : v.Distinct) (hstep : v.step (.reparent id t) = some v') :
    let found := (((v.window id).bind (·.own)).bind v.windowFromXwin).filter (·.xwin ≠ none)
    (found = none ∧ ∀ k, v'.window k = v.window k) ∨
      ∃ win own parent frame, found = some win ∧ v.window win.id = some win ∧ win.xwin ≠ none ∧
        ∀ k, v'.window k = (v.window k).map fun u =>
          if k = win.id then u.handleReparentNotify t own parent frame else u := by
  intro found
  unfold step at hstep
  obtain ⟨win, hwin, hstep⟩ := Option.bind_eq_some_iff.mp hstep
  obtain ⟨own, hown, hstep⟩ := Option.bind_eq_some_iff.mp hstep
  obtain ⟨parent, -, hstep⟩ := Option.bind_eq_some_iff.mp hstep
  obtain ⟨-, hstep⟩ := Option.ite_none_right_eq_some.mp hstep
  obtain rfl := Option.some.inj hstep
  -- the lookup by the toplevel's own window, which may find another toplevel
  have hfound : found = (v.windowFromXwin own).filter (·.xwin ≠ none) := by
    show (((v.window id).bind (·.own)).bind v.windowFromXwin).filter _ = _
    rw [hwin]
    show ((win.own).bind v.windowFromXwin).filter _ = _
    rw [hown]
    rfl
  rw [hfound]
  cases hlookup : v.windowFromXwin own with
  | none => exact .inl ⟨rfl, fun _ => rfl⟩
  | some u =>
    -- what is found is reparented only if it has a frame
    cases hframe : u.xwin with
    | none =>
      refine .inl ⟨?_, fun k => ?_⟩
      · rw [Option.filter_some, if_neg (by simp [hframe])]
      · simp only [hframe]
        rfl
    | some frame =>
      have hx : u.xwin ≠ none := by
        rw [hframe]
        exact Option.some_ne_none frame
      refine .inr ⟨u, own, parent, frame, ?_, ?_, hx, fun k => ?_⟩
      · rw [Option.filter_some, if_pos (decide_eq_true hx)]
      · exact window_of_mem hdistinct (List.mem_of_find?_eq_some hlookup)
      · simp only [hframe]
        refine window_update (fun u => ?_) k
        unfold XToplevel.handleReparentNotify
        dsimp only
        split <;> rfl

end HostSession

/-! ## Texts and limits -/

/-- A text is taken for the kept one exactly if it is just that. -/
theorem strncmpEq_snprintfText_iff (s t : Text) :
    strncmpEq wlxTextCache s (snprintfText wlxTextCache t) = true ↔ s = snprintfText wlxTextCache t := by
  unfold strncmpEq snprintfText wlxTextCache
  rw [decide_eq_true_iff]
  have hkept : ((t.take 255).map some ++ [none]).take 256 = (t.take 255).map some ++ [none] := by
    refine List.take_of_length_le ?_
    simp only [List.length_append, List.length_map, List.length_take, List.length_singleton]
    omega
  rw [hkept]
  constructor
  -- both texts end within the comparison, or the shorter one ends it
  · intro h
    by_cases hlong : s.length < 256
    · rw [List.take_of_length_le (by simp; omega)] at h
      exact List.map_injective_iff.mpr (Option.some_injective _) (List.append_cancel_right h)
    · -- the NUL of the kept text stands against a byte
      have hmem : none ∈ (s.map some ++ [none]).take 256 := by
        rw [h]
        exact List.mem_append_right _ List.mem_cons_self
      rw [List.take_append_of_le_length (by simp; omega)] at hmem
      obtain ⟨b, -, hb⟩ := List.mem_map.mp (List.mem_of_mem_take hmem)
      cases hb
  · intro h
    rw [h]
    exact hkept

/-- The cache keeps a text whole exactly if it is shorter than the cache. -/
theorem snprintfText_eq_self_iff (t : Text) :
    snprintfText wlxTextCache t = t ↔ t.length < wlxTextCache := by
  unfold snprintfText wlxTextCache
  rw [List.take_eq_self_iff]
  omega

/-- After a commit the title is shown unless it was taken for that of a longer one. -/
theorem titleShown_iff (t text : Text) :
    (if strncmpEq wlxTextCache text (snprintfText wlxTextCache t) = true then t else text) = text ↔
      MetaSession.Distinguished (some t) text := by
  unfold MetaSession.Distinguished
  simp only [Option.mem_def, Option.some.injEq, forall_eq', strncmpEq_snprintfText_iff]
  by_cases hkept : text = snprintfText wlxTextCache t
  · rw [if_pos hkept]
    simp only [hkept, ne_eq, not_true_eq_false, or_false]
    rw [eq_comm]
    exact snprintfText_eq_self_iff t
  · rw [if_neg hkept]
    exact iff_of_true rfl (.inr hkept)

/-- So is the class, where "wayland" stands for an empty `app_id` and is never cut. -/
theorem classShown_iff (a text : Text) :
    classText (if strncmpEq wlxTextCache text (snprintfText wlxTextCache a) = true then a else text) =
      classText text ↔ MetaSession.Distinguished (some (classText a)) text := by
  -- an empty id is shown as the default one
  by_cases ha : a = []
  · subst ha
    refine iff_of_true ?_ fun t ht => ?_
    · split
      · rename_i hkept
        rw [(strncmpEq_snprintfText_iff text []).mp hkept]
        rfl
      · rfl
    · obtain rfl := Option.some.inj ht
      exact .inl (by decide)
  · have hclass : classText a = a := if_neg ha
    rw [hclass, ← titleShown_iff]
    split
    · rename_i hkept
      have htext : text ≠ [] := by
        rw [(strncmpEq_snprintfText_iff text a).mp hkept]
        unfold snprintfText wlxTextCache
        simp [ha]
      rw [hclass, classText, if_neg htext]
    · exact iff_of_true rfl rfl

namespace MetaSession

section Limits

variable {cfg : Config} {limits : SizeLimits} {hints : SizeHints} {policy : Window}

/-- **Limits.** What `win_sync_size_hints` publishes are the client's limits if both maxima are set or
none, and not otherwise. -/
theorem limitsMirrored_iff (h : policy.winSyncSizeHints cfg limits = some hints) :
    LimitsMirrored cfg limits hints ↔ limits.Paired := by
  obtain ⟨hmin, hmax⟩ := Window.winSyncSizeHints_eq_some h
  have hside : ∀ min side : Int, 1 ≤ side →
      (hintedMin cfg min ≤ side ↔ (0 < min → wlxScaleSize cfg min ≤ side)) := by
    intro min side hside
    unfold hintedMin
    split
    · rename_i hpos
      exact ⟨fun h _ => h, fun h => h hpos⟩
    · rename_i hpos
      exact iff_of_true hside fun h => absurd h hpos
  have hadmits : ∀ s : Size, 1 ≤ s.width → 1 ≤ s.height → (hints.Admits s ↔
      ((0 < limits.min.width → wlxScaleSize cfg limits.min.width ≤ s.width) ∧
        (0 < limits.min.height → wlxScaleSize cfg limits.min.height ≤ s.height)) ∧
      (0 < limits.max.width ∧ 0 < limits.max.height → s.width ≤ wlxScaleSize cfg limits.max.width ∧
        s.height ≤ wlxScaleSize cfg limits.max.height)) := by
    intro s hw hh
    unfold SizeHints.Admits
    rw [hmin, hmax, hside _ _ hw, hside _ _ hh]
    refine and_congr_right fun _ => ?_
    by_cases hboth : 0 < limits.max.width ∧ 0 < limits.max.height
    · rw [if_pos hboth]
      simp only [Option.mem_def, Option.some.injEq, forall_eq', hboth, and_self, forall_const]
      rfl
    · rw [if_neg hboth]
      exact iff_of_true (fun _ h => by cases h) fun h => absurd h hboth
  have hpaired : limits.Paired ↔ (0 < limits.max.width ↔ 0 < limits.max.height) := by
    unfold SizeLimits.Paired
    have := limits.max_nonneg
    omega
  unfold LimitsMirrored
  rw [hpaired]
  constructor
  · intro h
    -- a host window that is as large as need be, and larger than a maximum
    have hlarge : ∀ n : Int, ∃ side, 1 ≤ side ∧ n < side ∧ hintedMin cfg limits.min.width ≤ side ∧
        hintedMin cfg limits.min.height ≤ side := by
      intro n
      refine ⟨max (max 1 (n + 1)) (max (hintedMin cfg limits.min.width) (hintedMin cfg limits.min.height)),
        ?_, ?_, ?_, ?_⟩
      all_goals omega
    have hbeyond : ∀ n : Int, ¬(0 < limits.max.width ∧ 0 < limits.max.height) → ∃ side, n < side ∧
        (0 < limits.max.width → side ≤ wlxScaleSize cfg limits.max.width) ∧
          (0 < limits.max.height → side ≤ wlxScaleSize cfg limits.max.height) := by
      intro n hnot
      obtain ⟨side, hone, hn, hminw, hminh⟩ := hlarge n
      have hin := (hadmits ⟨side, side⟩ hone hone).mpr
        ⟨⟨(hside _ _ hone).mp hminw, (hside _ _ hone).mp hminh⟩, fun hboth => absurd hboth hnot⟩
      obtain ⟨⟨-, hmaxw⟩, -, hmaxh⟩ := (h ⟨side, side⟩ hone hone).mp hin
      exact ⟨side, hn, hmaxw, hmaxh⟩
    constructor
    · intro hw
      by_contra hh
      obtain ⟨side, hn, hmaxw, -⟩ := hbeyond (wlxScaleSize cfg limits.max.width) fun hboth => hh hboth.2
      exact absurd (hmaxw hw) (Int.not_le.mpr hn)
    · intro hh
      by_contra hw
      obtain ⟨side, hn, -, hmaxh⟩ := hbeyond (wlxScaleSize cfg limits.max.height) fun hboth => hw hboth.1
      exact absurd (hmaxh hh) (Int.not_le.mpr hn)
  · intro h s hw hh
    rw [hadmits s hw hh]
    constructor
    · rintro ⟨⟨hminw, hminh⟩, hmax⟩
      exact ⟨⟨hminw, fun hpos => (hmax ⟨hpos, h.mp hpos⟩).1⟩,
        hminh, fun hpos => (hmax ⟨h.mpr hpos, hpos⟩).2⟩
    · rintro ⟨⟨hminw, hmaxw⟩, hminh, hmaxh⟩
      exact ⟨⟨hminw, hminh⟩, fun hboth => ⟨hmaxw hboth.1, hmaxh hboth.2⟩⟩

end Limits

/-! ## What is written -/

section Written

variable {cfg : Config} {v : MetaSession} {id : Nat} {win : XToplevel} {policy : Window}
  {hints : SizeHints} {own : XWindow}

/-- The hint goes to all windows of the toplevel, and an absent parent writes none: what was written stays. -/
theorem applyTransientHints_eq (hwin : v.host.window id = some win) (hx : win.xwin ≠ none) :
    v.applyTransientHints id =
      { v with
        props := fun w =>
          if w ∈ win.targets then
            { v.props w with transientFor := (v.parentX id).or (v.props w).transientFor }
          else v.props w
        hinted := fun k => if k = id then (v.parentX id).or (v.hinted id) else v.hinted k } := by
  unfold applyTransientHints
  rw [hwin]
  dsimp only
  rw [if_neg hx]
  cases v.parentX id with
  -- without a parent the source returns before it writes
  | none =>
    have hprops : (fun w => if w ∈ win.targets then
        { v.props w with transientFor := Option.or none (v.props w).transientFor } else v.props w) =
        v.props := by
      funext w
      exact ite_self _
    have hhinted : (fun k => if k = id then Option.or none (v.hinted id) else v.hinted k) = v.hinted := by
      funext k
      split
      · rename_i hk
        rw [hk]
        rfl
      · rfl
    rw [hprops, hhinted]
  | some parent => rfl

/-- The limits go to all windows of the toplevel. -/
theorem winSyncSizeHints_eq (hwin : v.host.window id = some win) (hx : win.xwin ≠ none)
    (hhints : policy.winSyncSizeHints cfg (v.shell id).current = some hints) :
    v.winSyncSizeHints cfg id policy = v.write win.targets ({ · with normalHints := some hints }) := by
  unfold winSyncSizeHints
  rw [hwin]
  dsimp only
  rw [if_neg hx, hhints]

/-- Each property goes to its windows. -/
theorem describe_eq (hwin : v.host.window id = some win) (hx : win.xwin ≠ none)
    (hhints : policy.winSyncSizeHints cfg (v.shell id).current = some hints) (ws : List XWindow) :
    v.describe cfg id ws policy =
      { v with
        props := fun w =>
          { name := if w ∈ ws then some (v.shell id).titleText else (v.props w).name
            wmClass := if w ∈ ws then some (classText (v.shell id).appIdText) else (v.props w).wmClass
            normalHints := if w ∈ win.targets then some hints else (v.props w).normalHints
            transientFor :=
              if w ∈ win.targets then (v.parentX id).or (v.props w).transientFor
              else (v.props w).transientFor }
        hinted := fun k => if k = id then (v.parentX id).or (v.hinted id) else v.hinted k } := by
  unfold describe
  rw [applyTransientHints_eq hwin hx]
  dsimp only
  -- four properties are written in turn, to the same windows
  rw [@winSyncSizeHints_eq cfg _ id win policy hints]
  · unfold xwinSetTitle xwinSetClass write
    congr 1
    funext w
    dsimp only
    split <;> split <;> rfl
  · exact hwin
  · exact hx
  · exact hhints

/-- The output's window alone is told everything, at first. -/
theorem describe_newOutput (own : XWindow) {old : XToplevel} (hold : v.host.window id = some old)
    (hhints : policy.winSyncSizeHints cfg (v.shell id).current = some hints) :
    let v' := (v.newOutput id own).describe cfg id [own] policy
    v'.shell = v.shell ∧ (∀ k, k ≠ id → v'.hinted k = v.hinted k) ∧
      v'.props own =
        ⟨some (v.shell id).titleText, some (classText (v.shell id).appIdText), some hints, v'.hinted id⟩ ∧
      ∀ w, w ≠ own → v'.props w = v.props w := by
  intro v'
  -- the windows of a new output are all its own
  have hwin : (v.newOutput id own).host.window id =
      some { old with own := some own, xwin := some own, contentXwin := some own, related := [own] } := by
    unfold newOutput
    dsimp only
    rw [HostSession.window_update (by intro u; rfl), hold, Option.map_some, if_pos rfl]
  have heq : v' = _ := describe_eq hwin (Option.some_ne_none own) hhints [own]
  have htargets : XToplevel.targets
      { old with own := some own, xwin := some own, contentXwin := some own, related := [own] } =
      [own, own] := rfl
  rw [heq, htargets]
  refine ⟨rfl, fun k hk => ?_, ?_, fun w hw => ?_⟩
  · dsimp only
    rw [if_neg hk]
    exact if_neg hk
  · simp only [newOutput, List.mem_cons, true_or, if_true]
  · simp only [newOutput, List.mem_cons, List.not_mem_nil, hw, or_self, if_false]

/-- **A new output's window** is told everything. -/
theorem createOutputForWindow_spec {host : HostSession} {old : XToplevel}
    (hold : v.host.window id = some old) (hwin : host.window id = some win) (hx : win.xwin = some own)
    (hhints : policy.winSyncSizeHints cfg (v.shell id).current = some hints) :
    let s := v.shell id
    let v' := v.createOutputForWindow cfg id own policy host
    v'.host = host ∧
      v'.shell = (fun k => if k = id then
        { s with
          lastTitle := snprintfText wlxTextCache s.titleText
          lastAppId := snprintfText wlxTextCache s.appIdText } else v.shell k) ∧
      (∀ k, k ≠ id → v'.hinted k = v.hinted k) ∧
      v'.props own = ⟨some s.titleText, some (classText s.appIdText), some hints, v'.hinted id⟩ ∧
      ∀ w, w ∉ win.targets → v'.props w = v.props w := by
  intro s v'
  obtain ⟨hshell, hhinted, hown, hother⟩ := describe_newOutput own hold hhints
  have hmem : own ∈ win.targets := List.mem_append_left _ (by rw [hx]; exact List.mem_singleton_self own)
  -- the output's own window is told first, then the content window if it is another one
  have hv' : v' =
      let first : MetaSession := { (v.newOutput id own).describe cfg id [own] policy with host := host }
      (if win.contentXwin = some own then first
        else first.describe cfg id win.contentXwin.toList policy).setShell id
        { s with
          lastTitle := snprintfText wlxTextCache s.titleText
          lastAppId := snprintfText wlxTextCache s.appIdText } := by
    show v.createOutputForWindow cfg id own policy host = _
    unfold createOutputForWindow
    rw [hwin]
    rfl
  generalize (v.newOutput id own).describe cfg id [own] policy = first at hshell hhinted hown hother hv'
  dsimp only at hv'
  rw [hv']
  split
  · refine ⟨rfl, ?_, hhinted, hown, fun w hw => hother w fun h => hw (h ▸ hmem)⟩
    unfold setShell
    rw [hshell]
  · -- the content window is another one, which is told as well
    rename_i hcontent
    have hnot : own ∉ win.contentXwin.toList := fun h => hcontent (Option.mem_toList.mp h)
    have hhints' : policy.winSyncSizeHints cfg (first.shell id).current = some hints := by
      rw [hshell]
      exact hhints
    have hx' : win.xwin ≠ none := by
      rw [hx]
      exact Option.some_ne_none own
    rw [describe_eq (v := { first with host := host }) hwin hx' hhints']
    refine ⟨rfl, ?_, fun k hk => ?_, ?_, fun w hw => ?_⟩
    · unfold setShell
      rw [hshell]
    · show (if k = id then _ else first.hinted k) = _
      rw [if_neg hk]
      exact hhinted k hk
    · simp only [setShell, hnot, hmem, if_true, if_false, hown]
      rfl
    · have hw' : w ∉ win.contentXwin.toList := fun h => hw (List.mem_append_right _ h)
      simp only [setShell, hw', hw, if_false]
      exact hother w fun h => hw (h ▸ hmem)

/-- A commit of a toplevel without an output says nothing. -/
theorem surfaceCommit_of_own_eq_none (hwin : v.host.window id = some win) (hx : win.xwin = none)
    (hown : win.own = none) : v.surfaceCommit cfg id policy = v := by
  unfold surfaceCommit
  rw [hwin]
  dsimp only
  rw [if_pos hx, if_neg (not_not.mpr hown)]

/-- The title is written and cached, unless the cache is taken for it. -/
theorem syncTitle_eq (ws : List XWindow) (v : MetaSession) :
    let kept := strncmpEq wlxTextCache (v.shell id).titleText (v.shell id).lastTitle
    v.syncTitle id ws =
      { v with
        props := fun w =>
          { v.props w with
            name := if w ∈ ws ∧ ¬kept then some (v.shell id).titleText else (v.props w).name }
        shell := fun k =>
          { v.shell k with
            lastTitle :=
              if k = id ∧ ¬kept then snprintfText wlxTextCache (v.shell id).titleText
              else (v.shell k).lastTitle } } := by
  intro kept
  show (if kept = true then v else _) = _
  cases hkept : kept with
  -- taken for the kept text, nothing is written
  | true => simp
  | false =>
    simp only [Bool.false_eq_true, if_false, not_false_eq_true, and_true]
    unfold xwinSetTitle write setShell
    congr 1
    · funext k
      dsimp only
      split
      · rename_i hk
        rw [hk]
      · rfl
    · funext w
      dsimp only
      split <;> rfl

/-- So is the application's id, as the class. -/
theorem syncAppId_eq (ws : List XWindow) (v : MetaSession) :
    let kept := strncmpEq wlxTextCache (v.shell id).appIdText (v.shell id).lastAppId
    v.syncAppId id ws =
      { v with
        props := fun w =>
          { v.props w with
            wmClass :=
              if w ∈ ws ∧ ¬kept then some (classText (v.shell id).appIdText) else (v.props w).wmClass }
        shell := fun k =>
          { v.shell k with
            lastAppId :=
              if k = id ∧ ¬kept then snprintfText wlxTextCache (v.shell id).appIdText
              else (v.shell k).lastAppId } } := by
  intro kept
  show (if kept = true then v else _) = _
  cases hkept : kept with
  -- compared as far as the cache goes, it is the one of before
  | true => simp
  | false =>
    simp only [Bool.false_eq_true, if_false, not_false_eq_true, and_true]
    unfold xwinSetClass write setShell
    congr 1
    · funext k
      dsimp only
      split
      · rename_i hk
        rw [hk]
      · rfl
    · funext w
      dsimp only
      split <;> rfl

/-- **A commit** writes the limits, and the texts that are not taken for the kept ones. -/
theorem surfaceCommit_eq (hwin : v.host.window id = some win) (hx : win.xwin ≠ none)
    (hown : win.own ≠ none)
    (hhints : policy.winSyncSizeHints cfg (v.shell id).current = some hints) :
    let s := v.shell id
    let keptTitle := strncmpEq wlxTextCache s.titleText s.lastTitle
    let keptAppId := strncmpEq wlxTextCache s.appIdText s.lastAppId
    v.surfaceCommit cfg id policy =
      { v with
        props := fun w =>
          { v.props w with
            name := if w ∈ win.targets ∧ ¬keptTitle then some s.titleText else (v.props w).name
            wmClass :=
              if w ∈ win.targets ∧ ¬keptAppId then some (classText s.appIdText) else (v.props w).wmClass
            normalHints := if w ∈ win.targets then some hints else (v.props w).normalHints }
        shell := fun k =>
          { v.shell k with
            lastTitle :=
              if k = id ∧ ¬keptTitle then snprintfText wlxTextCache s.titleText else (v.shell k).lastTitle
            lastAppId :=
              if k = id ∧ ¬keptAppId then snprintfText wlxTextCache s.appIdText
              else (v.shell k).lastAppId } } := by
  intro s keptTitle keptAppId
  unfold surfaceCommit
  rw [hwin]
  dsimp only
  rw [if_pos hown, if_neg hx, winSyncSizeHints_eq hwin hx hhints, syncAppId_eq, syncTitle_eq]
  unfold write
  dsimp only
  congr 1
  funext w
  -- limits go to all windows at each commit, texts only if they changed
  by_cases hw : w ∈ win.targets
  · simp only [hw, if_true]
    rfl
  · simp only [hw, if_false]
    rfl

end Written

/-! ## What the program keeps -/

/-- Outputs and frames come and go together, a mapped toplevel has both, and parents are mapped. -/
structure Sound (v : MetaSession) : Prop where
  distinct : v.host.Distinct
  framed : ∀ id win, v.host.window id = some win → (win.own = none ↔ win.xwin = none)
  output : ∀ id, (v.shell id).mapped = true → ∃ win, v.host.window id = some win ∧ win.own ≠ none
  parent : ∀ id p, (v.shell id).parent = some p → (v.shell p).mapped = true

/-- What is shown is what is kept of it, and what has been found. -/
structure Tells (p : WindowProps) (s : ShellToplevel) (hinted : Option XWindow) : Prop where
  name : ∃ t, p.name = some t ∧ s.lastTitle = snprintfText wlxTextCache t
  wmClass : ∃ a, p.wmClass = some (classText a) ∧ s.lastAppId = snprintfText wlxTextCache a
  transientFor : p.transientFor = hinted

def Told (v : MetaSession) : Prop :=
  ∀ id win own, v.host.window id = some win → win.own = some own →
    Tells (v.props own) (v.shell id) (v.hinted id)

section Step

variable {cfg : Config} {v v' : MetaSession} {id : Nat} {host : HostSession}

/-- At the start there are no toplevels, -/
theorem sound_init (root : HostNode) : (init root).Sound where
  distinct := List.nodup_nil
  framed _ _ h := nomatch h
  output _ h := nomatch h
  parent _ _ h := nomatch h

/-- and none whose properties could be stale. -/
theorem told_init (root : HostNode) : (init root).Told := fun _ _ _ h => nomatch h

/-- Where the X windows and what is mapped stay, only parents matter. -/
theorem Sound.of_parent (hs : v.Sound) (hhost : v'.host = v.host)
    (hmapped : ∀ k, (v'.shell k).mapped = (v.shell k).mapped)
    (hparent : ∀ k p, (v'.shell k).parent = some p →
      (v.shell k).parent = some p ∨ (v.shell p).mapped = true) : v'.Sound where
  distinct := hhost ▸ hs.distinct
  framed k win hwin := hs.framed k win (hhost ▸ hwin)
  output k hk := by
    obtain ⟨win, hwin, hown⟩ := hs.output k (hmapped k ▸ hk)
    exact ⟨win, hhost ▸ hwin, hown⟩
  parent k p hp := by
    rw [hmapped]
    exact (hparent k p hp).elim (hs.parent k p) id

/-- A request of the client keeps the record sound, if a parent it names is mapped. -/
theorem Sound.setShell_frame (hs : v.Sound) {s : ShellToplevel} (hmapped : s.mapped = (v.shell id).mapped)
    (hparent : s.parent = (v.shell id).parent ∨ ∀ p, s.parent = some p → (v.shell p).mapped = true) :
    (v.setShell id s).Sound := by
  refine hs.of_parent rfl (fun k => ?_) fun k p hp => ?_
  · show (if k = id then _ else _ : ShellToplevel).mapped = _
    split
    · rename_i hkid
      rw [hmapped, hkid]
    · rfl
  · change (if k = id then _ else _ : ShellToplevel).parent = some p at hp
    split at hp
    · rename_i hkid
      rw [hkid]
      exact hparent.imp (fun h => h.symm.trans hp) fun h => h p hp
    · exact .inl hp

/-- The toplevel loses its output. -/
theorem Sound.unmapped (hs : v.Sound) (hdistinct : host.Distinct)
    (hframed : ∀ k win, host.window k = some win → (win.own = none ↔ win.xwin = none))
    (hkeep : ∀ k, k ≠ id → host.window k = v.host.window k) :
    Sound { v.unmapped id with host := host } where
  distinct := hdistinct
  framed := hframed
  output k hk := by
    change (if k = id then _ else _ : ShellToplevel).mapped = true at hk
    by_cases hkid : k = id
    · rw [if_pos hkid] at hk
      cases hk
    · rw [if_neg hkid] at hk
      have hmapped : (v.shell k).mapped = true := by
        split at hk <;> exact hk
      show ∃ win, host.window k = some win ∧ _
      rw [hkeep k hkid]
      exact hs.output k hmapped
  parent k p hp := by
    -- whoever has a parent then has one that is mapped, and is not this toplevel
    have hmapped : p ≠ id ∧ (v.shell p).mapped = true := by
      change (if k = id then _ else _ : ShellToplevel).parent = some p at hp
      by_cases hkid : k = id
      · rw [if_pos hkid] at hp
        cases hp
      · rw [if_neg hkid] at hp
        split at hp
        · obtain ⟨-, hp⟩ := Option.filter_eq_some_iff.mp hp
          simpa using hp
        · rename_i hother
          exact ⟨fun h => hother (h ▸ hp), hs.parent k p hp⟩
    show (if p = id then _ else _ : ShellToplevel).mapped = true
    rw [if_neg hmapped.1]
    split
    · exact hmapped.2
    · exact hmapped.2

/-- A toplevel that is not mapped and nobody's parent may be another one. -/
theorem Sound.setShell_fresh (hs : v.Sound) (hid : (v.shell id).mapped = false) :
    (v.setShell id .fresh).Sound where
  distinct := hs.distinct
  framed := hs.framed
  output k hk := by
    refine hs.output k ?_
    change (if k = id then _ else _ : ShellToplevel).mapped = true at hk
    split at hk
    · cases hk
    · exact hk
  parent k p hp := by
    have hold : (v.shell k).parent = some p := by
      change (if k = id then _ else _ : ShellToplevel).parent = some p at hp
      split at hp
      · cases hp
      · exact hp
    have hmapped := hs.parent k p hold
    -- nobody's parent is forgotten, for a parent is mapped
    have hne : p ≠ id := by
      rintro rfl
      rw [hid] at hmapped
      cases hmapped
    show (if p = id then _ else _ : ShellToplevel).mapped = true
    rw [if_neg hne]
    exact hmapped

/-- A host session in which toplevels keep their outputs is as sound. -/
theorem Sound.with_host (hs : v.Sound) (hdistinct : host.Distinct)
    (hframed : ∀ k win, host.window k = some win → (win.own = none ↔ win.xwin = none))
    (houtput : ∀ k, (∃ win, v.host.window k = some win ∧ win.own ≠ none) →
      ∃ win, host.window k = some win ∧ win.own ≠ none) : Sound { v with host := host } where
  distinct := hdistinct
  framed := hframed
  output k hk := houtput k (hs.output k hk)
  parent := hs.parent

/-- A toplevel with an output is mapped. -/
theorem Sound.mapped (hs : v.Sound) (hwin : ∃ win, v.host.window id = some win ∧ win.own ≠ none)
    (current : SizeLimits) :
    (v.setShell id { v.shell id with current := current, mapped := true }).Sound where
  distinct := hs.distinct
  framed := hs.framed
  output k hk := by
    by_cases hkid : k = id
    · rw [hkid]
      exact hwin
    · refine hs.output k ?_
      change (if k = id then _ else _ : ShellToplevel).mapped = true at hk
      rw [if_neg hkid] at hk
      exact hk
  parent k p hp := by
    -- parents are as before
    have hold : (v.shell k).parent = some p := by
      change (if k = id then _ else _ : ShellToplevel).parent = some p at hp
      split at hp
      · rename_i hkid
        rw [hkid]
        exact hp
      · exact hp
    show (if p = id then _ else _ : ShellToplevel).mapped = true
    split
    · rfl
    · exact hs.parent k p hold

@[simp] theorem setShell_self (s : ShellToplevel) : (v.setShell id s).shell id = s := if_pos rfl

/-- What a commit makes current. -/
theorem step_map {own : XWindow} {tree : HostTree} {policy : Window}
    (hstep : v.step cfg (.map id own tree policy) = some v') :
    let u := v.setShell id { v.shell id with current := (v.shell id).pending, mapped := true }
    ∃ host hints, v.host.step (.map id own tree) = some host ∧
      policy.winSyncSizeHints cfg (u.shell id).current = some hints ∧
      v' = u.createOutputForWindow cfg id own policy host := by
  obtain ⟨host, hhost, hstep⟩ := Option.bind_eq_some_iff.mp hstep
  obtain ⟨hsome, hstep⟩ := Option.ite_none_right_eq_some.mp hstep
  obtain ⟨hints, hhints⟩ := Option.isSome_iff_exists.mp hsome
  exact ⟨host, hints, hhost, hhints, (Option.some.inj hstep).symm⟩

/-- A commit makes the pending limits current, and then writes. -/
theorem step_commit {policy : Window} (hstep : v.step cfg (.commit id policy) = some v') :
    let u := v.setShell id { v.shell id with current := (v.shell id).pending }
    u.Sized cfg id policy ∧ v' = u.surfaceCommit cfg id policy := by
  obtain ⟨hsized, hstep⟩ := Option.ite_none_right_eq_some.mp hstep
  exact ⟨hsized, (Option.some.inj hstep).symm⟩

/-- A toplevel with an output has limits to write. -/
theorem Sized.exists_hints {policy : Window} (hsized : v.Sized cfg id policy) {win : XToplevel}
    (hwin : v.host.window id = some win) (hown : win.own ≠ none) :
    ∃ hints, policy.winSyncSizeHints cfg (v.shell id).current = some hints := by
  refine Option.isSome_iff_exists.mp (hsized ?_)
  rw [hwin]
  exact Option.isSome_iff_ne_none.mpr hown

/-- Neither the X windows nor what is mapped depends on what is written. -/
theorem applyTransientHints_frame (v : MetaSession) (id : Nat) :
    (v.applyTransientHints id).host = v.host ∧ (v.applyTransientHints id).shell = v.shell := by
  unfold applyTransientHints
  split
  · exact ⟨rfl, rfl⟩
  · split
    · exact ⟨rfl, rfl⟩
    · split <;> exact ⟨rfl, rfl⟩

/-- Whatever it writes, it writes no more than the limits. -/
theorem winSyncSizeHints_frame (cfg : Config) (v : MetaSession) (id : Nat) (policy : Window) :
    ∃ ws f, v.winSyncSizeHints cfg id policy = v.write ws ({ · with normalHints := f }) := by
  have hnone : v = v.write [] ({ · with normalHints := none }) := by
    unfold write
    simp
  unfold winSyncSizeHints
  split
  · exact ⟨[], none, hnone⟩
  · split
    · exact ⟨[], none, hnone⟩
    · split
      · exact ⟨[], none, hnone⟩
      · rename_i win _ _ _ hints _
        exact ⟨win.targets, some hints, rfl⟩

/-- A commit changes no parent and maps nothing. -/
theorem surfaceCommit_frame (cfg : Config) (v : MetaSession) (id : Nat) (policy : Window) :
    (v.surfaceCommit cfg id policy).host = v.host ∧
      ∀ k, ((v.surfaceCommit cfg id policy).shell k).mapped = (v.shell k).mapped ∧
        ((v.surfaceCommit cfg id policy).shell k).parent = (v.shell k).parent := by
  unfold surfaceCommit
  split
  · exact ⟨rfl, fun _ => ⟨rfl, rfl⟩⟩
  · rename_i win _
    dsimp only
    have hhints : (if win.own ≠ none then v.winSyncSizeHints cfg id policy else v).host = v.host ∧
        (if win.own ≠ none then v.winSyncSizeHints cfg id policy else v).shell = v.shell := by
      obtain ⟨ws, f, heq⟩ := winSyncSizeHints_frame cfg v id policy
      rw [heq]
      split <;> exact ⟨rfl, rfl⟩
    -- the hints are written only for a toplevel with an output
    generalize (if win.own ≠ none then v.winSyncSizeHints cfg id policy else v) = u at hhints
    obtain ⟨hhost, hshell⟩ := hhints
    rw [← hhost, ← hshell]
    split
    · exact ⟨rfl, fun _ => ⟨rfl, rfl⟩⟩
    · rw [syncAppId_eq, syncTitle_eq]
      exact ⟨rfl, fun _ => ⟨rfl, rfl⟩⟩

/-- A map makes the output, and with it a window for the properties. -/
theorem Sound.map (hs : v.Sound) {own : XWindow} {tree : HostTree} {policy : Window}
    (hstep : v.step cfg (.map id own tree policy) = some v') : v'.Sound := by
  obtain ⟨host, hints, hhost, hhints, rfl⟩ := step_map hstep
  obtain ⟨old, hold, hwin, hothers⟩ := HostSession.window_map hhost
  obtain ⟨-, hown, hx, -, -⟩ := old.createOutput_spec tree own
  have houtput : ∃ win, host.window id = some win ∧ win.own ≠ none :=
    ⟨_, hwin, by rw [hown]; exact Option.some_ne_none own⟩
  -- the output first, then the map of the shell
  have hmid : Sound { v with host := host } := by
    refine hs.with_host (hs.distinct.step hhost) (fun k win hk => ?_) fun k hk => ?_
    · by_cases hkid : k = id
      · rw [hkid, hwin] at hk
        obtain rfl := Option.some.inj hk
        rw [hown, hx]
      · exact hs.framed k win (hothers k hkid ▸ hk)
    · by_cases hkid : k = id
      · rw [hkid]
        exact houtput
      · rw [hothers k hkid]
        exact hk
  have hmapped := hmid.mapped houtput (v.shell id).pending
  obtain ⟨hhost', hshell, -, -, -⟩ := createOutputForWindow_spec
    (v := v.setShell id { v.shell id with current := (v.shell id).pending, mapped := true })
    hold hwin hx hhints
  -- of the shell's record the caches alone change
  refine hmapped.of_parent hhost' (fun k => ?_) fun k p hp => .inl ?_
  · rw [hshell]
    dsimp only
    split
    · rename_i hkid
      rw [hkid]
      rfl
    · rfl
  · rw [hshell] at hp
    dsimp only at hp
    split at hp
    · rename_i hkid
      rw [hkid]
      exact hp
    · exact hp

/-- A new toplevel names no parent and has no output. -/
theorem Sound.newToplevel (hs : v.Sound) (hstep : v.step cfg (.newToplevel id) = some v') : v'.Sound := by
  obtain ⟨host, hhost, rfl⟩ := Option.map_eq_some_iff.mp hstep
  have hwindow := HostSession.window_newToplevel hhost
  have hnone : v.host.window id = none := (Option.ite_none_right_eq_some.mp hhost).1
  -- a mapped toplevel would have an output
  have hunmapped : (v.shell id).mapped = false := by
    cases hmapped : (v.shell id).mapped with
    | false => rfl
    | true =>
      obtain ⟨win, hwin, -⟩ := hs.output id hmapped
      rw [hnone] at hwin
      cases hwin
  refine Sound.setShell_fresh
    (hs.with_host (hs.distinct.step hhost) (fun k win hwin => ?_) fun k hk => ?_) hunmapped
  · rw [hwindow] at hwin
    split at hwin
    · obtain rfl := Option.some.inj hwin
      exact iff_of_true rfl rfl
    · exact hs.framed k win hwin
  · obtain ⟨win, hwin, hown⟩ := hk
    refine ⟨win, ?_, hown⟩
    rw [hwindow, if_neg ?_]
    · exact hwin
    · rintro rfl
      rw [hnone] at hwin
      cases hwin

/-- A reparented toplevel had an output before, or nothing happens. -/
theorem Sound.reparent (hs : v.Sound) {tree : HostTree} (hstep : v.step cfg (.reparent id tree) = some v') :
    v'.Sound := by
  obtain ⟨host, hhost, rfl⟩ := Option.map_eq_some_iff.mp hstep
  obtain ⟨hfound, hwindow⟩ | ⟨found, own, parent, frame, hfound, hlookup, hx, hwindow⟩ :=
    HostSession.window_reparent hs.distinct hhost
  · rw [hfound]
    refine hs.with_host (hs.distinct.step hhost) (fun k win hk => ?_) fun k hk => ?_
    · exact hs.framed k win (hwindow k ▸ hk)
    · rw [hwindow]
      exact hk
  · rw [hfound]
    -- first the windows, then the hint that is written again
    have hmid : Sound { v with host := host } := by
      refine hs.with_host (hs.distinct.step hhost) (fun k win hk => ?_) fun k hk => ?_
      · rw [hwindow] at hk
        obtain ⟨u, hu, rfl⟩ := Option.map_eq_some_iff.mp hk
        split
        · -- the toplevel that is found has an output, as it has a frame
          rename_i hkid
          rw [hkid, hlookup] at hu
          obtain rfl := Option.some.inj hu
          obtain ⟨hown, hx'⟩ := found.handleReparentNotify_frame tree own parent frame
          rw [hown]
          exact iff_of_false (mt (hs.framed _ found hlookup).mp hx) hx'
        · exact hs.framed k u hu
      · obtain ⟨u, hu, hown⟩ := hk
        refine ⟨_, by rw [hwindow, hu]; rfl, ?_⟩
        split
        · rw [(u.handleReparentNotify_frame tree own parent frame).1]
          exact hown
        · exact hown
    obtain ⟨hhost', hshell⟩ := applyTransientHints_frame { v with host := host } found.id
    refine hmid.of_parent hhost' (fun k => by rw [hshell]) fun k p hp => .inl ?_
    rw [hshell] at hp
    exact hp

/-- Each handler keeps the record sound. One case per event. -/
theorem Sound.step (hs : v.Sound) {a : MetaAction} (hstep : v.step cfg a = some v') : v'.Sound := by
  cases a with
  | newToplevel id => exact hs.newToplevel hstep
  | setTitle id title =>
    obtain rfl := Option.some.inj hstep
    exact hs.setShell_frame rfl (.inl rfl)
  | setAppId id appId =>
    obtain rfl := Option.some.inj hstep
    exact hs.setShell_frame rfl (.inl rfl)
  | setLimits id limits =>
    obtain rfl := Option.some.inj hstep
    exact hs.setShell_frame rfl (.inl rfl)
  | setParent id parent =>
    obtain ⟨-, hstep⟩ := Option.ite_none_left_eq_some.mp hstep
    obtain rfl := Option.some.inj hstep
    -- only a mapped parent is taken
    refine hs.setShell_frame rfl (.inr fun p hp => ?_)
    exact (Option.filter_eq_some_iff.mp hp).2
  | map id own tree policy => exact hs.map hstep
  | commit id policy =>
    obtain ⟨-, rfl⟩ := step_commit hstep
    have hmid : (v.setShell id { v.shell id with current := (v.shell id).pending }).Sound :=
      hs.setShell_frame rfl (.inl rfl)
    obtain ⟨hhost, hshell⟩ := surfaceCommit_frame cfg
      (v.setShell id { v.shell id with current := (v.shell id).pending }) id policy
    exact hmid.of_parent hhost (fun k => (hshell k).1) fun k p hp => .inl (by rw [← (hshell k).2]; exact hp)
  | syncHints id policy =>
    obtain rfl := Option.some.inj hstep
    obtain ⟨ws, f, heq⟩ := winSyncSizeHints_frame cfg v id policy
    rw [heq]
    exact hs.of_parent rfl (fun _ => rfl) fun _ _ hp => .inl hp
  | reparent id tree => exact hs.reparent hstep
  | unmap id =>
    obtain ⟨-, hstep⟩ := Option.ite_none_right_eq_some.mp hstep
    obtain ⟨host, hhost, rfl⟩ := Option.map_eq_some_iff.mp hstep
    have hwindow := HostSession.window_unmap hhost
    refine hs.unmapped (hs.distinct.step hhost) (fun k win hwin => ?_) fun k hk => ?_
    · rw [hwindow] at hwin
      obtain ⟨u, hu, rfl⟩ := Option.map_eq_some_iff.mp hwin
      split
      · exact iff_of_true rfl rfl
      · exact hs.framed k u hu
    · simp only [hwindow, if_neg hk, Option.map_id']
  | destroy id =>
    obtain ⟨host, hhost, rfl⟩ := Option.map_eq_some_iff.mp hstep
    have hwindow := HostSession.window_destroy hhost
    refine Sound.setShell_fresh
      (hs.unmapped (hs.distinct.step hhost) (fun k win hwin => ?_) fun k hk => ?_) ?_
    · rw [hwindow] at hwin
      obtain ⟨-, hwin⟩ := Option.ite_none_left_eq_some.mp hwin
      exact hs.framed k win hwin
    · rw [hwindow, if_neg hk]
    · show (if id = id then _ else _ : ShellToplevel).mapped = false
      rw [if_pos rfl]

/-- Only name, class and transient hint are compared with what was told. -/
theorem Tells.congr {p p' : WindowProps} {s s' : ShellToplevel} {h h' : Option XWindow}
    (htells : Tells p s h) (hname : p'.name = p.name) (hclass : p'.wmClass = p.wmClass)
    (hfor : p'.transientFor = p.transientFor) (htitle : s'.lastTitle = s.lastTitle)
    (happ : s'.lastAppId = s.lastAppId) (hh : h' = h) : Tells p' s' h' where
  name := by
    rw [hname, htitle]
    exact htells.name
  wmClass := by
    rw [hclass, happ]
    exact htells.wmClass
  transientFor := by
    rw [hfor, hh]
    exact htells.transientFor

/-- Where no text, no parent's window and no cache changes, and no output is new. -/
theorem Told.of_frame (ht : v.Told)
    (hwindow : ∀ k win own, v'.host.window k = some win → win.own = some own →
      (∃ old, v.host.window k = some old ∧ old.own = some own) ∧
        (v'.props own).name = (v.props own).name ∧ (v'.props own).wmClass = (v.props own).wmClass ∧
        (v'.props own).transientFor = (v.props own).transientFor ∧
        (v'.shell k).lastTitle = (v.shell k).lastTitle ∧ (v'.shell k).lastAppId = (v.shell k).lastAppId ∧
        v'.hinted k = v.hinted k) : v'.Told := by
  intro k win own hwin hown
  obtain ⟨⟨old, hold, holdown⟩, hname, hclass, hfor, htitle, happ, hh⟩ := hwindow k win own hwin hown
  exact (ht k old own hold holdown).congr hname hclass hfor htitle happ hh

/-- What changes no cache leaves told what was told. -/
theorem Told.setShell_frame (ht : v.Told) {s : ShellToplevel}
    (htitle : s.lastTitle = (v.shell id).lastTitle) (happ : s.lastAppId = (v.shell id).lastAppId) :
    (v.setShell id s).Told := by
  refine ht.of_frame fun k win own hwin hown => ⟨⟨win, hwin, hown⟩, rfl, rfl, rfl, ?_, ?_, rfl⟩
  · show (if k = id then _ else _ : ShellToplevel).lastTitle = _
    split
    · rename_i hkid
      rw [htitle, hkid]
    · rfl
  · show (if k = id then _ else _ : ShellToplevel).lastAppId = _
    split
    · rename_i hkid
      rw [happ, hkid]
    · rfl

/-- A toplevel without an output is told nothing. -/
theorem Told.unmapped (ht : v.Told) (hkeep : ∀ k, k ≠ id → host.window k = v.host.window k)
    (hgone : ∀ win, host.window id = some win → win.own = none) :
    Told { v.unmapped id with host := host } := by
  refine ht.of_frame fun k win own hwin hown => ?_
  have hk : k ≠ id := by
    rintro rfl
    rw [hgone win hwin] at hown
    cases hown
  refine ⟨⟨win, by rw [← hkeep k hk]; exact hwin, hown⟩, rfl, rfl, rfl, ?_, ?_, rfl⟩
  · show (if k = id then _ else _ : ShellToplevel).lastTitle = _
    rw [if_neg hk]
    split <;> rfl
  · show (if k = id then _ else _ : ShellToplevel).lastAppId = _
    rw [if_neg hk]
    split <;> rfl

/-- The windows of another toplevel's writes are not this one's. -/
theorem ContentKnown.not_mem_targets (hknown : v.ContentKnown) {k : Nat} {win u : XToplevel} {own : XWindow}
    (hwin : v.host.window k = some win) (hown : win.own = some own) (hu : v.host.window id = some u)
    (hne : k ≠ id) : own ∉ u.targets := by
  obtain ⟨hmem, hid⟩ := HostSession.window_some hwin
  obtain ⟨humem, huid⟩ := HostSession.window_some hu
  exact (hknown win hmem own hown).2 u humem fun h => hne (by rw [← hid, ← h, huid])

/-- A toplevel that is shown writes to its own window among others. -/
theorem ContentKnown.mem_targets (hknown : v.ContentKnown) {win : XToplevel} {own : XWindow}
    (hwin : v.host.window id = some win) (hown : win.own = some own) : own ∈ win.targets := by
  have hcontent := (hknown win (HostSession.window_some hwin).1 own hown).1
  refine List.mem_append_right _ ?_
  rw [hcontent]
  exact List.mem_singleton_self own

/-- The hint that is written is the one that is remembered. -/
theorem Told.applyTransientHints (ht : v.Told) (hknown : v.ContentKnown) (id : Nat) :
    (v.applyTransientHints id).Told := by
  cases hwin : v.host.window id with
  | none =>
    unfold MetaSession.applyTransientHints
    rw [hwin]
    exact ht
  | some win =>
    by_cases hx : win.xwin = none
    · unfold MetaSession.applyTransientHints
      rw [hwin]
      dsimp only
      rw [if_pos hx]
      exact ht
    · rw [applyTransientHints_eq hwin hx]
      intro k u own hu hown
      -- its own windows are written, those of another toplevel are not among them
      by_cases hk : k = id
      · subst hk
        obtain rfl : u = win := Option.some.inj (hu.symm.trans hwin)
        have htells := ht k u own hu hown
        have hmem := hknown.mem_targets hu hown
        refine ⟨?_, ?_, ?_⟩
        · dsimp only
          rw [if_pos hmem]
          exact htells.name
        · dsimp only
          rw [if_pos hmem]
          exact htells.wmClass
        · dsimp only
          rw [if_pos hmem, if_pos rfl, htells.transientFor]
      · have hnot := hknown.not_mem_targets hu hown hwin hk
        refine (ht k u own hu hown).congr ?_ ?_ ?_ rfl rfl (if_neg hk)
        all_goals
          dsimp only
          rw [if_neg hnot]

/-- After a commit the caches are those of what is shown. -/
theorem Told.surfaceCommit (ht : v.Told) (hs : v.Sound) (hknown : v.ContentKnown) {policy : Window}
    (hsized : v.Sized cfg id policy) :
    (v.surfaceCommit cfg id policy).Told := by
  cases hwin : v.host.window id with
  | none =>
    unfold MetaSession.surfaceCommit
    rw [hwin]
    exact ht
  | some win =>
    by_cases hout : win.own = none
    · rw [surfaceCommit_of_own_eq_none hwin ((hs.framed id win hwin).mp hout) hout]
      exact ht
    · obtain ⟨hints, hhints⟩ := hsized.exists_hints hwin hout
      rw [surfaceCommit_eq hwin (mt (hs.framed id win hwin).mpr hout) hout hhints]
      intro k u own hu hown
      by_cases hk : k = id
      · subst hk
        obtain rfl : u = win := Option.some.inj (hu.symm.trans hwin)
        have htells := ht k u own hu hown
        have hmem := hknown.mem_targets hu hown
        refine ⟨?_, ?_, htells.transientFor⟩
        · dsimp only
          -- a title that compares equal is not written, and the cache is not either
          by_cases hkept : strncmpEq wlxTextCache (v.shell k).titleText (v.shell k).lastTitle = true
          · rw [if_neg fun h => h.2 hkept, if_neg fun h => h.2 hkept]
            exact htells.name
          · rw [if_pos ⟨hmem, hkept⟩, if_pos ⟨rfl, hkept⟩]
            exact ⟨_, rfl, rfl⟩
        · dsimp only
          by_cases hkept : strncmpEq wlxTextCache (v.shell k).appIdText (v.shell k).lastAppId = true
          · rw [if_neg fun h => h.2 hkept, if_neg fun h => h.2 hkept]
            exact htells.wmClass
          · rw [if_pos ⟨hmem, hkept⟩, if_pos ⟨rfl, hkept⟩]
            exact ⟨_, rfl, rfl⟩
      · have hnot := hknown.not_mem_targets hu hown hwin hk
        refine (ht k u own hu hown).congr ?_ ?_ rfl ?_ ?_ rfl
        · exact if_neg fun h => hnot h.1
        · exact if_neg fun h => hnot h.1
        · exact if_neg fun h => hk h.1
        · exact if_neg fun h => hk h.1

/-- On a first map all properties are written. -/
theorem Told.map (ht : v.Told) {own : XWindow} {tree : HostTree} {policy : Window}
    (hstep : v.step cfg (.map id own tree policy) = some v') (hknown : v'.ContentKnown) : v'.Told := by
  obtain ⟨host, hints, hhost, hhints, rfl⟩ := step_map hstep
  obtain ⟨old, hold, hwin, hothers⟩ := HostSession.window_map hhost
  obtain ⟨-, hown, hx, -, -⟩ := old.createOutput_spec tree own
  obtain ⟨hhost', hshell, hhinted, hprops, hother⟩ := createOutputForWindow_spec
    (v := v.setShell id { v.shell id with current := (v.shell id).pending, mapped := true })
    hold hwin hx hhints
  intro k win own' hwin' hown'
  by_cases hk : k = id
  · -- the new output's window has been told just now
    subst hk
    rw [hhost', hwin] at hwin'
    obtain rfl := Option.some.inj hwin'
    obtain rfl := Option.some.inj (hown.symm.trans hown')
    rw [hprops, hshell]
    dsimp only
    rw [if_pos rfl]
    exact ⟨⟨_, rfl, rfl⟩, ⟨_, rfl, rfl⟩, rfl⟩
  · have hnot : own' ∉ (old.createOutput tree own).targets :=
      hknown.not_mem_targets hwin' hown' (by rw [hhost']; exact hwin) hk
    rw [hhost', hothers k hk] at hwin'
    refine (ht k win own' hwin' hown').congr ?_ ?_ ?_ ?_ ?_ (hhinted k hk)
    · rw [hother own' hnot]
      rfl
    · rw [hother own' hnot]
      rfl
    · rw [hother own' hnot]
      rfl
    · rw [hshell]
      dsimp only [setShell]
      rw [if_neg hk, if_neg hk]
    · rw [hshell]
      dsimp only [setShell]
      rw [if_neg hk, if_neg hk]

/-- A new toplevel has told nothing. -/
theorem Told.newToplevel (ht : v.Told) (hstep : v.step cfg (.newToplevel id) = some v') : v'.Told := by
  obtain ⟨host, hhost, rfl⟩ := Option.map_eq_some_iff.mp hstep
  have hwindow := HostSession.window_newToplevel hhost
  refine ht.of_frame fun k win own hwin hown => ?_
  change host.window k = some win at hwin
  rw [hwindow] at hwin
  split at hwin
  · obtain rfl := Option.some.inj hwin
    cases hown
  · rename_i hk
    refine ⟨⟨win, hwin, hown⟩, rfl, rfl, rfl, ?_, ?_, rfl⟩
    · show (if k = id then _ else _ : ShellToplevel).lastTitle = _
      rw [if_neg hk]
    · show (if k = id then _ else _ : ShellToplevel).lastAppId = _
      rw [if_neg hk]

/-- A reparented toplevel writes its hint again, to the new frame as well. -/
theorem Told.reparent (ht : v.Told) (hs : v.Sound) {tree : HostTree}
    (hstep : v.step cfg (.reparent id tree) = some v') (hknown : v'.ContentKnown) : v'.Told := by
  obtain ⟨host, hhost, rfl⟩ := Option.map_eq_some_iff.mp hstep
  obtain ⟨hfound, hwindow⟩ | ⟨found, own, parent, frame, hfound, hlookup, hx, hwindow⟩ :=
    HostSession.window_reparent hs.distinct hhost
  · rw [hfound]
    refine ht.of_frame fun k win own hwin hown => ⟨⟨win, ?_, hown⟩, rfl, rfl, rfl, rfl, rfl, rfl⟩
    rw [← hwindow]
    exact hwin
  · rw [hfound] at hknown ⊢
    dsimp only at hknown ⊢
    -- the frame is another one, the properties are still those of before
    have hmid : Told { v with host := host } := by
      refine ht.of_frame fun k win own' hwin hown => ⟨?_, rfl, rfl, rfl, rfl, rfl, rfl⟩
      change host.window k = some win at hwin
      rw [hwindow] at hwin
      obtain ⟨u, hu, rfl⟩ := Option.map_eq_some_iff.mp hwin
      refine ⟨u, hu, ?_⟩
      split at hown
      · rw [(u.handleReparentNotify_frame tree own parent frame).1] at hown
        exact hown
      · exact hown
    refine hmid.applyTransientHints ?_ found.id
    unfold ContentKnown at hknown
    rw [(applyTransientHints_frame _ found.id).1] at hknown
    exact hknown

/-- Each handler leaves the properties as the program remembers them. One case per event. -/
theorem Told.step (ht : v.Told) (hs : v.Sound) {a : MetaAction} (hstep : v.step cfg a = some v')
    (hknown : v'.ContentKnown) : v'.Told := by
  cases a with
  | newToplevel id => exact ht.newToplevel hstep
  | setTitle id title =>
    obtain rfl := Option.some.inj hstep
    exact ht.setShell_frame rfl rfl
  | setAppId id appId =>
    obtain rfl := Option.some.inj hstep
    exact ht.setShell_frame rfl rfl
  | setLimits id limits =>
    obtain rfl := Option.some.inj hstep
    exact ht.setShell_frame rfl rfl
  | setParent id parent =>
    obtain ⟨-, hstep⟩ := Option.ite_none_left_eq_some.mp hstep
    obtain rfl := Option.some.inj hstep
    exact ht.setShell_frame rfl rfl
  | map id own tree policy => exact ht.map hstep hknown
  -- the pending state becomes current, and is shown
  | commit id policy =>
    obtain ⟨hsized, rfl⟩ := step_commit hstep
    have hsmid : (v.setShell id { v.shell id with current := (v.shell id).pending }).Sound :=
      hs.setShell_frame rfl (.inl rfl)
    have htmid : (v.setShell id { v.shell id with current := (v.shell id).pending }).Told :=
      ht.setShell_frame rfl rfl
    refine htmid.surfaceCommit hsmid ?_ hsized
    unfold ContentKnown at hknown
    rw [(surfaceCommit_frame cfg _ id policy).1] at hknown
    exact hknown
  | syncHints id policy =>
    obtain rfl := Option.some.inj hstep
    obtain ⟨ws, f, heq⟩ := winSyncSizeHints_frame cfg v id policy
    rw [heq]
    refine ht.of_frame fun k win own hwin hown => ⟨⟨win, hwin, hown⟩, ?_, ?_, ?_, rfl, rfl, rfl⟩
    all_goals
      unfold write
      dsimp only
      split <;> rfl
  | reparent id tree => exact ht.reparent hs hstep hknown
  | unmap id =>
    obtain ⟨-, hstep⟩ := Option.ite_none_right_eq_some.mp hstep
    obtain ⟨host, hhost, rfl⟩ := Option.map_eq_some_iff.mp hstep
    have hwindow := HostSession.window_unmap hhost
    refine ht.unmapped (fun k hk => ?_) fun win hwin => ?_
    · simp only [hwindow, if_neg hk, Option.map_id']
    · rw [hwindow] at hwin
      obtain ⟨u, -, rfl⟩ := Option.map_eq_some_iff.mp hwin
      rw [if_pos rfl]
      rfl
  | destroy id =>
    obtain ⟨host, hhost, rfl⟩ := Option.map_eq_some_iff.mp hstep
    have hwindow := HostSession.window_destroy hhost
    -- nothing is asked of a toplevel that is gone
    have hgone : host.window id = none := by rw [hwindow, if_pos rfl]
    have hmid : Told { v.unmapped id with host := host } := by
      refine ht.unmapped (fun k hk => ?_) fun win hwin => ?_
      · rw [hwindow, if_neg hk]
      · rw [hgone] at hwin
        cases hwin
    refine hmid.of_frame fun k win own hwin hown => ?_
    have hk : k ≠ id := by
      rintro rfl
      change host.window k = some win at hwin
      rw [hgone] at hwin
      cases hwin
    refine ⟨⟨win, hwin, hown⟩, rfl, rfl, rfl, ?_, ?_, rfl⟩
    · show (if k = id then _ else _ : ShellToplevel).lastTitle = _
      rw [if_neg hk]
    · show (if k = id then _ else _ : ShellToplevel).lastAppId = _
      rw [if_neg hk]

/-- A text that is written or kept. -/
theorem ite_written {p q : Prop} [Decidable p] [Decidable q] (hp : p) {α : Type} (x y : α) :
    (if p ∧ ¬q then some x else some y) = some (if q then y else x) := by
  by_cases hq : q
  · rw [if_neg fun h => h.2 hq, if_pos hq]
  · rw [if_pos ⟨hp, hq⟩, if_neg hq]

/-- There is a parent's window if there is a parent. -/
theorem Sound.isSome_parentOwn (hs : v.Sound) (id : Nat) :
    (v.parentOwn id).isSome = (v.shell id).parent.isSome := by
  unfold parentOwn
  cases hparent : (v.shell id).parent with
  | none => rfl
  | some p =>
    obtain ⟨win, hwin, hown⟩ := hs.output p (hs.parent id p hparent)
    rw [Option.bind_some, hwin, Option.bind_some]
    exact Option.isSome_iff_ne_none.mpr hown

/-- **Exactly when `surface_commit` leaves the metadata exact.** -/
theorem exact_surfaceCommit_iff (hs : v.Sound) (ht : v.Told) (hknown : v.ContentKnown) {policy : Window}
    (hsized : v.Sized cfg id policy) :
    (v.surfaceCommit cfg id policy).Exact cfg id ↔
      ∀ win ∈ v.host.window id, ∀ own ∈ win.own,
        Distinguished (v.props own).name (v.shell id).titleText ∧
          Distinguished (v.props own).wmClass (v.shell id).appIdText ∧
          (v.shell id).current.Paired ∧ v.hinted id = v.parentOwn id := by
  unfold Exact
  rw [(surfaceCommit_frame cfg _ id policy).1]
  refine forall_congr' fun win => forall_congr' fun hwin => forall_congr' fun own =>
    forall_congr' fun hown => ?_
  have hout : win.own ≠ none := by
    rw [hown]
    exact Option.some_ne_none own
  obtain ⟨hints, hhints⟩ := hsized.exists_hints hwin hout
  have hmem := hknown.mem_targets hwin hown
  have htells := ht id win own hwin hown
  obtain ⟨t, hname, htitle⟩ := htells.name
  obtain ⟨c, hclass, happ⟩ := htells.wmClass
  rw [surfaceCommit_eq hwin (mt (hs.framed id win hwin).mpr hout) hout hhints]
  -- title, class, hints and parent, one after the other
  refine and_congr ?_ (and_congr ?_ (and_congr ?_ ?_))
  · rw [hname, ← titleShown_iff, ← htitle]
    dsimp only
    rw [hname, ite_written hmem, Option.some.injEq]
    rfl
  · rw [hclass, ← classShown_iff, ← happ]
    dsimp only
    rw [hclass, ite_written hmem, Option.some.injEq]
    show (if _ then classText c else classText (v.shell id).appIdText) = classText (v.shell id).appIdText ↔ _
    rw [← apply_ite classText]
  · dsimp only
    rw [if_pos hmem, ← limitsMirrored_iff hhints]
    simp only [Option.mem_def, Option.some.injEq, exists_eq_left']
  · show ((v.props own).transientFor.isSome = (v.shell id).parent.isSome ∧
      (v.props own).transientFor = v.parentOwn id) ↔ _
    rw [htells.transientFor, ← hs.isSome_parentOwn]
    exact ⟨fun h => h.2, fun h => ⟨by rw [h], h⟩⟩

/-- **Exactly when a commit leaves the metadata exact.** -/
theorem mirrored_iff_kept (hs : v.Sound) (ht : v.Told) (hknown : v.ContentKnown) {a : MetaAction}
    (hstep : v.step cfg a = some v') : v.Mirrored cfg a ↔ v.Kept a := by
  cases a with
  | commit id policy =>
    show (∀ v', v.step cfg (.commit id policy) = some v' → v'.Exact cfg id) ↔ _
    rw [Run.forall_step_iff hstep]
    obtain ⟨hsized, rfl⟩ := step_commit hstep
    have hsmid : (v.setShell id { v.shell id with current := (v.shell id).pending }).Sound :=
      hs.setShell_frame rfl (.inl rfl)
    have htmid : (v.setShell id { v.shell id with current := (v.shell id).pending }).Told :=
      ht.setShell_frame rfl rfl
    -- the parent is no part of the pending state
    have hparent : (v.setShell id { v.shell id with current := (v.shell id).pending }).parentOwn id =
        v.parentOwn id := by
      unfold parentOwn
      rw [setShell_self]
      rfl
    rw [exact_surfaceCommit_iff hsmid htmid hknown hsized, hparent, setShell_self]
    exact Iff.rfl
  -- only a commit is asked
  | newToplevel _ | setTitle _ _ | setAppId _ _ | setLimits _ _ | setParent _ _ | map _ _ _ _
  | syncHints _ _ | reparent _ _ | unmap _ | destroy _ => exact Iff.rfl

end Step

/-- **Metadata.** In a run whose content windows are known throughout, each commit leaves its toplevel's
metadata exact precisely if each finds both texts distinguished, both maxima set or none, and the parent
that has been found last. -/
theorem mirrored_iff (cfg : Config) (root : HostNode) (as : List MetaAction) (v : MetaSession)
    (hrun : Run.run (MetaSession.step cfg) (init root) as = some v)
    (hknown : Run.Along (MetaSession.step cfg) (fun v _ => v.ContentKnown) (init root) as) :
    Run.Along (MetaSession.step cfg) (Mirrored cfg) (init root) as ↔
      Run.Along (MetaSession.step cfg) Kept (init root) as := by
  refine Run.along_iff_along (I := fun v => v.Sound ∧ (v.ContentKnown → v.Told)) ?_ ?_
    ⟨sound_init root, fun _ => told_init root⟩ hknown hrun
  · intro v a v' ⟨hs, ht⟩ hk _ hstep
    exact ⟨hs.step hstep, (ht hk).step hs hstep⟩
  · intro v a v' ⟨hs, ht⟩ hk hstep
    exact mirrored_iff_kept hs (ht hk) hk hstep

/-- Windows 10 and 11 are children of the root. -/
def twoWindows : HostTree := .node ⟨1, 1920, 1080⟩ [.node ⟨10, 640, 480⟩ [], .node ⟨11, 320, 240⟩ []]

/-- A toplevel with an output of 300 by 200. -/
def sized : Window := { Window.fresh with output := some { X11Output.create 0 with size := ⟨300, 200⟩ } }

/-- A main window, and a dialog that has said everything before it is mapped. -/
def dialogRun : List MetaAction :=
  [.newToplevel 0, .map 0 10 twoWindows sized, .commit 0 sized, .newToplevel 1, .setParent 1 (some 0),
    .setTitle 1 [79, 112, 101, 110], .setAppId 1 [101, 100], .setLimits 1 Window.boundedLimits,
    .map 1 11 twoWindows sized, .commit 1 sized, .setTitle 1 [83, 97, 118, 101], .commit 1 sized]

theorem dialogRun_mirrored :
    Run.Along (MetaSession.step ⟨3 / 2, false⟩) (Mirrored ⟨3 / 2, false⟩) (init ⟨1, 1920, 1080⟩)
      dialogRun := by
  have hsome : (Run.run (MetaSession.step ⟨3 / 2, false⟩) (init ⟨1, 1920, 1080⟩) dialogRun).isSome =
      true := by
    decide +kernel
  obtain ⟨v, hv⟩ := Option.isSome_iff_exists.mp hsome
  have hknown : Run.Along (MetaSession.step ⟨3 / 2, false⟩) (fun v _ => v.ContentKnown)
      (init ⟨1, 1920, 1080⟩) dialogRun := by
    decide +kernel
  exact (mirrored_iff ⟨3 / 2, false⟩ ⟨1, 1920, 1080⟩ dialogRun v hv hknown).mpr (by decide +kernel)

/-- Two toplevels are mapped, and the second one gets a parent then. -/
def lateParentRun : List MetaAction :=
  [.newToplevel 0, .map 0 10 twoWindows sized, .commit 0 sized, .newToplevel 1, .map 1 11 twoWindows sized,
    .commit 1 sized, .setParent 1 (some 0)]

/-- The host is never told of that parent. -/
theorem lateParentRun_unmirrored : ¬ ∀ (cfg : Config) (root : HostNode) (as : List MetaAction)
    (v : MetaSession), Run.run (MetaSession.step cfg) (init root) as = some v →
      Run.Along (MetaSession.step cfg) (Mirrored cfg) (init root) as := by
  intro h
  have hany : (Run.run (MetaSession.step ⟨1, false⟩) (init ⟨1, 1920, 1080⟩) lateParentRun).any
      (fun v => (v.step ⟨1, false⟩ (.commit 1 sized)).any fun v' =>
        (v'.host.window 1).any fun win => win.own.any fun own =>
          (v'.props own).transientFor.isSome != (v'.shell 1).parent.isSome) = true := by
    decide +kernel
  obtain ⟨v, hv, hany⟩ := (Option.any_eq_true ..).mp hany
  obtain ⟨v', hv', hany⟩ := (Option.any_eq_true ..).mp hany
  obtain ⟨win, hwin, hany⟩ := (Option.any_eq_true ..).mp hany
  obtain ⟨own, hown, hany⟩ := (Option.any_eq_true ..).mp hany
  have hrun : Run.run (MetaSession.step ⟨1, false⟩) (init ⟨1, 1920, 1080⟩)
      (lateParentRun ++ [.commit 1 sized]) = some v' := by
    rw [Run.run_append, hv]
    exact (congrArg (·.bind some) hv').trans rfl
  have hlast := ((Run.along_append hv).mp (h _ _ _ v' hrun)).2.1
  obtain ⟨-, -, -, hfor, -⟩ := hlast v' hv' win hwin own hown
  simp [hfor] at hany

end MetaSession

end Wlx
