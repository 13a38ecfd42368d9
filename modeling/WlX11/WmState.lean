import WlX11.ContentWindow
import WlX11.MirroredState

/-!
# WlX11 — the program's own writes to `_NET_WM_STATE`

The host's window manager keeps a window's states in the property `_NET_WM_STATE`. The program asks it
to change them by client messages and mirrors the property onto the client; but for a transient
toplevel it also replaces the property itself, by the one atom `_NET_WM_STATE_MODAL`, each time the
window is mapped or reparented.

A session here keeps two copies of the property of each X window: what the X server has, and what the
window manager put there last.

* **`StateSession.Respects`** — the step loses no atom the window manager put, and no notification
  takes a state from the client that would have stayed but for the program's writes.
* **`StateSession.respects_iff`** — along a run every step does so exactly if the hints find nothing
  but modal windows, and no notification reads a property that is the program's own.
-/

namespace Wlx

open Window (NetWmAtom NetWmState readNetWmState winHandleNetWmStateNotify)

/-- The atoms that stand in `_NET_WM_STATE`. -/
inductive StateAtom where
  | modal
  | maximizedVert
  | maximizedHorz
  | fullscreen
  | other (atom : Nat)
deriving DecidableEq

/-- What `win_handle_net_wm_state_notify` makes of it. -/
def StateAtom.seen : StateAtom → NetWmAtom
  | .maximizedVert => .maximizedVert
  | .maximizedHorz => .maximizedHorz
  | .fullscreen => .fullscreen
  | .modal | .other _ => .other

/-- `_NET_WM_STATE` of each window. -/
abbrev StateProperty := XWindow → Option (List StateAtom)

namespace StateProperty

/-- A window that is gone has no property. -/
def on (p : StateProperty) (t : HostTree) : StateProperty :=
  fun w => if (t.find? (·.window = w)).isSome then p w else none

def set (p : StateProperty) (w : XWindow) (atoms : Option (List StateAtom)) : StateProperty :=
  fun x => if x = w then atoms else p x

/-- The replies to the program's `xcb_get_property`, which asks for 64 atoms. -/
def replies (p : StateProperty) (targets : List XWindow) : List (Option (List NetWmAtom)) :=
  targets.map fun w => (p w).map fun atoms => (atoms.take 64).map StateAtom.seen

end StateProperty

/-- The `targets` of `win_handle_net_wm_state_notify`: the content window, then the frame. -/
def XToplevel.netWmStateTargets (win : XToplevel) : List XWindow :=
  win.ewmhTargetWindow.toList ++ (win.xwin.filter fun w => win.ewmhTargetWindow ≠ some w).toList

/-! ## What a notification takes from the client -/

namespace Window

/-- `win_handle_net_wm_state_notify` turns off a state the client has. -/
def TakesState (cur : Window → Bool) (state : NetWmState → Bool) (win : Window)
    (replies : List (Option (List NetWmAtom))) : Prop :=
  win.initialConfigureSent = true ∧ cur win = true ∧
    ∃ host ∈ readNetWmState replies, state host = false

instance (cur : Window → Bool) (state : NetWmState → Bool) (win : Window)
    (replies : List (Option (List NetWmAtom))) : Decidable (TakesState cur state win replies) :=
  inferInstanceAs (Decidable (_ ∧ _ ∧ ∃ host ∈ readNetWmState replies, _))

/-- The client is told that it is not maximized any more. -/
def Unmaximizes : Window → List (Option (List NetWmAtom)) → Prop :=
  TakesState curMaximized NetWmState.maximized

/-- The client is told that it is not fullscreen any more. -/
def Unfullscreens : Window → List (Option (List NetWmAtom)) → Prop :=
  TakesState curFullscreen NetWmState.fullscreen

instance (win : Window) (replies : List (Option (List NetWmAtom))) :
    Decidable (win.Unmaximizes replies) :=
  inferInstanceAs (Decidable (TakesState ..))

instance (win : Window) (replies : List (Option (List NetWmAtom))) :
    Decidable (win.Unfullscreens replies) :=
  inferInstanceAs (Decidable (TakesState ..))

variable {win : Window} {replies : List (Option (List NetWmAtom))}

/-- Of a client's state the handler schedules what it reads, and otherwise sizes only. -/
theorem winHandle_configured [CInt] (replies : List (Option (List NetWmAtom))) (cfg : Config) (now : Int)
    (hsent : win.initialConfigureSent = true) :
    (((readNetWmState replies).map fun host => win.mirrorState host).getD win).xdg.SizeConfigured
      (winHandleNetWmStateNotify cfg now replies win).xdg := by
  unfold winHandleNetWmStateNotify
  rw [if_pos hsent]
  cases readNetWmState replies with
  | none => exact .refl _
  | some host =>
    dsimp only [Option.map_some, Option.getD_some]
    split
    · exact (wlxToplevelFillHost_step cfg now _).xdg
    · exact .refl _

theorem winHandle_of_not_sent [CInt] (cfg : Config) (now : Int) (hsent : win.initialConfigureSent = false) :
    winHandleNetWmStateNotify cfg now replies win = win := by
  unfold winHandleNetWmStateNotify
  rw [hsent]
  rfl

/-- A client that is maximized, and is to stay so, is un-maximized. -/
theorem unmaximizes_iff [CInt] (cfg : Config) (now : Int) (hcur : win.curMaximized = true)
    (hstays : win.xdg.scheduled.maximized = true) :
    win.Unmaximizes replies ↔
      (winHandleNetWmStateNotify cfg now replies win).xdg.scheduled.maximized = false := by
  unfold Unmaximizes TakesState
  cases hsent : win.initialConfigureSent with
  | false => simp [winHandle_of_not_sent cfg now hsent, hstays]
  | true =>
    have hconf := winHandle_configured replies cfg now hsent
    rw [hconf.maximized]
    cases readNetWmState replies with
    -- no property to read: the state stays
    | none => simp [hstays]
    | some host =>
      have hsched := (mirrorState_scheduled host win).1
      simp only [Option.map_some, Option.getD_some, hsched, hcur, hstays]
      cases hhost : host.maximized <;> simp [hhost]

/-- The same for a client that is fullscreen. -/
theorem unfullscreens_iff [CInt] (cfg : Config) (now : Int) (hcur : win.curFullscreen = true)
    (hstays : win.xdg.scheduled.fullscreen = true) :
    win.Unfullscreens replies ↔
      (winHandleNetWmStateNotify cfg now replies win).xdg.scheduled.fullscreen = false := by
  unfold Unfullscreens TakesState
  cases hsent : win.initialConfigureSent with
  | false => simp [winHandle_of_not_sent cfg now hsent, hstays]
  | true =>
    have hconf := winHandle_configured replies cfg now hsent
    rw [hconf.fullscreen]
    cases readNetWmState replies with
    -- as above
    | none => simp [hstays]
    | some host =>
      have hsched := (mirrorState_scheduled host win).2
      simp only [Option.map_some, Option.getD_some, hsched, hcur, hstays]
      cases hhost : host.fullscreen <;> simp [hhost]

end Window

/-! ## Sessions -/

/-- The toplevels and the windows of the X server, and the property the host's window manager and the
program share. -/
structure StateSession where
  host : HostSession
  /-- `toplevel->parent` -/
  parent : Nat → Option Nat
  property : StateProperty
  /-- what the window manager put there last -/
  put : StateProperty

inductive StateAction where
  | host (a : HostAction)
  /-- `xdg_toplevel.set_parent` -/
  | setParent (id : Nat) (parent : Option Nat)
  /-- the window manager writes the property, or deletes it -/
  | put (w : XWindow) (atoms : Option (List StateAtom))
  /-- a `PropertyNotify` of `_NET_WM_STATE`, for a toplevel whose client stands as in `win` -/
  | notify (w : XWindow) (win : Window)

namespace StateSession

def init (root : HostNode) : StateSession :=
  ⟨.init root, fun _ => none, fun _ => none, fun _ => none⟩

/-- `xwin_set_modal`. -/
def xwinSetModal (w : Option XWindow) (v : StateSession) : StateSession :=
  match w with
  | none => v
  | some w =>
    if (v.host.tree.find? (·.window = w)).isSome then
      { v with property := v.property.set w (some [.modal]) }
    else v

/-- The window a toplevel is transient for. -/
def parentX (v : StateSession) (win : XToplevel) : Option XWindow :=
  (v.parent win.id).bind fun p => (v.host.window p).bind (·.ewmhTargetWindow)

/-- `apply_transient_hints`, as far as it writes `_NET_WM_STATE`. -/
def applyTransientHints (win : XToplevel) (v : StateSession) : StateSession :=
  if win.xwin = none ∨ v.parentX win = none then v
  else (v.xwinSetModal win.xwin).xwinSetModal win.contentXwin

/-- wlroots' `handle_parent_unmap`: the children go to the parent's parent. -/
def handleParentUnmap (id : Nat) (v : StateSession) : StateSession :=
  { v with parent := fun child => if v.parent child = some id then v.parent id else v.parent child }

/-- The toplevel a `ReparentNotify` of the content window is about. -/
def reparented (v : HostSession) (id : Nat) : Option Nat :=
  (v.window id).bind fun win => win.own.bind fun own => (v.windowFromXwin own).bind fun found =>
    found.xwin.map fun _ => found.id

/-- The toplevel that is mapped or reparented, for which the hints are applied. -/
def hinted (v : StateSession) : HostAction → Option Nat
  | .map id _ _ => some id
  | .reparent id _ => reparented v.host id
  | .newToplevel _ | .unmap _ | .destroy _ => none

/-- What has happened before the hints are applied: the toplevels know their windows, and a new window
has no property. -/
def arrive (v : StateSession) (a : HostAction) : Option StateSession :=
  (v.host.step a).map fun host =>
    let v : StateSession :=
      { v with host := host, property := v.property.on host.tree, put := v.put.on host.tree }
    match a with
    | .map _ own _ => { v with property := v.property.set own none, put := v.put.set own none }
    | .newToplevel id => { v with parent := fun child => if child = id then none else v.parent child }
    | .unmap id | .destroy id => v.handleParentUnmap id
    | .reparent .. => v

def step (v : StateSession) : StateAction → Option StateSession
  | .host a => (v.arrive a).map fun v' =>
    match (v.hinted a).bind v'.host.window with
    | some win => v'.applyTransientHints win
    | none => v'
  | .setParent id parent =>
    some { v with parent := fun child => if child = id then parent else v.parent child }
  | .put w atoms =>
    if (v.host.tree.find? (·.window = w)).isSome then
      some { v with property := v.property.set w atoms, put := v.put.set w atoms }
    else none
  | .notify .. => some v

/-- Every atom the window manager put is still there. -/
def Kept (v : StateSession) : Prop :=
  ∀ w, ∀ atoms ∈ v.put w, ∃ now ∈ v.property w, ∀ atom ∈ atoms, atom ∈ now

/-- The step loses no atom of the window manager's. -/
def StaysKept (v : StateSession) (a : StateAction) : Prop := ∀ v', v.step a = some v' → v'.Kept

/-- No write loses an atom of the window manager's; and no notification takes a state from the client
unless it would do so if the program had written nothing. -/
def Respects (v : StateSession) : StateAction → Prop
  | .notify w win => ∀ found ∈ v.host.windowFromXwin w,
    let read := v.property.replies found.netWmStateTargets
    let put := v.put.replies found.netWmStateTargets
    (win.Unmaximizes read → win.Unmaximizes put) ∧ (win.Unfullscreens read → win.Unfullscreens put)
  | a => v.StaysKept a

/-- The window manager put nothing there but that the window is modal. -/
def OnlyModal (p : StateProperty) (w : XWindow) : Prop :=
  ∀ atoms ∈ p w, ∀ atom ∈ atoms, atom = .modal

instance (p : StateProperty) (w : XWindow) : Decidable (OnlyModal p w) :=
  inferInstanceAs (Decidable (∀ atoms ∈ p w, ∀ atom ∈ atoms, _))

/-- The windows `apply_transient_hints` writes to. -/
def modalTargets (v : StateSession) (win : XToplevel) : List XWindow :=
  if win.xwin = none ∨ v.parentX win = none then []
  else (win.xwin.toList ++ win.contentXwin.toList).filter fun w =>
    (v.host.tree.find? (·.window = w)).isSome

/-- The property that is read is the program's own: the first window that has one got it from
`xwin_set_modal` alone. -/
def OwnRead (v : StateSession) (found : XToplevel) : Prop :=
  ∃ w ∈ found.netWmStateTargets.find? fun w => (v.property w).isSome, v.put w = none

instance (v : StateSession) (found : XToplevel) : Decidable (v.OwnRead found) :=
  inferInstanceAs (Decidable (∃ w ∈ List.find? _ _, _))

/-- The hints find nothing of the window manager's but that the window is modal; and a client that is
maximized or fullscreen is not notified of the program's own property, unless what the window manager
put takes the state from it as well. -/
def Clean (v : StateSession) : StateAction → Prop
  | .host a => ∀ v' ∈ v.arrive a, ∀ win ∈ (v.hinted a).bind v'.host.window,
    ∀ w ∈ v'.modalTargets win, OnlyModal v'.put w
  | .notify w win => ∀ found ∈ v.host.windowFromXwin w, v.OwnRead found →
    win.initialConfigureSent = true →
      (win.curMaximized = true → win.Unmaximizes (v.put.replies found.netWmStateTargets)) ∧
        (win.curFullscreen = true → win.Unfullscreens (v.put.replies found.netWmStateTargets))
  | .setParent .. | .put .. => True

instance (v : StateSession) : (a : StateAction) → Decidable (v.Clean a)
  | .host a => inferInstanceAs (Decidable (∀ v' ∈ v.arrive a,
      ∀ win ∈ (v.hinted a).bind v'.host.window, ∀ w ∈ v'.modalTargets win, OnlyModal v'.put w))
  | .notify w _ => inferInstanceAs (Decidable (∀ found ∈ v.host.windowFromXwin w, v.OwnRead found → _))
  | .setParent .. | .put .. => .isTrue trivial

/-! ## What is read -/

/-- Each window's property is the window manager's, or the program's own where nothing but modal was
put. -/
def Shared (v : StateSession) : Prop :=
  ∀ w, v.property w = v.put w ∨ v.property w = some [.modal] ∧ OnlyModal v.put w

variable {v v' : StateSession} {found : XToplevel}

theorem Shared.kept (h : v.Shared) : v.Kept := by
  intro w atoms hatoms
  rcases h w with heq | ⟨hown, hmodal⟩
  · exact ⟨atoms, heq.trans hatoms, fun _ hatom => hatom⟩
  · refine ⟨[.modal], hown, fun atom hatom => ?_⟩
    rw [hmodal atoms hatoms atom hatom]
    exact List.mem_singleton_self _

/-- Modal alone reads as neither state. -/
theorem read_onlyModal {atoms : List StateAtom} (h : ∀ atom ∈ atoms, atom = .modal)
    (replies : List (Option (List NetWmAtom))) :
    readNetWmState (some ((atoms.take 64).map StateAtom.seen) :: replies) = some ⟨false, false⟩ := by
  have hother : ∀ seen ∈ (atoms.take 64).map StateAtom.seen, seen = .other := by
    intro seen hseen
    obtain ⟨atom, hatom, rfl⟩ := List.mem_map.mp hseen
    rw [h atom (List.mem_of_mem_take hatom)]
    rfl
  have hnot : ∀ seen, seen ≠ .other → ((atoms.take 64).map StateAtom.seen).contains seen = false := by
    intro seen hne
    rw [← Bool.not_eq_true, List.contains_iff_mem]
    exact fun hmem => hne (hother seen hmem)
  unfold readNetWmState
  rw [hnot .maximizedVert (by decide), hnot .fullscreen (by decide)]
  rfl

/-- Where the property that is read is not the program's own, the reading is as if the program had
written nothing. -/
theorem read_of_put (hI : v.Shared) (ws : List XWindow)
    (hput : ∀ w ∈ ws.find? fun w => (v.property w).isSome, v.put w ≠ none) :
    readNetWmState (v.property.replies ws) = readNetWmState (v.put.replies ws) := by
  induction ws with
  | nil => rfl
  | cons w ws ih =>
    show readNetWmState ((v.property w).map _ :: v.property.replies ws) =
      readNetWmState ((v.put w).map _ :: v.put.replies ws)
    cases hnow : v.property w with
    | none =>
      -- the window manager put nothing there either
      have hnone : v.put w = none := by
        rcases hI w with heq | ⟨hown, -⟩
        · rw [← heq, hnow]
        · rw [hown] at hnow
          cases hnow
      rw [hnone]
      rw [List.find?_cons_of_neg (by simp [hnow])] at hput
      exact ih hput
    | some now =>
      rw [List.find?_cons_of_pos (by simp [hnow])] at hput
      obtain ⟨atoms, hatoms⟩ := Option.ne_none_iff_exists'.mp (hput w rfl)
      rcases hI w with heq | ⟨hown, hmodal⟩
      · rw [← heq, hnow]
        rfl
      · rw [hown] at hnow
        obtain rfl := Option.some.inj hnow
        rw [hatoms, Option.map_some, Option.map_some, read_onlyModal (hmodal atoms hatoms),
          read_onlyModal (by simp)]

/-- The program's own property reads as neither state. -/
theorem read_of_own (hI : v.Shared) {ws : List XWindow} {w : XWindow}
    (hw : ws.find? (fun w => (v.property w).isSome) = some w) (hnone : v.put w = none) :
    readNetWmState (v.property.replies ws) = some ⟨false, false⟩ := by
  induction ws with
  | nil => cases hw
  | cons x ws ih =>
    show readNetWmState ((v.property x).map _ :: v.property.replies ws) = _
    cases hnow : v.property x with
    | none =>
      -- a window without the property is passed over
      rw [List.find?_cons_of_neg (by simp [hnow])] at hw
      exact ih hw
    | some now =>
      rw [List.find?_cons_of_pos (by simp [hnow])] at hw
      obtain rfl := Option.some.inj hw
      rcases hI x with heq | ⟨hown, -⟩
      · rw [hnone, hnow] at heq
        cases heq
      · rw [hown] at hnow
        obtain rfl := Option.some.inj hnow
        exact read_onlyModal (by simp) _

theorem respects_notify_iff (hI : v.Shared) (w : XWindow) (win : Window) :
    v.Respects (.notify w win) ↔ v.Clean (.notify w win) := by
  refine forall₂_congr fun found _ => ?_
  by_cases hown : v.OwnRead found
  -- read from what the program wrote itself: neither state
  · have hread : readNetWmState (v.property.replies found.netWmStateTargets) = some ⟨false, false⟩ := by
      obtain ⟨w, hw, hnone⟩ := hown
      exact read_of_own hI hw hnone
    dsimp only
    unfold Window.Unmaximizes Window.Unfullscreens Window.TakesState
    rw [hread]
    simp only [hown, Option.mem_def, Option.some.injEq, exists_eq_left', and_true, true_implies]
    tauto
  -- read from what the window manager wrote
  · have hsame : readNetWmState (v.property.replies found.netWmStateTargets) =
        readNetWmState (v.put.replies found.netWmStateTargets) := by
      apply read_of_put hI
      exact fun w hw hnone => hown ⟨w, hw, hnone⟩
    refine iff_of_true ?_ fun h => absurd h hown
    dsimp only
    unfold Window.Unmaximizes Window.Unfullscreens Window.TakesState
    rw [hsame]
    exact ⟨id, id⟩

/-! ## What is written -/

theorem xwinSetModal_property (w : Option XWindow) (v : StateSession) :
    (v.xwinSetModal w).property = fun x =>
      if x ∈ w.toList.filter (fun w => (v.host.tree.find? (·.window = w)).isSome) then some [.modal]
      else v.property x := by
  funext x
  unfold xwinSetModal StateProperty.set
  cases w with
  | none => simp
  | some w =>
    by_cases hthere : (v.host.tree.find? (·.window = w)).isSome = true
    · simp [hthere]
    · simp [hthere]

theorem xwinSetModal_frame (w : Option XWindow) (v : StateSession) :
    (v.xwinSetModal w).host = v.host ∧ (v.xwinSetModal w).put = v.put := by
  unfold xwinSetModal
  cases w with
  | none => exact ⟨rfl, rfl⟩
  | some w =>
    dsimp only
    split
    · exact ⟨rfl, rfl⟩
    · exact ⟨rfl, rfl⟩

/-- **What the hints write.** -/
theorem applyTransientHints_spec (win : XToplevel) (v : StateSession) :
    (v.applyTransientHints win).put = v.put ∧
      ∀ w, (v.applyTransientHints win).property w =
        if w ∈ v.modalTargets win then some [.modal] else v.property w := by
  unfold applyTransientHints modalTargets
  by_cases hhint : win.xwin = none ∨ v.parentX win = none
  -- no window, or no parent that has one: nothing is written
  · simp [hhint]
  · obtain ⟨hhost, hput⟩ := xwinSetModal_frame win.xwin v
    rw [if_neg hhint, if_neg hhint]
    refine ⟨(xwinSetModal_frame ..).2.trans hput, fun w => ?_⟩
    rw [xwinSetModal_property, xwinSetModal_property, hhost, List.filter_append]
    simp only [List.mem_append]
    split
    · rename_i hcontent
      rw [if_pos (Or.inr hcontent)]
    · rename_i hcontent
      simp only [hcontent, or_false]

/-- The hints lose nothing exactly if they find nothing but modal windows, and then the property is
shared as before. -/
theorem kept_applyTransientHints_iff (hI : v.Shared) (win : XToplevel) :
    (v.applyTransientHints win).Kept ↔ ∀ w ∈ v.modalTargets win, OnlyModal v.put w := by
  obtain ⟨hput, hproperty⟩ := v.applyTransientHints_spec win
  constructor
  -- after the write there is only the modal atom
  · intro h w hw atoms hatoms atom hatom
    obtain ⟨now, hnow, hall⟩ := h w atoms (by rw [hput]; exact hatoms)
    rw [hproperty, if_pos hw] at hnow
    obtain rfl := Option.some.inj hnow
    exact List.mem_singleton.mp (hall atom hatom)
  · intro h
    apply Shared.kept
    intro w
    rw [hput, hproperty]
    by_cases hw : w ∈ v.modalTargets win
    · rw [if_pos hw]
      exact Or.inr ⟨rfl, h w hw⟩
    · rw [if_neg hw]
      exact hI w

theorem Shared.applyTransientHints (hI : v.Shared) {win : XToplevel}
    (h : (v.applyTransientHints win).Kept) : (v.applyTransientHints win).Shared := by
  obtain ⟨hput, hproperty⟩ := v.applyTransientHints_spec win
  have honly := (kept_applyTransientHints_iff hI win).mp h
  intro w
  rw [hput, hproperty]
  by_cases hw : w ∈ v.modalTargets win
  · rw [if_pos hw]
    exact Or.inr ⟨rfl, honly w hw⟩
  · rw [if_neg hw]
    exact hI w

/-! ## Each step -/

theorem Shared.on (hI : v.Shared) (host : HostSession) :
    Shared { v with
      host := host, property := v.property.on host.tree, put := v.put.on host.tree } := by
  intro w
  unfold StateProperty.on OnlyModal
  dsimp only
  split
  · exact hI w
  · exact Or.inl rfl

theorem Shared.set (hI : v.Shared) (w : XWindow) (atoms : Option (List StateAtom)) :
    Shared { v with property := v.property.set w atoms, put := v.put.set w atoms } := by
  intro x
  unfold StateProperty.set OnlyModal
  dsimp only
  split
  · exact Or.inl rfl
  · exact hI x

theorem Shared.arrive (hI : v.Shared) {a : HostAction} (h : v.arrive a = some v') : v'.Shared := by
  obtain ⟨host, -, rfl⟩ := Option.map_eq_some_iff.mp h
  have hon := hI.on host
  cases a with
  | newToplevel id => exact hon
  | map id own t => exact hon.set own none
  | reparent id t => exact hon
  | unmap id => exact hon
  | destroy id => exact hon

/-- Each step respects the window manager exactly if it is clean, and leaves the property shared
then. -/
theorem respects_step (hI : v.Shared) {a : StateAction} (hstep : v.step a = some v') :
    (v.Respects a ↔ v.Clean a) ∧ (v.Respects a → v'.Shared) := by
  cases a with
  | host a =>
    -- after the session's step the hints of the window it is about are applied
    obtain ⟨v₀, harrive, rfl⟩ := Option.map_eq_some_iff.mp hstep
    have hI₀ := hI.arrive harrive
    have hkept : v.Respects (.host a) ↔ _ := Run.forall_step_iff (p := Kept) hstep
    have hclean : v.Clean (.host a) ↔ ∀ v' ∈ v.arrive a, ∀ win ∈ (v.hinted a).bind v'.host.window,
        ∀ w ∈ v'.modalTargets win, OnlyModal v'.put w := Iff.rfl
    rw [hkept, hclean, harrive]
    simp only [Option.mem_def, Option.some.injEq, forall_eq']
    cases (v.hinted a).bind v₀.host.window with
    | none => exact ⟨iff_of_true hI₀.kept (fun _ h => by cases h), fun _ => hI₀⟩
    | some win =>
      simp only [Option.some.injEq, forall_eq']
      exact ⟨kept_applyTransientHints_iff hI₀ win, hI₀.applyTransientHints⟩
  | setParent id parent =>
    obtain rfl := Option.some.inj hstep
    have hI' : Shared { v with
        parent := fun child => if child = id then parent else v.parent child } := hI
    refine ⟨iff_of_true (fun v' hv' => ?_) trivial, fun _ => hI'⟩
    obtain rfl := Option.some.inj hv'
    exact hI'.kept
  -- the window manager's own
  | put w atoms =>
    obtain ⟨-, h⟩ := Option.ite_none_right_eq_some.mp hstep
    obtain rfl := Option.some.inj h
    have hI' := hI.set w atoms
    refine ⟨iff_of_true ?_ trivial, fun _ => hI'⟩
    exact (Run.forall_step_iff hstep).mpr hI'.kept
  | notify w win =>
    obtain rfl := Option.some.inj hstep
    exact ⟨respects_notify_iff hI w win, fun _ => hI⟩

/-- **The window manager's own states.** Along a run of toplevels that come and go, of reparentings,
of states the window manager sets and of notifications at any time, each step leaves the window
manager's atoms and what it told the client alone exactly if, whenever a transient toplevel is mapped
or reparented, its windows have no state but modal, and no maximized or fullscreen client is notified
of a property that only the program has written. -/
theorem respects_iff {root : HostNode} {as : List StateAction}
    (hrun : Run.run step (init root) as = some v) :
    Run.Along step Respects (init root) as ↔ Run.Along step Clean (init root) as := by
  refine Run.along_iff_of_step (I := Shared) ?_ ?_ (fun _ => Or.inl rfl) hrun
  · intro v a v' hI hrespects hstep
    exact (respects_step hI hstep).2 hrespects
  · intro v a v' hI hstep
    exact (respects_step hI hstep).1

instance (v : StateSession) (w : XWindow) (win : Window) : Decidable (v.Respects (.notify w win)) :=
  inferInstanceAs (Decidable (∀ found ∈ v.host.windowFromXwin w,
    (win.Unmaximizes (v.property.replies found.netWmStateTargets) →
        win.Unmaximizes (v.put.replies found.netWmStateTargets)) ∧
      (win.Unfullscreens (v.property.replies found.netWmStateTargets) →
        win.Unfullscreens (v.put.replies found.netWmStateTargets))))

/-- The windows 10 and 11 of a toplevel and its dialog, which the host puts into the frame 20. -/
def framedDialog : List HostNode → HostTree
  | frames => .node ⟨1, 1920, 1080⟩ (.node ⟨10, 640, 480⟩ [] ::
      frames.foldr (fun frame inner => [.node frame inner]) [.node ⟨11, 320, 240⟩ []])

/-- A dialog is mapped, framed and maximized by the host. -/
def dialogRun : List StateAction :=
  [.host (.newToplevel 0), .host (.map 0 10 (.node ⟨1, 1920, 1080⟩ [.node ⟨10, 640, 480⟩ []])),
    .host (.newToplevel 1), .setParent 1 (some 0), .host (.map 1 11 (framedDialog [])),
    .host (.reparent 1 (framedDialog [⟨20, 324, 264⟩])),
    .put 11 (some [.modal, .maximizedVert, .maximizedHorz])]

/-- A client that has acknowledged the maximized state. -/
def maximizedClient : Window :=
  { Window.fresh with
    initialConfigureSent := true
    xdg := { XdgSurface.fresh with current := { XdgSurface.fresh.current with maximized := true } } }

theorem dialogRun_respected :
    Run.Along step Respects (init ⟨1, 1920, 1080⟩) (dialogRun ++ [.notify 11 maximizedClient]) := by
  have hsome : (Run.run step (init ⟨1, 1920, 1080⟩)
      (dialogRun ++ [.notify 11 maximizedClient])).isSome = true := by decide +kernel
  obtain ⟨v, hv⟩ := Option.isSome_iff_exists.mp hsome
  exact (respects_iff hv).mpr (by decide +kernel)

/-- The maximized dialog gets another frame. -/
def reframed : StateAction := .host (.reparent 1 (framedDialog [⟨22, 1920, 1080⟩]))

/-- The new frame costs the dialog the atoms the host had put, and its client the maximized state. -/
theorem reframed_unmaximizes :
    (¬ ∀ (root : HostNode) (as : List StateAction) (v : StateSession),
      Run.run step (init root) as = some v → v.Kept) ∧
    ¬ ∀ (root : HostNode) (as : List StateAction) (v : StateSession) (w : XWindow) (win : Window),
      Run.run step (init root) as = some v → v.Respects (.notify w win) := by
  have hany : (Run.run step (init ⟨1, 1920, 1080⟩) (dialogRun ++ [reframed])).any (fun v =>
      decide (v.put 11 = some [.modal, .maximizedVert, .maximizedHorz] ∧
        v.property 11 = some [.modal] ∧ ¬v.Respects (.notify 11 maximizedClient))) = true := by
    decide +kernel
  obtain ⟨v, hv, hchecks⟩ := (Option.any_eq_true ..).mp hany
  obtain ⟨hput, hnow, hnot⟩ := of_decide_eq_true hchecks
  constructor
  · intro h
    obtain ⟨now, hsome, hall⟩ := h _ _ v hv 11 _ hput
    rw [hnow] at hsome
    obtain rfl := Option.some.inj hsome
    exact absurd (hall .maximizedVert (by decide)) (by decide)
  · intro h
    exact hnot (h _ _ v 11 maximizedClient hv)

end StateSession

end Wlx
