import WlX11.XdgShell
import WlX11.Lib.Run

/-!
# WlX11 — the active window

Which toplevel is active is written in three places: `focused_window` in the program, the scheduled
state of each `xdg_toplevel`, and the keyboard focus of the seat. `set_active_window` writes all three.
Where a toplevel's output or the toplevel itself goes, only `focused_window` is reset.

* **`ActivationSession.setActiveWindow`**, **`outputDestroy`**, **`xdgToplevelDestroy`** — the functions
  that write `focused_window`, with the handlers that call them.
* **`ActivationSession.OneActive`** — the active toplevel is `focused_window`, and so is the keyboard's.
* **`ActivationSession.oneActive_iff`** — along a run it stays so exactly if neither the output of the
  active toplevel is destroyed nor that toplevel before its surface.
-/

namespace Wlx

/-- `xcb_notify_mode_t`. -/
inductive NotifyMode where
  | normal
  | grab
  | ungrab
  | whileGrabbed
deriving DecidableEq

/-- `xcb_notify_detail_t`. -/
inductive NotifyDetail where
  | ancestor
  | virtual
  | inferior
  | nonlinear
  | nonlinearVirtual
  | pointer
  | pointerRoot
  | none
deriving DecidableEq

/-- `xcb_focus_in_event_t`. -/
structure FocusEvent where
  event : Nat
  mode : NotifyMode
  detail : NotifyDetail
deriving DecidableEq

/-- What `handle_xcb_readable` skips: grab transitions, and a focus that stays inside the window or
follows the pointer. -/
def FocusEvent.skipped (e : FocusEvent) : Bool :=
  (e.mode != .normal && e.mode != .whileGrabbed) ||
    e.detail == .pointer || e.detail == .pointerRoot || e.detail == .inferior

/-- `wlx_window`, with the X windows `window_from_xwin` knows it by: those of its output. -/
structure FocusWindow where
  id : Nat
  surface : Nat
  output : Bool
  xwins : List Nat
  xdg : XdgSurface
deriving DecidableEq

/-- The active window as the program, wlroots' toplevels and the seat have it. -/
structure ActivationSession where
  windows : List FocusWindow
  focusedWindow : Option Nat
  /-- `seat->keyboard_state.focused_surface`. -/
  keyboardFocus : Option Nat
deriving DecidableEq

/-- What `FocusOut` finds: the toplevel and the popup under the root pointer, and whether the window has
a mapped popup. -/
structure FocusOutEnv where
  under : Option Nat
  popupAtPointer : Bool
  hasMappedPopup : Bool
deriving DecidableEq

namespace ActivationSession

def init : ActivationSession := ⟨[], none, none⟩

def window (v : ActivationSession) (id : Nat) : Option FocusWindow := v.windows.find? (·.id = id)

/-- `window_from_xwin`. -/
def windowFromXwin (v : ActivationSession) (w : Nat) : Option FocusWindow :=
  v.windows.find? (·.xwins.contains w)

def update (v : ActivationSession) (id : Nat) (f : FocusWindow → FocusWindow) : ActivationSession :=
  { v with windows := v.windows.map fun w => if w.id = id then f w else w }

/-- `wlr_xdg_toplevel_set_activated`. -/
def setActivated (v : ActivationSession) (id : Nat) (activated : Bool) : ActivationSession :=
  v.update id fun w => { w with xdg := w.xdg.setActivated activated }

/-- `set_active_window`. Without a seat grab `wlr_seat_keyboard_notify_enter` and
`wlr_seat_keyboard_notify_clear_focus` set the focused surface. -/
def setActiveWindow (v : ActivationSession) (win : Option FocusWindow) : ActivationSession :=
  if v.focusedWindow = win.map FocusWindow.id then v
  else
    let v := match v.focusedWindow with
      | some old => v.setActivated old false
      | none => v
    let v := { v with focusedWindow := win.map FocusWindow.id }
    match win with
    | some win => { v.setActivated win.id true with keyboardFocus := some win.surface }
    | none => { v with keyboardFocus := none }

/-- `output_destroy`. The toplevel's state is left alone, and so is the keyboard. -/
def outputDestroy (v : ActivationSession) (id : Nat) : ActivationSession :=
  { v.update id fun w => { w with output := false, xwins := [] } with
    focusedWindow := if v.focusedWindow = some id then none else v.focusedWindow }

def hasOutput (v : ActivationSession) (id : Nat) : Bool := (v.window id).any (·.output)

/-- `xdg_toplevel_map`, with the X windows of the output where `create_output_for_window` gets one. -/
def xdgToplevelMap (v : ActivationSession) (win : FocusWindow) (created : Option (List Nat)) :
    ActivationSession :=
  if win.output then v
  else
    match created with
    | none => v
    | some xwins =>
      (v.update win.id fun w => { w with output := true, xwins := xwins }).setActiveWindow (some win)

/-- `xdg_toplevel_unmap`. -/
def xdgToplevelUnmap (v : ActivationSession) (id : Nat) : ActivationSession :=
  if v.hasOutput id then v.outputDestroy id else v

/-- `xdg_toplevel_destroy`. -/
def xdgToplevelDestroy (v : ActivationSession) (id : Nat) : ActivationSession :=
  let v := if v.hasOutput id then v.outputDestroy id else v
  { v with
    windows := v.windows.filter (·.id ≠ id)
    focusedWindow := if v.focusedWindow = some id then none else v.focusedWindow }

/-- `destroy_xdg_toplevel`: the surface is unmapped first. -/
def destroyXdgToplevel (v : ActivationSession) (id : Nat) : ActivationSession :=
  (v.xdgToplevelUnmap id).xdgToplevelDestroy id

/-- A `wl_surface` is destroyed: its role object goes with it, and then
`seat_keyboard_handle_surface_destroy` runs. -/
def surfaceDestroy (v : ActivationSession) (surface : Nat) : ActivationSession :=
  let v := match v.windows.find? (·.surface = surface) with
    | some win => v.destroyXdgToplevel win.id
    | none => v
  { v with keyboardFocus := if v.keyboardFocus = some surface then none else v.keyboardFocus }

/-- `FocusIn`. -/
def handleFocusIn (v : ActivationSession) (e : FocusEvent) : ActivationSession :=
  if e.skipped then v
  else
    match v.windowFromXwin e.event with
    | none => v
    | some win => v.setActiveWindow (some win)

/-- `FocusOut`. -/
def handleFocusOut (v : ActivationSession) (e : FocusEvent) (env : FocusOutEnv) : ActivationSession :=
  if e.skipped then v
  else
    match v.windowFromXwin e.event with
    | none => v
    | some win =>
      if v.focusedWindow ≠ some win.id then v
      else
        match env.under with
        -- another of the toplevels, whose `FocusIn` follows, or churn inside this one
        | some _ => v
        | none => if env.popupAtPointer || env.hasMappedPopup then v else v.setActiveWindow none

end ActivationSession

/-- What happens to the toplevels and to the focus. -/
inductive ActivationAction where
  | newToplevel (id surface : Nat)
  | map (id : Nat) (created : Option (List Nat))
  | unmap (id : Nat)
  /-- The backend destroys the output. -/
  | outputDestroyed (id : Nat)
  | destroy (id : Nat)
  | surfaceDestroyed (surface : Nat)
  | focusIn (e : FocusEvent)
  | focusOut (e : FocusEvent) (env : FocusOutEnv)
  /-- `pointer_enter_surface_under_cursor` finds a surface of this toplevel, or of one of its popups. -/
  | pointerEnter (id : Nat)
  /-- `register_x11_window_subtree`, again. -/
  | registered (id : Nat) (xwins : List Nat)
  /-- Anything else that happens to the `xdg_surface`: only `set_active_window` writes
  `scheduled.activated`. -/
  | xdgChanged (id : Nat) (xdg : XdgSurface)
deriving DecidableEq

namespace ActivationSession

def step (v : ActivationSession) : ActivationAction → Option ActivationSession
  | .newToplevel id surface =>
    -- a `wl_surface` has one role object
    if ∀ w ∈ v.windows, w.id ≠ id ∧ w.surface ≠ surface then
      some { v with windows := ⟨id, surface, false, [], .fresh⟩ :: v.windows }
    else none
  | .map id created => (v.window id).map fun win => v.xdgToplevelMap win created
  | .unmap id => (v.window id).map fun win => v.xdgToplevelUnmap win.id
  | .outputDestroyed id => if v.hasOutput id then some (v.outputDestroy id) else none
  | .destroy id => (v.window id).map fun win => v.destroyXdgToplevel win.id
  | .surfaceDestroyed surface => some (v.surfaceDestroy surface)
  | .focusIn e => some (v.handleFocusIn e)
  | .focusOut e env => some (v.handleFocusOut e env)
  | .pointerEnter id => (v.window id).map fun win => v.setActiveWindow (some win)
  | .registered id xwins =>
    if v.hasOutput id then some (v.update id fun w => { w with xwins := xwins }) else none
  | .xdgChanged id xdg =>
    (v.window id).bind fun win =>
      if xdg.scheduled.activated = win.xdg.scheduled.activated then
        some (v.update id fun w => { w with xdg := xdg })
      else none

/-- The toplevels whose scheduled state is activated are exactly `focused_window`, and the keyboard is
on its surface or on none. -/
structure OneActive (v : ActivationSession) : Prop where
  live : ∀ id, v.focusedWindow = some id → ∃ w ∈ v.windows, w.id = id
  activated : ∀ w ∈ v.windows, w.xdg.scheduled.activated = true ↔ v.focusedWindow = some w.id
  keyboard : ∀ surface, v.keyboardFocus = some surface →
    ∃ w ∈ v.windows, v.focusedWindow = some w.id ∧ w.surface = surface

/-- The action leaves it so. -/
def StaysOneActive (v : ActivationSession) (a : ActivationAction) : Prop :=
  ∀ v', v.step a = some v' → v'.OneActive

/-- The toplevel that loses its output, or goes before its surface does, is not the active one. -/
def LeavesActive (v : ActivationSession) : ActivationAction → Prop
  | .unmap id | .outputDestroyed id => v.hasOutput id = true → v.focusedWindow ≠ some id
  | .destroy id => v.focusedWindow ≠ some id
  | _ => True

instance (v : ActivationSession) : (a : ActivationAction) → Decidable (v.LeavesActive a)
  | .unmap _ | .outputDestroyed _ => inferInstanceAs (Decidable (_ → _))
  | .destroy _ => inferInstanceAs (Decidable (_ ≠ _))
  | .newToplevel .. | .map .. | .surfaceDestroyed _ | .focusIn _ | .focusOut .. | .pointerEnter _
  | .registered .. | .xdgChanged .. => isTrue trivial

variable {v v' : ActivationSession} {id : Nat}

@[simp] theorem setActivated_activated (x : XdgSurface) (activated : Bool) :
    (x.setActivated activated).scheduled.activated = activated := by
  unfold XdgSurface.setActivated XdgSurface.scheduleConfigure
  split <;> rfl

/-- The invariant: a toplevel and a surface belong to each other while both are there, and the keyboard
has followed `focused_window` to its surface. -/
structure Paired (v : ActivationSession) : Prop where
  distinct : ∀ w ∈ v.windows, ∀ w' ∈ v.windows, w.id = w'.id ∨ w.surface = w'.surface → w = w'
  activated : ∀ w ∈ v.windows, w.xdg.scheduled.activated = true ↔ v.focusedWindow = some w.id
  agree : (v.focusedWindow = none ∧ v.keyboardFocus = none) ∨
    ∃ w ∈ v.windows, v.focusedWindow = some w.id ∧ v.keyboardFocus = some w.surface

/-- The invariant gives what is claimed of the activated states. -/
theorem Paired.oneActive (h : v.Paired) : v.OneActive := by
  refine ⟨fun id hfocused => ?_, h.activated, fun surface hkeyboard => ?_⟩
  · rcases h.agree with ⟨hnone, -⟩ | ⟨w, hw, hid, -⟩
    · rw [hnone] at hfocused
      cases hfocused
    · rw [hid] at hfocused
      exact ⟨w, hw, Option.some.inj hfocused⟩
  · rcases h.agree with ⟨-, hnone⟩ | ⟨w, hw, hid, hsurface⟩
    · rw [hnone] at hkeyboard
      cases hkeyboard
    · rw [hsurface] at hkeyboard
      exact ⟨w, hw, hid, Option.some.inj hkeyboard⟩

/-- What is found under an id is that toplevel. -/
theorem window_some {win : FocusWindow} (h : v.window id = some win) :
    win ∈ v.windows ∧ win.id = id :=
  ⟨List.mem_of_find?_eq_some h, by simpa using List.find?_some h⟩

/-- Windows that are changed in place keep the pairing if what is active is said anew. -/
theorem Paired.relabel (h : v.Paired) {g : FocusWindow → FocusWindow}
    (hwindows : v'.windows = v.windows.map g)
    (hkept : ∀ w, (g w).id = w.id ∧ (g w).surface = w.surface)
    (hactive : ∀ w ∈ v.windows, (g w).xdg.scheduled.activated = true ↔ v'.focusedWindow = some w.id)
    (hagree : (v'.focusedWindow = none ∧ v'.keyboardFocus = none) ∨
      ∃ w ∈ v.windows, v'.focusedWindow = some w.id ∧ v'.keyboardFocus = some w.surface) :
    v'.Paired := by
  refine ⟨?_, ?_, ?_⟩
  -- no identity and no surface changes
  · rw [hwindows]
    intro w₁ hw₁ w₂ hw₂ hsame
    obtain ⟨w, hw, rfl⟩ := List.mem_map.mp hw₁
    obtain ⟨w', hw', rfl⟩ := List.mem_map.mp hw₂
    rw [(hkept w).1, (hkept w).2, (hkept w').1, (hkept w').2] at hsame
    rw [h.distinct w hw w' hw' hsame]
  · rw [hwindows]
    intro w₁ hw₁
    obtain ⟨w, hw, rfl⟩ := List.mem_map.mp hw₁
    rw [(hkept w).1]
    exact hactive w hw
  · refine hagree.imp_right ?_
    rintro ⟨w, hw, hfocused, hkeyboard⟩
    refine ⟨g w, ?_, ?_, ?_⟩
    · rw [hwindows]
      exact List.mem_map_of_mem hw
    · rw [(hkept w).1]
      exact hfocused
    · rw [(hkept w).2]
      exact hkeyboard

/-- A change of one window that is not about being active. -/
theorem Paired.update (h : v.Paired) {f : FocusWindow → FocusWindow}
    (hkept : ∀ w, (f w).id = w.id ∧ (f w).surface = w.surface)
    (hactive : ∀ w ∈ v.windows, w.id = id →
      (f w).xdg.scheduled.activated = w.xdg.scheduled.activated) :
    (v.update id f).Paired := by
  refine h.relabel rfl (fun w => ?_) (fun w hw => ?_) h.agree
  · split
    · exact hkept w
    · exact ⟨rfl, rfl⟩
  · split
    · rename_i hid
      rw [hactive w hw hid]
      exact h.activated w hw
    · exact h.activated w hw

/-- Without the toplevel that was active, none is. -/
theorem Paired.deactivated (h : v.Paired) :
    ∃ g : FocusWindow → FocusWindow,
      (match v.focusedWindow with
        | some old => v.setActivated old false
        | none => v).windows = v.windows.map g ∧
      ∀ w, (g w).id = w.id ∧ (g w).surface = w.surface ∧
        (w ∈ v.windows → (g w).xdg.scheduled.activated = false) := by
  -- if one was active it is told, and the others were not
  cases hfocused : v.focusedWindow with
  | none =>
    refine ⟨fun w => w, (List.map_id' _).symm, fun w => ⟨rfl, rfl, fun hw => ?_⟩⟩
    have hactive := h.activated w hw
    rw [hfocused] at hactive
    exact Bool.eq_false_iff.mpr fun htrue => nomatch hactive.mp htrue
  | some old =>
    refine ⟨_, rfl, fun w => ?_⟩
    split
    · exact ⟨rfl, rfl, fun _ => setActivated_activated w.xdg false⟩
    · rename_i hne
      refine ⟨rfl, rfl, fun hw => Bool.eq_false_iff.mpr fun htrue => ?_⟩
      have hactive := (h.activated w hw).mp htrue
      rw [hfocused] at hactive
      exact hne (Option.some.inj hactive).symm

/-- `set_active_window` moves all three at once. -/
theorem Paired.setActiveWindow (h : v.Paired) {win : Option FocusWindow}
    (hlive : ∀ w ∈ win, ∃ w' ∈ v.windows, w'.id = w.id ∧ w'.surface = w.surface) :
    (v.setActiveWindow win).Paired := by
  unfold ActivationSession.setActiveWindow
  split
  · exact h
  · rename_i hother
    obtain ⟨g, hwindows, hg⟩ := h.deactivated
    cases win with
    -- every window is deactivated, and the keyboard has no focus
    | none =>
      refine h.relabel (g := g) ?_ (fun w => ⟨(hg w).1, (hg w).2.1⟩) (fun w hw => ?_) (Or.inl ⟨rfl, rfl⟩)
      · exact hwindows
      · rw [(hg w).2.2 hw]
        exact iff_of_false (by decide) nofun
    -- of the windows that were deactivated one is activated again
    | some win =>
      obtain ⟨w', hw', hid, hsurface⟩ := hlive win rfl
      refine h.relabel (g := fun w => if (g w).id = win.id then
        { g w with xdg := (g w).xdg.setActivated true } else g w) ?_ (fun w => ?_) (fun w hw => ?_)
        (Or.inr ⟨w', hw', congrArg some hid.symm, congrArg some hsurface.symm⟩)
      · exact (congrArg (List.map _) hwindows).trans List.map_map
      · split
        · exact ⟨(hg w).1, (hg w).2.1⟩
        · exact ⟨(hg w).1, (hg w).2.1⟩
      · rw [(hg w).1]
        show _ ↔ some win.id = some w.id
        split
        · rename_i hsame
          exact iff_of_true (setActivated_activated _ true) (congrArg some hsame.symm)
        · rename_i hne
          rw [(hg w).2.2 hw]
          exact iff_of_false (by decide) fun heq => hne (Option.some.inj heq).symm

/-- A toplevel that has not the focus may lose its output. -/
theorem Paired.outputDestroy (h : v.Paired) (hother : v.focusedWindow ≠ some id) :
    (v.outputDestroy id).Paired := by
  have hpaired : (v.update id fun w => { w with output := false, xwins := [] }).Paired :=
    h.update (fun _ => ⟨rfl, rfl⟩) fun _ _ _ => rfl
  unfold ActivationSession.outputDestroy
  rw [if_neg hother]
  exact hpaired

/-- The same for one that is unmapped. -/
theorem Paired.xdgToplevelUnmap (h : v.Paired)
    (hother : v.hasOutput id = true → v.focusedWindow ≠ some id) : (v.xdgToplevelUnmap id).Paired := by
  unfold ActivationSession.xdgToplevelUnmap
  split
  · rename_i hout
    exact h.outputDestroy (hother hout)
  · exact h

/-- The session once a toplevel is gone. -/
def without (v : ActivationSession) (id : Nat) : ActivationSession where
  windows := v.windows.filter (·.id ≠ id)
  focusedWindow := if v.focusedWindow = some id then none else v.focusedWindow
  keyboardFocus := v.keyboardFocus

/-- Of a toplevel that goes, the output goes first. -/
theorem without_outputDestroy (v : ActivationSession) (id : Nat) :
    (v.outputDestroy id).without id = v.without id := by
  -- what its output took along goes with it anyway
  have hwindows : ∀ ws : List FocusWindow,
      (ws.map fun w => if w.id = id then { w with output := false, xwins := [] } else w).filter
        (·.id ≠ id) = ws.filter (·.id ≠ id) := by
    intro ws
    induction ws with
    | nil => rfl
    | cons w ws ih =>
      rw [List.map_cons, List.filter_cons, List.filter_cons, ih]
      by_cases hid : w.id = id
      · rw [if_pos hid, if_neg (by simp [hid]), if_neg (by simp [hid])]
      · rw [if_neg hid]
  unfold without
  congr 1
  · exact hwindows v.windows
  · show (if (if v.focusedWindow = some id then none else v.focusedWindow) = some id then none
      else if v.focusedWindow = some id then none else v.focusedWindow) = _
    by_cases hfocused : v.focusedWindow = some id
    · rw [if_pos hfocused]
      rfl
    · rw [if_neg hfocused, if_neg hfocused]

/-- After `xdg_toplevel_destroy` the toplevel is not on the list, -/
theorem xdgToplevelDestroy_eq (v : ActivationSession) (id : Nat) :
    v.xdgToplevelDestroy id = v.without id := by
  show ActivationSession.without (if v.hasOutput id then v.outputDestroy id else v) id = v.without id
  split
  · exact without_outputDestroy v id
  · rfl

/-- and a mapped one is unmapped on the way. -/
theorem destroyXdgToplevel_eq (v : ActivationSession) (id : Nat) :
    v.destroyXdgToplevel id = v.without id := by
  unfold ActivationSession.destroyXdgToplevel ActivationSession.xdgToplevelUnmap
  rw [xdgToplevelDestroy_eq]
  split
  · exact without_outputDestroy v id
  · rfl

/-- One that has not the focus may go. -/
theorem Paired.destroyXdgToplevel (h : v.Paired) (hother : v.focusedWindow ≠ some id) :
    (v.destroyXdgToplevel id).Paired := by
  rw [destroyXdgToplevel_eq]
  unfold without
  rw [if_neg hother]
  refine ⟨fun w hw w' hw' => ?_, fun w hw => ?_, h.agree.imp_right ?_⟩
  · exact h.distinct w (List.mem_of_mem_filter hw) w' (List.mem_of_mem_filter hw')
  · exact h.activated w (List.mem_of_mem_filter hw)
  · rintro ⟨w, hw, hfocused, hkeyboard⟩
    refine ⟨w, List.mem_filter.mpr ⟨hw, ?_⟩, hfocused, hkeyboard⟩
    rw [hfocused] at hother
    simpa using fun hid => hother (congrArg some hid)

/-- With its surface the active toplevel goes for the keyboard too. -/
theorem Paired.surfaceDestroy (h : v.Paired) (surface : Nat) : (v.surfaceDestroy surface).Paired := by
  -- a surface that is nobody's is not the keyboard's
  have hclear : ∀ v : ActivationSession, v.Paired → (∀ w ∈ v.windows, w.surface ≠ surface) →
      Paired { v with
        keyboardFocus := if v.keyboardFocus = some surface then none else v.keyboardFocus } := by
    intro v h hgone
    refine ⟨h.distinct, h.activated, ?_⟩
    rcases h.agree with ⟨hnone, hkeyboard⟩ | ⟨w, hw, hfocused, hkeyboard⟩
    · exact Or.inl ⟨hnone, by rw [hkeyboard]; rfl⟩
    · refine Or.inr ⟨w, hw, hfocused, ?_⟩
      rw [hkeyboard, if_neg fun heq => hgone w hw (Option.some.inj heq)]
  unfold ActivationSession.surfaceDestroy
  cases hfind : v.windows.find? (·.surface = surface) with
  | none =>
    refine hclear v h fun w hw heq => ?_
    have hnot := List.find?_eq_none.mp hfind w hw
    simp [heq] at hnot
  | some win =>
    have hwin := List.mem_of_find?_eq_some hfind
    have hsurface : win.surface = surface := by simpa using List.find?_some hfind
    have hgone : ∀ w ∈ (v.destroyXdgToplevel win.id).windows, w.surface ≠ surface := by
      rw [destroyXdgToplevel_eq]
      intro w hw heq
      obtain ⟨hmem, hne⟩ := List.mem_filter.mp hw
      have hsame := h.distinct w hmem win hwin (Or.inr (heq.trans hsurface.symm))
      simp [hsame] at hne
    by_cases hfocused : v.focusedWindow = some win.id
    · -- the keyboard is on this very surface
      have hkeyboard : v.keyboardFocus = some surface := by
        rcases h.agree with ⟨hnone, -⟩ | ⟨w, hw, hid, hkeyboard⟩
        · rw [hnone] at hfocused
          cases hfocused
        · rw [hfocused] at hid
          rw [hkeyboard, ← hsurface,
            h.distinct win hwin w hw (Or.inl (Option.some.inj hid))]
      dsimp only
      rw [destroyXdgToplevel_eq]
      unfold without
      rw [if_pos hfocused, if_pos hkeyboard]
      refine ⟨fun w hw w' hw' => ?_, fun w hw => ?_, Or.inl ⟨rfl, rfl⟩⟩
      · exact h.distinct w (List.mem_of_mem_filter hw) w' (List.mem_of_mem_filter hw')
      · obtain ⟨hmem, hne⟩ := List.mem_filter.mp hw
        refine iff_of_false (fun hactive => ?_) nofun
        rw [h.activated w hmem, hfocused] at hactive
        simp [Option.some.inj hactive] at hne
    · exact hclear _ (h.destroyXdgToplevel hfocused) hgone

/-- A new toplevel is not activated. -/
theorem Paired.newToplevel (h : v.Paired) {surface : Nat}
    (hnew : ∀ w ∈ v.windows, w.id ≠ id ∧ w.surface ≠ surface) :
    Paired { v with windows := ⟨id, surface, false, [], .fresh⟩ :: v.windows } := by
  refine ⟨fun w hw w' hw' hsame => ?_, fun w hw => ?_, ?_⟩
  -- it shares no id with a toplevel that is there
  · rcases List.mem_cons.mp hw with rfl | hw <;> rcases List.mem_cons.mp hw' with rfl | hw'
    · rfl
    · exact absurd hsame (not_or.mpr ⟨fun heq => (hnew w' hw').1 heq.symm, fun heq =>
        (hnew w' hw').2 heq.symm⟩)
    · exact absurd hsame (not_or.mpr (hnew w hw))
    · exact h.distinct w hw w' hw' hsame
  · rcases List.mem_cons.mp hw with rfl | hw
    · -- the active toplevel is one that was there before
      refine iff_of_false Bool.false_ne_true fun hfocused => ?_
      obtain ⟨w, hw, hid⟩ := h.oneActive.live id hfocused
      exact (hnew w hw).1 hid
    · exact h.activated w hw
  · refine h.agree.imp_right ?_
    rintro ⟨w, hw, hagree⟩
    exact ⟨w, List.mem_cons_of_mem _ hw, hagree⟩

/-- To focus a toplevel deactivates the one before. -/
theorem Paired.focusOn (h : v.Paired) {win : FocusWindow} (hwin : win ∈ v.windows) :
    (v.setActiveWindow (some win)).Paired :=
  h.setActiveWindow fun w hw => by
    cases hw
    exact ⟨win, hwin, rfl, rfl⟩

/-- A toplevel that is mapped gets the focus. -/
theorem Paired.map (h : v.Paired) {win : FocusWindow} (hwin : win ∈ v.windows)
    (created : Option (List Nat)) : (v.xdgToplevelMap win created).Paired := by
  unfold xdgToplevelMap
  split
  · exact h
  · cases created with
    | none => exact h
    | some xwins =>
      have hmapped : (v.update win.id fun w => { w with output := true, xwins := xwins }).Paired :=
        h.update (fun _ => ⟨rfl, rfl⟩) fun _ _ _ => rfl
      refine hmapped.setActiveWindow fun w hw => ?_
      cases hw
      refine ⟨{ win with output := true, xwins := xwins }, List.mem_map.mpr ⟨win, hwin, ?_⟩, rfl, rfl⟩
      rw [if_pos rfl]

/-- Focus that is reported goes to the toplevel it is reported for, or to none. -/
theorem Paired.focusEvents (h : v.Paired) (e : FocusEvent) :
    (v.handleFocusIn e).Paired ∧ ∀ env, (v.handleFocusOut e env).Paired := by
  unfold handleFocusIn handleFocusOut
  split
  · exact ⟨h, fun _ => h⟩
  -- focus on a window that is no toplevel's is ignored
  · cases hfind : v.windowFromXwin e.event with
    | none => exact ⟨h, fun _ => h⟩
    | some win =>
      refine ⟨h.focusOn (List.mem_of_find?_eq_some hfind), fun env => ?_⟩
      dsimp only
      split
      · exact h
      · cases env.under with
        | some other => exact h
        | none =>
          dsimp only
          split
          · exact h
          · exact h.setActiveWindow fun w hw => absurd hw (Option.not_mem_none w)

/-- Every step that leaves the active toplevel its output and its life keeps the pairing. -/
theorem Paired.step {a : ActivationAction} (h : v.Paired) (hleaves : v.LeavesActive a)
    (hstep : v.step a = some v') : v'.Paired := by
  cases a with
  | newToplevel id surface =>
    obtain ⟨hnew, hstep⟩ := Option.ite_none_right_eq_some.mp hstep
    obtain rfl := Option.some.inj hstep
    exact h.newToplevel hnew
  | map id created =>
    obtain ⟨win, hfind, rfl⟩ := Option.map_eq_some_iff.mp hstep
    exact h.map (window_some hfind).1 created
  | unmap id =>
    obtain ⟨win, hfind, rfl⟩ := Option.map_eq_some_iff.mp hstep
    obtain ⟨-, rfl⟩ := window_some hfind
    exact h.xdgToplevelUnmap hleaves
  | outputDestroyed id =>
    obtain ⟨hout, hstep⟩ := Option.ite_none_right_eq_some.mp hstep
    obtain rfl := Option.some.inj hstep
    exact h.outputDestroy (hleaves hout)
  | destroy id =>
    obtain ⟨win, hfind, rfl⟩ := Option.map_eq_some_iff.mp hstep
    obtain ⟨-, rfl⟩ := window_some hfind
    exact h.destroyXdgToplevel hleaves
  | surfaceDestroyed surface =>
    obtain rfl := Option.some.inj hstep
    exact h.surfaceDestroy surface
  | focusIn e =>
    obtain rfl := Option.some.inj hstep
    exact (h.focusEvents e).1
  | focusOut e env =>
    obtain rfl := Option.some.inj hstep
    exact (h.focusEvents e).2 env
  | pointerEnter id =>
    obtain ⟨win, hfind, rfl⟩ := Option.map_eq_some_iff.mp hstep
    exact h.focusOn (window_some hfind).1
  | registered id xwins =>
    obtain ⟨-, hstep⟩ := Option.ite_none_right_eq_some.mp hstep
    obtain rfl := Option.some.inj hstep
    exact h.update (fun _ => ⟨rfl, rfl⟩) fun _ _ _ => rfl
  -- the client changes anything but whether it is active
  | xdgChanged id xdg =>
    obtain ⟨win, hfind, hstep⟩ := Option.bind_eq_some_iff.mp hstep
    obtain ⟨hsame, hstep⟩ := Option.ite_none_right_eq_some.mp hstep
    obtain rfl := Option.some.inj hstep
    obtain ⟨hwin, hid⟩ := window_some hfind
    refine h.update (fun _ => ⟨rfl, rfl⟩) fun w hw hwid => ?_
    rw [h.distinct w hw win hwin (Or.inl (hwid.trans hid.symm))]
    exact hsame

/-- The active toplevel loses its output: it stays activated, and nothing is active. -/
theorem outputDestroy_not_oneActive (h : v.Paired) (hfocused : v.focusedWindow = some id) :
    ¬(v.outputDestroy id).OneActive := by
  intro hone
  obtain ⟨w, hw, rfl⟩ := h.oneActive.live id hfocused
  have hnone : (v.outputDestroy w.id).focusedWindow = none := if_pos hfocused
  have hmem : { w with output := false, xwins := [] } ∈ (v.outputDestroy w.id).windows :=
    List.mem_map.mpr ⟨w, hw, if_pos rfl⟩
  have hactive := (hone.activated _ hmem).mp ((h.activated w hw).mpr hfocused)
  rw [hnone] at hactive
  cases hactive

/-- The active toplevel goes: the keyboard stays on its surface. -/
theorem destroyXdgToplevel_not_oneActive (h : v.Paired) (hfocused : v.focusedWindow = some id) :
    ¬(v.destroyXdgToplevel id).OneActive := by
  intro hone
  rw [destroyXdgToplevel_eq] at hone
  rcases h.agree with ⟨hnone, -⟩ | ⟨w, -, -, hkeyboard⟩
  · rw [hnone] at hfocused
    cases hfocused
  · obtain ⟨w', -, hfocused', -⟩ := hone.keyboard w.surface hkeyboard
    have hnone : (v.without id).focusedWindow = none := if_pos hfocused
    rw [hnone] at hfocused'
    cases hfocused'

/-- A step leaves one toplevel active at most, except where the focused one goes without being deactivated. -/
theorem staysOneActive_iff {a : ActivationAction} (h : v.Paired) (hstep : v.step a = some v') :
    v.StaysOneActive a ↔ v.LeavesActive a := by
  refine (Run.forall_step_iff hstep).trans ⟨fun hone => ?_, fun hleaves =>
    (h.step hleaves hstep).oneActive⟩
  -- where the condition fails, the step shows it
  cases a with
  | unmap id =>
    obtain ⟨win, hfind, rfl⟩ := Option.map_eq_some_iff.mp hstep
    obtain ⟨-, rfl⟩ := window_some hfind
    intro hout hfocused
    unfold ActivationSession.xdgToplevelUnmap at hone
    rw [if_pos hout] at hone
    exact outputDestroy_not_oneActive h hfocused hone
  | outputDestroyed id =>
    obtain ⟨hout, hstep⟩ := Option.ite_none_right_eq_some.mp hstep
    obtain rfl := Option.some.inj hstep
    exact fun _ hfocused => outputDestroy_not_oneActive h hfocused hone
  | destroy id =>
    obtain ⟨win, hfind, rfl⟩ := Option.map_eq_some_iff.mp hstep
    obtain ⟨-, rfl⟩ := window_some hfind
    exact fun hfocused => destroyXdgToplevel_not_oneActive h hfocused hone
  | newToplevel | map | surfaceDestroyed | focusIn | focusOut | pointerEnter | registered | xdgChanged =>
    trivial

/-- **The active toplevel is one and the same.** Along a run of toplevels that are made, mapped,
unmapped and destroyed and of focus events and pointer enters, in every state the toplevels scheduled as
activated are exactly `focused_window` and the keyboard is on its surface or on none, exactly if the
active toplevel never loses its output and is never destroyed before its surface. -/
theorem oneActive_iff {as : List ActivationAction} (hrun : Run.run step init as = some v) :
    Run.Along step StaysOneActive init as ↔ Run.Along step LeavesActive init as := by
  have hinit : init.Paired :=
    ⟨fun w hw => absurd hw List.not_mem_nil, fun w hw => absurd hw List.not_mem_nil, Or.inl ⟨rfl, rfl⟩⟩
  refine Run.along_iff_of_step (I := Paired) ?_ ?_ hinit hrun
  · intro v a v' h hstays hstep
    exact h.step ((staysOneActive_iff h hstep).mp hstays) hstep
  · intro v a v' h hstep
    exact staysOneActive_iff h hstep

/-- A dialog is mapped, the focus goes back to its parent, and the dialog and then the parent's surface
go. -/
def dialogRun : List ActivationAction :=
  [.newToplevel 0 100, .map 0 (some [10, 11]), .newToplevel 1 101, .map 1 (some [20]),
    .focusOut ⟨20, .normal, .nonlinear⟩ ⟨some 0, false, false⟩, .focusIn ⟨11, .normal, .nonlinear⟩,
    .pointerEnter 0, .unmap 1, .destroy 1, .focusOut ⟨10, .grab, .nonlinear⟩ ⟨none, false, false⟩,
    .surfaceDestroyed 100]

/-- A dialog that takes the focus and gives it back. -/
theorem dialogRun_oneActive : Run.Along step StaysOneActive init dialogRun := by
  have hsome : (Run.run step init dialogRun).isSome = true := by decide +kernel
  obtain ⟨v, hv⟩ := Option.isSome_iff_exists.mp hsome
  exact (oneActive_iff hv).mpr (by decide +kernel)

/-- The only toplevel is unmapped: its client still has it activated, and the keyboard. -/
theorem unmapped_stays_activated : ¬ ∀ (as : List ActivationAction) (v : ActivationSession),
    Run.run step init as = some v → v.OneActive := by
  intro h
  have hany : (Run.run step init [.newToplevel 0 100, .map 0 (some [10]), .unmap 0]).any
      (fun v => v.focusedWindow = none ∧ v.keyboardFocus = some 100 ∧
        v.windows.any (·.xdg.scheduled.activated)) = true := by decide +kernel
  obtain ⟨v, hv, hstale⟩ := (Option.any_eq_true ..).mp hany
  simp only [decide_eq_true_eq] at hstale
  obtain ⟨hnone, hkeyboard, -⟩ := hstale
  obtain ⟨w, -, hfocused, -⟩ := (h _ v hv).keyboard 100 hkeyboard
  rw [hnone] at hfocused
  cases hfocused

end ActivationSession

end Wlx
