import WlX11.Lib.Run
import WlX11.HandlerLemmas

/-!
# WlX11 — the session of one toplevel

Everything that can happen to a toplevel between its creation and its destruction, as a transition
system: the client's requests, the compositor's idle callback that sends a scheduled configure, and
the host's events. The environment chooses the order; times, the answers of the X server and the
outcome of output commits are part of the actions.

* **`Action`**, **`enabled`**, **`handle`** and **`step`** — the transition system. Nothing is
  enabled any more once an assertion has failed.
* **`Inv`** — how the program's own flags follow wlroots' `initialized` through the map/unmap cycle;
  **`Inv.step`** / **`Inv.run`**: it holds in every state of every session.
-/

namespace Wlx

open X11Output (CommitOutcome)
open Window (MapEnv NetWmAtom)

/-- The events that reach the handlers of one toplevel. -/
inductive Action where
  /-- `wl_surface.commit` -/
  | commit (c : SurfaceCommit) (now : Int) (env : MapEnv) (outcome : CommitOutcome)
  /-- `xdg_surface.ack_configure` of the `n`-th unacknowledged configure -/
  | ackConfigure (n : Nat)
  /-- the idle callback that sends a scheduled configure -/
  | sendConfigure
  /-- `xdg_toplevel.set_maximized` / `unset_maximized` -/
  | requestMaximize (want : Bool)
  /-- `xdg_toplevel.set_fullscreen` / `unset_fullscreen` -/
  | requestFullscreen (want : Bool)
  /-- `get_toplevel_decoration` -/
  | newDecoration
  /-- `set_mode` / `unset_mode` on the decoration -/
  | requestDecorationMode
  /-- the decoration object is destroyed -/
  | destroyDecoration
  /-- the host focuses this window -/
  | focusIn
  /-- the host focuses another window, or none -/
  | focusOut
  /-- `PropertyNotify` for `_NET_WM_STATE` -/
  | netWmState (replies : List (Option (List NetWmAtom))) (now : Int)
  /-- `ConfigureNotify` on the backend's connection; `replies` is what `_NET_WM_STATE` reads then -/
  | configureNotify (ev : ConfigureNotify) (replies : List (Option (List NetWmAtom))) (now : Int)
      (outcome : CommitOutcome)
  /-- `ReparentNotify`, after which the content window has size `drawable` -/
  | reparent (drawable : Size) (now : Int) (outcome : CommitOutcome)
  /-- `n` requests on the backend's connection that are not `ConfigureWindow`s of this window -/
  | otherRequests (n : Nat)
deriving DecidableEq

/-- Whether the event can happen at all: a client request that is a protocol error disconnects the
client instead, and a host event names its window by an X id it only has while it has an output. -/
def enabled (win : Window) : Action → Bool
  | .commit c _ _ _ => win.xdg.commitAllowed c
  | .ackConfigure n => n < win.xdg.configureList.length
  | .sendConfigure => win.xdg.configureIdle
  | .newDecoration => !win.decoration
  | .requestDecorationMode | .destroyDecoration => win.decoration
  | .focusIn | .netWmState .. | .configureNotify .. | .reparent .. => win.output.isSome
  | .requestMaximize _ | .requestFullscreen _ | .focusOut | .otherRequests _ => true

/-- The handlers an event runs. -/
def handle [CInt] (cfg : Config) (win : Window) : Action → Window
  | .commit c now env outcome => win.wlSurfaceCommit cfg now env outcome c
  | .ackConfigure n => { win with xdg := win.xdg.ackConfigure n }
  | .sendConfigure => { win with xdg := win.xdg.sendConfigure }
  | .requestMaximize want => win.toplevelRequestMaximize want
  | .requestFullscreen want => win.toplevelRequestFullscreen want
  | .newDecoration => win.serverNewToplevelDecoration
  | .requestDecorationMode => win.wlxDecorationApplyMode
  | .destroyDecoration => win.decorationDestroy
  | .focusIn => win.setActiveWindow
  | .focusOut => win.setInactive
  | .netWmState replies now => win.winHandleNetWmStateNotify cfg now replies
  | .configureNotify ev replies now outcome => win.configureNotify cfg now replies outcome ev
  | .reparent drawable now outcome => win.reparentSync cfg now outcome drawable
  | .otherRequests n => { win with output := win.output.map (·.otherRequests n) }

/-- One step of the session. -/
def step [CInt] (cfg : Config) (win : Window) (a : Action) : Option Window :=
  if !win.xdg.aborted && enabled win a then some (handle cfg win a) else none

/-- A step is an enabled event in a session that has not failed. -/
theorem step_eq_some [CInt] {cfg : Config} {win win' : Window} {a : Action} :
    step cfg win a = some win' ↔
      win.xdg.aborted = false ∧ enabled win a = true ∧ handle cfg win a = win' := by
  simp [step, and_assoc]

/-- The event is no commit, no event of the backend's window and no traffic on its connection. -/
def Action.SparesOutput : Action → Prop
  | .commit .. | .configureNotify .. | .reparent .. | .otherRequests _ => False
  | _ => True

/-- Other events do not reach the output. -/
theorem handle_output [CInt] (cfg : Config) (win : Window) {a : Action} (h : a.SparesOutput) :
    (handle cfg win a).output = win.output := by
  cases a with
  | requestMaximize want =>
    simp only [handle, Window.toplevelRequestMaximize]; split <;> rfl
  | requestFullscreen want =>
    simp only [handle, Window.toplevelRequestFullscreen]; split <;> rfl
  | newDecoration =>
    simp only [handle, Window.serverNewToplevelDecoration, Window.wlxDecorationApplyMode]
    split <;> rfl
  | requestDecorationMode => simp only [handle, Window.wlxDecorationApplyMode]; split <;> rfl
  | focusIn => simp only [handle, Window.setActiveWindow]; split <;> rfl
  | focusOut => simp only [handle, Window.setInactive]; split <;> rfl
  | netWmState replies now => exact Window.winHandleNetWmStateNotify_output cfg now replies win
  | ackConfigure | sendConfigure | destroyDecoration => rfl
  | commit | configureNotify | reparent | otherRequests => exact absurd h id

/-- Only a commit gives a window an output, or takes it away. -/
theorem handle_output_isSome [CInt] {cfg : Config} {win win' : Window} {a : Action}
    (hne : ∀ c now env outcome, a ≠ .commit c now env outcome)
    (hstep : step cfg win a = some win') : win'.output.isSome = win.output.isSome := by
  obtain ⟨-, -, rfl⟩ := step_eq_some.mp hstep
  cases a with
  | commit c now env outcome => exact absurd rfl (hne c now env outcome)
  | configureNotify ev replies now outcome =>
    exact (Window.configureNotify_step cfg now replies outcome ev win).output
  | reparent drawable now outcome =>
    exact (Window.reparentSync_step cfg now outcome drawable win).output
  | otherRequests n => simp [handle]
  | _ => rw [handle_output cfg win (by trivial)]

/-! ## The life cycle invariant -/

/-- How the flags of a window hang together. A window with an output is mapped, a mapped one is
initialized, an initialized one has had its initial configure; an uninitialized surface is as blank
as a reset leaves it. The converse of `sent` fails: `initial_configure_sent` outlives a reset. -/
structure Inv (win : Window) : Prop where
  mapped : win.output.isSome = true → win.xdg.mapped = true
  initialized : win.xdg.mapped = true → win.xdg.initialized = true
  focused : win.focused = true → win.output.isSome = true
  sent : win.xdg.initialized = true → win.initialConfigureSent = true
  deferred : win.initialConfigureSent = true → win.pendingDecoration = false
  blank : win.xdg.initialized = false → win.xdg.configured = false ∧
    win.xdg.configureIdle = false ∧ win.xdg.configureList = [] ∧ win.xdg.hasBuffer = false

namespace Inv

variable {cfg : Config} {win win' : Window}

theorem fresh : Inv .fresh :=
  ⟨by simp [Window.fresh], by simp [Window.fresh, XdgSurface.fresh], by simp [Window.fresh],
    by simp [Window.fresh, XdgSurface.fresh], by simp [Window.fresh], fun _ => ⟨rfl, rfl, rfl, rfl⟩⟩

/-- A window with an output can take configures. -/
theorem ready_of_output (h : Inv win) (ho : win.output.isSome = true) :
    win.xdg.initialized = true :=
  h.initialized (h.mapped ho)

/-- A window that is not mapped has none. -/
theorem output_eq_none (h : Inv win) (hunmapped : win.xdg.mapped = false) : win.output = none := by
  cases ho : win.output with
  | none => rfl
  | some out =>
    rw [h.mapped (by rw [ho]; rfl)] at hunmapped
    cases hunmapped

/-- Scheduling configures keeps the invariant. -/
theorem of_scheduled (h : Inv win) {x : XdgSurface} (hx : win.xdg.Scheduled x) :
    Inv { win with xdg := x } where
  mapped := fun ho => hx.mapped.trans (h.mapped ho)
  initialized := fun hm => hx.initialized.trans (h.initialized (hx.mapped ▸ hm))
  focused := h.focused
  sent := fun hi => h.sent (hx.initialized ▸ hi)
  deferred := h.deferred
  blank := fun hu => by
    have hu' : win.xdg.initialized = false := hx.initialized ▸ hu
    rw [hx.configured, hx.blocked hu', hx.configureList, hx.hasBuffer]
    exact h.blank hu'

/-- So does a handler that creates and destroys nothing. -/
theorem of_handlerStep (h : Inv win) (hs : win.HandlerStep win') : Inv win' where
  mapped := fun ho => hs.xdg.mapped.trans (h.mapped (hs.output ▸ ho))
  initialized := (h.of_scheduled hs.xdg).initialized
  focused := fun hf => hs.output.trans (h.focused (hs.focused ▸ hf))
  sent := fun hi => hs.initialConfigureSent.trans (h.sent (hs.xdg.initialized ▸ hi))
  deferred := fun hi => hs.pendingDecoration.trans (h.deferred (hs.initialConfigureSent ▸ hi))
  blank := (h.of_scheduled hs.xdg).blank

end Inv

/-! ## Commits -/

namespace Window

/-- A commit that is no unmap, as far as `xdg_surface_role_commit` has come before it maps. -/
def roleCommitted (c : SurfaceCommit) (win : Window) : Window :=
  { win with xdg := (win.xdg.applyPending c).roleCommit false }

/-- **A commit that unmaps** leaves a blank surface without output and focus. -/
theorem applyCommit_of_unmap [CInt] (cfg : Config) (env : MapEnv) {c : SurfaceCommit} {win : Window}
    (hinv : Inv win) (h : win.xdg.unmapCommit c = true) :
    applyCommit cfg env c win =
      { win with
        output := none
        focused := false
        xdg := ({ win.xdg with mapped := false }.applyPending c).roleCommit true } := by
  have hdetach : c.buffer = .detach := by
    simp only [XdgSurface.unmapCommit, Bool.and_eq_true, decide_eq_true_eq] at h
    exact h.2
  have hunmap : win.unmapOnNull c =
      { win with output := none, focused := false, xdg := { win.xdg with mapped := false } } := by
    unfold unmapOnNull xdgToplevelUnmap
    rw [if_pos h]
    by_cases ho : win.output.isSome = true
    · rw [if_pos ho]; rfl
    · -- no output to destroy, and then no focus to drop
      have hf : win.focused = false := by
        cases hf : win.focused with
        | false => rfl
        | true => exact absurd (hinv.focused hf) ho
      rw [if_neg ho, ← hf, ← Option.not_isSome_iff_eq_none.mp ho]
  -- the reset takes the buffer too, so nothing is mapped again
  have hbuf : ((({ win.xdg with mapped := false } : XdgSurface).applyPending c).roleCommit
      true).hasBuffer = false := by
    simp [XdgSurface.roleCommit, XdgSurface.reset, XdgSurface.applyPending,
      XdgSurface.hasBufferAfter, hdetach]
  simp only [applyCommit, hunmap, h, mapOnBuffer, hbuf, Bool.and_false, Bool.false_eq_true,
    if_false]

/-- **A commit that does not unmap** maps the surface as soon as it has a buffer. -/
theorem applyCommit_of_not_unmap [CInt] (cfg : Config) (env : MapEnv) {c : SurfaceCommit} {win : Window}
    (h : win.xdg.unmapCommit c = false) :
    applyCommit cfg env c win = (win.roleCommitted c).mapOnBuffer cfg env := by
  simp only [applyCommit, unmapOnNull, h, Bool.false_eq_true, if_false, roleCommitted]

/-- A commit of a mapped surface that does not unmap it only applies the pending state. -/
theorem applyCommit_of_mapped [CInt] (cfg : Config) (env : MapEnv) {c : SurfaceCommit} {win : Window}
    (hm : win.xdg.mapped = true) (hu : win.xdg.unmapCommit c = false) :
    applyCommit cfg env c win = win.roleCommitted c := by
  have hmapped : (win.roleCommitted c).xdg.mapped = true := hm
  rw [applyCommit_of_not_unmap cfg env hu, mapOnBuffer, hmapped]
  rfl

theorem wlSurfaceCommit_of_mapped [CInt] (cfg : Config) (now : Int) (env : MapEnv)
    (outcome : CommitOutcome) {c : SurfaceCommit} {win : Window} (hm : win.xdg.mapped = true)
    (hu : win.xdg.unmapCommit c = false) :
    win.wlSurfaceCommit cfg now env outcome c = surfaceCommit cfg now outcome (win.roleCommitted c) := by
  rw [wlSurfaceCommit, applyCommit_of_mapped cfg env hm hu]

@[simp] theorem roleCommitted_mapped (c : SurfaceCommit) (win : Window) :
    (win.roleCommitted c).xdg.mapped = win.xdg.mapped := rfl

@[simp] theorem roleCommitted_configureIdle (c : SurfaceCommit) (win : Window) :
    (win.roleCommitted c).xdg.configureIdle = win.xdg.configureIdle := rfl

@[simp] theorem roleCommitted_aborted (c : SurfaceCommit) (win : Window) :
    (win.roleCommitted c).xdg.aborted = win.xdg.aborted := rfl

end Window

namespace Inv

variable {cfg : Config} {win win' : Window}

/-- Applying a commit that does not unmap, and mapping if it can, keeps the invariant; the surface
is initialized and no assertion fails. -/
theorem mapOnBuffer [CInt] (h : Inv win) (cfg : Config) (env : MapEnv) (c : SurfaceCommit) :
    let win' := (win.roleCommitted c).mapOnBuffer cfg env
    win'.xdg.initialized = true ∧ win'.xdg.aborted = win.xdg.aborted ∧
      (win'.output.isSome = true → win'.xdg.mapped = true) ∧
      (win'.focused = true → win'.output.isSome = true) := by
  dsimp only
  unfold Window.mapOnBuffer
  split
  · obtain ⟨hx, hf⟩ := Window.xdgToplevelMap_mapped cfg env
      { win.roleCommitted c with xdg := { (win.roleCommitted c).xdg with mapped := true } }
    exact ⟨hx.initialized, hx.ready rfl, fun _ => hx.mapped, hf h.focused⟩
  · exact ⟨rfl, rfl, h.mapped, h.focused⟩

/-- **Commits keep the invariant**, and no assertion fails in one. -/
theorem wlSurfaceCommit [CInt] (h : Inv win) (cfg : Config) (now : Int) (env : MapEnv)
    (outcome : CommitOutcome) (c : SurfaceCommit) :
    Inv (Window.wlSurfaceCommit cfg now env outcome c win) ∧
      (Window.wlSurfaceCommit cfg now env outcome c win).xdg.aborted = win.xdg.aborted := by
  unfold Window.wlSurfaceCommit
  cases hu : win.xdg.unmapCommit c with
  | true =>
    -- the surface is blank again, and the listener has nothing to schedule
    have hmapped : win.xdg.mapped = true := by
      simp only [XdgSurface.unmapCommit, Bool.and_eq_true] at hu; exact hu.1
    have hdetach : c.buffer = .detach := by
      simp only [XdgSurface.unmapCommit, Bool.and_eq_true, decide_eq_true_eq] at hu; exact hu.2
    have hsent := h.sent (h.initialized hmapped)
    rw [Window.applyCommit_of_unmap cfg env h hu]
    have hxdg := Window.surfaceCommit_xdg_of_quiet cfg now outcome { win with
        output := none
        focused := false
        xdg := ({ win.xdg with mapped := false }.applyPending c).roleCommit true }
      rfl hsent (h.deferred hsent)
    refine ⟨⟨?_, ?_, ?_, ?_, ?_, ?_⟩, ?_⟩
    · rw [Window.surfaceCommit_output]; simp
    · rw [hxdg]; simp [XdgSurface.roleCommit, XdgSurface.reset, XdgSurface.applyPending]
    · rw [Window.surfaceCommit_focused]; simp
    · exact fun _ => Window.surfaceCommit_initialConfigureSent ..
    · exact fun _ => Window.surfaceCommit_pendingDecoration ..
    · rw [hxdg]
      exact fun _ => ⟨rfl, rfl, rfl, by simp [XdgSurface.roleCommit, XdgSurface.reset,
        XdgSurface.applyPending, XdgSurface.hasBufferAfter, hdetach]⟩
    · rw [hxdg]; rfl
  | false =>
    rw [Window.applyCommit_of_not_unmap cfg env hu]
    obtain ⟨hready, habort, hmap, hfoc⟩ := h.mapOnBuffer cfg env c
    have hx := Window.surfaceCommit_xdg cfg now outcome
      ((win.roleCommitted c).mapOnBuffer cfg env)
    refine ⟨⟨?_, ?_, ?_, ?_, ?_, ?_⟩, ?_⟩
    · rw [Window.surfaceCommit_output, hx.mapped]; exact hmap
    · exact fun _ => hx.initialized.trans hready
    · rw [Window.surfaceCommit_focused, Window.surfaceCommit_output]; exact hfoc
    · exact fun _ => Window.surfaceCommit_initialConfigureSent ..
    · exact fun _ => Window.surfaceCommit_pendingDecoration ..
    · exact fun hb => absurd (hx.initialized.trans hready) (by simp [hb])
    · exact (hx.ready hready).trans habort

/-- An acknowledgement keeps the invariant: an uninitialized surface has no configure to
acknowledge. -/
theorem ackConfigure (h : Inv win) (n : Nat) :
    Inv { win with xdg := win.xdg.ackConfigure n } := by
  unfold XdgSurface.ackConfigure
  split
  · exact h
  · next configure hmem =>
    refine ⟨h.mapped, h.initialized, h.focused, h.sent, h.deferred, fun hu => ?_⟩
    rw [(h.blank hu).2.2.1] at hmem
    cases hmem

theorem sendConfigure (h : Inv win) (hidle : win.xdg.configureIdle = true) :
    Inv { win with xdg := win.xdg.sendConfigure } := by
  refine ⟨h.mapped, h.initialized, h.focused, h.sent, h.deferred, fun hu => ?_⟩
  exact absurd (h.blank hu).2.1 (by simp [hidle])

theorem setActiveWindow (h : Inv win) (ho : win.output.isSome = true) :
    Inv win.setActiveWindow := by
  unfold Window.setActiveWindow
  split
  · exact h
  · obtain ⟨hm, hi, -, hs, hd, hb⟩ := h.of_scheduled (win.xdg.setActivated_keeps true)
    exact ⟨hm, hi, fun _ => ho, hs, hd, hb⟩

theorem setInactive (h : Inv win) : Inv win.setInactive := by
  unfold Window.setInactive
  split
  · obtain ⟨hm, hi, -, hs, hd, hb⟩ := h.of_scheduled (win.xdg.setActivated_keeps false)
    exact ⟨hm, hi, fun hf => absurd hf (by simp), hs, hd, hb⟩
  · exact h

/-- A decoration's mode is applied, or waits for an initial configure that is still to come. -/
theorem wlxDecorationApplyMode (h : Inv win) : Inv win.wlxDecorationApplyMode := by
  unfold Window.wlxDecorationApplyMode
  split
  · exact h.of_scheduled (XdgSurface.scheduleConfigure_keeps _)
  · next hs => exact ⟨h.mapped, h.initialized, h.focused, h.sent, fun hs' => absurd hs' hs, h.blank⟩

/-- **Every step keeps the invariant.** One case per event. -/
theorem step [CInt] (h : Inv win) {a : Action} (hstep : Wlx.step cfg win a = some win') : Inv win' := by
  -- commits apart, a handler schedules configures or leaves the surface alone
  obtain ⟨-, hen, rfl⟩ := step_eq_some.mp hstep
  cases a with
  | commit c now env outcome => exact (h.wlSurfaceCommit cfg now env outcome c).1
  | ackConfigure n => exact h.ackConfigure n
  | sendConfigure => exact h.sendConfigure hen
  | requestMaximize want =>
    simp only [handle, Window.toplevelRequestMaximize]
    split
    · exact h.of_scheduled (XdgSurface.setMaximized_keeps _ _)
    · exact h
  | requestFullscreen want =>
    simp only [handle, Window.toplevelRequestFullscreen]
    split
    · exact h.of_scheduled (XdgSurface.setFullscreen_keeps _ _)
    · exact h
  | newDecoration =>
    have hnew : Inv { win with decoration := true } :=
      ⟨h.mapped, h.initialized, h.focused, h.sent, h.deferred, h.blank⟩
    exact hnew.wlxDecorationApplyMode
  | requestDecorationMode => exact h.wlxDecorationApplyMode
  | destroyDecoration =>
    exact ⟨h.mapped, h.initialized, h.focused, h.sent, fun _ => rfl, h.blank⟩
  | focusIn => exact h.setActiveWindow hen
  | focusOut => exact h.setInactive
  | netWmState replies now =>
    exact h.of_handlerStep (Window.winHandleNetWmStateNotify_step cfg now replies win)
  | configureNotify ev replies now outcome =>
    exact h.of_handlerStep (Window.configureNotify_step cfg now replies outcome ev win)
  | reparent drawable now outcome =>
    exact h.of_handlerStep (Window.reparentSync_step cfg now outcome drawable win)
  | otherRequests n => exact h.of_handlerStep ⟨.refl _, by simp [handle], rfl, rfl, rfl, rfl⟩

/-- **The invariant holds throughout every session.** -/
theorem run [CInt] (h : Inv win) {as : List Action} (hrun : Run.run (Wlx.step cfg) win as = some win') :
    Inv win' :=
  Run.run_invariant (fun _ _ _ hs ha => hs.step ha) h hrun

end Inv

end Wlx
