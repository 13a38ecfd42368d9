import WlX11.HostAuthority

/-!
# WlX11 — a mirrored maximize or fullscreen

`win_handle_net_wm_state_notify` mirrors the host's `_NET_WM_STATE` onto the client. It sets
`size_from_wm` and *schedules* the new state; `surface_commit`, on the other side, calls a client
tiled by its *current* and *pending* states, which only an acknowledgement changes. In between, a
commit is judged as one of a floating client.

* **`HostSized`** — the window is the host's, by `size_from_wm` or because nothing untiled is left to
  acknowledge; **`hostSized_step`** says which steps keep it so.
* **`mirrored_commits_keep_output`** — from a mirrored maximize or fullscreen until its restore, no
  commit resizes the output, provided no untiled commit asserts a shrink, and a switch between the
  two states finds no floating configure unacknowledged.
-/

namespace Wlx

open X11Output (CommitOutcome)
open Window (NetWmAtom NetWmState readNetWmState hostResize)

/-! ## What an event mirrors -/

/-- `cur_max` of `win_handle_net_wm_state_notify`. -/
def Window.curMaximized (win : Window) : Bool :=
  win.xdg.current.maximized || win.xdg.pending.maximized

/-- `cur_fs` of `win_handle_net_wm_state_notify`. -/
def Window.curFullscreen (win : Window) : Bool :=
  win.xdg.current.fullscreen || win.xdg.pending.fullscreen

/-- The host state an event makes `win_handle_net_wm_state_notify` mirror: a `PropertyNotify`
always, a `ConfigureNotify` when it goes on to resize the output. -/
def mirrorReading (win : Window) : Action → Option NetWmState
  | .netWmState replies _ => readNetWmState replies
  | .configureNotify ev replies _ _ =>
    if (hostResize win ev).isSome then readNetWmState replies else none
  | _ => none

/-- The reading turns a state on that the client neither has nor has acknowledged. -/
def NetWmState.turnsOn (win : Window) (host : NetWmState) : Bool :=
  (host.maximized && !win.curMaximized) || (host.fullscreen && !win.curFullscreen)

/-- The reading turns a state off. -/
def NetWmState.turnsOff (win : Window) (host : NetWmState) : Bool :=
  (win.curMaximized && !host.maximized) || (win.curFullscreen && !host.fullscreen)

/-- All that the client has acknowledged, or has been sent and may still acknowledge, is tiled, and
so is what the reading leaves scheduled. -/
def NetWmState.StaysTiled (win : Window) (host : NetWmState) : Prop :=
  win.xdg.pending.tiled = true ∧
    (∀ configure ∈ win.xdg.configureList, configure.tiled = true) ∧
    ((host.maximized = true ∧ (win.curMaximized = true → win.xdg.scheduled.maximized = true)) ∨
      (host.fullscreen = true ∧ (win.curFullscreen = true → win.xdg.scheduled.fullscreen = true)))

instance (win : Window) (host : NetWmState) : Decidable (NetWmState.StaysTiled win host) := by
  unfold NetWmState.StaysTiled; infer_instance

/-- The event mirrors a host-side maximize or fullscreen. -/
def MirrorsOn (win : Window) (a : Action) : Prop :=
  ∃ host, mirrorReading win a = some host ∧ NetWmState.turnsOn win host = true

/-- The steps of a mapped toplevel until the restore is mirrored: sends, acknowledgements and
commits of any client, and host events whose reading, if any, is still maximized or fullscreen. -/
def MirroredStep (win : Window) (a : Action) : Prop :=
  match a with
  | .commit c _ _ _ => win.xdg.unmapCommit c = false
  | .netWmState .. | .configureNotify .. =>
    (mirrorReading win a).all (fun host => host.maximized || host.fullscreen) = true
  | .sendConfigure | .ackConfigure _ | .focusIn | .focusOut | .reparent .. | .otherRequests _ =>
    True
  | _ => False

instance (win : Window) : DecidablePred (MirroredStep win)
  | .commit c _ _ _ => inferInstanceAs (Decidable (win.xdg.unmapCommit c = false))
  | .netWmState .. | .configureNotify .. => inferInstanceAs (Decidable (_ = true))
  | .sendConfigure | .ackConfigure _ | .focusIn | .focusOut | .reparent .. | .otherRequests _ =>
    .isTrue trivial
  | .requestMaximize _ | .requestFullscreen _ | .newDecoration | .requestDecorationMode
  | .destroyDecoration => .isFalse id

/-- The two ways the host loses its authority do not happen: an untiled client asserting a shrink,
and a reading that turns one of the two states off while the client can still become untiled. -/
def AuthorityKept [CInt] (cfg : Config) (win : Window) (a : Action) : Prop :=
  match a with
  | .commit c _ _ _ => win.xdg.pending.tiled = false → ¬ LateSmallerCommit cfg win c
  | _ => ∀ host ∈ mirrorReading win a,
      NetWmState.turnsOff win host = true → NetWmState.StaysTiled win host

instance [CInt] (cfg : Config) (win : Window) : DecidablePred (AuthorityKept cfg win)
  | .commit c _ _ _ => inferInstanceAs
      (Decidable (win.xdg.pending.tiled = false → ¬ LateSmallerCommit cfg win c))
  | .ackConfigure _ | .sendConfigure | .requestMaximize _ | .requestFullscreen _ | .newDecoration
  | .requestDecorationMode | .destroyDecoration | .focusIn | .focusOut | .netWmState ..
  | .configureNotify .. | .reparent .. | .otherRequests _ => inferInstanceAs
      (Decidable (∀ host ∈ mirrorReading win _,
        NetWmState.turnsOff win host = true → NetWmState.StaysTiled win host))

/-- A commit leaves the size of the output as it is. -/
def CommitKeepsOutput [CInt] (cfg : Config) (win : Window) (a : Action) : Prop :=
  match a with
  | .commit .. => ∀ win', step cfg win a = some win' → win'.outputSize = win.outputSize
  | _ => True

instance [CInt] (cfg : Config) (win : Window) (a : Action) : Decidable (CommitKeepsOutput cfg win a) :=
  match a with
  | .commit c now env outcome =>
    decidable_of_iff ((step cfg win (.commit c now env outcome)).all fun win' =>
        decide (win'.outputSize = win.outputSize)) (by
      cases h : step cfg win (.commit c now env outcome) <;> simp [CommitKeepsOutput, h])
  | .ackConfigure _ | .sendConfigure | .requestMaximize _ | .requestFullscreen _ | .newDecoration
  | .requestDecorationMode | .destroyDecoration | .focusIn | .focusOut | .netWmState ..
  | .configureNotify .. | .reparent .. | .otherRequests _ => isTrue trivial

/-- The window is the host's: by `size_from_wm`, or because the client is tiled and has nothing
untiled to acknowledge. -/
def HostSized (win : Window) : Prop :=
  win.sizeFromWm = true ∨
    (win.xdg.pending.tiled = true ∧ (∀ configure ∈ win.xdg.configureList, configure.tiled = true) ∧
      win.xdg.scheduled.tiled = true)

section Mirrored

variable {cfg : Config} {win win' : Window} {a : Action}

/-- Size steps keep the window the host's. -/
theorem HostSized.of_sizeStep (h : HostSized win) (hs : win.SizeStep win') : HostSized win' := by
  rcases h with h | ⟨hp, hu, hsch⟩
  · exact Or.inl (hs.sizeFromWm.trans h)
  · refine Or.inr ⟨?_, ?_, ?_⟩
    · rw [hs.xdg.pending]; exact hp
    · rw [hs.xdg.configureList]; exact hu
    · rw [hs.xdg.scheduled_tiled]; exact hsch

/-- So does any handler that schedules without touching the owner or the two states. -/
theorem HostSized.of_scheduled (h : HostSized win) {x : XdgSurface} (hx : win.xdg.Scheduled x)
    (ht : x.scheduled.tiled = win.xdg.scheduled.tiled) (hw : win'.xdg = x)
    (hs : win'.sizeFromWm = win.sizeFromWm) : HostSized win' := by
  subst hw
  rcases h with h | ⟨hp, hu, hsch⟩
  · exact Or.inl (hs.trans h)
  · exact Or.inr ⟨hx.pending ▸ hp, hx.configureList ▸ hu, ht ▸ hsch⟩

/-- Both halves of the mirror. -/
def Window.mirrorState (host : NetWmState) (win : Window) : Window :=
  (win.mirrorMaximized host.maximized).mirrorFullscreen host.fullscreen

theorem mirrorMaximized_curFullscreen (maximized : Bool) (win : Window) :
    (win.mirrorMaximized maximized).curFullscreen = win.curFullscreen := by
  have hx := (Window.mirrorMaximized_step maximized win).xdg
  simp only [Window.curFullscreen, hx.current, hx.pending]

/-- The last state that changes decides who owns the size. -/
theorem mirrorState_sizeFromWm (host : NetWmState) (win : Window) :
    (win.mirrorState host).sizeFromWm =
      if host.fullscreen = win.curFullscreen then
        if host.maximized = win.curMaximized then win.sizeFromWm else host.maximized
      else host.fullscreen := by
  have hm : (win.mirrorMaximized host.maximized).sizeFromWm =
      if host.maximized = win.curMaximized then win.sizeFromWm else host.maximized := by
    unfold Window.mirrorMaximized Window.curMaximized
    split <;> simp
  rw [← hm, ← mirrorMaximized_curFullscreen host.maximized win]
  unfold Window.mirrorState Window.mirrorFullscreen Window.curFullscreen
  split <;> simp

/-- A state that changes is scheduled as the host has it; one that does not stays as scheduled. -/
theorem mirrorState_scheduled (host : NetWmState) (win : Window) :
    (win.mirrorState host).xdg.scheduled.maximized =
        (if host.maximized = win.curMaximized then win.xdg.scheduled.maximized
          else host.maximized) ∧
      (win.mirrorState host).xdg.scheduled.fullscreen =
        (if host.fullscreen = win.curFullscreen then win.xdg.scheduled.fullscreen
          else host.fullscreen) := by
  have hm : (win.mirrorMaximized host.maximized).xdg.scheduled.maximized =
        (if host.maximized = win.curMaximized then win.xdg.scheduled.maximized
          else host.maximized) ∧
      (win.mirrorMaximized host.maximized).xdg.scheduled.fullscreen =
        win.xdg.scheduled.fullscreen := by
    unfold Window.mirrorMaximized Window.curMaximized
    split <;> simp [XdgSurface.setMaximized]
  rw [← hm.1, ← hm.2, ← mirrorMaximized_curFullscreen host.maximized win]
  unfold Window.mirrorState Window.mirrorFullscreen Window.curFullscreen
  split <;> simp [XdgSurface.setFullscreen]

theorem mirrorState_step (host : NetWmState) (win : Window) :
    win.HandlerStep (win.mirrorState host) :=
  (Window.mirrorMaximized_step host.maximized win).trans
    (Window.mirrorFullscreen_step host.fullscreen _)

/-- **Mirroring a maximized or fullscreen reading** makes or leaves the window the host's, unless it
turns the other state off under a client that can still become untiled. -/
theorem hostSized_mirrorState {host : NetWmState}
    (h : HostSized win ∨ NetWmState.turnsOn win host = true)
    (hkept : NetWmState.turnsOff win host = true → NetWmState.StaysTiled win host) :
    HostSized (win.mirrorState host) := by
  have hx := (mirrorState_step host win).xdg
  obtain ⟨hmax, hfull⟩ := mirrorState_scheduled host win
  cases hoff : NetWmState.turnsOff win host with
  | true =>
    -- `size_from_wm` may be cleared, but the client stays tiled
    obtain ⟨hp, hu, hstay⟩ := hkept hoff
    refine Or.inr ⟨hx.pending ▸ hp, hx.configureList ▸ hu, ?_⟩
    simp only [ToplevelState.tiled, Bool.or_eq_true]
    rcases hstay with ⟨hon, hsch⟩ | ⟨hon, hsch⟩
    · left; rw [hmax]
      split
      · next heq => exact hsch (by rw [← heq, hon])
      · exact hon
    · right; rw [hfull]
      split
      · next heq => exact hsch (by rw [← heq, hon])
      · exact hon
  | false =>
    -- whatever changes, changes to on
    simp only [NetWmState.turnsOff, Bool.or_eq_false_iff, Bool.and_eq_false_imp,
      Bool.not_eq_false'] at hoff
    have hown := mirrorState_sizeFromWm host win
    by_cases hf : host.fullscreen = win.curFullscreen
    · by_cases hm : host.maximized = win.curMaximized
      · rw [if_pos hf, if_pos hm] at hown
        have hnot : NetWmState.turnsOn win host = false := by
          simp [NetWmState.turnsOn, hf, hm]
        rcases h with h | h
        · rcases h with h | ⟨hp, hu, hsch⟩
          · exact Or.inl (hown.trans h)
          · refine Or.inr ⟨hx.pending ▸ hp, hx.configureList ▸ hu, ?_⟩
            rw [ToplevelState.tiled, hmax, hfull, if_pos hf, if_pos hm]
            exact hsch
        · rw [hnot] at h; cases h
      · rw [if_pos hf, if_neg hm] at hown
        refine Or.inl (hown.trans ?_)
        cases hmax' : win.curMaximized with
        | true => exact hoff.1 hmax'
        | false => simpa [hmax'] using hm
    · rw [if_neg hf] at hown
      refine Or.inl (hown.trans ?_)
      cases hfull' : win.curFullscreen with
      | true => exact hoff.2 hfull'
      | false => simpa [hfull'] using hf

/-- The whole handler: read, mirror, fill the host window. -/
theorem hostSized_winHandle [CInt] (cfg : Config) (now : Int) {replies : List (Option (List NetWmAtom))}
    (hsent : win.initialConfigureSent = true)
    (h : HostSized win ∨ ∃ host, readNetWmState replies = some host ∧
      NetWmState.turnsOn win host = true)
    (hkept : ∀ host, readNetWmState replies = some host →
      NetWmState.turnsOff win host = true → NetWmState.StaysTiled win host) :
    HostSized (win.winHandleNetWmStateNotify cfg now replies) := by
  unfold Window.winHandleNetWmStateNotify
  rw [if_pos hsent]
  cases hr : readNetWmState replies with
  | none =>
    rcases h with h | ⟨host, hsome, -⟩
    · exact h
    · rw [hr] at hsome; cases hsome
  | some host =>
    have hmirror : HostSized (win.mirrorState host) := by
      refine hostSized_mirrorState ?_ (hkept host hr)
      rcases h with h | ⟨host', hsome, hon⟩
      · exact Or.inl h
      · rw [hr] at hsome; cases hsome; exact Or.inr hon
    dsimp only
    split
    · exact hmirror.of_sizeStep (Window.wlxToplevelFillHost_step cfg now _)
    · exact hmirror

/-- **A commit of the host's window leaves its output alone**, unless an untiled client asserts a
shrink. -/
theorem hostSized_commit [CInt] (hinv : Inv win) (ho : win.output.isSome = true) (h : HostSized win)
    {c : SurfaceCommit} (hu : win.xdg.unmapCommit c = false)
    (hkept : win.xdg.pending.tiled = false → ¬ LateSmallerCommit cfg win c) (now : Int)
    (env : Window.MapEnv) (outcome : CommitOutcome) :
    (win.wlSurfaceCommit cfg now env outcome c).output = win.output ∧
      HostSized (win.wlSurfaceCommit cfg now env outcome c) := by
  obtain ⟨out, hout⟩ := Option.isSome_iff_exists.mp ho
  rw [Window.wlSurfaceCommit_of_mapped cfg now env outcome (hinv.mapped ho) hu, Window.surfaceCommit]
  have hprep := Window.prepareCommit_prepared cfg (win.roleCommitted c)
  have hns : Window.assertShrink cfg (Window.prepareCommit cfg (win.roleCommitted c)) out =
      false := by
    rw [← Bool.not_eq_true, assertShrink_prepareCommit hout]
    exact fun hlate => hkept hlate.1 hlate.2
  -- the acknowledged state is the current one now
  have hauth : (Window.prepareCommit cfg (win.roleCommitted c)).sizeFromWm = true ∨
      (Window.prepareCommit cfg (win.roleCommitted c)).tiled = true := by
    rcases h with h | ⟨hp, -, -⟩
    · exact Or.inl (hprep.sizeFromWm.trans h)
    · rw [hprep.tiled]; exact Or.inr ((Bool.or_self _).trans hp)
  obtain ⟨hsame, hown⟩ := fitWindow_held now outcome (hprep.output.trans hout) hauth hns
  refine ⟨hsame.trans hout.symm, ?_⟩
  have hcommitted : HostSized (win.roleCommitted c) := h
  exact hcommitted.of_scheduled (Window.surfaceCommit_xdg cfg now outcome _)
    (Window.surfaceCommit_scheduled_tiled cfg now outcome _) rfl (hown.trans hprep.sizeFromWm)

/-- **The window stays the host's.** Every step before the restore that meets the condition keeps
it so; a step that mirrors a new state establishes it. -/
theorem hostSized_step [CInt] (hinv : Inv win) (ho : win.output.isSome = true)
    (h : HostSized win ∨ MirrorsOn win a) (hdom : MirroredStep win a)
    (hkept : AuthorityKept cfg win a) (hstep : step cfg win a = some win') :
    win'.output.isSome = true ∧ HostSized win' := by
  obtain ⟨-, hen, rfl⟩ := step_eq_some.mp hstep
  have hnew (hno : mirrorReading win a = none) : HostSized win := by
    rcases h with h | ⟨host, hsome, -⟩
    · exact h
    · rw [hno] at hsome; cases hsome
  have hsent := hinv.sent (hinv.ready_of_output ho)
  cases a with
  | commit c now env outcome =>
    obtain ⟨hsame, hsized⟩ := hostSized_commit hinv ho (hnew rfl) hdom hkept now env outcome
    exact ⟨by rw [handle, hsame]; exact ho, hsized⟩
  | ackConfigure n =>
    refine ⟨ho, ?_⟩
    rcases hnew rfl with h | ⟨hp, hu, hsch⟩
    · exact Or.inl h
    · simp only [handle, XdgSurface.ackConfigure]
      split
      · exact Or.inr ⟨hp, hu, hsch⟩
      · next configure hget =>
        exact Or.inr ⟨hu _ (List.mem_of_getElem? hget),
          fun conf hmem => hu conf (List.mem_of_mem_drop hmem), hsch⟩
  | sendConfigure =>
    refine ⟨ho, ?_⟩
    rcases hnew rfl with h | ⟨hp, hu, hsch⟩
    · exact Or.inl h
    · refine Or.inr ⟨hp, fun conf hmem => ?_, hsch⟩
      rcases List.mem_append.mp hmem with hmem | hmem
      · exact hu conf hmem
      · rw [List.mem_singleton.mp hmem]; exact hsch
  | focusIn =>
    have hsame : win.setActiveWindow.output = win.output ∧
        win.setActiveWindow.sizeFromWm = win.sizeFromWm := by
      unfold Window.setActiveWindow; split <;> exact ⟨rfl, rfl⟩
    exact ⟨by rw [handle, hsame.1]; exact ho, (hnew rfl).of_scheduled win.setActiveWindow_xdg
      win.setActiveWindow_scheduled_tiled rfl hsame.2⟩
  | focusOut =>
    have hsame : win.setInactive.output = win.output ∧
        win.setInactive.sizeFromWm = win.sizeFromWm := by
      unfold Window.setInactive; split <;> exact ⟨rfl, rfl⟩
    exact ⟨by rw [handle, hsame.1]; exact ho, (hnew rfl).of_scheduled win.setInactive_xdg
      win.setInactive_scheduled_tiled rfl hsame.2⟩
  | netWmState replies now =>
    exact ⟨(Window.winHandleNetWmStateNotify_step cfg now replies win).output.trans ho,
      hostSized_winHandle cfg now hsent h (fun host hr => hkept host hr)⟩
  | configureNotify ev replies now outcome =>
    refine ⟨(Window.configureNotify_step cfg now replies outcome ev win).output.trans ho, ?_⟩
    simp only [handle]
    cases hr : hostResize win ev with
    | none =>
      rw [Window.configureNotify_of_none cfg now replies outcome hr]
      exact hnew (by simp [mirrorReading, hr])
    | some req =>
      -- the resize itself makes the window the host's; the reading is mirrored on top
      rw [Window.configureNotify_of_some cfg now replies outcome hr]
      refine HostSized.of_sizeStep ?_ (Window.commitOutput_step cfg now req outcome _)
      refine hostSized_winHandle cfg now hsent (Or.inl (Or.inl rfl)) (fun host hread => ?_)
      exact hkept host (by simp [mirrorReading, hr, hread])
  | reparent drawable now outcome =>
    refine ⟨(Window.reparentSync_step cfg now outcome drawable win).output.trans ho, ?_⟩
    simp only [handle, Window.reparentSync]
    split
    · exact hnew rfl
    split
    · exact (hnew rfl).of_sizeStep ((Window.resizeOutputTo_step cfg now drawable outcome win).trans
        (Window.wlxToplevelSetSize_step _ _))
    · exact hnew rfl
  | otherRequests n => exact ⟨by simp [handle, ho], hnew rfl⟩
  | _ => exact absurd hdom id

/-- A step from a window that is the host's resizes no output by a commit. -/
theorem commitKeepsOutput_of_hostSized [CInt] (hinv : Inv win) (ho : win.output.isSome = true)
    (h : HostSized win) (hdom : MirroredStep win a) (hkept : AuthorityKept cfg win a) :
    CommitKeepsOutput cfg win a := by
  cases a with
  | commit c now env outcome =>
    intro win' hstep
    obtain ⟨-, -, rfl⟩ := step_eq_some.mp hstep
    simp only [handle, Window.outputSize,
      (hostSized_commit hinv ho h hdom hkept now env outcome).1]
  | _ => trivial

end Mirrored

/-- **From a mirrored maximize or fullscreen to its restore, no commit resizes the output**, in
every run whose steps keep the host's authority. The first event mirrors the state; the window it
reaches is any window a session can have. -/
theorem mirrored_commits_keep_output [CInt] (cfg : Config) (win : Window) (mirror : Action)
    (as : List Action) (hinv : Inv win) (hon : MirrorsOn win mirror)
    (hdom : Run.Along (step cfg) MirroredStep win (mirror :: as))
    (hkept : Run.Along (step cfg) (AuthorityKept cfg) win (mirror :: as)) :
    Run.Along (step cfg) (CommitKeepsOutput cfg) win (mirror :: as) := by
  have hfirst : CommitKeepsOutput cfg win mirror := by
    obtain ⟨host, hread, -⟩ := hon
    cases mirror <;> trivial
  refine ⟨hfirst, ?_⟩
  cases hstep : step cfg win mirror with
  | none => trivial
  | some win' =>
    have ho : win.output.isSome = true := by
      obtain ⟨-, hen, -⟩ := step_eq_some.mp hstep
      obtain ⟨host, hread, -⟩ := hon
      cases mirror <;> first | exact hen | cases hread
    obtain ⟨hdom', hdoms⟩ := (Run.along_cons hstep).mp hdom
    obtain ⟨hkept', hkepts⟩ := (Run.along_cons hstep).mp hkept
    obtain ⟨ho', hsized⟩ := hostSized_step hinv ho (Or.inr hon) hdom' hkept' hstep
    refine Run.along_of_invariant
      (I := fun win => Inv win ∧ win.output.isSome = true ∧ HostSized win)
      (P := fun win a => MirroredStep win a ∧ AuthorityKept cfg win a) ?_ ?_
      ⟨hinv.step hstep, ho', hsized⟩ (hdoms.and hkepts)
    · rintro s a t ⟨hi, hout, hs⟩ ⟨hd, hk⟩ ha
      exact ⟨hi.step ha, hostSized_step hi hout (Or.inl hs) hd hk ha⟩
    · rintro s a ⟨hi, hout, hs⟩ ⟨hd, hk⟩
      exact commitKeepsOutput_of_hostSized hi hout hs hd hk

/-- A toplevel mapped at 500×400. -/
def mapFloating : List Action := hostResizesFloating.take 5

/-- The host maximizes the window to 1600×1200; its `_NET_WM_STATE` is read with the resize. -/
def hostMaximizes : Action :=
  .configureNotify ⟨1, ⟨1600, 1200⟩⟩ [some [.maximizedVert, .maximizedHorz]] 4 .ok

/-- The client, which has not seen a configure yet, commits another frame at 500×400. -/
def frameBeforeAck : List Action :=
  [.commit ⟨.attach ⟨500, 400⟩, none⟩ 5 ⟨true, 0, .ok⟩ .ok]

/-- The same frame, after the client has acknowledged the maximized state. -/
def frameAfterAck : List Action :=
  [.sendConfigure, .ackConfigure 0, .commit ⟨.attach ⟨500, 400⟩, none⟩ 5 ⟨true, 0, .ok⟩ .ok]

/-- A frame committed before the client has acknowledged the maximized state shrinks the maximized
window back to the client's old size. -/
theorem unacked_maximize_is_not_held :
    ¬ ∀ (cfg : Config) (win : Window) (mirror : Action) (as : List Action),
      Run.Reachable (step cfg) .fresh win → MirrorsOn win mirror →
        Run.Along (step cfg) MirroredStep win (mirror :: as) →
          Run.Along (step cfg) (CommitKeepsOutput cfg) win (mirror :: as) := by
  intro h
  have hany : (Run.run (step ⟨1, false⟩) .fresh mapFloating).any (fun win =>
      decide (mirrorReading win hostMaximizes = some ⟨true, false⟩ ∧
        NetWmState.turnsOn win ⟨true, false⟩ = true ∧
        Run.Along (step ⟨1, false⟩) MirroredStep win (hostMaximizes :: frameBeforeAck) ∧
        ¬ Run.Along (step ⟨1, false⟩) (CommitKeepsOutput ⟨1, false⟩) win
          (hostMaximizes :: frameBeforeAck))) = true := by decide +kernel
  obtain ⟨win, hwin, hchecks⟩ := (Option.any_eq_true ..).mp hany
  obtain ⟨hread, hon, hdom, hnot⟩ := of_decide_eq_true hchecks
  exact hnot (h _ win hostMaximizes frameBeforeAck ⟨_, hwin⟩ ⟨⟨true, false⟩, hread, hon⟩ hdom)

/-- Once the client has acknowledged the maximized state, its old frame no longer counts. -/
theorem mirrored_commits_keep_output_acked :
    ∃ win, Run.Reachable (step ⟨1, false⟩) .fresh win ∧ win.output.isSome = true ∧
      Run.Along (step ⟨1, false⟩) (CommitKeepsOutput ⟨1, false⟩) win
        (hostMaximizes :: frameAfterAck) := by
  have hany : (Run.run (step ⟨1, false⟩) .fresh mapFloating).any (fun win =>
      decide (mirrorReading win hostMaximizes = some ⟨true, false⟩ ∧
        NetWmState.turnsOn win ⟨true, false⟩ = true ∧ win.output.isSome = true ∧
        Run.Along (step ⟨1, false⟩) MirroredStep win (hostMaximizes :: frameAfterAck) ∧
        Run.Along (step ⟨1, false⟩) (AuthorityKept ⟨1, false⟩) win
          (hostMaximizes :: frameAfterAck))) = true := by decide +kernel
  obtain ⟨win, hwin, hchecks⟩ := (Option.any_eq_true ..).mp hany
  obtain ⟨hread, hon, ho, hdom, hkept⟩ := of_decide_eq_true hchecks
  exact ⟨win, ⟨_, hwin⟩, ho, mirrored_commits_keep_output _ win hostMaximizes frameAfterAck
    (Inv.fresh.run hwin) ⟨⟨true, false⟩, hread, hon⟩ hdom hkept⟩

end Wlx
