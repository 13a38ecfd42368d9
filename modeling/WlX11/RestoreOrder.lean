import WlX11.CommitStanding

/-!
# WlX11 — the order of a restore

When the host restores a maximized or fullscreen window, two X events tell the program: a
`PropertyNotify` for `_NET_WM_STATE` and a `ConfigureNotify` with the restored size. The server
promises no order between them, and the client acknowledges the restored state in its own time. Both
handlers write `size_from_wm`: `output_request_state` sets it, and
`win_handle_net_wm_state_notify`, which it calls right after, clears it for a state the client still
has and the host no longer shows.

* **`Restore`**, **`Restoring`**, **`RestoreEvent`** and **`restoreStep`** — one restore as a
  transition system over the session of the window, in whatever order the events are handled.
* **`Underway`** — what is known of a window until the client's commit, from what has been handled.
* **`restore_confluent`** — when both host events find the client in the state that is being
  restored, and the commit finds the resize handled and the restore read, every order leaves
  the window standing alike.
-/

namespace Wlx

open X11Output (CommitOutcome)
open Window (MapEnv NetWmAtom NetWmState readNetWmState hostResize)

/-! ## One restore -/

/-- The state the client has, or has acknowledged, as `win_handle_net_wm_state_notify` compares it. -/
def Window.mirrored (win : Window) : NetWmState := ⟨win.curMaximized, win.curFullscreen⟩

/-- Maximized or fullscreen. -/
def Window.NetWmState.tiled (s : NetWmState) : Bool := s.maximized || s.fullscreen

/-- Who asks for a restore. -/
inductive RestoreOrigin where
  | host
  | client
deriving DecidableEq, Repr

/-- A restore from `before` to `host`: the resize that comes with it, and the commit the client
applies its acknowledgement with. -/
structure Restore where
  before : NetWmState
  host : NetWmState
  notify : ConfigureNotify
  commit : SurfaceCommit
  commitTime : Int
  mapEnv : MapEnv
  commitOutcome : CommitOutcome

namespace Restore

/-- The restore turns a state off, and none on. -/
def Restores (r : Restore) : Prop :=
  (r.host.maximized = true → r.before.maximized = true) ∧
    (r.host.fullscreen = true → r.before.fullscreen = true) ∧ r.host ≠ r.before

instance (r : Restore) : Decidable r.Restores := by unfold Restores; infer_instance

/-- What the client requests before the host is involved: `toplevel_request_maximize` and
`toplevel_request_fullscreen` schedule the restored state at once. -/
def requests (r : Restore) : RestoreOrigin → List Action
  | .host => []
  | .client =>
    (if r.before.maximized && !r.host.maximized then [.requestMaximize false] else []) ++
      if r.before.fullscreen && !r.host.fullscreen then [.requestFullscreen false] else []

/-- The configure carries the restored state. -/
def carries (r : Restore) (configure : ToplevelState) : Bool :=
  configure.maximized = r.host.maximized && configure.fullscreen = r.host.fullscreen

/-- The restore starts in a window that can be reached, has an output, and is in the state that is
going to be restored. -/
structure Starts [CInt] (cfg : Config) (r : Restore) (win : Window) : Prop where
  reachable : Run.Reachable (step cfg) .fresh win
  output : win.output.isSome = true
  mirrored : win.mirrored = r.before
  restores : r.Restores

end Restore

/-- A restore under way: the window, and which of the events have been handled. `read` is a ghost:
`win_handle_net_wm_state_notify` has read the restored state. -/
structure Restoring where
  win : Window
  property : Bool
  configure : Bool
  acked : Bool
  committed : Bool
  read : Bool

/-- None of the events has been handled. -/
def Restoring.start (win : Window) : Restoring := ⟨win, false, false, false, false, false⟩

/-- All of them have. -/
def Restoring.done (s : Restoring) : Bool := s.property && s.configure && s.acked && s.committed

inductive RestoreEvent where
  /-- the `PropertyNotify`; `replies` is what `_NET_WM_STATE` reads then -/
  | propertyNotify (replies : List (Option (List NetWmAtom))) (now : Int)
  /-- the `ConfigureNotify` with the restored size -/
  | configureNotify (replies : List (Option (List NetWmAtom))) (now : Int) (outcome : CommitOutcome)
  /-- the idle callback that sends a scheduled configure -/
  | sendConfigure
  /-- the client acknowledges the `n`-th configure, which carries the restored state -/
  | ack (n : Nat)
  /-- the client's commit applies what it acknowledged -/
  | commit

/-- The event of the window's session. -/
def RestoreEvent.action (r : Restore) : RestoreEvent → Action
  | .propertyNotify replies now => .netWmState replies now
  | .configureNotify replies now outcome => .configureNotify r.notify replies now outcome
  | .sendConfigure => .sendConfigure
  | .ack n => .ackConfigure n
  | .commit => .commit r.commit r.commitTime r.mapEnv r.commitOutcome

/-- Each event happens once. The property is changed before it is announced, so only a resize that
comes before the announcement can still read the old state. -/
def Restore.permits (r : Restore) (s : Restoring) : RestoreEvent → Bool
  | .propertyNotify replies _ => !s.property && decide (readNetWmState replies = some r.host)
  | .configureNotify replies _ _ =>
    !s.configure && (decide (readNetWmState replies = some r.host) ||
      !s.property && decide (readNetWmState replies = some r.before))
  | .sendConfigure => true
  | .ack n => !s.acked && (s.win.xdg.configureList[n]?).any r.carries
  | .commit => s.acked && !s.committed

/-- The handler of a resize gets as far as reading the restored state. -/
def Restore.reads (r : Restore) (s : Restoring) (replies : List (Option (List NetWmAtom))) : Bool :=
  (hostResize s.win r.notify).isSome && decide (readNetWmState replies = some r.host)

/-- The restore after an event that leaves the window `win`. -/
def Restore.record (r : Restore) (s : Restoring) (win : Window) : RestoreEvent → Restoring
  | .propertyNotify .. => { s with win := win, property := true, read := true }
  | .configureNotify replies .. =>
    { s with win := win, configure := true, read := s.read || r.reads s replies }
  | .sendConfigure => { s with win := win }
  | .ack _ => { s with win := win, acked := true }
  | .commit => { s with win := win, committed := true }

/-- One step of a restore. -/
def restoreStep [CInt] (cfg : Config) (r : Restore) (s : Restoring) (e : RestoreEvent) :
    Option Restoring :=
  if r.permits s e then (step cfg s.win (e.action r)).map fun win => r.record s win e else none

/-- A restore takes the steps of the session, in the orders it permits. -/
theorem restoreStep_eq_some [CInt] {cfg : Config} {r : Restore} {s s' : Restoring} {e : RestoreEvent} :
    restoreStep cfg r s e = some s' ↔
      r.permits s e = true ∧ ∃ win, step cfg s.win (e.action r) = some win ∧
        r.record s win e = s' := by
  unfold restoreStep
  by_cases h : r.permits s e = true <;> simp [h]

/-! ## The condition -/

/-- The fills a resize to `req` leads to leave nothing to the time limit of
`wlx_toplevel_fill_host`: the one for a state that reads as tiled, with the old mode, and the one for
the new mode. -/
def FillsExactly [CInt] (cfg : Config) (win : Window) (req : Size)
    (replies : List (Option (List NetWmAtom))) : Prop :=
  if (readNetWmState replies).any (·.tiled) then
    win.Exact (Window.wlxToplevelSizeForOutput cfg win) ∧
      { win with lastClientConf := Window.wlxToplevelSizeForOutput cfg win }.Exact (cfg.unscale req)
  else win.Exact (cfg.unscale req)

instance [CInt] (cfg : Config) (win : Window) (req : Size) (replies : List (Option (List NetWmAtom))) :
    Decidable (FillsExactly cfg win req replies) := by
  unfold FillsExactly; infer_instance

/-- The event is handled in time. A host event finds the client still in the state that is being
restored, or, for the `PropertyNotify`, already through with it; the mode commit succeeds. The
client's commit comes after the resize, and after the restored state has been read; without the
latter only a client that is floating afterwards, in a window that is not the host's or that it
shrinks itself. -/
def InTime [CInt] (cfg : Config) (r : Restore) (s : Restoring) : RestoreEvent → Prop
  | .propertyNotify _ _ =>
    (s.committed = true ∨ s.win.mirrored = r.before) ∧
      (r.host.tiled = true → s.win.Exact (Window.wlxToplevelSizeForOutput cfg s.win))
  | .configureNotify replies _ outcome =>
    s.win.mirrored = r.before ∧ ∀ req ∈ hostResize s.win r.notify,
      outcome = .ok ∧ FillsExactly cfg s.win req replies
  | .sendConfigure | .ack _ => True
  | .commit =>
    s.configure = true ∧
      (s.read = true ∨ r.host.tiled = false ∧ s.win.GivesUpSize cfg r.commit)

instance [CInt] (cfg : Config) (r : Restore) : ∀ (s : Restoring) (e : RestoreEvent),
    Decidable (InTime cfg r s e)
  | s, .propertyNotify .. => inferInstanceAs (Decidable ((s.committed = true ∨ _) ∧ (_ → _)))
  | s, .configureNotify replies _ outcome =>
    inferInstanceAs (Decidable (s.win.mirrored = r.before ∧ ∀ req ∈ hostResize s.win r.notify,
      outcome = .ok ∧ FillsExactly cfg s.win req replies))
  | _, .sendConfigure | _, .ack _ => isTrue trivial
  | s, .commit => inferInstanceAs (Decidable (s.configure = true ∧ _))

/-! ## The host events -/

section HostEvents

variable {cfg : Config} {win : Window} {host : NetWmState}

/-- Mirroring a restore gives the size back. -/
theorem mirrorState_sizeFromWm_of_restore {before : NetWmState} (hm : win.mirrored = before)
    (hmax : host.maximized = true → before.maximized = true)
    (hfull : host.fullscreen = true → before.fullscreen = true) (hne : host ≠ before) :
    (win.mirrorState host).sizeFromWm = false := by
  subst hm
  rw [mirrorState_sizeFromWm]
  change host.maximized = true → win.curMaximized = true at hmax
  change host.fullscreen = true → win.curFullscreen = true at hfull
  split
  · next hf =>
    split
    · next hmx =>
      refine absurd ?_ hne
      obtain ⟨m, f⟩ := host
      exact congrArg₂ NetWmState.mk hmx hf
    · next hmx =>
      -- the restored state is off, or it would be on in both
      cases h : host.maximized with
      | false => rfl
      | true => exact absurd (h.trans (hmax h).symm) hmx
  · next hf =>
    cases h : host.fullscreen with
    | false => rfl
    | true => exact absurd (h.trans (hfull h).symm) hf

/-- Mirroring the state the client has does nothing. -/
theorem mirrorState_of_mirrored (hm : win.mirrored = host) : win.mirrorState host = win := by
  subst hm
  have hmax : win.mirrorMaximized win.curMaximized = win := if_pos rfl
  have hfull : win.mirrorFullscreen win.curFullscreen = win := if_pos rfl
  show (win.mirrorMaximized win.curMaximized).mirrorFullscreen win.curFullscreen = win
  rw [hmax, hfull]

/-- Mirroring touches the states, the owner of the size and the margin. -/
theorem mirrorState_frame (host : NetWmState) (win : Window) :
    { win.mirrorState host with
      xdg := win.xdg, sizeFromWm := win.sizeFromWm, csdMargin := win.csdMargin } = win := by
  unfold Window.mirrorState Window.mirrorFullscreen Window.mirrorMaximized Window.mirrorSize
  split <;> split <;> (try split) <;> (try split) <;> rfl

/-- A fill touches the configured size and its clock. -/
theorem fillHost_frame [CInt] (cfg : Config) (now : Int) (win : Window) :
    { Window.wlxToplevelFillHost cfg now win with
      xdg := win.xdg, lastClientConf := win.lastClientConf,
      fillHostLastMsec := win.fillHostLastMsec } = win := by
  rcases Window.wlxToplevelFillHost_cases cfg now win with h | ⟨msec, h⟩ <;> rw [h]
  rfl

end HostEvents

/-- What a restore leaves alone, until the commit, of what the commit decides by: the A→B→A record
and the sizes the client has committed. -/
structure DecisionKept (win win' : Window) : Prop where
  fitLast : win'.fitLast = win.fitLast
  fitPrev : win'.fitPrev = win.fitPrev
  fitLastMsec : win'.fitLastMsec = win.fitLastMsec
  geometry : win'.xdg.geometry = win.xdg.geometry
  surfaceSize : win'.xdg.surfaceSize = win.xdg.surfaceSize

namespace DecisionKept

variable {win win' win'' : Window}

theorem refl (win : Window) : DecisionKept win win := ⟨rfl, rfl, rfl, rfl, rfl⟩

theorem trans (h : DecisionKept win win') (h' : DecisionKept win' win'') :
    DecisionKept win win'' where
  fitLast := h'.fitLast.trans h.fitLast
  fitPrev := h'.fitPrev.trans h.fitPrev
  fitLastMsec := h'.fitLastMsec.trans h.fitLastMsec
  geometry := h'.geometry.trans h.geometry
  surfaceSize := h'.surfaceSize.trans h.surfaceSize

/-- Mirroring decides on no size, -/
theorem mirrorState (host : NetWmState) (win : Window) :
    DecisionKept win (win.mirrorState host) where
  fitLast := (congrArg Window.fitLast (mirrorState_frame host win) :)
  fitPrev := (congrArg Window.fitPrev (mirrorState_frame host win) :)
  fitLastMsec := (congrArg Window.fitLastMsec (mirrorState_frame host win) :)
  geometry := (mirrorState_step host win).xdg.geometry
  surfaceSize := (mirrorState_step host win).xdg.surfaceSize

/-- nor does a fill, -/
theorem fillHost [CInt] (cfg : Config) (now : Int) (win : Window) :
    DecisionKept win (Window.wlxToplevelFillHost cfg now win) where
  fitLast := (congrArg Window.fitLast (fillHost_frame cfg now win) :)
  fitPrev := (congrArg Window.fitPrev (fillHost_frame cfg now win) :)
  fitLastMsec := (congrArg Window.fitLastMsec (fillHost_frame cfg now win) :)
  geometry := (Window.wlxToplevelFillHost_step cfg now win).xdg.geometry
  surfaceSize := (Window.wlxToplevelFillHost_step cfg now win).xdg.surfaceSize

/-- nor the commit to the host. -/
theorem commitOutput [CInt] (cfg : Config) (now : Int) (size : Size) (outcome : CommitOutcome)
    (win : Window) : DecisionKept win (Window.commitOutput cfg now size outcome win) := by
  unfold Window.commitOutput
  split
  · exact .refl win
  · dsimp only
    split
    · unfold Window.outputCommit
      dsimp only
      split
      -- an empty mode, or the one it was filled for: no fill
      · exact ⟨rfl, rfl, rfl, rfl, rfl⟩
      split
      · exact ⟨rfl, rfl, rfl, rfl, rfl⟩
      · refine trans ?_ (fillHost cfg now _)
        exact ⟨rfl, rfl, rfl, rfl, rfl⟩
    · exact ⟨rfl, rfl, rfl, rfl, rfl⟩

end DecisionKept

section HostEvents

variable {cfg : Config} {win : Window} {host : NetWmState}

/-- `win_handle_net_wm_state_notify` on a readable state. -/
theorem winHandle_of_read [CInt] (cfg : Config) (now : Int) {replies : List (Option (List NetWmAtom))}
    (hsent : win.initialConfigureSent = true) (ho : win.output.isSome = true)
    (hread : readNetWmState replies = some host) :
    win.winHandleNetWmStateNotify cfg now replies =
      if host.tiled = true then Window.wlxToplevelFillHost cfg now (win.mirrorState host)
      else win.mirrorState host := by
  have ho' : (win.mirrorState host).output.isSome = true :=
    (mirrorState_step host win).output.trans ho
  unfold Window.winHandleNetWmStateNotify
  rw [if_pos hsent, hread]
  show (if (host.maximized || host.fullscreen) && (win.mirrorState host).output.isSome then _
    else _) = _
  rw [ho', Bool.and_true]
  rfl

/-- Its effect on what the size policy goes by: the owner is as mirrored, and the client of a tiled
window is configured to fill the host. -/
theorem winHandle_standing [CInt] (now : Int) {replies : List (Option (List NetWmAtom))} {out : X11Output}
    (hsent : win.initialConfigureSent = true) (ho : win.output = some out)
    (hset : out.size.isSet = true) (ht : win.tiled = true)
    (hread : readNetWmState replies = some host)
    (hexact : host.tiled = true → win.Exact (cfg.unscale out.size)) :
    (win.winHandleNetWmStateNotify cfg now replies).standing =
      ⟨(win.mirrorState host).sizeFromWm, some out.size,
        if host.tiled then cfg.unscale out.size else win.lastClientConf⟩ := by
  have hout : (win.mirrorState host).output = some out :=
    ((congrArg Window.output (mirrorState_frame host win) :)).trans ho
  have hlast : (win.mirrorState host).lastClientConf = win.lastClientConf :=
    (congrArg Window.lastClientConf (mirrorState_frame host win) :)
  have htiled : (win.mirrorState host).tiled = true := (mirrorState_step host win).tiled.trans ht
  have hfills := Window.sizeForOutput_of_tiled cfg hout htiled
  rw [winHandle_of_read cfg now hsent (by rw [ho]; rfl) hread]
  cases hh : host.tiled with
  -- still tiled: the client is asked to fill the host
  | true =>
    have hsized : (Window.wlxToplevelFillHost cfg now (win.mirrorState host)).lastClientConf =
        cfg.unscale out.size := by
      rw [Window.fillHost_lastClientConf, hfills]
      · rw [hfills]
        exact cfg.unscale_isSet hset
      · rw [hfills]
        exact (hexact hh).congr hlast
    rw [if_pos rfl, Window.fillHost_standing, hsized]
    simp only [Window.standing, Window.outputSize, hout]
    rfl
  | false =>
    rw [if_neg (by simp)]
    simp only [Window.standing, Window.outputSize, hout, hlast]
    rfl

/-- So a state notification leaves the fit to the commit. -/
theorem winHandle_kept [CInt] (now : Int) {replies : List (Option (List NetWmAtom))}
    (hsent : win.initialConfigureSent = true) (ho : win.output.isSome = true)
    (hread : readNetWmState replies = some host) :
    DecisionKept win (win.winHandleNetWmStateNotify cfg now replies) := by
  rw [winHandle_of_read cfg now hsent ho hread]
  split
  · exact (DecisionKept.mirrorState host win).trans (.fillHost cfg now _)
  · exact .mirrorState host win

/-- Committing another mode configures a tiled client to fill it. -/
theorem commitOutput_lastClientConf [CInt] (now : Int) {out : X11Output} {req : Size}
    (ho : win.output = some out) (hrec : win.lastOutputSize = out.size) (hne : req ≠ out.size)
    (hset : req.isSet = true) (ht : win.tiled = true) (hexact : win.Exact (cfg.unscale req)) :
    (Window.commitOutput cfg now req .ok win).lastClientConf = cfg.unscale req := by
  have hsize := X11Output.commitState_ok_size out req
  have hpos := Size.isSet_iff.mp hset
  unfold Window.commitOutput
  rw [ho]
  dsimp only
  rw [if_pos (X11Output.commitState_snd.mpr rfl)]
  unfold Window.outputCommit
  dsimp only
  rw [if_neg (by rw [hsize]; omega), if_neg (by rw [hsize, hrec]; exact hne)]
  -- what is to be filled is the new mode
  have hfills : Window.wlxToplevelSizeForOutput cfg { win with
      output := some (out.commitState req .ok).1
      holdPresent := decide (minOutputSize < win.lastOutputSize.width ∧
        minOutputSize < win.lastOutputSize.height)
      lastOutputSize := (out.commitState req .ok).1.size } = cfg.unscale req := by
    refine (Window.sizeForOutput_of_tiled cfg rfl ?_).trans (congrArg cfg.unscale hsize)
    exact ht
  rw [Window.fillHost_lastClientConf, hfills]
  · rw [hfills]
    exact cfg.unscale_isSet hset
  · rw [hfills]
    exact hexact

end HostEvents

/-! ## Until the commit -/

namespace Restore

/-- The output once the `ConfigureNotify` has been handled. -/
def resized (r : Restore) (win : Window) : Option X11Output :=
  win.output.map fun out =>
    match hostResize win r.notify with
    | none => (out.handleX11ConfigureNotify r.notify).1
    | some req => ((out.handleX11ConfigureNotify r.notify).1.commitState req .ok).1

/-- The size the client is configured with on account of the `ConfigureNotify`. -/
def resizedConf [CInt] (cfg : Config) (r : Restore) (win : Window) : Size :=
  match hostResize win r.notify with
  | none => win.lastClientConf
  | some req => cfg.unscale req

/-- A window in the state that is going to be restored is tiled. -/
theorem Restores.tiled {r : Restore} (hr : r.Restores) {win : Window}
    (hm : win.mirrored = r.before) : win.tiled = true := by
  obtain ⟨hmax, hfull, hne⟩ := hr
  have htiled : win.tiled = (r.before.maximized || r.before.fullscreen) := by
    rw [← hm]
    show ((win.xdg.current.maximized || win.xdg.current.fullscreen) ||
        (win.xdg.pending.maximized || win.xdg.pending.fullscreen)) =
      ((win.xdg.current.maximized || win.xdg.pending.maximized) ||
        (win.xdg.current.fullscreen || win.xdg.pending.fullscreen))
    ac_rfl
  rw [htiled, Bool.or_eq_true]
  by_contra hno
  obtain ⟨hbm, hbf⟩ := not_or.mp hno
  -- with nothing on before, nothing is on after
  have hhm : ¬ r.host.maximized = true := fun h => hbm (hmax h)
  have hhf : ¬ r.host.fullscreen = true := fun h => hbf (hfull h)
  refine hne ?_
  show NetWmState.mk r.host.maximized r.host.fullscreen =
    NetWmState.mk r.before.maximized r.before.fullscreen
  rw [Bool.not_eq_true] at hbm hbf hhm hhf
  rw [hbm, hbf, hhm, hhf]

end Restore

/-- A window in a restore, until the client's commit: what it shows depends on which events have been
handled only, not on their order. -/
structure Underway [CInt] (cfg : Config) (r : Restore) (win : Window) (s : Restoring) : Prop where
  inv : Inv s.win
  mode : ModeRecorded s.win
  uncommitted : s.committed = false
  kept : DecisionKept win s.win
  output : s.win.output = if s.configure then r.resized win else win.output
  filled : s.property = true → r.host.tiled = true → ∀ out, s.win.output = some out →
    s.win.lastClientConf = cfg.unscale out.size
  conf : (s.property && r.host.tiled) = false → s.win.lastClientConf =
    if s.configure then r.resizedConf cfg win else win.lastClientConf
  heard : s.property = true → s.read = true
  source : s.read = true →
    s.property = true ∨ s.configure = true ∧ (hostResize win r.notify).isSome = true
  released : s.read = true → s.win.sizeFromWm = false
  carried : s.acked = true → r.carries s.win.xdg.pending = true

namespace Underway

variable {cfg : Config} {r : Restore} {win win' : Window} {s : Restoring}

/-- The output is there until the commit. -/
theorem output_isSome [CInt] (h : Underway cfg r win s) (ho : win.output.isSome = true) :
    s.win.output.isSome = true := by
  rw [h.output]
  split
  · rw [Restore.resized, Option.isSome_map]
    exact ho
  · exact ho

/-- The `PropertyNotify`, handled while the client is in the state that is being restored. -/
theorem propertyNotify [CInt] (h : Underway cfg r win s) (hr : r.Restores)
    (ho : win.output.isSome = true) {replies : List (Option (List NetWmAtom))} {now : Int}
    (hp : r.permits s (.propertyNotify replies now) = true)
    (ht : InTime cfg r s (.propertyNotify replies now))
    (hstep : step cfg s.win (.netWmState replies now) = some win') :
    Underway cfg r win (r.record s win' (.propertyNotify replies now)) := by
  have hinv := h.inv.step hstep
  have hmode := h.mode.step h.inv hstep
  obtain ⟨-, -, rfl⟩ := step_eq_some.mp hstep
  obtain ⟨out, hout⟩ := Option.isSome_iff_exists.mp (h.output_isSome ho)
  have hsent := h.inv.sent (h.inv.ready_of_output (h.output_isSome ho))
  have hset := (h.mode out hout).2
  simp only [Restore.permits, Bool.and_eq_true, decide_eq_true_eq] at hp
  obtain ⟨hwhen, hexact⟩ := ht
  -- in time: the client has not committed the restore, so it is mirrored as before
  have hm : s.win.mirrored = r.before := by
    rcases hwhen with hc | hm
    · rw [h.uncommitted] at hc
      cases hc
    · exact hm
  have htiled := hr.tiled hm
  rw [Window.sizeForOutput_of_tiled cfg hout htiled] at hexact
  have hstand := winHandle_standing now hsent hout hset htiled hp.2 hexact
  have hx := (Window.winHandleNetWmStateNotify_step cfg now replies s.win).xdg
  have hout' := Window.winHandleNetWmStateNotify_output cfg now replies s.win
  have hlast := congrArg Standing.lastClientConf hstand
  have howner := congrArg Standing.sizeFromWm hstand
  exact {
    inv := hinv
    mode := hmode
    uncommitted := h.uncommitted
    kept := h.kept.trans (winHandle_kept now hsent (h.output_isSome ho) hp.2)
    output := hout'.trans h.output
    filled := fun _ hh out' ho' => by
      have heq : s.win.output = some out' := hout'.symm.trans ho'
      rw [hout] at heq
      cases heq
      exact hlast.trans (if_pos hh)
    conf := fun hno => by
      have hh : r.host.tiled = false := by simpa [Restore.record] using hno
      refine (hlast.trans (if_neg (by rw [hh]; simp))).trans (h.conf ?_)
      rw [hh, Bool.and_false]
    heard := fun _ => rfl
    source := fun _ => Or.inl rfl
    released := fun _ =>
      howner.trans (mirrorState_sizeFromWm_of_restore hm hr.1 hr.2.1 hr.2.2)
    carried := fun ha => by
      show r.carries (s.win.winHandleNetWmStateNotify cfg now replies).xdg.pending = true
      rw [hx.pending]
      exact h.carried ha }

/-- A `ConfigureNotify` that reaches `output_request_state`, handled while the client is in the state
that is being restored: the new owner of the size, the mode and the client's size. -/
theorem resize_standing [CInt] (h : Underway cfg r win s) (hr : r.Restores)
    (ho : win.output.isSome = true) {req : Size} (hreq : hostResize s.win r.notify = some req)
    {replies : List (Option (List NetWmAtom))} {state : NetWmState} (now : Int)
    (hm : s.win.mirrored = r.before) (hread : readNetWmState replies = some state)
    (hfills : FillsExactly cfg s.win req replies) :
    (s.win.configureNotify cfg now replies .ok r.notify).sizeFromWm =
        ({ s.win with sizeFromWm := true }.mirrorState state).sizeFromWm ∧
      (s.win.configureNotify cfg now replies .ok r.notify).lastClientConf = cfg.unscale req ∧
      DecisionKept s.win (s.win.configureNotify cfg now replies .ok r.notify) := by
  obtain ⟨out, hout⟩ := Option.isSome_iff_exists.mp (h.output_isSome ho)
  have hsent := h.inv.sent (h.inv.ready_of_output (h.output_isSome ho))
  obtain ⟨hrec, hset⟩ := h.mode out hout
  have htiled := hr.tiled hm
  have hreq' := hreq
  simp only [hostResize, hout, Option.bind_some, Option.filter_eq_some_iff, Bool.and_eq_true,
    decide_eq_true_eq] at hreq'
  have hsize := X11Output.handleX11ConfigureNotify_size out r.notify
  have hscale := Window.sizeForOutput_of_tiled cfg hout htiled
  rw [Window.configureNotify_of_some cfg now replies .ok hreq, hout]
  -- the window as it is handed to the mirror
  let taken : Window := { s.win with
    output := some (out.handleX11ConfigureNotify r.notify).1, sizeFromWm := true }
  have htaken : taken.output = some (out.handleX11ConfigureNotify r.notify).1 := rfl
  unfold FillsExactly at hfills
  rw [hread, Option.any_some, hscale] at hfills
  have hstand : (taken.winHandleNetWmStateNotify cfg now replies).standing =
      ⟨(taken.mirrorState state).sizeFromWm, some out.size,
        if state.tiled then cfg.unscale out.size else s.win.lastClientConf⟩ := by
    rw [← hsize]
    refine winHandle_standing now hsent htaken (by rw [hsize]; exact hset) htiled hread ?_
    intro hst
    rw [if_pos hst] at hfills
    rw [hsize]
    exact hfills.1.congr rfl
  have hlast := congrArg Standing.lastClientConf hstand
  have howner := congrArg Standing.sizeFromWm hstand
  have hout' := Window.winHandleNetWmStateNotify_output cfg now replies taken
  have htaken' : ModeRecorded taken := h.mode.congr rfl (by
    rw [Window.outputSize, Window.outputSize, htaken, hout]
    exact congrArg some hsize)
  have hrec' := ((htaken'.winHandleNetWmStateNotify now replies) _ hout').1
  have htiled' := (Window.winHandleNetWmStateNotify_step cfg now replies taken).tiled.trans htiled
  have hexact : (taken.winHandleNetWmStateNotify cfg now replies).Exact (cfg.unscale req) := by
    by_cases hst : state.tiled = true
    · rw [if_pos hst] at hfills
      exact hfills.2.congr (hlast.trans (if_pos hst))
    · rw [if_neg hst] at hfills
      exact hfills.congr (hlast.trans (if_neg hst))
  refine ⟨?_, ?_, ?_⟩
  · have hmirror : (taken.mirrorState state).sizeFromWm =
        ({ s.win with sizeFromWm := true }.mirrorState state).sizeFromWm := by
      rw [mirrorState_sizeFromWm, mirrorState_sizeFromWm]
      rfl
    exact ((Window.commitOutput_step cfg now req .ok _).sizeFromWm).trans (howner.trans hmirror)
  · exact commitOutput_lastClientConf now hout' hrec' (by rw [hsize]; exact hreq'.2.2)
      (Size.isSet_iff.mpr hreq'.2.1) htiled' hexact
  · have htake : DecisionKept s.win taken := ⟨rfl, rfl, rfl, rfl, rfl⟩
    exact (htake.trans (winHandle_kept now hsent rfl hread)).trans (.commitOutput cfg now req .ok _)

/-- Until the `ConfigureNotify` the output is the one before the restore. -/
theorem unmoved [CInt] (h : Underway cfg r win s) (hfirst : s.configure = false) :
    s.win.output = win.output ∧ hostResize s.win r.notify = hostResize win r.notify := by
  have hunmoved : s.win.output = win.output := by rw [h.output, hfirst]; rfl
  refine ⟨hunmoved, ?_⟩
  simp only [hostResize, hunmoved]

/-- Whoever has read the new state by then has been told by one of the two events. -/
theorem source_notify [CInt] (h : Underway cfg r win s) (hfirst : s.configure = false)
    {replies : List (Option (List NetWmAtom))} (hs : (s.read || r.reads s replies) = true) :
    s.property = true ∨ true = true ∧ (hostResize win r.notify).isSome = true := by
  rw [Bool.or_eq_true] at hs
  rcases hs with hs | hs
  · exact (h.source hs).imp_right fun hc => ⟨rfl, hc.2⟩
  · simp only [Restore.reads, Bool.and_eq_true, (h.unmoved hfirst).2] at hs
    exact Or.inr ⟨rfl, hs.1⟩

/-- The backend keeps a `ConfigureNotify` to itself that brings nothing new. -/
theorem configureNotify_ignored [CInt] (h : Underway cfg r win s) (ho : win.output.isSome = true)
    (hfirst : s.configure = false) (hreq : hostResize s.win r.notify = none)
    (replies : List (Option (List NetWmAtom))) (now : Int) (outcome : CommitOutcome)
    (hinv : Inv (s.win.configureNotify cfg now replies outcome r.notify))
    (hmode : ModeRecorded (s.win.configureNotify cfg now replies outcome r.notify)) :
    Underway cfg r win (r.record s (s.win.configureNotify cfg now replies outcome r.notify)
      (.configureNotify replies now outcome)) := by
  obtain ⟨out, hout⟩ := Option.isSome_iff_exists.mp (h.output_isSome ho)
  obtain ⟨hunmoved, hresize⟩ := h.unmoved hfirst
  have heq := Window.configureNotify_of_none cfg now replies outcome hreq
  have hx := (Window.configureNotify_step cfg now replies outcome r.notify s.win).xdg
  have hreads : r.reads s replies = false := by simp [Restore.reads, hreq]
  -- no new size, and so nothing that is read again
  have hresized : r.resizedConf cfg win = win.lastClientConf := by
    rw [Restore.resizedConf, ← hresize, hreq]
  have hout' := Window.configureNotify_output cfg now replies outcome r.notify hout
  rw [hreq] at hout'
  exact {
    inv := hinv
    mode := hmode
    uncommitted := h.uncommitted
    kept := by
      show DecisionKept win (s.win.configureNotify cfg now replies outcome r.notify)
      rw [heq]
      exact h.kept.trans ⟨rfl, rfl, rfl, rfl, rfl⟩
    output := by
      show (s.win.configureNotify cfg now replies outcome r.notify).output = r.resized win
      rw [hout', Restore.resized, ← hunmoved, hout, ← hresize, hreq]
      rfl
    filled := fun hprop hh out' ho' => by
      have hfilled := h.filled hprop hh out hout
      have hmoved : (s.win.configureNotify cfg now replies outcome r.notify).output = some out' :=
        ho'
      rw [hout'] at hmoved
      cases hmoved
      show (s.win.configureNotify cfg now replies outcome r.notify).lastClientConf = _
      rw [heq, X11Output.handleX11ConfigureNotify_size]
      exact hfilled
    conf := fun hno => by
      have hconf := h.conf hno
      rw [hfirst] at hconf
      show (s.win.configureNotify cfg now replies outcome r.notify).lastClientConf =
        r.resizedConf cfg win
      rw [heq, hresized]
      exact hconf
    heard := fun hprop => by
      show (s.read || r.reads s replies) = true
      rw [h.heard hprop, Bool.true_or]
    source := h.source_notify hfirst
    released := fun hs => by
      have hs' : s.read = true := by simpa [Restore.record, hreads] using hs
      show (s.win.configureNotify cfg now replies outcome r.notify).sizeFromWm = false
      rw [heq]
      exact h.released hs'
    carried := fun ha => by
      show r.carries (s.win.configureNotify cfg now replies outcome r.notify).xdg.pending = true
      rw [hx.pending]
      exact h.carried ha }

/-- A `ConfigureNotify` with a new size resizes the window, which then reads the old state or the new
one. -/
theorem configureNotify_resized [CInt] (h : Underway cfg r win s) (hr : r.Restores)
    (ho : win.output.isSome = true) (hfirst : s.configure = false) {req : Size}
    (hreq : hostResize s.win r.notify = some req) {replies : List (Option (List NetWmAtom))}
    {state : NetWmState} (now : Int) (hm : s.win.mirrored = r.before)
    (hstate : readNetWmState replies = some state)
    (hwhich : state = r.host ∨ s.property = false ∧ state = r.before)
    (hfills : FillsExactly cfg s.win req replies)
    (hinv : Inv (s.win.configureNotify cfg now replies .ok r.notify))
    (hmode : ModeRecorded (s.win.configureNotify cfg now replies .ok r.notify)) :
    Underway cfg r win (r.record s (s.win.configureNotify cfg now replies .ok r.notify)
      (.configureNotify replies now .ok)) := by
  obtain ⟨out, hout⟩ := Option.isSome_iff_exists.mp (h.output_isSome ho)
  obtain ⟨hunmoved, hresize⟩ := h.unmoved hfirst
  obtain ⟨howner, hlast, hkept⟩ := h.resize_standing hr ho hreq now hm hstate hfills
  have hx := (Window.configureNotify_step cfg now replies .ok r.notify s.win).xdg
  -- the size of the notification is the one that was foreseen
  have hsizes : r.resizedConf cfg win = cfg.unscale req := by
    rw [Restore.resizedConf, ← hresize, hreq]
  have hout' := Window.configureNotify_output cfg now replies .ok r.notify hout
  rw [hreq] at hout'
  exact {
    inv := hinv
    mode := hmode
    uncommitted := h.uncommitted
    kept := h.kept.trans hkept
    output := by
      show (s.win.configureNotify cfg now replies .ok r.notify).output = r.resized win
      rw [hout', Restore.resized, ← hunmoved, hout, ← hresize, hreq]
      rfl
    filled := fun _ _ out' ho' => by
      have hmoved : (s.win.configureNotify cfg now replies .ok r.notify).output = some out' := ho'
      rw [hout'] at hmoved
      cases hmoved
      refine hlast.trans ?_
      rw [X11Output.commitState_ok_size]
    conf := fun _ => hlast.trans hsizes.symm
    heard := fun hprop => by
      show (s.read || r.reads s replies) = true
      rw [h.heard hprop, Bool.true_or]
    source := h.source_notify hfirst
    released := fun hs => by
      refine howner.trans ?_
      rcases hwhich with rfl | ⟨hprop, rfl⟩
      · have hm' : ({ s.win with sizeFromWm := true } : Window).mirrored = r.before := hm
        exact mirrorState_sizeFromWm_of_restore hm' hr.1 hr.2.1 hr.2.2
      · -- the old state was read, and nothing has announced the new one yet
        exfalso
        have hreads : r.reads s replies = false := by
          have hne : ¬ r.before = r.host := fun heq => hr.2.2 heq.symm
          simp [Restore.reads, hstate, hne]
        have hs' : s.read = true := by simpa [Restore.record, hreads] using hs
        rcases h.source hs' with hprop' | ⟨hconf, -⟩
        · rw [hprop] at hprop'
          cases hprop'
        · rw [hfirst] at hconf
          cases hconf
    carried := fun ha => by
      show r.carries (s.win.configureNotify cfg now replies .ok r.notify).xdg.pending = true
      rw [hx.pending]
      exact h.carried ha }

/-- The `ConfigureNotify`, handled while the client is in the state that is being restored. -/
theorem configureNotify [CInt] (h : Underway cfg r win s) (hr : r.Restores)
    (ho : win.output.isSome = true) {replies : List (Option (List NetWmAtom))} {now : Int}
    {outcome : CommitOutcome} (hp : r.permits s (.configureNotify replies now outcome) = true)
    (ht : InTime cfg r s (.configureNotify replies now outcome))
    (hstep : step cfg s.win (.configureNotify r.notify replies now outcome) = some win') :
    Underway cfg r win (r.record s win' (.configureNotify replies now outcome)) := by
  have hinv := h.inv.step hstep
  have hmode := h.mode.step h.inv hstep
  obtain ⟨-, -, rfl⟩ := step_eq_some.mp hstep
  simp only [Restore.permits, Bool.and_eq_true, Bool.or_eq_true, Bool.not_eq_true',
    decide_eq_true_eq] at hp
  obtain ⟨hfirst, hread⟩ := hp
  obtain ⟨hm, hreach⟩ := ht
  -- the size is new to the backend, or it was there before
  cases hreq : hostResize s.win r.notify with
  | none => exact h.configureNotify_ignored ho hfirst hreq replies now outcome hinv hmode
  | some req =>
    obtain ⟨hok, hfills⟩ := hreach req hreq
    subst hok
    obtain ⟨state, hstate, hwhich⟩ : ∃ state, readNetWmState replies = some state ∧
        (state = r.host ∨ s.property = false ∧ state = r.before) := by
      rcases hread with hnew | ⟨hprop, hold⟩
      · exact ⟨r.host, hnew, Or.inl rfl⟩
      · exact ⟨r.before, hold, Or.inr ⟨hprop, rfl⟩⟩
    exact h.configureNotify_resized hr ho hfirst hreq now hm hstate hwhich hfills hinv hmode

/-- Sending a configure changes nothing the size policy reads. -/
theorem sendConfigure [CInt] (h : Underway cfg r win s)
    (hstep : step cfg s.win .sendConfigure = some win') :
    Underway cfg r win (r.record s win' .sendConfigure) := by
  have hinv := h.inv.step hstep
  have hmode := h.mode.step h.inv hstep
  obtain ⟨-, -, rfl⟩ := step_eq_some.mp hstep
  exact ⟨hinv, hmode, h.uncommitted, h.kept.trans ⟨rfl, rfl, rfl, rfl, rfl⟩, h.output, h.filled,
    h.conf, h.heard, h.source, h.released, h.carried⟩

/-- An acknowledgement of the restored state makes it the pending one. -/
theorem ack [CInt] (h : Underway cfg r win s) {n : Nat} (hp : r.permits s (.ack n) = true)
    (hstep : step cfg s.win (.ackConfigure n) = some win') :
    Underway cfg r win (r.record s win' (.ack n)) := by
  have hinv := h.inv.step hstep
  have hmode := h.mode.step h.inv hstep
  obtain ⟨-, -, rfl⟩ := step_eq_some.mp hstep
  simp only [Restore.permits, Bool.and_eq_true, Option.any_eq_true] at hp
  obtain ⟨-, configure, hconf, hcarries⟩ := hp
  -- only the pending state is another one
  have hacked : (s.win.xdg.ackConfigure n).geometry = s.win.xdg.geometry ∧
      (s.win.xdg.ackConfigure n).surfaceSize = s.win.xdg.surfaceSize ∧
      (s.win.xdg.ackConfigure n).pending = configure := by
    unfold XdgSurface.ackConfigure
    rw [hconf]
    exact ⟨rfl, rfl, rfl⟩
  exact ⟨hinv, hmode, h.uncommitted, h.kept.trans ⟨rfl, rfl, rfl, hacked.1, hacked.2.1⟩, h.output,
    h.filled, h.conf, h.heard, h.source, h.released, fun _ => hacked.2.2.symm ▸ hcarries⟩

end Underway

/-! ## The commit and after -/

namespace Restore

/-- The window as the client's commit finds it when both host events have been handled. -/
def restored [CInt] (cfg : Config) (r : Restore) (win : Window) : Window :=
  { win with
    sizeFromWm := false
    output := r.resized win
    lastClientConf := if r.host.tiled then
        ((r.resized win).map fun out => cfg.unscale out.size).getD win.lastClientConf
      else r.resizedConf cfg win
    xdg := { win.xdg with pending :=
      { win.xdg.pending with maximized := r.host.maximized, fullscreen := r.host.fullscreen } } }

/-- How the restore leaves the window standing. -/
def outcome [CInt] (cfg : Config) (r : Restore) (win : Window) : Standing :=
  ((r.restored cfg win).wlSurfaceCommit cfg r.commitTime r.mapEnv r.commitOutcome r.commit).standing

/-- A configure carries the restored states if it has both. -/
theorem carries_iff {r : Restore} {state : ToplevelState} :
    r.carries state = true ↔
      state.maximized = r.host.maximized ∧ state.fullscreen = r.host.fullscreen := by
  simp [carries]

/-- Tiled it is then, or not, as the host says. -/
theorem carries_tiled {r : Restore} {state : ToplevelState} (h : r.carries state = true) :
    state.tiled = r.host.tiled := by
  obtain ⟨hm, hf⟩ := carries_iff.mp h
  rw [ToplevelState.tiled, Window.NetWmState.tiled, hm, hf]

/-- The window that is restored is one the session reaches. -/
theorem restored_inv [CInt] {cfg : Config} {r : Restore} {win : Window} (h : Inv win) :
    Inv (r.restored cfg win) where
  mapped := fun ho => h.mapped (by
    have ho' : (r.resized win).isSome = true := ho
    rwa [resized, Option.isSome_map] at ho')
  initialized := h.initialized
  focused := fun hf => by
    show (r.resized win).isSome = true
    rw [resized, Option.isSome_map]
    exact h.focused hf
  sent := h.sent
  deferred := h.deferred
  blank := h.blank

end Restore

/-- A window after the client's commit: it stands as every order leaves it. -/
structure Committed [CInt] (cfg : Config) (r : Restore) (win : Window) (s : Restoring) : Prop where
  inv : Inv s.win
  committed : s.committed = true
  acked : s.acked = true
  configure : s.configure = true
  mirrored : s.win.mirrored = r.host
  standing : s.win.standing = r.outcome cfg win
  filled : r.host.tiled = true → ∀ out, s.win.output = some out →
    s.win.lastClientConf = cfg.unscale out.size

/-- **The client's commit**, handled when the resize has been and the restored state has been read
or no longer matters. -/
theorem Underway.commit [CInt] {cfg : Config} {r : Restore} {win win' : Window} {s : Restoring}
    (h : Underway cfg r win s) (hinv : Inv win) (ho : win.output.isSome = true)
    (hp : r.permits s .commit = true) (ht : InTime cfg r s .commit)
    (hstep : step cfg s.win (.commit r.commit r.commitTime r.mapEnv r.commitOutcome) = some win') :
    Committed cfg r win (r.record s win' .commit) := by
  have hinv' := h.inv.step hstep
  obtain ⟨-, -, rfl⟩ := step_eq_some.mp hstep
  simp only [Restore.permits, Bool.and_eq_true] at hp
  obtain ⟨hconf, hwhen⟩ := ht
  have hcarries := h.carried hp.1
  have hout : s.win.output = r.resized win := by rw [h.output, hconf]; rfl
  obtain ⟨out, hout'⟩ := Option.isSome_iff_exists.mp (h.output_isSome ho)
  have hres : r.resized win = some out := hout.symm.trans hout'
  have hgive : s.win.GivesUpSize cfg r.commit := by
    rcases hwhen with hread | ⟨-, hgive⟩
    · exact Or.inl (h.released hread)
    · exact hgive
  -- a client that stays tiled has been configured to fill the host by now
  have hfilled : r.host.tiled = true → s.win.lastClientConf = cfg.unscale out.size := by
    intro hh
    have hread : s.read = true := by
      rcases hwhen with hread | ⟨hno, -⟩
      · exact hread
      · rw [hh] at hno
        cases hno
    cases hprop : s.property with
    | true => exact h.filled hprop hh out hout'
    | false =>
      obtain ⟨req, hreq⟩ : ∃ req, hostResize win r.notify = some req := by
        rcases h.source hread with hprop' | ⟨-, hsome⟩
        · rw [hprop] at hprop'
          cases hprop'
        · exact Option.isSome_iff_exists.mp hsome
      have hsize : out.size = req := by
        obtain ⟨out₀, hout₀⟩ := Option.isSome_iff_exists.mp ho
        rw [Restore.resized, hout₀, Option.map_some, hreq] at hres
        cases hres
        exact X11Output.commitState_ok_size _ req
      rw [h.conf (by rw [hprop]; rfl), hconf, if_pos rfl, Restore.resizedConf, hreq, hsize]
  have hlast : s.win.lastClientConf = (r.restored cfg win).lastClientConf := by
    show _ = if r.host.tiled then _ else _
    cases hh : r.host.tiled with
    | true => rw [if_pos rfl, hfilled hh, hres]; rfl
    | false => rw [if_neg (by simp), h.conf (by rw [hh, Bool.and_false]), hconf, if_pos rfl]
  have hagree : Window.CommitAgrees (r.restored cfg win) s.win :=
    ⟨hout, hlast, h.kept.fitLast, h.kept.fitPrev, h.kept.fitLastMsec, h.kept.geometry,
      h.kept.surfaceSize, (Restore.carries_iff.mp hcarries).1, (Restore.carries_iff.mp hcarries).2⟩
  have htiled : (r.restored cfg win).xdg.pending.tiled = r.host.tiled :=
    Restore.carries_tiled (by simp [Restore.carries, Restore.restored])
  obtain ⟨hcur, hpend⟩ := Window.wlSurfaceCommit_states cfg r.commitTime r.mapEnv r.commitOutcome
    r.commit h.inv (h.output_isSome ho)
  refine ⟨hinv', rfl, hp.1, hconf, ?_, ?_, ?_⟩
  · have hflags := Restore.carries_iff.mp hcarries
    show NetWmState.mk (_ || _) (_ || _) = r.host
    simp only [Restore.record, handle, hcur, hpend, Bool.or_self, hflags.1, hflags.2]
  · refine Window.wlSurfaceCommit_standing cfg r.commitTime r.mapEnv r.commitOutcome r.commit
      (Restore.restored_inv hinv) h.inv hres hagree (Or.inl rfl) hgive fun ht' => ?_
    rw [← hlast]
    exact hfilled (htiled.symm.trans ht')
  · intro hh out' hout''
    exact Window.wlSurfaceCommit_filled cfg r.commitTime r.mapEnv r.commitOutcome r.commit h.inv hout'
      ((Restore.carries_tiled hcarries).trans hh) (hfilled hh) hout''

namespace Committed

variable {cfg : Config} {r : Restore} {win win' : Window} {s : Restoring}

/-- The `PropertyNotify` brings nothing new any more. -/
theorem propertyNotify [CInt] (h : Committed cfg r win s) {replies : List (Option (List NetWmAtom))}
    {now : Int} (hp : r.permits s (.propertyNotify replies now) = true)
    (hstep : step cfg s.win (.netWmState replies now) = some win') :
    Committed cfg r win (r.record s win' (.propertyNotify replies now)) := by
  have hinv := h.inv.step hstep
  obtain ⟨-, hen, rfl⟩ := step_eq_some.mp hstep
  have ho : s.win.output.isSome = true := hen
  simp only [Restore.permits, Bool.and_eq_true, decide_eq_true_eq] at hp
  have hread := winHandle_of_read cfg now (h.inv.sent (h.inv.ready_of_output ho)) ho hp.2
  rw [mirrorState_of_mirrored h.mirrored] at hread
  have hx := (Window.winHandleNetWmStateNotify_step cfg now replies s.win).xdg
  have hout := Window.winHandleNetWmStateNotify_output cfg now replies s.win
  have hstand : (s.win.winHandleNetWmStateNotify cfg now replies).standing = s.win.standing := by
    rw [hread]
    split
    · next hh =>
      obtain ⟨out, hout⟩ := Option.isSome_iff_exists.mp ho
      have ht : s.win.tiled = true := by
        have hm := h.mirrored
        have htiled : (s.win.mirrored).tiled = true := by rw [hm]; exact hh
        simp only [Window.mirrored, Window.NetWmState.tiled, Window.curMaximized,
          Window.curFullscreen, Bool.or_eq_true] at htiled
        simp only [Window.tiled, ToplevelState.tiled, Bool.or_eq_true]
        tauto
      apply Window.fillHost_standing_of_filled
      rw [h.filled hh out hout, Window.sizeForOutput_of_tiled cfg hout ht]
    · rfl
  refine ⟨hinv, h.committed, h.acked, h.configure, ?_, hstand.trans h.standing, ?_⟩
  · rw [← h.mirrored]
    show NetWmState.mk (_ || _) (_ || _) = NetWmState.mk (_ || _) (_ || _)
    simp only [Restore.record, handle, hx.current, hx.pending]
  · intro hh out hout'
    exact (congrArg Standing.lastClientConf hstand).trans (h.filled hh out (hout.symm.trans hout'))

theorem sendConfigure [CInt] (h : Committed cfg r win s)
    (hstep : step cfg s.win .sendConfigure = some win') :
    Committed cfg r win (r.record s win' .sendConfigure) := by
  have hinv := h.inv.step hstep
  obtain ⟨-, -, rfl⟩ := step_eq_some.mp hstep
  exact ⟨hinv, h.committed, h.acked, h.configure, h.mirrored, h.standing, h.filled⟩

end Committed

/-! ## Whole restores -/

/-- The client's own requests schedule the restored state and touch nothing else. -/
theorem underway_start [CInt] {cfg : Config} {r : Restore} {win start : Window} {o : RestoreOrigin}
    (hinv : Inv win) (hmode : ModeRecorded win)
    (hrun : Run.run (step cfg) win (r.requests o) = some start) :
    Underway cfg r win (.start start) := by
  have hrequests : ∀ a ∈ r.requests o, a = .requestMaximize false ∨ a = .requestFullscreen false := by
    intro a ha
    cases o with
    | host => cases ha
    | client =>
      rw [Restore.requests, List.mem_append] at ha
      rcases ha with ha | ha
      · split at ha
        · exact Or.inl (List.mem_singleton.mp ha)
        · cases ha
      · split at ha
        · exact Or.inr (List.mem_singleton.mp ha)
        · cases ha
  -- requests of the client go to the schedule
  have hkept : Inv start ∧ ModeRecorded start ∧ DecisionKept win start ∧
      start.output = win.output ∧ start.lastClientConf = win.lastClientConf := by
    refine Run.run_invariant_of_along
      (I := fun w => Inv w ∧ ModeRecorded w ∧ DecisionKept win w ∧ w.output = win.output ∧
        w.lastClientConf = win.lastClientConf) ?_ ⟨hinv, hmode, .refl win, rfl, rfl⟩
      (Run.along_of_mem hrequests) hrun
    rintro w a w' ⟨hi, hm, hk, ho, hl⟩ ha hstep
    refine ⟨hi.step hstep, hm.step hi hstep, ?_⟩
    obtain ⟨-, -, rfl⟩ := step_eq_some.mp hstep
    rcases ha with rfl | rfl
    · have hx := w.xdg.setMaximized_keeps false
      simp only [handle, Window.toplevelRequestMaximize]
      split
      · exact ⟨hk.trans ⟨rfl, rfl, rfl, hx.geometry, hx.surfaceSize⟩, ho, hl⟩
      · exact ⟨hk, ho, hl⟩
    · have hx := w.xdg.setFullscreen_keeps false
      simp only [handle, Window.toplevelRequestFullscreen]
      split
      · exact ⟨hk.trans ⟨rfl, rfl, rfl, hx.geometry, hx.surfaceSize⟩, ho, hl⟩
      · exact ⟨hk, ho, hl⟩
  obtain ⟨hi, hm, hk, ho, hl⟩ := hkept
  exact {
    inv := hi
    mode := hm
    uncommitted := rfl
    kept := hk
    output := ho
    filled := by intro h; cases h
    conf := fun _ => hl
    heard := by intro h; cases h
    source := by intro h; cases h
    released := by intro h; cases h
    carried := by intro h; cases h }

/-- A window in a restore: before the client's commit, or after it. -/
def InRestore [CInt] (cfg : Config) (r : Restore) (win : Window) (s : Restoring) : Prop :=
  Underway cfg r win s ∨ Committed cfg r win s

/-- **Each event handled in time** keeps what is known of the window. -/
theorem InRestore.step [CInt] {cfg : Config} {r : Restore} {win : Window} {s t : Restoring}
    {e : RestoreEvent} (h : InRestore cfg r win s) (hinv : Inv win)
    (ho : win.output.isSome = true) (hr : r.Restores) (ht : InTime cfg r s e)
    (hstep : restoreStep cfg r s e = some t) : InRestore cfg r win t := by
  obtain ⟨hp, win', hw, rfl⟩ := restoreStep_eq_some.mp hstep
  rcases h with h | h
  -- before the client's commit, and after it
  · cases e with
    | propertyNotify replies now => exact Or.inl (h.propertyNotify hr ho hp ht hw)
    | configureNotify replies now outcome => exact Or.inl (h.configureNotify hr ho hp ht hw)
    | sendConfigure => exact Or.inl (h.sendConfigure hw)
    | ack n => exact Or.inl (h.ack hp hw)
    | commit => exact Or.inr (h.commit hinv ho hp ht hw)
  · cases e with
    | propertyNotify replies now => exact Or.inr (h.propertyNotify hp hw)
    | configureNotify replies now outcome => simp [Restore.permits, h.configure] at hp
    | sendConfigure => exact Or.inr (h.sendConfigure hw)
    | ack n => simp [Restore.permits, h.acked] at hp
    | commit => simp [Restore.permits, h.committed] at hp

/-- Handled in time, a restore leaves the window standing as its `outcome` says. -/
theorem standing_of_inTime [CInt] {cfg : Config} {r : Restore} {win start : Window} {o : RestoreOrigin}
    {es : List RestoreEvent} {s : Restoring} (hstarts : r.Starts cfg win)
    (hreq : Run.run (step cfg) win (r.requests o) = some start)
    (hrun : Run.run (restoreStep cfg r) (.start start) es = some s) (hdone : s.done = true)
    (ht : Run.Along (restoreStep cfg r) (InTime cfg r) (.start start) es) :
    s.win.standing = r.outcome cfg win := by
  obtain ⟨hinv, hmode⟩ := ModeRecorded.of_reachable hstarts.reachable
  have hend : InRestore cfg r win s :=
    Run.run_invariant_of_along
      (fun _ _ _ hs hp ha => hs.step hinv hstarts.output hstarts.restores hp ha)
      (Or.inl (underway_start hinv hmode hreq)) ht hrun
  simp only [Restoring.done, Bool.and_eq_true] at hdone
  rcases hend with h | h
  -- a complete restore has its commit
  · rw [h.uncommitted] at hdone
    exact absurd hdone.2 (by simp)
  · exact h.standing

/-- **Restores handled in time are confluent.** Whoever asked for the restore and in whatever order
its events are handled, all complete runs leave the same owner of the size, the same output mode and
the same last configured client size. -/
theorem restore_confluent [CInt] {cfg : Config} {r : Restore} {win start start' : Window}
    {o o' : RestoreOrigin} {es es' : List RestoreEvent} {s s' : Restoring}
    (hstarts : r.Starts cfg win)
    (hreq : Run.run (step cfg) win (r.requests o) = some start)
    (hrun : Run.run (restoreStep cfg r) (.start start) es = some s) (hdone : s.done = true)
    (ht : Run.Along (restoreStep cfg r) (InTime cfg r) (.start start) es)
    (hreq' : Run.run (step cfg) win (r.requests o') = some start')
    (hrun' : Run.run (restoreStep cfg r) (.start start') es' = some s') (hdone' : s'.done = true)
    (ht' : Run.Along (restoreStep cfg r) (InTime cfg r) (.start start') es') :
    s.win.standing = s'.win.standing :=
  (standing_of_inTime hstarts hreq hrun hdone ht).trans
    (standing_of_inTime hstarts hreq' hrun' hdone' ht').symm

/-- A toplevel mapped at 500×400 and maximized by the host to 1600×1200, with the client's frame at
that size. -/
def maximizedWindow : List Action :=
  mapFloating ++ [hostMaximizes, .sendConfigure, .ackConfigure 0,
    .commit ⟨.attach ⟨1600, 1200⟩, some ⟨0, 0, 1600, 1200⟩⟩ 5 ⟨true, 0, .ok⟩ .ok]

/-- The host restores it to 500×400. The client applies its acknowledgement with the maximized frame
still in place. -/
def unmaximize : Restore where
  before := ⟨true, false⟩
  host := ⟨false, false⟩
  notify := ⟨2, ⟨500, 400⟩⟩
  commit := ⟨.keep, none⟩
  commitTime := 9
  mapEnv := ⟨true, 0, .ok⟩
  commitOutcome := .ok

/-- The two host events first, the client's answer to both afterwards. -/
def hostFirst : List RestoreEvent :=
  [.propertyNotify [some []] 6, .configureNotify [some []] 7 .ok, .sendConfigure, .ack 0, .commit]

/-- The resize comes first and still reads the old state; the client answers both host events. -/
def resizeFirst : List RestoreEvent :=
  [.configureNotify [some [.maximizedVert, .maximizedHorz]] 6 .ok, .propertyNotify [some []] 7,
    .sendConfigure, .ack 0, .commit]

/-- The client answers the announcement before the resize arrives. -/
def clientBetween : List RestoreEvent :=
  [.propertyNotify [some []] 6, .sendConfigure, .ack 0, .commit, .configureNotify [some []] 10 .ok]

/-- A client that applies the restore before the resize arrives leaves the restored window to the
host, at the restored size; one that waits takes the window back to the maximized size. -/
theorem restore_not_confluent :
    ¬ ∀ (cfg : Config) (r : Restore) (win start start' : Window) (o o' : RestoreOrigin)
      (es es' : List RestoreEvent) (s s' : Restoring), r.Starts cfg win →
      Run.run (step cfg) win (r.requests o) = some start →
      Run.run (restoreStep cfg r) (.start start) es = some s → s.done = true →
      Run.run (step cfg) win (r.requests o') = some start' →
      Run.run (restoreStep cfg r) (.start start') es' = some s' → s'.done = true →
        s.win.standing = s'.win.standing := by
  intro h
  have hany : (Run.run (step ⟨1, false⟩) .fresh maximizedWindow).any (fun win =>
      win.output.isSome && decide (win.mirrored = unmaximize.before) &&
      (Run.run (restoreStep ⟨1, false⟩ unmaximize) (.start win) hostFirst).any fun s =>
        (Run.run (restoreStep ⟨1, false⟩ unmaximize) (.start win) clientBetween).any fun s' =>
          s.done && s'.done && decide (s.win.standing ≠ s'.win.standing)) = true := by
    decide +kernel
  obtain ⟨win, hwin, hchecks⟩ := (Option.any_eq_true ..).mp hany
  simp only [Bool.and_eq_true, decide_eq_true_eq, Option.any_eq_true] at hchecks
  obtain ⟨⟨hout, hm⟩, s, hs, s', hs', ⟨hdone, hdone'⟩, hne⟩ := hchecks
  exact hne (h _ unmaximize win win win .host .host _ _ s s' ⟨⟨_, hwin⟩, hout, hm, by decide⟩ rfl hs
    hdone rfl hs' hdone')

/-- The host's restore and the client's, with the host events in either order, end alike when the
client answers both events at once. -/
theorem unmaximize_confluent :
    ∃ win start s s', Run.Reachable (step ⟨1, false⟩) .fresh win ∧
      Run.run (step ⟨1, false⟩) win (unmaximize.requests .client) = some start ∧
      Run.run (restoreStep ⟨1, false⟩ unmaximize) (.start win) hostFirst = some s ∧
      Run.run (restoreStep ⟨1, false⟩ unmaximize) (.start start) resizeFirst = some s' ∧
      s.win.standing = s'.win.standing := by
  have hany : (Run.run (step ⟨1, false⟩) .fresh maximizedWindow).any (fun win =>
      win.output.isSome && decide (win.mirrored = unmaximize.before) &&
      decide (Run.Along (restoreStep ⟨1, false⟩ unmaximize) (InTime ⟨1, false⟩ unmaximize)
        (.start win) hostFirst) &&
      (Run.run (step ⟨1, false⟩) win (unmaximize.requests .client)).any fun start =>
        decide (Run.Along (restoreStep ⟨1, false⟩ unmaximize) (InTime ⟨1, false⟩ unmaximize)
          (.start start) resizeFirst) &&
        (Run.run (restoreStep ⟨1, false⟩ unmaximize) (.start win) hostFirst).any fun s =>
          (Run.run (restoreStep ⟨1, false⟩ unmaximize) (.start start) resizeFirst).any fun s' =>
            s.done && s'.done) = true := by
    decide +kernel
  obtain ⟨win, hwin, hchecks⟩ := (Option.any_eq_true ..).mp hany
  simp only [Bool.and_eq_true, decide_eq_true_eq, Option.any_eq_true] at hchecks
  obtain ⟨⟨⟨hout, hm⟩, ht⟩, start, hstart, ht', s, hs, s', hs', hdone, hdone'⟩ := hchecks
  have hwin' : Run.run (step ⟨1, false⟩) win (unmaximize.requests .host) = some win := rfl
  exact ⟨win, start, s, s', ⟨_, hwin⟩, hstart, hs, hs',
    restore_confluent ⟨⟨_, hwin⟩, hout, hm, by decide⟩ hwin' hs hdone ht hstart hs' hdone' ht'⟩

end Wlx
