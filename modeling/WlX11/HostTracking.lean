import WlX11.Session

/-!
# WlX11 — the last configure follows the host

While the host owns a window's size, the only thing that makes the client fill the host window is
the size of its last configure. `wlx_toplevel_fill_host` is the one sender, and it has reasons not to
send: its two tolerance tests, and the 500 ms limiter. None of them loses a size, because
`last_client_conf` *is* the scheduled size as long as the window has not been unmapped: the `0x0`
configure at map is the only one that does not record itself, and before the first map there is
nothing to forget.

* **`Tracked`** — that invariant, with the output's mode recorded in `last_output_size`.
* **`Window.FillsHost`** — the scheduled size is within 1 of `wlx_toplevel_size_for_output`.
* **`Tracked.fillHost`**, **`Tracked.commitOutput`**, **`Tracked.surfaceCommit`** — what each handler
  leaves.
* **`host_size_tracked`** — the result over whole sessions.
-/

namespace Wlx

open X11Output (CommitOutcome)
open Window (MapEnv NetWmAtom)

/-! ## What is claimed -/

namespace Window

/-- The scheduled configure asks for the host's size, up to 1 in each dimension. -/
def FillsHost [CInt] (cfg : Config) (win : Window) : Prop :=
  win.xdg.scheduled.size.differs 1 (wlxToplevelSizeForOutput cfg win) = false

/-- Host authority is in force over an output the client's preferred size does not match. -/
def HeldByHost [CInt] (cfg : Config) (win : Window) : Prop :=
  ∃ out, win.output = some out ∧ (win.sizeFromWm = true ∨ win.tiled = true) ∧
    sizeMismatch cfg win out = true

end Window

/-- `output_request_state` gave the output another size. -/
def HostResized (win win' : Window) : Action → Prop
  | .configureNotify .. => win'.outputSize ≠ win.outputSize
  | _ => False

/-- A commit that leaves the host's authority in force over a lagging client. -/
def CommitHeld [CInt] (cfg : Config) (win' : Window) : Action → Prop
  | .commit .. => win'.HeldByHost cfg
  | _ => False

/-- The window is not unmapped by this step: a session of such steps is in its first mapping. -/
def InFirstMapping (win : Window) : Action → Prop
  | .commit c .. => win.xdg.unmapCommit c = false
  | _ => True

instance : ∀ (win : Window) (a : Action), Decidable (InFirstMapping win a)
  | win, .commit c .. => inferInstanceAs (Decidable (win.xdg.unmapCommit c = false))
  | _, .ackConfigure _ | _, .sendConfigure | _, .requestMaximize _ | _, .requestFullscreen _
  | _, .newDecoration | _, .requestDecorationMode | _, .destroyDecoration | _, .focusIn
  | _, .focusOut | _, .netWmState .. | _, .configureNotify .. | _, .reparent ..
  | _, .otherRequests _ => isTrue trivial

/-! ## The invariant -/

/-- The program's records of sizes are exact: `last_client_conf` is the scheduled size, and
`last_output_size` the output's mode. A window without output has not been configured with a size
yet. -/
structure Tracked (win : Window) : Prop where
  conf : win.xdg.scheduled.size = win.lastClientConf
  mode : ∀ out, win.output = some out → win.lastOutputSize = out.size
  set : ∀ out, win.output = some out → out.size.isSet = true
  blank : win.output = none → win.lastClientConf = ⟨0, 0⟩

theorem Size.differs_comm (tol : Int) (s t : Size) : s.differs tol t = t.differs tol s := by
  simp only [Size.differs, abs_sub_comm]

theorem Size.differs_self {tol : Int} (h : 0 ≤ tol) (s : Size) : s.differs tol s = false := by
  simp [Size.differs, h]

namespace Config

theorem unscale_isSet [CInt] (cfg : Config) {s : Size} (h : s.isSet = true) :
    (cfg.unscale s).isSet = true := by
  have hpos (px : Int) (hpx : 0 < px) : 0 < wlxUnscaleSize cfg px := by
    unfold wlxUnscaleSize
    split <;> omega
  rw [Size.isSet_iff] at h ⊢
  exact ⟨hpos _ h.1, hpos _ h.2⟩

end Config

namespace Window

/-- The size that fills a set mode is set: the CSD margin never takes all of it. -/
theorem wlxToplevelSizeForOutput_isSet [CInt] (cfg : Config) {win : Window} {out : X11Output}
    (ho : win.output = some out) (hset : out.size.isSet = true) :
    (wlxToplevelSizeForOutput cfg win).isSet = true := by
  have hunscaled := cfg.unscale_isSet hset
  unfold wlxToplevelSizeForOutput
  rw [ho]
  dsimp only
  split
  · rw [Size.isSet_iff]
    show 0 < max 1 _ ∧ 0 < max 1 _
    omega
  · exact hunscaled

/-- Configuring the client does not change the size it is asked to fill. -/
theorem wlxToplevelSizeForOutput_congr [CInt] (cfg : Config) {win win' : Window}
    (h : win.SizeStep win') (ho : win'.output = win.output) :
    wlxToplevelSizeForOutput cfg win' = wlxToplevelSizeForOutput cfg win := by
  simp only [wlxToplevelSizeForOutput, ho, h.tiled, h.csdMargin]

@[simp] theorem wlxToplevelSetSize_scheduled (win : Window) (size : Size) :
    (win.wlxToplevelSetSize size).xdg.scheduled.size = size := by
  simp [wlxToplevelSetSize, XdgSurface.setSize]

/-- A configure with the size that fills the output fills the host. -/
theorem fillsHost_setSize [CInt] (cfg : Config) (win : Window) :
    (win.wlxToplevelSetSize (wlxToplevelSizeForOutput cfg win)).FillsHost cfg := by
  rw [FillsHost, wlxToplevelSetSize_scheduled,
    wlxToplevelSizeForOutput_congr cfg (wlxToplevelSetSize_step win _) rfl]
  exact Size.differs_self (by decide) _

theorem lastOk_iff {win : Window} {size : Size} :
    win.lastOk size = true ↔
      win.lastClientConf.isSet = true ∧ size.differs 1 win.lastClientConf = false := by
  simp [lastOk]

end Window

namespace Tracked

variable (cfg : Config) {win win' : Window}

theorem fresh : Tracked .fresh :=
  ⟨rfl, fun _ h => (nomatch h), fun _ h => (nomatch h), fun _ => rfl⟩

/-- A handler that leaves the size records alone keeps the invariant. -/
theorem congr (h : Tracked win) (hs : win'.xdg.scheduled.size = win.xdg.scheduled.size)
    (hc : win'.lastClientConf = win.lastClientConf) (hm : win'.lastOutputSize = win.lastOutputSize)
    (ho : win'.outputSize = win.outputSize) : Tracked win' := by
  have hout (out : X11Output) (h' : win'.output = some out) :
      ∃ out', win.output = some out' ∧ out'.size = out.size := by
    have : win.outputSize = some out.size := by rw [← ho, Window.outputSize, h']; rfl
    exact Option.map_eq_some_iff.mp this
  refine ⟨?_, fun out h' => ?_, fun out h' => ?_, fun h' => ?_⟩
  · rw [hs, hc]; exact h.conf
  · obtain ⟨out', hw, hsize⟩ := hout out h'
    rw [hm, h.mode out' hw, hsize]
  · obtain ⟨out', hw, hsize⟩ := hout out h'
    rw [← hsize]; exact h.set out' hw
  · have hnone : win.outputSize = none := by rw [← ho, Window.outputSize, h']; rfl
    rw [hc]; exact h.blank (Option.map_eq_none_iff.mp hnone)

/-! ## Senders of sizes -/

/-- Configuring a set size on a window with an output keeps the records exact. -/
theorem setSize (h : Tracked win) {out : X11Output} (ho : win.output = some out) {size : Size}
    (hset : size.isSet = true) : Tracked (win.wlxToplevelSetSize size) where
  conf := by
    rw [Window.wlxToplevelSetSize_scheduled]
    simp only [Window.wlxToplevelSetSize, hset, if_true]
  mode := h.mode
  set := h.set
  blank := fun hnone => by
    have : win.output = none := hnone
    rw [ho] at this; cases this

/-- **`wlx_toplevel_fill_host` leaves the client configured to fill the host**, whether it sends or
has a reason not to. -/
theorem fillHost [CInt] (h : Tracked win) {out : X11Output} (ho : win.output = some out) (now : Int) :
    Tracked (Window.wlxToplevelFillHost cfg now win) ∧
      (Window.wlxToplevelFillHost cfg now win).FillsHost cfg := by
  have hset := Window.wlxToplevelSizeForOutput_isSet cfg ho (h.set out ho)
  -- the last configure is already near enough, so not sending loses nothing
  have hkeep (hlast : win.lastOk (Window.wlxToplevelSizeForOutput cfg win) = true) :
      Tracked win ∧ win.FillsHost cfg := by
    refine ⟨h, ?_⟩
    rw [Window.FillsHost, h.conf, Size.differs_comm]
    exact (Window.lastOk_iff.mp hlast).2
  have hpos := Size.isSet_iff.mp hset
  unfold Window.wlxToplevelFillHost
  dsimp only
  split
  · omega
  split
  · next hlast => exact hkeep hlast.1
  split
  · next hlast =>
    split
    · exact hkeep hlast
    · have hnoted : Tracked { win with fillHostLastMsec := now } := h.congr rfl rfl rfl rfl
      exact ⟨hnoted.setSize ho hset, Window.fillsHost_setSize cfg _⟩
  · exact ⟨h.setSize ho hset, Window.fillsHost_setSize cfg win⟩

/-- **A mode commit keeps the records exact**, and one that changes the mode leaves the client
configured to fill it. -/
theorem commitOutput [CInt] (h : Tracked win) {out : X11Output} (ho : win.output = some out) (now : Int)
    {size : Size} (hset : size.isSet = true) (outcome : CommitOutcome) :
    Tracked (Window.commitOutput cfg now size outcome win) ∧
      ((Window.commitOutput cfg now size outcome win).outputSize ≠ win.outputSize →
        (Window.commitOutput cfg now size outcome win).FillsHost cfg) := by
  unfold Window.commitOutput
  rw [ho]
  dsimp only
  by_cases hok : outcome = .ok
  · subst hok
    have hsize := X11Output.commitState_ok_size out size
    rw [if_pos (X11Output.commitState_snd.mpr rfl)]
    have hpos := Size.isSet_iff.mp hset
    unfold Window.outputCommit
    dsimp only
    rw [if_neg (by rw [hsize]; omega)]
    split
    · next hsame =>
      -- the listener sees no new mode, and there is none
      rw [hsize, h.mode out ho] at hsame
      have hout : ({ win with output := some (out.commitState size .ok).1 } : Window).outputSize =
          win.outputSize := by
        rw [Window.outputSize, Window.outputSize, ho]
        exact congrArg some (hsize.trans hsame)
      exact ⟨h.congr rfl rfl rfl hout, fun hne => absurd hout hne⟩
    · have htracked : Tracked { win with
          output := some (out.commitState size .ok).1
          holdPresent := decide (minOutputSize < win.lastOutputSize.width ∧
            minOutputSize < win.lastOutputSize.height)
          lastOutputSize := (out.commitState size .ok).1.size } := by
        refine ⟨h.conf, fun out' h' => ?_, fun out' h' => ?_, fun h' => nomatch h'⟩
        · cases h'; rfl
        · cases h'; rw [hsize]; exact hset
      obtain ⟨hkept, hfills⟩ := htracked.fillHost cfg rfl now
      exact ⟨hkept, fun _ => hfills⟩
  · have hsize := X11Output.commitState_size_of_ne_ok out size hok
    rw [if_neg (fun hc => hok (X11Output.commitState_snd.mp hc))]
    have hout : ({ win with output := some (out.commitState size outcome).1 } : Window).outputSize =
        win.outputSize := by
      rw [Window.outputSize, Window.outputSize, ho]
      exact congrArg some hsize
    exact ⟨h.congr rfl rfl rfl hout, fun hne => absurd hout hne⟩

/-- `resize_output_to` records the mode itself, after the listener has. -/
theorem resizeOutputTo [CInt] (h : Tracked win) {out : X11Output} (ho : win.output = some out) (now : Int)
    (size : Size) (outcome : CommitOutcome) :
    Tracked (Window.resizeOutputTo cfg now size outcome win) := by
  unfold Window.resizeOutputTo
  rw [ho]
  dsimp only
  split
  · exact h
  · next hmin =>
    split
    · exact h
    -- a size that is not too small is set
    · have hset : size.isSet = true := by
        simp only [minOutputSize] at hmin
        rw [Size.isSet_iff]
        omega
      have hkept := (h.commitOutput cfg ho now hset outcome).1
      have hout := Window.commitOutput_output cfg now size outcome win
      rw [ho] at hout
      refine ⟨hkept.conf, fun out' h' => ?_, hkept.set, hkept.blank⟩
      have h'' : (Window.commitOutput cfg now size outcome win).output = some out' := h'
      dsimp only
      rw [h'']

/-! ## `surface_commit` -/

theorem fitHost [CInt] (h : Tracked win) {out : X11Output} (ho : win.output = some out) (now : Int)
    (outcome : CommitOutcome) (host : Size) {conf : Size} (hset : conf.isSet = true) :
    Tracked (Window.fitHost cfg now outcome host conf win) := by
  have hnoted : Tracked { win with fitPrev := win.fitLast, fitLast := host, fitLastMsec := now } :=
    h.congr rfl rfl rfl rfl
  have hresized := hnoted.resizeOutputTo cfg ho now host outcome
  have ho' : ({ win with fitPrev := win.fitLast, fitLast := host, fitLastMsec := now } : Window).output =
    some out := ho
  obtain ⟨out', hout', -⟩ := Window.resizeOutputTo_output cfg now host outcome ho'
  unfold Window.fitHost
  dsimp only
  split
  · exact hresized.setSize hout' hset
  · exact hresized

end Tracked

namespace Window

/-- The defaults make the preferred size a set one. -/
theorem toplevelPreferredSize_isSet (cfg : Config) (x : XdgSurface) :
    (toplevelPreferredSize cfg x).isSet = true := by
  rw [Size.isSet_iff]
  unfold toplevelPreferredSize minOutputSize defaultWidth defaultHeight
  dsimp only
  constructor <;> split <;> omega

/-- So is that of a new output, whether or not it takes the preferred one. -/
theorem createdSize_isSet [CInt] (cfg : Config) (env : MapEnv) (x : XdgSurface) :
    ((X11Output.create env.seq).commitState (cfg.scale (toplevelPreferredSize cfg x))
      env.outcome).1.size.isSet = true := by
  by_cases hok : env.outcome = .ok
  · rw [hok, X11Output.commitState_ok_size]
    exact cfg.scale_isSet (toplevelPreferredSize_isSet cfg _)
  · rw [X11Output.commitState_size_of_ne_ok _ _ hok]
    show (⟨1, 1⟩ : Size).isSet = true
    decide

/-- So is the size the fit path configures. -/
theorem geometryOrPreferred_isSet (cfg : Config) (x : XdgSurface) :
    (geometryOrPreferred cfg x).isSet = true := by
  have hpref := Size.isSet_iff.mp (toplevelPreferredSize_isSet cfg x)
  rw [Size.isSet_iff, geometryOrPreferred]
  dsimp only
  constructor <;> split <;> omega

/-- Before its size decision, `surface_commit` touches no size record. -/
theorem prepareCommit_lastOutputSize [CInt] (cfg : Config) (win : Window) :
    (prepareCommit cfg win).lastOutputSize = win.lastOutputSize := by
  have hinitial (w : Window) : w.sendInitialConfigure.lastOutputSize = w.lastOutputSize := by
    unfold sendInitialConfigure; split <;> rfl
  have hdeco (w : Window) : w.applyPendingDecoration.lastOutputSize = w.lastOutputSize := by
    unfold applyPendingDecoration; split <;> rfl
  have hmargin (w : Window) : w.trackCsdMargin.lastOutputSize = w.lastOutputSize :=
    (congrArg Window.lastOutputSize (trackCsdMargin_frame w) :)
  have hhold : (dropHold cfg win).lastOutputSize = win.lastOutputSize :=
    (congrArg Window.lastOutputSize (dropHold_frame cfg win) :)
  rw [prepareCommit, hmargin, hdeco, hinitial, hhold]

/-- The size decision reads nothing a size step changes but the output. -/
theorem heldByHost_iff [CInt] {cfg : Config} {win : Window} {out : X11Output}
    (ho : win.output = some out) :
    win.HeldByHost cfg ↔
      (win.sizeFromWm = true ∨ win.tiled = true) ∧ sizeMismatch cfg win out = true := by
  constructor
  · rintro ⟨out', ho', h⟩
    rw [ho] at ho'
    cases ho'
    exact h
  · exact fun h => ⟨out, ho, h⟩

end Window

namespace Tracked

variable (cfg : Config) {win win' : Window}

/-- **The size decision keeps the records exact.** If it leaves the host's authority in force over a
mismatch, it took the `hold` branch, and the client is configured to fill the host. -/
theorem fitWindow [CInt] (h : Tracked win) (now : Int) (outcome : CommitOutcome) :
    Tracked (Window.fitWindow cfg now outcome win) ∧
      ((Window.fitWindow cfg now outcome win).HeldByHost cfg →
        (Window.fitWindow cfg now outcome win).FillsHost cfg) := by
  cases ho : win.output with
  | none =>
    rcases Window.fitWindow_cases cfg now outcome win with ⟨-, heq⟩ | ⟨out, hout, -⟩
    · rw [heq]
      exact ⟨h, fun ⟨out, hout, _⟩ => by rw [ho] at hout; cases hout⟩
    · rw [ho] at hout; cases hout
  | some out =>
    have hreleased : Tracked (Window.releaseHostSize cfg win out) := h.congr rfl rfl rfl rfl
    have horel : (Window.releaseHostSize cfg win out).output = some out := ho
    have hrun : Window.fitWindow cfg now outcome win =
        Window.runDecision cfg now outcome (Window.releaseHostSize cfg win out)
          (Window.fitDecision cfg now (Window.releaseHostSize cfg win out) out) := by
      simp only [Window.fitWindow, ho]
    rw [hrun]
    generalize Window.releaseHostSize cfg win out = w at hreleased horel
    -- the fit needs a floating client that owns its size; what is left of the rest decides
    have hfloating (hfit : Window.wantFit cfg w out = true) :
        w.sizeFromWm = false ∧ w.tiled = false := by
      simp only [Window.wantFit, Bool.and_eq_true, Bool.not_eq_true'] at hfit
      exact ⟨hfit.1.1.2, hfit.1.1.1.2⟩
    have hnothold (w' : Window) (hs : w.SizeStep w') (hfit : Window.wantFit cfg w out = true) :
        ¬ w'.HeldByHost cfg := by
      rintro ⟨out', -, hauth, -⟩
      rw [hs.sizeFromWm, hs.tiled, (hfloating hfit).1, (hfloating hfit).2] at hauth
      simp at hauth
    unfold Window.fitDecision
    dsimp only
    split
    · next hfit =>
      split
      · exact ⟨hreleased, fun hheld => absurd hheld (hnothold w (.refl w) hfit)⟩
      · exact ⟨hreleased.fitHost cfg horel now outcome _ (Window.geometryOrPreferred_isSet cfg w.xdg),
          fun hheld => absurd hheld (hnothold _ (Window.runDecision_step ..) hfit)⟩
    split
    · obtain ⟨hkept, hfills⟩ := hreleased.fillHost cfg horel now
      exact ⟨hkept, fun _ => hfills⟩
    · next hidle =>
      refine ⟨hreleased, fun hheld => absurd ?_ hidle⟩
      obtain ⟨hauth, hmis⟩ := (Window.heldByHost_iff horel).mp hheld
      simp only [Bool.and_eq_true, Bool.or_eq_true]
      exact ⟨hmis, hauth⟩

/-- `surface_commit` as a whole. -/
theorem surfaceCommit [CInt] (h : Tracked win) (now : Int) (outcome : CommitOutcome) :
    Tracked (Window.surfaceCommit cfg now outcome win) ∧
      ((Window.surfaceCommit cfg now outcome win).HeldByHost cfg →
        (Window.surfaceCommit cfg now outcome win).FillsHost cfg) := by
  have hprep := Window.prepareCommit_prepared cfg win
  have htracked : Tracked (Window.prepareCommit cfg win) :=
    h.congr (congrArg ToplevelState.size hprep.scheduled) hprep.lastClientConf
      (Window.prepareCommit_lastOutputSize cfg win)
      (by rw [Window.outputSize, Window.outputSize, hprep.output])
  exact htracked.fitWindow cfg now outcome

/-- Mapping for the first time: the `0x0` configure is no surprise to the records, which are blank
still. -/
theorem mapOnBuffer [CInt] (h : Tracked win) (env : MapEnv) : Tracked (win.mapOnBuffer cfg env) := by
  have hactive (w : Window) (hw : Tracked w) : Tracked w.setActiveWindow := by
    unfold Window.setActiveWindow
    split
    · exact hw
    · exact hw.congr (by simp [XdgSurface.setActivated]) rfl rfl rfl
  unfold Window.mapOnBuffer Window.xdgToplevelMap
  split
  · dsimp only
    split
    · exact h.congr rfl rfl rfl rfl
    · next hnone =>
      have hblank := h.blank (Option.not_isSome_iff_eq_none.mp hnone)
      -- the output is new: the mode is recorded with it, and `0x0` is configured on blank records
      have hcreated : Tracked (Window.createOutputForWindow cfg env
          { win with xdg := { win.xdg with mapped := true } }) := by
        unfold Window.createOutputForWindow
        split
        · refine ⟨?_, fun out h' => ?_, fun out h' => ?_, fun h' => ?_⟩
          · rw [Window.wlxToplevelSetSize_scheduled]
            exact hblank.symm
          · cases h'; rfl
          · cases h'
            exact Window.createdSize_isSet cfg env _
          · cases h'
        · exact h.congr rfl rfl rfl rfl
      split
      · exact hactive _ hcreated
      · exact hcreated
  · exact h

/-! ## Host events -/

theorem winHandleNetWmStateNotify [CInt] (h : Tracked win) (now : Int)
    (replies : List (Option (List NetWmAtom))) :
    Tracked (Window.winHandleNetWmStateNotify cfg now replies win) := by
  have hsize (on : Bool) (w : Window) (hw : Tracked w) : Tracked (Window.mirrorSize on w) := by
    cases on <;> exact hw.congr rfl rfl rfl rfl
  -- neither mirror touches a size
  have hmirror (host : Window.NetWmState) :
      Tracked ((Window.mirrorMaximized host.maximized win).mirrorFullscreen host.fullscreen) := by
    have hmax : Tracked (Window.mirrorMaximized host.maximized win) := by
      unfold Window.mirrorMaximized
      split
      · exact h
      · exact (hsize host.maximized win h).congr
          (by cases host.maximized <;> simp [XdgSurface.setMaximized, Window.mirrorSize]) rfl rfl rfl
    unfold Window.mirrorFullscreen
    split
    · exact hmax
    · exact (hsize host.fullscreen _ hmax).congr
        (by cases host.fullscreen <;> simp [XdgSurface.setFullscreen, Window.mirrorSize]) rfl rfl rfl
  unfold Window.winHandleNetWmStateNotify
  split
  · split
    · exact h
    · next host _ =>
      dsimp only
      split
      · next hfill =>
        -- a fill follows if the window has an output
        rw [Bool.and_eq_true, Option.isSome_iff_exists] at hfill
        obtain ⟨out, hout⟩ := hfill.2
        exact ((hmirror host).fillHost cfg hout now).1
      · exact hmirror host
  · exact h

/-- **A host resize keeps the records exact**, and if it gives the output another size the client is
configured to fill it. -/
theorem configureNotify [CInt] (h : Tracked win) (now : Int) (replies : List (Option (List NetWmAtom)))
    (outcome : CommitOutcome) (ev : ConfigureNotify) :
    Tracked (Window.configureNotify cfg now replies outcome ev win) ∧
      ((Window.configureNotify cfg now replies outcome ev win).outputSize ≠ win.outputSize →
        (Window.configureNotify cfg now replies outcome ev win).FillsHost cfg) := by
  have hfilter (b : Bool) : ({ win with
      output := win.output.map fun out => (out.handleX11ConfigureNotify ev).1
      sizeFromWm := b } : Window).outputSize = win.outputSize := by
    simp only [Window.outputSize, Option.map_map]
    exact Option.map_congr fun out _ => X11Output.handleX11ConfigureNotify_size out ev
  cases hreq : Window.hostResize win ev with
  | none =>
    rw [Window.configureNotify_of_none cfg now replies outcome hreq]
    exact ⟨h.congr rfl rfl rfl (hfilter win.sizeFromWm),
      fun hne => absurd (hfilter win.sizeFromWm) hne⟩
  | some req =>
    rw [Window.configureNotify_of_some cfg now replies outcome hreq]
    cases ho : win.output with
    | none => simp [Window.hostResize, ho] at hreq
    | some out =>
      simp only [Window.hostResize, ho, Option.bind_some, Option.filter_eq_some_iff,
        Bool.and_eq_true, decide_eq_true_eq] at hreq
      have htaken : Tracked { win with
          output := win.output.map fun out => (out.handleX11ConfigureNotify ev).1
          sizeFromWm := true } := h.congr rfl rfl rfl (hfilter true)
      rw [ho] at htaken
      -- the host's state is mirrored first; it leaves the output alone
      have hmirrored := htaken.winHandleNetWmStateNotify cfg now replies
      have hout := Window.winHandleNetWmStateNotify_output cfg now replies
        { win with output := (some out).map fun out => (out.handleX11ConfigureNotify ev).1
                   sizeFromWm := true }
      obtain ⟨hkept, hfills⟩ := hmirrored.commitOutput cfg hout now
        (Size.isSet_iff.mpr hreq.2.1) outcome
      refine ⟨hkept, fun hne => hfills fun heq => hne (heq.trans ?_)⟩
      rw [Window.outputSize, hout]
      simp [Window.outputSize, ho]

/-- The size sync after a reparent configures the drawable's size. -/
theorem reparentSync [CInt] (h : Tracked win) (now : Int) (outcome : CommitOutcome) (drawable : Size) :
    Tracked (Window.reparentSync cfg now outcome drawable win) := by
  unfold Window.reparentSync
  split
  · exact h
  · next out ho =>
    split
    · next hset =>
      obtain ⟨out', ho', -⟩ := Window.resizeOutputTo_output cfg now drawable outcome ho
      exact (h.resizeOutputTo cfg ho now drawable outcome).setSize ho'
        (cfg.unscale_isSet hset.1)
    · exact h

/-! ## Sessions -/

/-- **One step of a first mapping** keeps the records exact; a step the host or a held client takes
leaves the client configured to fill the host. -/
theorem step [CInt] (h : Tracked win) {a : Action} (hfirst : InFirstMapping win a)
    (hstep : Wlx.step cfg win a = some win') :
    Tracked win' ∧ (HostResized win win' a ∨ CommitHeld cfg win' a → win'.FillsHost cfg) := by
  obtain ⟨-, hen, rfl⟩ := step_eq_some.mp hstep
  -- an event that schedules no size
  have hquiet (w : Window) (hw : Tracked w)
      (hnot : ¬ (HostResized win w a ∨ CommitHeld cfg w a)) :
      Tracked w ∧ (HostResized win w a ∨ CommitHeld cfg w a → w.FillsHost cfg) :=
    ⟨hw, fun hclaim => absurd hclaim hnot⟩
  cases a with
  | commit c now env outcome =>
    have hrole : Tracked (win.roleCommitted c) := h.congr rfl rfl rfl rfl
    have hcommit := (hrole.mapOnBuffer cfg env).surfaceCommit cfg now outcome
    simp only [handle, Window.wlSurfaceCommit, Window.applyCommit_of_not_unmap cfg env hfirst]
    exact ⟨hcommit.1, fun hclaim => hcommit.2 (hclaim.resolve_left id)⟩
  | configureNotify ev replies now outcome =>
    obtain ⟨hkept, hfills⟩ := h.configureNotify cfg now replies outcome ev
    exact ⟨hkept, fun hclaim => hfills (hclaim.resolve_right id)⟩
  | ackConfigure n =>
    refine hquiet _ (h.congr ?_ rfl rfl rfl) (by rintro (h | h) <;> exact h)
    show (win.xdg.ackConfigure n).scheduled.size = win.xdg.scheduled.size
    unfold XdgSurface.ackConfigure
    split <;> rfl
  | sendConfigure => exact hquiet _ (h.congr rfl rfl rfl rfl) (by rintro (h | h) <;> exact h)
  | requestMaximize want =>
    refine hquiet _ ?_ (by rintro (h | h) <;> exact h)
    simp only [handle, Window.toplevelRequestMaximize]
    split
    · exact h.congr (by simp [XdgSurface.setMaximized]) rfl rfl rfl
    · exact h
  | requestFullscreen want =>
    refine hquiet _ ?_ (by rintro (h | h) <;> exact h)
    simp only [handle, Window.toplevelRequestFullscreen]
    split
    · exact h.congr (by simp [XdgSurface.setFullscreen]) rfl rfl rfl
    · exact h
  | newDecoration =>
    refine hquiet _ ?_ (by rintro (h | h) <;> exact h)
    simp only [handle, Window.serverNewToplevelDecoration, Window.wlxDecorationApplyMode]
    split <;> exact h.congr (by simp [XdgSurface.decorationSetMode]) rfl rfl rfl
  | requestDecorationMode =>
    refine hquiet _ ?_ (by rintro (h | h) <;> exact h)
    simp only [handle, Window.wlxDecorationApplyMode]
    split <;> exact h.congr (by simp [XdgSurface.decorationSetMode]) rfl rfl rfl
  | destroyDecoration => exact hquiet _ (h.congr rfl rfl rfl rfl) (by rintro (h | h) <;> exact h)
  | focusIn =>
    refine hquiet _ ?_ (by rintro (h | h) <;> exact h)
    simp only [handle, Window.setActiveWindow]
    split
    · exact h
    · exact h.congr (by simp [XdgSurface.setActivated]) rfl rfl rfl
  | focusOut =>
    refine hquiet _ ?_ (by rintro (h | h) <;> exact h)
    simp only [handle, Window.setInactive]
    split
    · exact h.congr (by simp [XdgSurface.setActivated]) rfl rfl rfl
    · exact h
  | netWmState replies now =>
    exact hquiet _ (h.winHandleNetWmStateNotify cfg now replies) (by rintro (h | h) <;> exact h)
  | reparent drawable now outcome =>
    exact hquiet _ (h.reparentSync cfg now outcome drawable) (by rintro (h | h) <;> exact h)
  | otherRequests n =>
    refine hquiet _ (h.congr rfl rfl rfl ?_) (by rintro (h | h) <;> exact h)
    simp only [handle, Window.outputSize, Option.map_map]
    rfl

end Tracked

/-- Every state of a first mapping has exact records. -/
theorem tracked_run [CInt] {cfg : Config} {as : List Action} {win : Window}
    (hfirst : Run.Along (step cfg) InFirstMapping .fresh as)
    (hrun : Run.run (step cfg) .fresh as = some win) : Tracked win :=
  Run.run_invariant_of_along (fun _ _ _ hs hP ha => (hs.step cfg hP ha).1) Tracked.fresh hfirst hrun

/-- A commit that unmaps takes the output, and with it the host's authority. -/
theorem not_commitHeld_of_unmap [CInt] {cfg : Config} {win win' : Window} {a : Action} (hinv : Inv win)
    (hunmap : ¬ InFirstMapping win a) (hstep : step cfg win a = some win') :
    ¬ CommitHeld cfg win' a := by
  obtain ⟨-, -, rfl⟩ := step_eq_some.mp hstep
  cases a with
  | commit c now env outcome =>
    have hnull : win.xdg.unmapCommit c = true := by simpa [InFirstMapping] using hunmap
    rintro ⟨out, hout, -⟩
    have hnone := Window.surfaceCommit_output cfg now outcome (Window.applyCommit cfg env c win)
    rw [Window.applyCommit_of_unmap cfg env hinv hnull] at hnone
    simp only [handle, Window.wlSurfaceCommit, Window.applyCommit_of_unmap cfg env hinv hnull] at hout
    rw [hout] at hnone
    cases hnone
  | _ => exact absurd trivial hunmap

/-- **Host size tracking.** In the first mapping of any toplevel, whatever the client and the host
do: after every host resize that changes the output's size, and after every commit that leaves the
host's authority in force over a mismatch, the scheduled configure asks for the host's size within 1
in each dimension. -/
theorem host_size_tracked [CInt] (cfg : Config) (as : List Action) (win win' : Window) (a : Action)
    (hfirst : Run.Along (step cfg) InFirstMapping .fresh as)
    (hrun : Run.run (step cfg) .fresh as = some win) (hstep : step cfg win a = some win')
    (hclaim : HostResized win win' a ∨ CommitHeld cfg win' a) : win'.FillsHost cfg := by
  by_cases hmap : InFirstMapping win a
  · exact ((tracked_run hfirst hrun).step cfg hmap hstep).2 hclaim
  · -- the commit that ends the first mapping holds nothing
    rcases hclaim with hresized | hheld
    · cases a <;> first | exact absurd trivial hmap | exact absurd hresized id
    · exact absurd hheld (not_commitHeld_of_unmap (Inv.fresh.run hrun) hmap hstep)

/-- A toplevel mapped at 500×400, which the host resizes to 600×500. -/
def hostGrows : List Action :=
  [.commit ⟨.keep, none⟩ 1 ⟨true, 0, .ok⟩ .ok, .sendConfigure, .ackConfigure 0,
    .commit ⟨.attach ⟨500, 400⟩, some ⟨0, 0, 500, 400⟩⟩ 2 ⟨true, 0, .ok⟩ .ok,
    .configureNotify ⟨1, ⟨600, 500⟩⟩ [some []] 4 .ok]

/-- A frame larger than the host allows: a grow is no reason to release the host's size. -/
def overlargeFrame : Action :=
  .commit ⟨.attach ⟨700, 600⟩, some ⟨0, 0, 700, 600⟩⟩ 5 ⟨true, 0, .ok⟩ .ok

/-- An overlarge frame is held, and the client is still configured to fill the host. -/
theorem host_size_tracked_overlarge :
    ∃ win win', Run.run (step ⟨1, false⟩) .fresh hostGrows = some win ∧
      step ⟨1, false⟩ win overlargeFrame = some win' ∧ win'.HeldByHost ⟨1, false⟩ ∧
      win'.FillsHost ⟨1, false⟩ := by
  have hfirst : Run.Along (step ⟨1, false⟩) InFirstMapping .fresh hostGrows := by decide +kernel
  have hany : (Run.run (step ⟨1, false⟩) .fresh hostGrows).any (fun win =>
      (step ⟨1, false⟩ win overlargeFrame).any fun win' =>
        win'.sizeFromWm && win'.output.any (Window.sizeMismatch ⟨1, false⟩ win')) = true := by
    decide +kernel
  obtain ⟨win, hrun, hnext⟩ := (Option.any_eq_true ..).mp hany
  obtain ⟨win', hstep, hchecks⟩ := (Option.any_eq_true ..).mp hnext
  rw [Bool.and_eq_true, Option.any_eq_true] at hchecks
  obtain ⟨hown, out, hout, hmis⟩ := hchecks
  have hheld : win'.HeldByHost ⟨1, false⟩ := ⟨out, hout, Or.inl hown, hmis⟩
  exact ⟨win, win', hrun, hstep, hheld,
    host_size_tracked ⟨1, false⟩ hostGrows win win' overlargeFrame hfirst hrun hstep (Or.inr hheld)⟩

end Wlx
