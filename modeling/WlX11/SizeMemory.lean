import WlX11.CommitStanding
import WlX11.FitPolicy

/-!
# WlX11 — what a window remembers of its sizes

The last configured size, the last fits and their time, the time of the last re-assertion, the shadow's
margin and wlroots' record of the client's geometry live in the window's objects for as long as these do.
This module says how they hang together.

* **`Sized`** — the fits and the re-assertion are on record only once a size has been configured.
* **`Remembers`** — and so is the margin only once there is a geometry; **`Remembers.run`**: in every
  state of every session.
-/

namespace Wlx

open X11Output (CommitOutcome)
open Window (MapEnv NetWmAtom NetWmState)

namespace Window

/-- No size has been configured, fitted or asserted again; or some size has been configured. -/
def Sized (win : Window) : Prop :=
  win.lastClientConf.isSet = true ∨
    win.lastClientConf = ⟨0, 0⟩ ∧ win.fitHistory = ⟨⟨0, 0⟩, ⟨0, 0⟩, 0⟩ ∧ win.fillHostLastMsec = 0 ∧
      win.xdg.scheduled.size = ⟨0, 0⟩

/-- How the things that stay hang together. -/
structure Remembers (win : Window) : Prop where
  buffered : win.xdg.hasBuffer = true → win.xdg.mapped = true
  blank : win.xdg.hasBuffer = false → win.xdg.surfaceSize = ⟨0, 0⟩
  configured : win.xdg.mapped = true → win.xdg.configured = true
  geometry : win.xdg.geometry = Box.zero ∨ win.xdg.geometry.size.isSet = true
  margin : win.xdg.geometry = Box.zero → win.csdMargin = ⟨0, 0⟩
  sized : win.Sized

/-! ## Which sizes are kept -/

namespace Sized

variable {cfg : Config} {now : Int} {outcome : CommitOutcome} {win win' : Window}

/-- What is remembered of sizes is kept. -/
theorem of_eq (h : win.Sized) (hconf : win'.lastClientConf = win.lastClientConf)
    (hhistory : win'.fitHistory = win.fitHistory) (hfill : win'.fillHostLastMsec = win.fillHostLastMsec)
    (hsize : win'.xdg.scheduled.size = win.xdg.scheduled.size) : win'.Sized := by
  unfold Sized
  rw [hconf, hhistory, hfill, hsize]
  exact h

/-- A configure with a size settles it. -/
theorem of_setSize {size : Size} (hset : size.isSet = true) : (win.wlxToplevelSetSize size).Sized := by
  refine .inl ?_
  show (if size.isSet then size else win.lastClientConf).isSet = true
  rw [if_pos hset]
  exact hset

/-- One without a size ("0×0 = client picks") changes nothing. -/
theorem setSize_zero (h : win.Sized) : (win.wlxToplevelSetSize ⟨0, 0⟩).Sized := by
  rcases h with hset | ⟨hconf, hhistory, hfill, -⟩
  · exact .inl hset
  · refine .inr ⟨hconf, hhistory, hfill, ?_⟩
    show (XdgSurface.scheduleConfigure _).scheduled.size = _
    rw [XdgSurface.scheduleConfigure_scheduled]

/-- A fill configures the host's size, once that is not empty. -/
theorem wlxToplevelFillHost [CInt] (h : win.Sized) : (Window.wlxToplevelFillHost cfg now win).Sized := by
  unfold Window.wlxToplevelFillHost
  dsimp only
  split
  -- an empty size, or nothing to tell, or not yet
  · exact h
  · rename_i hpos
    have hset : (wlxToplevelSizeForOutput cfg win).isSet = true := by
      rw [Size.isSet_iff]
      omega
    split
    · exact h
    · split
      · split
        · exact h
        · exact of_setSize hset
      · exact of_setSize hset

/-- An output commit may fill. -/
theorem outputCommit [CInt] (h : win.Sized) : (Window.outputCommit cfg now win).Sized := by
  unfold Window.outputCommit
  split
  · exact h
  split
  · exact h
  split
  · exact h
  · refine wlxToplevelFillHost (h.of_eq ?_ ?_ ?_ ?_) <;> rfl

/-- So may a commit to the host that succeeds. -/
theorem commitOutput [CInt] (h : win.Sized) (size : Size) :
    (Window.commitOutput cfg now size outcome win).Sized := by
  unfold Window.commitOutput
  split
  · exact h
  · dsimp only
    split
    · refine outputCommit (h.of_eq ?_ ?_ ?_ ?_) <;> rfl
    · refine h.of_eq ?_ ?_ ?_ ?_ <;> rfl

/-- After a fit, some size has been configured. -/
theorem fitHost [CInt] {host conf : Size} (hset : conf.isSet = true) :
    (Window.fitHost cfg now outcome host conf win).Sized := by
  unfold Window.fitHost
  dsimp only
  split
  · exact of_setSize hset
  · rename_i hconf
    refine .inl ?_
    rw [not_not.mp hconf]
    exact hset

/-- What comes before the fit is about configures, decorations and the margin. -/
theorem prepareCommit [CInt] (h : win.Sized) : (Window.prepareCommit cfg win).Sized := by
  have hprep := prepareCommit_prepared cfg win
  refine h.of_eq hprep.lastClientConf (prepareCommit_fitHistory cfg win) ?_
    (congrArg ToplevelState.size hprep.scheduled)
  -- none of the four touches the limiter's stamp
  have hhold : (dropHold cfg win).fillHostLastMsec = win.fillHostLastMsec :=
    (congrArg fillHostLastMsec (dropHold_frame cfg win) :)
  have hsent (w : Window) : w.sendInitialConfigure.fillHostLastMsec = w.fillHostLastMsec := by
    unfold sendInitialConfigure
    split <;> rfl
  have hdeco (w : Window) : w.applyPendingDecoration.fillHostLastMsec = w.fillHostLastMsec := by
    unfold applyPendingDecoration
    split <;> rfl
  have hmargin (w : Window) : w.trackCsdMargin.fillHostLastMsec = w.fillHostLastMsec :=
    (congrArg fillHostLastMsec (trackCsdMargin_frame w) :)
  unfold Window.prepareCommit
  rw [hmargin, hdeco, hsent, hhold]

/-- A fit configures the geometry's size or the preferred one. -/
theorem surfaceCommit [CInt] (h : win.Sized) : (Window.surfaceCommit cfg now outcome win).Sized := by
  have hprep : (Window.prepareCommit cfg win).Sized := h.prepareCommit
  unfold Window.surfaceCommit fitWindow
  split
  · exact hprep
  · rename_i out _
    have hrelease : (releaseHostSize cfg (Window.prepareCommit cfg win) out).Sized := by
      refine hprep.of_eq ?_ ?_ ?_ ?_ <;> rfl
    dsimp only
    cases hdecision : fitDecision cfg now (releaseHostSize cfg (Window.prepareCommit cfg win) out) out with
    | fit host conf =>
      -- the size of a fit is the geometry's or the preferred one
      refine fitHost ?_
      unfold fitDecision at hdecision
      dsimp only at hdecision
      split at hdecision
      · split at hdecision
        · cases hdecision
        · obtain ⟨-, rfl⟩ := FitDecision.fit.inj hdecision
          exact geometryOrPreferred_isSet cfg _
      · split at hdecision <;> cases hdecision
    | oscillation => exact hrelease
    | hold => exact hrelease.wlxToplevelFillHost
    | idle => exact hrelease

theorem setActiveWindow (h : win.Sized) : win.setActiveWindow.Sized := by
  unfold Window.setActiveWindow
  split
  · exact h
  · refine h.of_eq rfl rfl rfl ?_
    simp only [XdgSurface.setActivated, XdgSurface.scheduleConfigure_scheduled]

theorem setInactive (h : win.Sized) : win.setInactive.Sized := by
  unfold Window.setInactive
  split
  · refine h.of_eq rfl rfl rfl ?_
    simp only [XdgSurface.setActivated, XdgSurface.scheduleConfigure_scheduled]
  · exact h

/-- The map starts from no size, the client's own choice. -/
theorem xdgToplevelMap [CInt] (h : win.Sized) (env : MapEnv) : (Window.xdgToplevelMap cfg env win).Sized := by
  unfold Window.xdgToplevelMap
  split
  · exact h
  · have hcreate : (createOutputForWindow cfg env win).Sized := by
      unfold createOutputForWindow
      split
      · refine setSize_zero (h.of_eq ?_ ?_ ?_ ?_) <;> rfl
      · refine h.of_eq ?_ ?_ ?_ ?_ <;> rfl
    dsimp only
    split
    · exact hcreate.setActiveWindow
    · exact hcreate

/-- A host state that is mirrored forgets the margin only. -/
theorem mirrorMaximized (h : win.Sized) (maximized : Bool) :
    (Window.mirrorMaximized maximized win).Sized := by
  unfold Window.mirrorMaximized
  split
  · exact h
  · refine h.of_eq ?_ ?_ ?_ ?_
    · cases maximized <;> rfl
    · cases maximized <;> rfl
    · cases maximized <;> rfl
    · simp only [XdgSurface.setMaximized, XdgSurface.scheduleConfigure_scheduled]

theorem mirrorFullscreen (h : win.Sized) (fullscreen : Bool) :
    (Window.mirrorFullscreen fullscreen win).Sized := by
  unfold Window.mirrorFullscreen
  split
  · exact h
  · refine h.of_eq ?_ ?_ ?_ ?_
    · cases fullscreen <;> rfl
    · cases fullscreen <;> rfl
    · cases fullscreen <;> rfl
    · simp only [XdgSurface.setFullscreen, XdgSurface.scheduleConfigure_scheduled]

/-- The host's states, and the fill that may follow. -/
theorem winHandleNetWmStateNotify [CInt] (h : win.Sized) (replies : List (Option (List NetWmAtom))) :
    (Window.winHandleNetWmStateNotify cfg now replies win).Sized := by
  unfold Window.winHandleNetWmStateNotify
  split
  · split
    · exact h
    · rename_i host _
      have hmirror := (h.mirrorMaximized host.maximized).mirrorFullscreen host.fullscreen
      dsimp only
      split
      · exact hmirror.wlxToplevelFillHost
      · exact hmirror
  · exact h

/-- A size of the host that is accepted is committed. -/
theorem configureNotify [CInt] (h : win.Sized) (replies : List (Option (List NetWmAtom))) (ev : ConfigureNotify) :
    (Window.configureNotify cfg now replies outcome ev win).Sized := by
  unfold Window.configureNotify
  split
  · exact h
  · dsimp only
    split
    · refine h.of_eq ?_ ?_ ?_ ?_ <;> rfl
    · unfold outputRequestState
      dsimp only
      split
      · refine h.of_eq ?_ ?_ ?_ ?_ <;> rfl
      · split
        · refine h.of_eq ?_ ?_ ?_ ?_ <;> rfl
        -- the host's state is read first, then the size is committed
        · refine commitOutput (winHandleNetWmStateNotify ?_ replies) _
          refine h.of_eq ?_ ?_ ?_ ?_ <;> rfl

/-- A window that is put into another takes that one's size. -/
theorem reparentSync [CInt] (h : win.Sized) (drawable : Size) :
    (Window.reparentSync cfg now outcome drawable win).Sized := by
  unfold Window.reparentSync
  split
  · exact h
  · split
    · rename_i hset
      exact of_setSize (cfg.unscale_isSet hset.1)
    · exact h

end Sized

/-! ## What stays hangs together -/

section Margin

variable {cfg : Config} {now : Int} {outcome : CommitOutcome} {win : Window}

/-- Without a geometry there is no margin to be tracked. -/
theorem surfaceCommit_csdMargin [CInt] (hgeo : win.xdg.geometry = Box.zero) :
    (surfaceCommit cfg now outcome win).csdMargin = win.csdMargin := by
  have hprep : (prepareCommit cfg win).csdMargin = win.csdMargin := by
    have hmargin (w : Window) (hw : w.xdg.geometry = Box.zero) :
        w.trackCsdMargin.csdMargin = w.csdMargin := by
      unfold trackCsdMargin
      dsimp only
      rw [hw, if_neg (by simp [Box.zero, Box.size])]
    have hsent (w : Window) : w.sendInitialConfigure.csdMargin = w.csdMargin ∧
        w.sendInitialConfigure.xdg.geometry = w.xdg.geometry := by
      unfold sendInitialConfigure
      split
      · exact ⟨rfl, rfl⟩
      · refine ⟨rfl, ?_⟩
        simp only [XdgSurface.setWmCapabilities, XdgSurface.scheduleConfigure_geometry]
    have hdeco (w : Window) : w.applyPendingDecoration.csdMargin = w.csdMargin ∧
        w.applyPendingDecoration.xdg.geometry = w.xdg.geometry := by
      unfold applyPendingDecoration
      split
      · refine ⟨rfl, ?_⟩
        simp only [XdgSurface.decorationSetMode, XdgSurface.scheduleConfigure_geometry]
      · exact ⟨rfl, rfl⟩
    have hhold := dropHold_frame cfg win
    have hholdgeo : (dropHold cfg win).xdg.geometry = win.xdg.geometry :=
      (congrArg (fun w => w.xdg.geometry) hhold :)
    unfold prepareCommit
    -- the margin is tracked last, of a geometry that is still the one committed
    rw [hmargin _ (by rw [(hdeco _).2, (hsent _).2, hholdgeo]; exact hgeo), (hdeco _).1, (hsent _).1]
    exact (congrArg csdMargin hhold :)
  rw [← hprep]
  rcases fitWindow_cases cfg now outcome (prepareCommit cfg win) with ⟨-, heq⟩ | ⟨out, -, hstep⟩
  · rw [surfaceCommit, heq]
  · exact hstep.csdMargin

/-- A host state that is mirrored drops the margin or leaves it. -/
theorem winHandleNetWmStateNotify_csdMargin [CInt] (replies : List (Option (List NetWmAtom)))
    (hmargin : win.csdMargin = ⟨0, 0⟩) :
    (winHandleNetWmStateNotify cfg now replies win).csdMargin = ⟨0, 0⟩ := by
  have hsize (on : Bool) (w : Window) (hw : w.csdMargin = ⟨0, 0⟩) :
      (mirrorSize on w).csdMargin = ⟨0, 0⟩ := by
    cases on
    · exact hw
    · rfl
  -- one state, then the other
  have hmax (on : Bool) (w : Window) (hw : w.csdMargin = ⟨0, 0⟩) :
      (mirrorMaximized on w).csdMargin = ⟨0, 0⟩ := by
    unfold mirrorMaximized
    split
    · exact hw
    · exact hsize on w hw
  have hfull (on : Bool) (w : Window) (hw : w.csdMargin = ⟨0, 0⟩) :
      (mirrorFullscreen on w).csdMargin = ⟨0, 0⟩ := by
    unfold mirrorFullscreen
    split
    · exact hw
    · exact hsize on w hw
  unfold winHandleNetWmStateNotify
  split
  · split
    · exact hmargin
    · rename_i host _
      have hmirror := hfull host.fullscreen _ (hmax host.maximized win hmargin)
      dsimp only
      split
      · rw [(wlxToplevelFillHost_step cfg now _).csdMargin]
        exact hmirror
      · exact hmirror
  · exact hmargin

/-- A size of the host drops the margin or leaves it. -/
theorem configureNotify_csdMargin [CInt] (replies : List (Option (List NetWmAtom))) (ev : ConfigureNotify)
    (hmargin : win.csdMargin = ⟨0, 0⟩) :
    (configureNotify cfg now replies outcome ev win).csdMargin = ⟨0, 0⟩ := by
  unfold configureNotify
  split
  · exact hmargin
  · dsimp only
    split
    · exact hmargin
    · unfold outputRequestState
      dsimp only
      split
      · exact hmargin
      · split
        · exact hmargin
        -- a mode commit leaves the margin
        · rw [(commitOutput_step cfg now _ outcome _).csdMargin]
          exact winHandleNetWmStateNotify_csdMargin replies hmargin

/-- The map tracks no margin. -/
theorem xdgToplevelMap_csdMargin [CInt] (env : MapEnv) :
    (xdgToplevelMap cfg env win).csdMargin = win.csdMargin := by
  have hcreate : (createOutputForWindow cfg env win).csdMargin = win.csdMargin := by
    unfold createOutputForWindow
    split <;> rfl
  unfold xdgToplevelMap
  split
  · rfl
  · dsimp only
    split
    · rw [← hcreate]
      unfold setActiveWindow
      split <;> rfl
    · exact hcreate

/-- Nor does a reparent. -/
theorem reparentSync_csdMargin [CInt] (drawable : Size) :
    (reparentSync cfg now outcome drawable win).csdMargin = win.csdMargin := by
  unfold reparentSync
  split
  · rfl
  · split
    · exact (resizeOutputTo_step cfg now drawable outcome win).csdMargin
    · rfl

end Margin

namespace Remembers

variable {cfg : Config} {win win' : Window}

/-- A new window remembers nothing. -/
theorem fresh : Remembers .fresh where
  buffered h := absurd h (by decide)
  blank _ := rfl
  configured h := absurd h (by decide)
  geometry := .inl rfl
  margin _ := rfl
  sized := .inr ⟨rfl, rfl, rfl, rfl⟩

/-- What schedules configures alone leaves the surface's own state. -/
theorem of_scheduled (h : Remembers win) (hx : win.xdg.Scheduled win'.xdg)
    (hmargin : win.xdg.geometry = Box.zero → win'.csdMargin = ⟨0, 0⟩) (hsized : win'.Sized) :
    Remembers win' where
  buffered hbuf := hx.mapped.trans (h.buffered (hx.hasBuffer ▸ hbuf))
  blank hbuf := hx.surfaceSize.trans (h.blank (hx.hasBuffer ▸ hbuf))
  configured hm := hx.configured.trans (h.configured (hx.mapped ▸ hm))
  geometry := by
    rw [hx.geometry]
    exact h.geometry
  margin hgeo := hmargin (hx.geometry ▸ hgeo)
  sized := hsized

theorem surfaceCommit [CInt] (h : Remembers win) (now : Int) (outcome : CommitOutcome) :
    Remembers (Window.surfaceCommit cfg now outcome win) := by
  refine h.of_scheduled (surfaceCommit_xdg cfg now outcome win) (fun hgeo => ?_) h.sized.surfaceCommit
  rw [surfaceCommit_csdMargin hgeo]
  exact h.margin hgeo

/-- The geometry a commit leaves is set, or was never. -/
theorem geometry_getD (h : Remembers win) {c : SurfaceCommit} (hallowed : win.xdg.commitAllowed c = true) :
    (c.geometry.getD win.xdg.geometry = Box.zero ∨ (c.geometry.getD win.xdg.geometry).size.isSet = true) ∧
      (c.geometry.getD win.xdg.geometry = Box.zero → win.csdMargin = ⟨0, 0⟩) := by
  cases hgeo : c.geometry with
  | none => exact ⟨h.geometry, h.margin⟩
  | some box =>
    have hset : box.size.isSet = true := by
      simp only [XdgSurface.commitAllowed, hgeo, Bool.and_eq_true] at hallowed
      exact hallowed.1.2
    refine ⟨.inr hset, fun hzero => ?_⟩
    rw [show box = Box.zero from hzero] at hset
    exact absurd hset (by decide)

/-- A decoration changes no size. -/
theorem wlxDecorationApplyMode (h : Remembers win) : Remembers win.wlxDecorationApplyMode := by
  unfold Window.wlxDecorationApplyMode
  split
  · refine h.of_scheduled (XdgSurface.scheduleConfigure_keeps _) h.margin (h.sized.of_eq rfl rfl rfl ?_)
    simp only [XdgSurface.decorationSetMode, XdgSurface.scheduleConfigure_scheduled]
  · exact ⟨h.buffered, h.blank, h.configured, h.geometry, h.margin, h.sized⟩

/-- A commit with a buffer keeps it; one that unmaps forgets all but the sizes. -/
theorem applyCommit [CInt] (h : Remembers win) (hinv : Inv win) (env : MapEnv) {c : SurfaceCommit}
    (hallowed : win.xdg.commitAllowed c = true) : Remembers (Window.applyCommit cfg env c win) := by
  obtain ⟨hgeo, hmargin⟩ := h.geometry_getD hallowed
  cases hunmap : win.xdg.unmapCommit c with
  | true =>
    have hdetach : c.buffer = .detach := by
      simp only [XdgSurface.unmapCommit, Bool.and_eq_true, decide_eq_true_eq] at hunmap
      exact hunmap.2
    -- the buffer goes; the geometry, the margin and the sizes stay
    rw [applyCommit_of_unmap cfg env hinv hunmap]
    refine ⟨fun hbuf => ?_, fun _ => ?_, fun hm => ?_, hgeo, hmargin, h.sized.of_eq rfl rfl rfl rfl⟩
    · simp [XdgSurface.roleCommit, XdgSurface.reset, XdgSurface.applyPending,
        XdgSurface.hasBufferAfter, hdetach] at hbuf
    · simp [XdgSurface.roleCommit, XdgSurface.reset, XdgSurface.applyPending,
        XdgSurface.surfaceSizeAfter, hdetach]
    · cases hm
  | false =>
    rw [applyCommit_of_not_unmap cfg env hunmap]
    have hblank : win.xdg.hasBufferAfter c = false → win.xdg.surfaceSizeAfter c = ⟨0, 0⟩ := by
      unfold XdgSurface.hasBufferAfter XdgSurface.surfaceSizeAfter
      cases c.buffer with
      | keep => exact h.blank
      | attach size =>
        intro hbuf
        cases hbuf
      | detach => exact fun _ => rfl
    unfold Window.mapOnBuffer
    split
    · -- the surface gets mapped
      rename_i hmap
      have hbuf : win.xdg.hasBufferAfter c = true := by
        rw [Bool.and_eq_true] at hmap
        exact hmap.2
      have hconf : win.xdg.configured = true := XdgSurface.configured_of_hasBufferAfter hallowed hbuf
      have hmid : Remembers { win.roleCommitted c with
          xdg := { (win.roleCommitted c).xdg with mapped := true } } :=
        ⟨fun _ => rfl, hblank, fun _ => hconf, hgeo, hmargin, h.sized.of_eq rfl rfl rfl rfl⟩
      refine hmid.of_scheduled (xdgToplevelMap_mapped cfg env _).xdg (fun hzero => ?_) ?_
      · rw [xdgToplevelMap_csdMargin]
        exact hmargin hzero
      · exact hmid.sized.xdgToplevelMap env
    · rename_i hmap
      refine ⟨fun hbuf => ?_, hblank, h.configured, hgeo, hmargin, h.sized.of_eq rfl rfl rfl rfl⟩
      rw [Bool.and_eq_true, not_and] at hmap
      cases hm : win.xdg.mapped with
      | false => exact absurd hbuf (hmap (by rw [roleCommitted_mapped, hm]; rfl))
      | true => exact hm

/-- Each event keeps what hangs together. One case per event. -/
theorem step [CInt] (h : Remembers win) (hinv : Inv win) {a : Action}
    (hstep : Wlx.step cfg win a = some win') : Remembers win' := by
  obtain ⟨-, hen, rfl⟩ := step_eq_some.mp hstep
  cases a with
  | commit c now env outcome => exact (h.applyCommit hinv env hen).surfaceCommit now outcome
  | ackConfigure n =>
    simp only [handle, XdgSurface.ackConfigure]
    split
    · exact h
    · exact ⟨h.buffered, h.blank, fun _ => rfl, h.geometry, h.margin, h.sized⟩
  | sendConfigure => exact ⟨h.buffered, h.blank, h.configured, h.geometry, h.margin, h.sized⟩
  | requestMaximize want =>
    simp only [handle, toplevelRequestMaximize]
    split
    · refine h.of_scheduled (XdgSurface.setMaximized_keeps _ _) h.margin (h.sized.of_eq rfl rfl rfl ?_)
      simp only [XdgSurface.setMaximized, XdgSurface.scheduleConfigure_scheduled]
    · exact h
  | requestFullscreen want =>
    simp only [handle, toplevelRequestFullscreen]
    split
    · refine h.of_scheduled (XdgSurface.setFullscreen_keeps _ _) h.margin (h.sized.of_eq rfl rfl rfl ?_)
      simp only [XdgSurface.setFullscreen, XdgSurface.scheduleConfigure_scheduled]
    · exact h
  | newDecoration =>
    have hnew : Remembers { win with decoration := true } :=
      ⟨h.buffered, h.blank, h.configured, h.geometry, h.margin, h.sized⟩
    exact hnew.wlxDecorationApplyMode
  | requestDecorationMode => exact h.wlxDecorationApplyMode
  | destroyDecoration => exact ⟨h.buffered, h.blank, h.configured, h.geometry, h.margin, h.sized⟩
  | focusIn =>
    refine h.of_scheduled (setActiveWindow_xdg win) (fun hgeo => ?_) h.sized.setActiveWindow
    rw [← h.margin hgeo]
    show win.setActiveWindow.csdMargin = _
    unfold setActiveWindow
    split <;> rfl
  | focusOut =>
    refine h.of_scheduled (setInactive_xdg win) (fun hgeo => ?_) h.sized.setInactive
    rw [← h.margin hgeo]
    show win.setInactive.csdMargin = _
    unfold setInactive
    split <;> rfl
  | netWmState replies now =>
    exact h.of_scheduled (winHandleNetWmStateNotify_step cfg now replies win).xdg
      (fun hgeo => winHandleNetWmStateNotify_csdMargin replies (h.margin hgeo))
      (h.sized.winHandleNetWmStateNotify replies)
  | configureNotify ev replies now outcome =>
    exact h.of_scheduled (configureNotify_step cfg now replies outcome ev win).xdg
      (fun hgeo => configureNotify_csdMargin replies ev (h.margin hgeo))
      (h.sized.configureNotify replies ev)
  | reparent drawable now outcome =>
    refine h.of_scheduled (reparentSync_step cfg now outcome drawable win).xdg (fun hgeo => ?_)
      (h.sized.reparentSync drawable)
    rw [← h.margin hgeo]
    exact reparentSync_csdMargin drawable
  | otherRequests n => exact ⟨h.buffered, h.blank, h.configured, h.geometry, h.margin, h.sized⟩

/-- So it holds after every run. -/
theorem run [CInt] {as : List Action} (hrun : Run.run (Wlx.step cfg) .fresh as = some win) :
    Inv win ∧ Remembers win :=
  Run.run_invariant (I := fun win => Inv win ∧ Remembers win)
    (fun _ _ _ h hstep => ⟨h.1.step hstep, h.2.step h.1 hstep⟩) ⟨Inv.fresh, fresh⟩ hrun

end Remembers

end Window

end Wlx
