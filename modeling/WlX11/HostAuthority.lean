import WlX11.Session

/-!
# WlX11 — who owns the size of a window

`size_from_wm` says that the host owns the window's size, and a maximized or fullscreen (*tiled*)
toplevel is the host's as well. `surface_commit` must then leave the output alone. It releases
`size_from_wm` when an untiled client *asserts a shrink*: it commits a size smaller than the output
which is not the size last configured. A commit that merely lags behind the host looks just the
same.

* **`fitWindow_held`** / **`assertShrink_prepareCommit`** — host authority survives a commit unless
  the commit is a `LateSmallerCommit` of an untiled client.
* **`host_size_held_iff`** — with a floating client that always commits the size it last
  acknowledged, the output keeps the last host size iff no commit of an older, smaller size comes in
  after the host has grown the window.
-/

namespace Wlx

open X11Output (CommitOutcome)
open Window (NetWmAtom NetWmState readNetWmState hostResize)

/-! ## Commits of a mapped window -/

/-- A commit of a size more than 1 px smaller than the output in some dimension, which is not (to
within 1) the size last configured. -/
def LateSmallerCommit [CInt] (cfg : Config) (win : Window) (c : SurfaceCommit) : Prop :=
  ∃ out, win.output = some out ∧
    (win.lastClientConf.isSet = true →
      (Window.geometryOrPreferred cfg (win.xdg.applyPending c)).differs 1 win.lastClientConf = true) ∧
    ((cfg.scale (Window.toplevelPreferredSize cfg (win.xdg.applyPending c))).width <
        out.size.width - 1 ∨
      (cfg.scale (Window.toplevelPreferredSize cfg (win.xdg.applyPending c))).height <
        out.size.height - 1)

instance [CInt] (cfg : Config) (win : Window) (c : SurfaceCommit) :
    Decidable (LateSmallerCommit cfg win c) :=
  match h : win.output with
  | none => isFalse fun ⟨out, ho, _⟩ => by rw [h] at ho; cases ho
  | some out => decidable_of_iff
      ((win.lastClientConf.isSet = true →
          (Window.geometryOrPreferred cfg (win.xdg.applyPending c)).differs 1
            win.lastClientConf = true) ∧
        ((cfg.scale (Window.toplevelPreferredSize cfg (win.xdg.applyPending c))).width <
            out.size.width - 1 ∨
          (cfg.scale (Window.toplevelPreferredSize cfg (win.xdg.applyPending c))).height <
            out.size.height - 1))
      ⟨fun hl => ⟨out, h, hl⟩, fun ⟨out', ho, hl⟩ => by rw [h] at ho; cases ho; exact hl⟩

section Commit

variable {cfg : Config} {win : Window} {c : SurfaceCommit} {out : X11Output}

/-- `size_mismatch` follows from a side that is more than 1 px too small. -/
theorem differs_of_smaller {want size : Size}
    (h : want.width < size.width - 1 ∨ want.height < size.height - 1) :
    want.differs 1 size = true := by
  rw [Size.differs_iff]
  rcases h with h | h
  · left; rw [abs_of_neg (by omega)]; omega
  · right; rw [abs_of_neg (by omega)]; omega

/-- **`assert_shrink` is a late smaller commit of an untiled client.** Nothing `surface_commit` does
before the test changes what it reads. -/
theorem assertShrink_prepareCommit [CInt] (ho : win.output = some out) :
    Window.assertShrink cfg (Window.prepareCommit cfg (win.roleCommitted c)) out = true ↔
      win.xdg.pending.tiled = false ∧ LateSmallerCommit cfg win c := by
  have hprep := Window.prepareCommit_prepared cfg (win.roleCommitted c)
  have htiled : (Window.prepareCommit cfg (win.roleCommitted c)).tiled = win.xdg.pending.tiled := by
    rw [hprep.tiled]; exact Bool.or_self _
  have hpref : Window.toplevelPreferredSize cfg (Window.prepareCommit cfg (win.roleCommitted c)).xdg =
      Window.toplevelPreferredSize cfg (win.xdg.applyPending c) := by
    simp only [Window.toplevelPreferredSize, Window.committedSize, hprep.xdg.geometry,
      hprep.xdg.surfaceSize]
    rfl
  have hgeo : Window.geometryOrPreferred cfg (Window.prepareCommit cfg (win.roleCommitted c)).xdg =
      Window.geometryOrPreferred cfg (win.xdg.applyPending c) := by
    simp only [Window.geometryOrPreferred, hpref, hprep.xdg.geometry]
    rfl
  have hconf : (Window.prepareCommit cfg (win.roleCommitted c)).lastClientConf =
      win.lastClientConf := hprep.lastClientConf
  simp only [Window.assertShrink, Window.sizeMismatch, Window.confDiffers, htiled, hpref, hgeo,
    hconf, Bool.and_eq_true, Bool.or_eq_true, Bool.not_eq_true', decide_eq_true_eq]
  -- smaller sizes differ already, and an unset configure differs from all
  constructor
  · rintro ⟨⟨⟨-, hdiff⟩, ht⟩, hsmall⟩
    refine ⟨ht, out, ho, fun hset => ?_, hsmall⟩
    rcases hdiff with hunset | hdiff
    · rw [hset] at hunset; cases hunset
    · exact hdiff
  · rintro ⟨ht, out', ho', hdiff, hsmall⟩
    rw [ho] at ho'; cases ho'
    refine ⟨⟨⟨differs_of_smaller hsmall, ?_⟩, ht⟩, hsmall⟩
    cases hset : win.lastClientConf.isSet with
    | false => exact Or.inl rfl
    | true => exact Or.inr (hdiff hset)

/-- **Host authority holds through a fit.** A window that is the host's, with no shrink asserted,
keeps its output and its owner. -/
theorem fitWindow_held [CInt] (now : Int) (outcome : CommitOutcome) (ho : win.output = some out)
    (hauth : win.sizeFromWm = true ∨ win.tiled = true)
    (hns : Window.assertShrink cfg win out = false) :
    (Window.fitWindow cfg now outcome win).output = some out ∧
      (Window.fitWindow cfg now outcome win).sizeFromWm = win.sizeFromWm := by
  have hrelease : Window.releaseHostSize cfg win out = win := by
    simp [Window.releaseHostSize, hns]
  have hnofit : Window.wantFit cfg win out = false := by
    rcases hauth with h | h <;> simp [Window.wantFit, h]
  unfold Window.fitWindow
  rw [ho]
  dsimp only
  rw [hrelease, Window.fitDecision, hnofit]
  simp only [Bool.false_eq_true, if_false]
  split
  · -- the host's size is asserted again
    exact ⟨(Window.wlxToplevelFillHost_output cfg now win).trans ho,
      (Window.wlxToplevelFillHost_step cfg now win).sizeFromWm⟩
  · exact ⟨ho, rfl⟩

/-- A commit that asserts a shrink releases the window. -/
theorem fitWindow_released [CInt] (now : Int) (outcome : CommitOutcome) (ho : win.output = some out)
    (hs : Window.assertShrink cfg win out = true) :
    (Window.fitWindow cfg now outcome win).sizeFromWm = false := by
  rcases Window.fitWindow_cases cfg now outcome win with ⟨hnone, -⟩ | ⟨out', ho', hstep⟩
  · rw [ho] at hnone; cases hnone
  · rw [ho] at ho'; cases ho'
    rw [hstep.sizeFromWm]
    simp [Window.releaseHostSize, hs]

end Commit

/-! ## Host events -/

/-- `_NET_WM_STATE` does not say maximized or fullscreen. -/
def readsFloating (replies : List (Option (List NetWmAtom))) : Bool :=
  match readNetWmState replies with
  | none => true
  | some host => !host.maximized && !host.fullscreen

section Host

variable {win : Window}

/-- A host that says nothing of maximized or fullscreen changes nothing for a floating client. -/
theorem winHandleNetWmStateNotify_of_floating [CInt] (cfg : Config) (now : Int)
    {replies : List (Option (List NetWmAtom))} (hr : readsFloating replies = true)
    (ht : win.tiled = false) : win.winHandleNetWmStateNotify cfg now replies = win := by
  unfold Window.winHandleNetWmStateNotify
  unfold readsFloating at hr
  split
  · cases hread : readNetWmState replies with
    | none => rfl
    | some host =>
      simp only [hread, Bool.and_eq_true, Bool.not_eq_true'] at hr
      simp only [Window.tiled, ToplevelState.tiled, Bool.or_eq_false_iff] at ht
      simp [Window.mirrorMaximized, Window.mirrorFullscreen, hr.1, hr.2, ht.1.1, ht.1.2, ht.2.1,
        ht.2.2]
  · rfl

end Host

/-! ## A floating window and an obedient client -/

/-- A window together with the last size the host imposed on it. -/
structure HostedWindow where
  win : Window
  host : Size
deriving DecidableEq

/-- A session step, noting the size of every host resize that succeeds. -/
def hostStep [CInt] (cfg : Config) (s : HostedWindow) (a : Action) : Option HostedWindow :=
  (step cfg s.win a).map fun win =>
    { win := win
      host := match a with
        | .configureNotify ev _ _ .ok => (hostResize s.win ev).getD s.host
        | _ => s.host }

/-- The commit has exactly the size of the last configure the client acknowledged: its window
geometry, or its surface when it sets no geometry. -/
def Obedient (win : Window) (c : SurfaceCommit) : Prop :=
  win.xdg.hasBufferAfter c = true ∧
    (if (win.xdg.applyPending c).geometry.size.isSet = true then
      (win.xdg.applyPending c).geometry.size
    else (win.xdg.applyPending c).surfaceSize) = win.xdg.pending.size

instance (win : Window) (c : SurfaceCommit) : Decidable (Obedient win c) := by
  unfold Obedient; infer_instance

/-- The steps of a floating window with an obedient client: host sizes, configures, their
acknowledgements and commits in any order. Focus changes and other traffic may come in between. -/
def FloatingStep (s : HostedWindow) : Action → Prop
  | .configureNotify _ replies _ _ => readsFloating replies = true
  | .commit c _ _ _ => Obedient s.win c
  | .sendConfigure | .ackConfigure _ | .focusIn | .focusOut | .otherRequests _ => True
  | _ => False

instance (s : HostedWindow) : DecidablePred (FloatingStep s)
  | .configureNotify _ replies _ _ => inferInstanceAs (Decidable (readsFloating replies = true))
  | .commit c _ _ _ => inferInstanceAs (Decidable (Obedient s.win c))
  | .sendConfigure | .ackConfigure _ | .focusIn | .focusOut | .otherRequests _ => .isTrue trivial
  | .requestMaximize _ | .requestFullscreen _ | .newDecoration | .requestDecorationMode
  | .destroyDecoration | .netWmState .. | .reparent .. => .isFalse id

/-- The host's window: it owns the size, the output has the last host size, and the toplevel is
floating in every state it has, has acknowledged, has been sent or is about to be sent. -/
structure HostOwned (s : HostedWindow) : Prop where
  inv : Inv s.win
  sizeFromWm : s.win.sizeFromWm = true
  outputSize : s.win.outputSize = some s.host
  current : s.win.xdg.current.tiled = false
  pending : s.win.xdg.pending.tiled = false
  scheduled : s.win.xdg.scheduled.tiled = false
  unacked : ∀ configure ∈ s.win.xdg.configureList, configure.tiled = false

/-- The step leaves the window the host's, at the last host size. -/
def HoldsHostSize [CInt] (cfg : Config) (s : HostedWindow) (a : Action) : Prop :=
  ∀ t, hostStep cfg s a = some t → t.win.sizeFromWm = true ∧ t.win.outputSize = some t.host

instance [CInt] (cfg : Config) (s : HostedWindow) (a : Action) : Decidable (HoldsHostSize cfg s a) :=
  decidable_of_iff ((hostStep cfg s a).all fun t =>
      decide (t.win.sizeFromWm = true ∧ t.win.outputSize = some t.host)) (by
    cases h : hostStep cfg s a <;> simp [HoldsHostSize, h])

/-- The step is no late smaller commit. -/
def NotLate [CInt] (cfg : Config) (s : HostedWindow) : Action → Prop
  | .commit c _ _ _ => ¬ LateSmallerCommit cfg s.win c
  | _ => True

instance [CInt] (cfg : Config) (s : HostedWindow) : DecidablePred (NotLate cfg s)
  | .commit c _ _ _ => inferInstanceAs (Decidable (¬ LateSmallerCommit cfg s.win c))
  | .ackConfigure _ | .sendConfigure | .requestMaximize _ | .requestFullscreen _ | .newDecoration
  | .requestDecorationMode | .destroyDecoration | .focusIn | .focusOut | .netWmState ..
  | .configureNotify .. | .reparent .. | .otherRequests _ => .isTrue trivial

section Floating

variable {cfg : Config} {s t : HostedWindow} {a : Action}

theorem hostStep_eq_some [CInt] :
    hostStep cfg s a = some t ↔ step cfg s.win a = some t.win ∧
      t.host = match a with
        | .configureNotify ev _ _ .ok => (hostResize s.win ev).getD s.host
        | _ => s.host := by
  obtain ⟨win, host⟩ := t
  simp only [hostStep, Option.map_eq_some_iff, HostedWindow.mk.injEq]
  constructor
  · rintro ⟨w, hw, rfl, rfl⟩; exact ⟨hw, rfl⟩
  · rintro ⟨hw, rfl⟩; exact ⟨win, hw, rfl, rfl⟩

/-- The floating states survive handlers that only configure sizes or activate. -/
theorem HostOwned.of_scheduled (h : HostOwned s) {x : XdgSurface} (hx : s.win.xdg.Scheduled x)
    (hs : x.scheduled.tiled = false) :
    x.current.tiled = false ∧ x.pending.tiled = false ∧ x.scheduled.tiled = false ∧
      ∀ configure ∈ x.configureList, configure.tiled = false := by
  rw [hx.current, hx.pending, hx.configureList]
  exact ⟨h.current, h.pending, hs, h.unacked⟩

/-- An obedient commit does not unmap. -/
theorem Obedient.not_unmap {win : Window} {c : SurfaceCommit} (h : Obedient win c) :
    win.xdg.unmapCommit c = false := by
  have hbuf := h.1
  cases hc : c.buffer <;> simp [XdgSurface.unmapCommit, XdgSurface.hasBufferAfter, hc] at hbuf ⊢

/-- **A commit of the host's window keeps it the host's iff it is not late.** -/
theorem HostOwned.commit [CInt] (h : HostOwned s) {c : SurfaceCommit} (hc : Obedient s.win c) (now : Int)
    (env : Window.MapEnv) (outcome : CommitOutcome) :
    ((s.win.wlSurfaceCommit cfg now env outcome c).sizeFromWm = true ∧
      (s.win.wlSurfaceCommit cfg now env outcome c).outputSize = some s.host) ↔
    ¬ LateSmallerCommit cfg s.win c := by
  obtain ⟨out, ho, hsize⟩ := Option.map_eq_some_iff.mp h.outputSize
  have hm := h.inv.mapped (by rw [ho]; rfl)
  rw [Window.wlSurfaceCommit_of_mapped cfg now env outcome hm hc.not_unmap, Window.surfaceCommit]
  have hprep := Window.prepareCommit_prepared cfg (s.win.roleCommitted c)
  have ho' : (Window.prepareCommit cfg (s.win.roleCommitted c)).output = some out :=
    hprep.output.trans ho
  have hs' : (Window.prepareCommit cfg (s.win.roleCommitted c)).sizeFromWm = true :=
    hprep.sizeFromWm.trans h.sizeFromWm
  have hiff : Window.assertShrink cfg (Window.prepareCommit cfg (s.win.roleCommitted c)) out = true ↔
      s.win.xdg.pending.tiled = false ∧ LateSmallerCommit cfg s.win c :=
    assertShrink_prepareCommit ho
  -- `assert_shrink` is what releases the size, and all that does
  by_cases hlate : LateSmallerCommit cfg s.win c
  · have hrel := fitWindow_released now outcome ho' (hiff.mpr ⟨h.pending, hlate⟩)
    simp [hrel, hlate]
  · have hns : Window.assertShrink cfg (Window.prepareCommit cfg (s.win.roleCommitted c)) out =
        false := by
      rw [← Bool.not_eq_true, hiff]
      exact fun hh => hlate hh.2
    obtain ⟨hout, hown⟩ := fitWindow_held now outcome ho' (Or.inl hs') hns
    simp [hown, hs', Window.outputSize, hout, hsize, hlate]

/-- What a `ConfigureNotify` does to a floating window: sizes may be configured, and a resize that
gets through makes the window the host's, at the new size if the commit succeeds. -/
theorem configureNotify_floating [CInt] (cfg : Config) {win : Window} (ht : win.tiled = false)
    (ev : ConfigureNotify) {replies : List (Option (List NetWmAtom))}
    (hr : readsFloating replies = true) (now : Int) (outcome : CommitOutcome) :
    win.xdg.SizeConfigured (win.configureNotify cfg now replies outcome ev).xdg ∧
      (win.configureNotify cfg now replies outcome ev).sizeFromWm =
        (win.sizeFromWm || (hostResize win ev).isSome) ∧
      (win.configureNotify cfg now replies outcome ev).outputSize =
        if outcome = .ok then win.outputSize.map fun size => (hostResize win ev).getD size
        else win.outputSize := by
  cases hh : hostResize win ev with
  -- an echo: the backend hears nothing
  | none =>
    rw [Window.configureNotify_of_none cfg now replies outcome hh]
    refine ⟨.refl _, by simp, ?_⟩
    cases ho : win.output <;> simp [Window.outputSize, ho]
  | some req =>
    rw [Window.configureNotify_of_some cfg now replies outcome hh,
      winHandleNetWmStateNotify_of_floating cfg now hr (by exact ht)]
    have hstep := Window.commitOutput_step cfg now req outcome { win with
      output := win.output.map fun out => (out.handleX11ConfigureNotify ev).1
      sizeFromWm := true }
    refine ⟨hstep.xdg, by simp [hstep.sizeFromWm], ?_⟩
    simp only [Window.outputSize, Window.commitOutput_output, Option.map_map]
    split
    -- the mode is the reported size if the commit succeeds
    · next hok =>
      subst hok
      congr 1; funext out
      exact X11Output.commitState_ok_size _ _
    · next hne =>
      congr 1; funext out
      simp [X11Output.commitState_size_of_ne_ok _ _ hne]

theorem HostOwned.tiled (h : HostOwned s) : s.win.tiled = false := by
  simp [Window.tiled, h.current, h.pending]

/-- **Floating stays floating.** Every step of a floating window that leaves it the host's keeps
`HostOwned`. -/
theorem HostOwned.step [CInt] (h : HostOwned s) (hdom : FloatingStep s a) (hheld : HoldsHostSize cfg s a)
    (hstep : hostStep cfg s a = some t) : HostOwned t := by
  obtain ⟨hown, hsize⟩ := hheld t hstep
  obtain ⟨hs, -⟩ := hostStep_eq_some.mp hstep
  have hinv := h.inv.step hs
  obtain ⟨-, hen, hwin⟩ := step_eq_some.mp hs
  suffices hstates : t.win.xdg.current.tiled = false ∧ t.win.xdg.pending.tiled = false ∧
      t.win.xdg.scheduled.tiled = false ∧
        ∀ configure ∈ t.win.xdg.configureList, configure.tiled = false from
    ⟨hinv, hown, hsize, hstates.1, hstates.2.1, hstates.2.2.1, hstates.2.2.2⟩
  obtain ⟨out, ho, -⟩ := Option.map_eq_some_iff.mp h.outputSize
  rw [← hwin]
  cases a with
  | commit c now env outcome =>
    -- the acknowledged state becomes the current one
    have hm := h.inv.mapped (by rw [ho]; rfl)
    simp only [handle]
    rw [Window.wlSurfaceCommit_of_mapped cfg now env outcome hm (Obedient.not_unmap hdom)]
    have hx := Window.surfaceCommit_xdg cfg now outcome (s.win.roleCommitted c)
    refine ⟨?_, ?_, ?_, ?_⟩
    · rw [hx.current]; exact h.pending
    · rw [hx.pending]; exact h.pending
    · rw [Window.surfaceCommit_scheduled_tiled]; exact h.scheduled
    · rw [hx.configureList]; exact h.unacked
  | ackConfigure n =>
    simp only [handle, XdgSurface.ackConfigure]
    split
    · exact ⟨h.current, h.pending, h.scheduled, h.unacked⟩
    · next configure hget =>
      exact ⟨h.current, h.unacked _ (List.mem_of_getElem? hget), h.scheduled,
        fun conf hmem => h.unacked conf (List.mem_of_mem_drop hmem)⟩
  | sendConfigure =>
    refine ⟨h.current, h.pending, h.scheduled, fun conf hmem => ?_⟩
    rcases List.mem_append.mp hmem with hmem | hmem
    · exact h.unacked conf hmem
    · rw [List.mem_singleton.mp hmem]; exact h.scheduled
  | focusIn =>
    exact h.of_scheduled s.win.setActiveWindow_xdg
      (s.win.setActiveWindow_scheduled_tiled.trans h.scheduled)
  | focusOut =>
    exact h.of_scheduled s.win.setInactive_xdg
      (s.win.setInactive_scheduled_tiled.trans h.scheduled)
  | configureNotify ev replies now outcome =>
    have hx := (configureNotify_floating cfg h.tiled ev hdom now outcome).1
    exact h.of_scheduled hx.toScheduled (hx.scheduled_tiled.trans h.scheduled)
  | otherRequests n => exact ⟨h.current, h.pending, h.scheduled, h.unacked⟩
  | _ => exact absurd hdom id

/-- **One step holds the host size iff it is no late smaller commit.** -/
theorem HostOwned.holds_iff [CInt] (h : HostOwned s) (hdom : FloatingStep s a)
    (hstep : hostStep cfg s a = some t) : HoldsHostSize cfg s a ↔ NotLate cfg s a := by
  have hone : HoldsHostSize cfg s a ↔ t.win.sizeFromWm = true ∧ t.win.outputSize = some t.host := by
    simp [HoldsHostSize, hstep]
  obtain ⟨hs, hhost⟩ := hostStep_eq_some.mp hstep
  obtain ⟨-, hen, hwin⟩ := step_eq_some.mp hs
  rw [hone, hhost, ← hwin]
  cases a with
  | commit c now env outcome => exact h.commit hdom now env outcome
  | ackConfigure n => exact iff_of_true ⟨h.sizeFromWm, h.outputSize⟩ trivial
  | sendConfigure => exact iff_of_true ⟨h.sizeFromWm, h.outputSize⟩ trivial
  | focusIn =>
    refine iff_of_true ?_ trivial
    simp only [handle, Window.setActiveWindow]
    split <;> exact ⟨h.sizeFromWm, h.outputSize⟩
  | focusOut =>
    refine iff_of_true ?_ trivial
    simp only [handle, Window.setInactive]
    split <;> exact ⟨h.sizeFromWm, h.outputSize⟩
  | configureNotify ev replies now outcome =>
    obtain ⟨-, hown, hsize⟩ := configureNotify_floating cfg h.tiled ev hdom now outcome
    refine iff_of_true ⟨hown.trans (by simp [h.sizeFromWm]), hsize.trans ?_⟩ trivial
    cases outcome <;> simp [h.outputSize]
  -- sequence numbers only
  | otherRequests n =>
    refine iff_of_true ⟨h.sizeFromWm, ?_⟩ trivial
    rw [← h.outputSize]
    cases ho : s.win.output <;> simp [handle, Window.outputSize, ho, X11Output.otherRequests]
  | _ => exact absurd hdom id

end Floating

/-- **A floating window keeps the last host size exactly as long as no late smaller commit
arrives.** The window is the host's to begin with and its client is obedient; host sizes,
configures, acknowledgements and commits interleave freely. -/
theorem host_size_held_iff [CInt] (cfg : Config) (s t : HostedWindow) (as : List Action)
    (h : HostOwned s) (hdom : Run.Along (hostStep cfg) FloatingStep s as)
    (hrun : Run.run (hostStep cfg) s as = some t) :
    Run.Along (hostStep cfg) (HoldsHostSize cfg) s as ↔
      Run.Along (hostStep cfg) (NotLate cfg) s as :=
  Run.along_iff_along (fun _ _ _ hs hp hq ha => hs.step hp hq ha)
    (fun _ _ _ hs hp ha => hs.holds_iff hp ha) h hdom hrun

/-- Map at 500×400, then let the host resize the window to 600×500 and the client follow. -/
def hostResizesFloating : List Action :=
  [.commit ⟨.keep, none⟩ 1 ⟨true, 0, .ok⟩ .ok, .sendConfigure, .ackConfigure 0,
    .commit ⟨.attach ⟨500, 400⟩, some ⟨0, 0, 500, 400⟩⟩ 2 ⟨true, 0, .ok⟩ .ok,
    .configureNotify ⟨1, ⟨500, 400⟩⟩ [some []] 3 .ok,
    .configureNotify ⟨1, ⟨600, 500⟩⟩ [some []] 4 .ok, .sendConfigure, .ackConfigure 0,
    .commit ⟨.attach ⟨600, 500⟩, some ⟨0, 0, 600, 500⟩⟩ 5 ⟨true, 0, .ok⟩ .ok]

/-- The host grows the window to 800×700; the client commits the size it has acknowledged. -/
def lateCommit : List Action :=
  [.configureNotify ⟨2, ⟨800, 700⟩⟩ [some []] 6 .ok,
    .commit ⟨.attach ⟨600, 500⟩, none⟩ 7 ⟨true, 0, .ok⟩ .ok]

/-- The host grows the window to 800×700; the client commits once it has acknowledged that. -/
def promptCommit : List Action :=
  [.configureNotify ⟨2, ⟨800, 700⟩⟩ [some []] 6 .ok, .sendConfigure, .ackConfigure 0,
    .commit ⟨.attach ⟨800, 700⟩, some ⟨0, 0, 800, 700⟩⟩ 7 ⟨true, 0, .ok⟩ .ok]

/-- A commit of the old size, sent before the client has seen the new one, takes the window away
from the host: the output goes back to 600×500. -/
theorem late_commit_releases_host_size :
    ¬ ∀ (cfg : Config) (s : HostedWindow) (as : List Action),
      Run.Reachable (step cfg) .fresh s.win → HostOwned s →
        Run.Along (hostStep cfg) FloatingStep s as →
          Run.Along (hostStep cfg) (HoldsHostSize cfg) s as := by
  intro h
  have hany : (Run.run (step ⟨1, false⟩) .fresh hostResizesFloating).any (fun win =>
      decide (win.sizeFromWm = true ∧ win.outputSize = some ⟨600, 500⟩ ∧
        win.xdg.current.tiled = false ∧ win.xdg.pending.tiled = false ∧
        win.xdg.scheduled.tiled = false ∧ win.xdg.configureList = [] ∧
        Run.Along (hostStep ⟨1, false⟩) FloatingStep ⟨win, ⟨600, 500⟩⟩ lateCommit ∧
        ¬ Run.Along (hostStep ⟨1, false⟩) (HoldsHostSize ⟨1, false⟩) ⟨win, ⟨600, 500⟩⟩
          lateCommit)) = true := by decide +kernel
  obtain ⟨win, hwin, hchecks⟩ := (Option.any_eq_true ..).mp hany
  obtain ⟨hown, hsize, hcur, hpend, hsched, hlist, hdom, hnot⟩ := of_decide_eq_true hchecks
  exact hnot (h ⟨1, false⟩ ⟨win, ⟨600, 500⟩⟩ lateCommit ⟨_, hwin⟩
    ⟨Inv.fresh.run hwin, hown, hsize, hcur, hpend, hsched, by simp [hlist]⟩ hdom)

/-- A client that keeps up keeps the window the host's. -/
theorem host_size_held_iff_prompt :
    ∃ s t, Run.Reachable (step ⟨1, false⟩) .fresh s.win ∧
      Run.run (hostStep ⟨1, false⟩) s promptCommit = some t ∧
        Run.Along (hostStep ⟨1, false⟩) (HoldsHostSize ⟨1, false⟩) s promptCommit := by
  have hany : (Run.run (step ⟨1, false⟩) .fresh hostResizesFloating).any (fun win =>
      decide (win.sizeFromWm = true ∧ win.outputSize = some ⟨600, 500⟩ ∧
        win.xdg.current.tiled = false ∧ win.xdg.pending.tiled = false ∧
        win.xdg.scheduled.tiled = false ∧ win.xdg.configureList = [] ∧
        Run.Along (hostStep ⟨1, false⟩) FloatingStep ⟨win, ⟨600, 500⟩⟩ promptCommit ∧
        (Run.run (hostStep ⟨1, false⟩) ⟨win, ⟨600, 500⟩⟩ promptCommit).isSome = true ∧
        Run.Along (hostStep ⟨1, false⟩) (NotLate ⟨1, false⟩) ⟨win, ⟨600, 500⟩⟩
          promptCommit)) = true := by decide +kernel
  obtain ⟨win, hwin, hchecks⟩ := (Option.any_eq_true ..).mp hany
  obtain ⟨hown, hsize, hcur, hpend, hsched, hlist, hdom, hsome, hlate⟩ :=
    of_decide_eq_true hchecks
  obtain ⟨t, ht⟩ := Option.isSome_iff_exists.mp hsome
  exact ⟨⟨win, ⟨600, 500⟩⟩, t, ⟨_, hwin⟩, ht,
    (host_size_held_iff _ _ _ _
      ⟨Inv.fresh.run hwin, hown, hsize, hcur, hpend, hsched, by simp [hlist]⟩ hdom ht).mpr hlate⟩

end Wlx
