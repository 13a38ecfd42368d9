import WlX11.AlikeWindows
import WlX11.ConfigureCycle
import WlX11.SizeMemory

/-!
# WlX11 — what a mapping leaves to the next one

A `wlx_window` lives as long as its toplevel, which can be unmapped and mapped again.
`create_output_for_window` and `output_destroy` reset the X window ids, "so a remap never carries stale
related[] entries", and the former `size_from_wm`; the last configure, the history of fits, the shadow's
margin and the time of the last re-assertion stay, as does what wlroots keeps of the client's geometry
and of the states it is configured to.

* **`SameDecisions`** — a window makes the same decisions about its size as a fresh one, whatever comes.
* **`LeavesNothing`** — it has no geometry, no configured size and no state to be configured to.
* **`sameDecisions_iff`** — for every history that ends unmapped, one is the other.
-/

namespace Wlx

open X11Output (CommitOutcome)
open Window (MapEnv)

namespace Window

/-- What follows is decided as for a fresh window, at any time. -/
def SameDecisions [CInt] (cfg : Config) (win : Window) : Prop :=
  ∀ traffic fresh again, Run.run (step cfg) .fresh traffic = some fresh →
    Run.run (step cfg) win traffic = some again → fresh.sizeDecisions = again.sizeDecisions

/-- The surface awaits an initial commit, and there is no geometry, no size that has been configured, and
neither of the states is configured. -/
def LeavesNothing (win : Window) : Prop :=
  win.xdg.initialized = false ∧ win.xdg.geometry = Box.zero ∧ win.lastClientConf = ⟨0, 0⟩ ∧
    win.xdg.scheduled.tiled = false

instance (win : Window) : Decidable win.LeavesNothing := inferInstanceAs (Decidable (_ ∧ _))

section Residue

variable {win : Window}

/-- A window that leaves nothing is like a fresh one. -/
theorem LeavesNothing.alike (h : win.LeavesNothing) (hinv : Inv win) (hrem : Remembers win)
    (hunmapped : win.xdg.mapped = false) : Alike .fresh win := by
  obtain ⟨hinit, hgeo, hconf, htiled⟩ := h
  obtain ⟨hconfigured, -, hlist, hbuf⟩ := hinv.blank hinit
  have hout := hinv.output_eq_none hunmapped
  obtain ⟨hhistory, hfill, hsize⟩ : win.fitHistory = ⟨⟨0, 0⟩, ⟨0, 0⟩, 0⟩ ∧ win.fillHostLastMsec = 0 ∧
      win.xdg.scheduled.size = ⟨0, 0⟩ := by
    -- without a configured size none of the later ones was written
    rcases hrem.sized with hset | ⟨-, hrest⟩
    · rw [hconf] at hset
      exact absurd hset (by decide)
    · exact hrest
  obtain ⟨hlast, hprev, hmsec⟩ : win.fitLast = ⟨0, 0⟩ ∧ win.fitPrev = ⟨0, 0⟩ ∧ win.fitLastMsec = 0 := by
    simpa [fitHistory] using hhistory
  have hstates : win.xdg.scheduled.maximized = false ∧ win.xdg.scheduled.fullscreen = false := by
    simpa [ToplevelState.tiled] using htiled
  exact {
    xdg := {
      initialized := hinit
      configured := hconfigured
      mapped := hunmapped
      hasBuffer := hbuf
      surfaceSize := hrem.blank hbuf
      geometry := hgeo
      configureList := by rw [hlist]; rfl
      current := fun hshown => absurd hshown (by decide)
      pending := fun hor => absurd hor (by decide)
      scheduled := by
        unfold ToplevelState.unfocused
        rw [hstates.1, hstates.2, hsize]
        rfl }
    output := hout
    lastOutputSize := fun ho => absurd ho (by decide)
    csdMargin := hrem.margin hgeo
    sizeFromWm := fun ho => absurd ho (by decide)
    lastClientConf := hconf
    fitLast := hlast
    fitPrev := hprev
    fitLastMsec := hmsec
    fillHostLastMsec := hfill }

end Residue

/-! ## What tells a window from a fresh one -/

/-- A commit without a buffer: the initial one, if there has been none. -/
def bareCommit : Action := .commit ⟨.keep, none⟩ 0 ⟨true, 0, .ok⟩ .ok

section Traffic

variable {cfg : Config} {win v : Window}

/-- A window as a history that ends unmapped leaves it. -/
structure Unmapped (win : Window) : Prop where
  inv : Inv win
  remembers : Remembers win
  mapped : win.xdg.mapped = false
  alive : win.xdg.aborted = false

/-- Its surface awaits the initial commit, and no state is configured. -/
structure Blank (win : Window) : Prop extends Unmapped win where
  initialized : win.xdg.initialized = false
  states : win.xdg.scheduled.tiled = false

/-- A window that has never been mapped is blank. -/
theorem blank_fresh : Blank .fresh := ⟨⟨Inv.fresh, .fresh, rfl, rfl⟩, rfl, rfl⟩

/-- What a window without a buffer keeps through a bare commit. -/
structure Bared (win v : Window) : Prop where
  initialized : v.xdg.initialized = true
  sent : v.initialConfigureSent = true
  alive : v.xdg.aborted = false
  mapped : v.xdg.mapped = false
  configureList : v.xdg.configureList = win.xdg.configureList
  scheduled : v.xdg.scheduled = win.xdg.scheduled
  geometry : v.xdg.geometry = win.xdg.geometry
  lastClientConf : v.lastClientConf = win.lastClientConf
  fitHistory : v.fitHistory = win.fitHistory

/-- The first commit is allowed, and asks for the initial configure. -/
theorem step_bareCommit [CInt] (cfg : Config) (h : Unmapped win) :
    ∃ v, Wlx.step cfg win bareCommit = some v ∧ Bared win v := by
  have hbuf : win.xdg.hasBuffer = false := by
    rw [← Bool.not_eq_true]
    intro hb
    have hmapped := h.remembers.buffered hb
    rw [h.mapped] at hmapped
    cases hmapped
  have hout := h.inv.output_eq_none h.mapped
  have hallowed : enabled win bareCommit = true := by
    show win.xdg.commitAllowed ⟨.keep, none⟩ = true
    simp [XdgSurface.commitAllowed, XdgSurface.hasBufferAfter, hbuf]
  refine ⟨_, step_eq_some.mpr ⟨h.alive, hallowed, rfl⟩, ?_⟩
  have hkeep := (h.inv.wlSurfaceCommit cfg 0 ⟨true, 0, .ok⟩ .ok ⟨.keep, none⟩).2
  have hrole : applyCommit cfg ⟨true, 0, .ok⟩ ⟨.keep, none⟩ win = win.roleCommitted ⟨.keep, none⟩ := by
    rw [applyCommit_of_not_unmap cfg _ (by simp [XdgSurface.unmapCommit, h.mapped]), mapOnBuffer]
    rw [if_neg (by simp [roleCommitted, XdgSurface.roleCommit, XdgSurface.applyPending,
      XdgSurface.hasBufferAfter, hbuf])]
  have hprep := prepareCommit_prepared cfg (win.roleCommitted ⟨.keep, none⟩)
  have hnone : (prepareCommit cfg (win.roleCommitted ⟨.keep, none⟩)).output = none := hprep.output.trans hout
  -- without an output there is nothing to fit
  have hv : handle cfg win bareCommit = prepareCommit cfg (win.roleCommitted ⟨.keep, none⟩) := by
    show surfaceCommit cfg 0 .ok (applyCommit cfg ⟨true, 0, .ok⟩ ⟨.keep, none⟩ win) = _
    rw [hrole, surfaceCommit, fitWindow, hnone]
  have haborted : (handle cfg win bareCommit).xdg.aborted = false := hkeep.trans h.alive
  rw [hv] at haborted ⊢
  exact {
    initialized := hprep.xdg.initialized
    sent := hprep.initialConfigureSent
    alive := haborted
    mapped := hprep.xdg.mapped.trans h.mapped
    configureList := hprep.xdg.configureList
    scheduled := hprep.scheduled
    geometry := hprep.xdg.geometry
    lastClientConf := hprep.lastClientConf
    fitHistory := prepareCommit_fitHistory cfg _ }

/-- A bare commit, a request for a state, and the configure that is scheduled then. -/
def opening (request : Action) : List Action := [bareCommit, request, .sendConfigure]

/-- What a window without a buffer keeps through an opening, and which configure it is sent. -/
structure OpenedBy (f : ToplevelState → ToplevelState) (win v : Window) : Prop extends Unmapped v where
  configureList : v.xdg.configureList = win.xdg.configureList ++ [f win.xdg.scheduled]
  geometry : v.xdg.geometry = win.xdg.geometry
  lastClientConf : v.lastClientConf = win.lastClientConf
  fitHistory : v.fitHistory = win.fitHistory

/-- The client may ask for a state before it maps, and is sent a configure for it. -/
theorem run_opening [CInt] (h : Unmapped win) (request : Action) {f : ToplevelState → ToplevelState}
    (henabled : ∀ w, enabled w request = true) (hrequest : ∀ w, handle cfg w request = w.request f) :
    ∃ v, Run.run (Wlx.step cfg) win (opening request) = some v ∧ OpenedBy f win v := by
  obtain ⟨u, hu, hbared⟩ := step_bareCommit cfg h
  have hrequested : handle cfg u request =
      { u with xdg := { u.xdg with scheduled := f u.xdg.scheduled, configureIdle := true } } := by
    rw [hrequest, Window.request, if_pos hbared.sent, XdgSurface.setState_of_initialized hbared.initialized]
  have hstep : Wlx.step cfg u request =
      some { u with xdg := { u.xdg with scheduled := f u.xdg.scheduled, configureIdle := true } } :=
    step_eq_some.mpr ⟨hbared.alive, henabled u, hrequested⟩
  have hsend : Wlx.step cfg
      { u with xdg := { u.xdg with scheduled := f u.xdg.scheduled, configureIdle := true } } .sendConfigure =
        some { u with xdg :=
          { u.xdg with
            scheduled := f u.xdg.scheduled
            configureIdle := false
            configureList := u.xdg.configureList ++ [f u.xdg.scheduled] } } :=
    step_eq_some.mpr ⟨hbared.alive, rfl, rfl⟩
  -- the invariants are carried along step by step
  have hinvu := h.inv.step hu
  have hremu := h.remembers.step h.inv hu
  have hinvr := hinvu.step hstep
  have hremr := hremu.step hinvu hstep
  refine ⟨_, ?_, ⟨hinvr.step hsend, hremr.step hinvr hsend, hbared.mapped, hbared.alive⟩, ?_, hbared.geometry,
    hbared.lastClientConf, hbared.fitHistory⟩
  · unfold opening
    rw [Run.run_cons, hu, Option.bind_some, Run.run_cons, hstep, Option.bind_some, Run.run_cons, hsend]
    rfl
  · show u.xdg.configureList ++ [f u.xdg.scheduled] = _
    rw [hbared.configureList, hbared.scheduled]

/-- The configure that is sent in the end is the same. -/
theorem SameDecisions.last_eq [CInt] (h : SameDecisions cfg win) (traffic : List Action) {u : Window}
    (hfresh : Run.run (Wlx.step cfg) .fresh traffic = some u)
    (hrun : Run.run (Wlx.step cfg) win traffic = some v) {xs ys : List ToplevelState} {s t : ToplevelState}
    (hu : u.xdg.configureList = xs ++ [s]) (hv : v.xdg.configureList = ys ++ [t]) :
    s.unfocused = t.unfocused := by
  have hlist : u.xdg.configureList.map (·.unfocused) = v.xdg.configureList.map (·.unfocused) :=
    congrArg SizeDecisions.configures (h traffic u v hfresh hrun)
  rw [hu, hv, List.map_append, List.map_append] at hlist
  exact List.head_eq_of_cons_eq (List.append_inj_right' hlist rfl)

/-- What an opening tells of the states a configure has. -/
theorem SameDecisions.opening_eq [CInt] (h : SameDecisions cfg win) (before : List Action) {u v : Window}
    (hfresh : Run.run (Wlx.step cfg) .fresh before = some u)
    (hrun : Run.run (Wlx.step cfg) win before = some v) (hu : Unmapped u) (hv : Unmapped v) {request : Action}
    {f : ToplevelState → ToplevelState} (henabled : ∀ w, enabled w request = true)
    (hrequest : ∀ w, handle cfg w request = w.request f) :
    (f u.xdg.scheduled).unfocused = (f v.xdg.scheduled).unfocused := by
  obtain ⟨u', hu', hopenu⟩ := run_opening hu request henabled hrequest
  obtain ⟨v', hv', hopenv⟩ := run_opening hv request henabled hrequest
  refine h.last_eq (before ++ opening request) ?_ ?_ hopenu.configureList hopenv.configureList
  · rw [Run.run_append, hfresh, Option.bind_some, hu']
  · rw [Run.run_append, hrun, Option.bind_some, hv']

/-- **The states**: a window that is configured to one tells it with its next configure, and one that has
had its initial commit hears a request the fresh one does not. -/
theorem SameDecisions.states [CInt] (h : SameDecisions cfg win) (hwin : Unmapped win) :
    win.xdg.initialized = false ∧ win.xdg.scheduled.tiled = false := by
  constructor
  · -- asked to be maximized, the fresh window does nothing yet; the next configure tells
    by_contra hinit
    rw [Bool.not_eq_false] at hinit
    have hasked : Wlx.step cfg win (.requestMaximize true) = some { win with xdg :=
        { win.xdg with
          scheduled := { win.xdg.scheduled with maximized := true }
          configureIdle := true } } := by
      refine step_eq_some.mpr ⟨hwin.alive, rfl, ?_⟩
      rw [handle_requestMaximize, Window.request, if_pos (hwin.inv.sent hinit),
        XdgSurface.setState_of_initialized hinit]
    have hlast := h.opening_eq [.requestMaximize true] rfl
      (by rw [Run.run_cons, hasked]; rfl) blank_fresh.toUnmapped
      ⟨hwin.inv.step hasked, hwin.remembers.step hwin.inv hasked, hwin.mapped, hwin.alive⟩ (fun _ => rfl)
      (handle_requestFullscreen cfg false)
    have hmaximized : false = true := congrArg ToplevelState.maximized hlast
    cases hmaximized
  · -- the configure that answers a request about one state shows the other
    have hmaximized := congrArg ToplevelState.maximized
      (h.opening_eq [] rfl rfl blank_fresh.toUnmapped hwin (fun _ => rfl)
        (handle_requestFullscreen cfg false))
    have hfullscreen := congrArg ToplevelState.fullscreen
      (h.opening_eq [] rfl rfl blank_fresh.toUnmapped hwin (fun _ => rfl)
        (handle_requestMaximize cfg false))
    unfold ToplevelState.tiled
    rw [show win.xdg.scheduled.maximized = false from hmaximized.symm,
      show win.xdg.scheduled.fullscreen = false from hfullscreen.symm]
    rfl

/-- The window awaits its first buffer, is configured to no state, and keeps the sizes of `win`. -/
structure Readied (win v : Window) : Prop extends Unmapped v where
  configured : v.xdg.configured = true
  configureList : v.xdg.configureList = []
  pending : v.xdg.pending.tiled = false
  geometry : v.xdg.geometry = win.xdg.geometry
  lastClientConf : v.lastClientConf = win.lastClientConf
  fitHistory : v.fitHistory = win.fitHistory

/-- An opening whose configure is acknowledged. -/
def readying : List Action := opening (.requestMaximize false) ++ [.ackConfigure 0]

/-- A blank window is made ready for its map. -/
theorem run_readying [CInt] (cfg : Config) (h : Blank win) :
    ∃ v, Run.run (Wlx.step cfg) win readying = some v ∧ Readied win v := by
  obtain ⟨u, hu, hopen⟩ :=
    run_opening h.toUnmapped (.requestMaximize false) (fun _ => rfl) (handle_requestMaximize cfg false)
  have hlist : u.xdg.configureList = [{ win.xdg.scheduled with maximized := false }] := by
    rw [hopen.configureList, (h.inv.blank h.initialized).2.2.1]
    rfl
  -- the one configure of the list is acknowledged
  have hack : Wlx.step cfg u (.ackConfigure 0) = some { u with xdg :=
      { u.xdg with
        configureList := []
        pending := { win.xdg.scheduled with maximized := false }
        configured := true } } := by
    refine step_eq_some.mpr ⟨hopen.alive, ?_, ?_⟩
    · show decide (0 < u.xdg.configureList.length) = true
      rw [hlist]
      rfl
    · show ({ u with xdg := u.xdg.ackConfigure 0 } : Window) = _
      rw [XdgSurface.ackConfigure, hlist]
      rfl
  refine ⟨_, ?_, ⟨hopen.inv.step hack, hopen.remembers.step hopen.inv hack, hopen.mapped, hopen.alive⟩, rfl,
    rfl, ?_, hopen.geometry, hopen.lastClientConf, hopen.fitHistory⟩
  · rw [readying, Run.run_append, hu, Option.bind_some, Run.run_cons, hack]
    rfl
  · have hstates := h.states
    unfold ToplevelState.tiled at hstates ⊢
    rw [Bool.or_eq_false_iff] at hstates
    exact hstates.2

/-- The surface as far as the preferred size goes. -/
def sizedSurface (geometry : Box) (size : Size) : XdgSurface :=
  { XdgSurface.fresh with geometry := geometry, surfaceSize := size }

/-- The preferred size is computed from geometry and surface, -/
theorem toplevelPreferredSize_congr {x y : XdgSurface} (hgeo : x.geometry = y.geometry)
    (hsize : x.surfaceSize = y.surfaceSize) : toplevelPreferredSize cfg x = toplevelPreferredSize cfg y := by
  unfold toplevelPreferredSize committedSize
  rw [hgeo, hsize]

/-- and so is the one that is configured. -/
theorem geometryOrPreferred_congr {x y : XdgSurface} (hgeo : x.geometry = y.geometry)
    (hsize : x.surfaceSize = y.surfaceSize) : geometryOrPreferred cfg x = geometryOrPreferred cfg y := by
  unfold geometryOrPreferred
  rw [hgeo, toplevelPreferredSize_congr hgeo hsize]

/-- An output that has the size the client prefers keeps it. -/
theorem surfaceCommit_of_settled [CInt] (now : Int) (outcome : CommitOutcome) {out : X11Output}
    (ho : win.output = some out)
    (hsettled : cfg.scale (toplevelPreferredSize cfg win.xdg) = out.size) :
    surfaceCommit cfg now outcome win = releaseHostSize cfg (prepareCommit cfg win) out := by
  have hprep := prepareCommit_prepared cfg win
  -- the sizes agree, so there is nothing to decide
  have hmismatch : sizeMismatch cfg (prepareCommit cfg win) out = false := by
    unfold sizeMismatch
    rw [toplevelPreferredSize_congr hprep.xdg.geometry hprep.xdg.surfaceSize, hsettled]
    exact Size.differs_self (by decide) out.size
  have hidle : fitDecision cfg now (releaseHostSize cfg (prepareCommit cfg win) out) out = .idle := by
    have hreleased : sizeMismatch cfg (releaseHostSize cfg (prepareCommit cfg win) out) out = false :=
      hmismatch
    simp only [fitDecision, wantFit, hreleased, Bool.false_and, Bool.false_eq_true, if_false]
  rw [surfaceCommit, fitWindow, hprep.output, ho]
  dsimp only
  rw [hidle]
  rfl

/-- What a map does that gets an output, and the output its size. -/
theorem mapOnBuffer_created [CInt] (cfg : Config) (win : Window) (hmapped : win.xdg.mapped = false)
    (hbuf : win.xdg.hasBuffer = true) (hout : win.output = none) (hinit : win.xdg.initialized = true) :
    let v := win.mapOnBuffer cfg ⟨true, 0, .ok⟩
    ({ win.xdg with mapped := true } : XdgSurface).Scheduled v.xdg ∧ v.xdg.configureIdle = true ∧
      v.xdg.scheduled.size = ⟨0, 0⟩ ∧ v.outputSize = some (cfg.scale (toplevelPreferredSize cfg win.xdg)) ∧
      v.sizeFromWm = false ∧ v.lastClientConf = win.lastClientConf ∧ v.fitHistory = win.fitHistory := by
  intro v
  let out := ((X11Output.create 0).commitState (cfg.scale (toplevelPreferredSize cfg win.xdg)) .ok).1
  let created : Window := { win with
    xdg := ({ win.xdg with mapped := true } : XdgSurface).setSize ⟨0, 0⟩
    sizeFromWm := false
    output := some out
    lastOutputSize := out.size }
  -- the output takes the preferred size, and the window is activated
  have hv : v = created.setActiveWindow := by
    show win.mapOnBuffer cfg ⟨true, 0, .ok⟩ = _
    unfold mapOnBuffer xdgToplevelMap
    rw [hmapped, hbuf, hout]
    rfl
  have hidle : created.xdg.configureIdle = true := by
    show (XdgSurface.scheduleConfigure _).configureIdle = true
    rw [XdgSurface.scheduleConfigure_of_initialized (by exact hinit)]
  have hsize : created.xdg.scheduled.size = ⟨0, 0⟩ := by
    show (XdgSurface.scheduleConfigure _).scheduled.size = _
    rw [XdgSurface.scheduleConfigure_scheduled]
  have hquiet := Quiet.setActiveWindow created
  rw [hv]
  refine ⟨(XdgSurface.setSize_configured _ _).toScheduled.trans hquiet.xdg, hquiet.xdg.idle hidle, ?_, ?_,
    hquiet.sizeFromWm, hquiet.lastClientConf, ?_⟩
  · exact (congrArg ToplevelState.size hquiet.scheduled :).trans hsize
  · rw [outputSize, hquiet.output]
    exact congrArg some (X11Output.commitState_ok_size _ _)
  · rw [fitHistory, hquiet.fitLast, hquiet.fitPrev, hquiet.fitLastMsec]
    rfl

/-- A buffer may be attached once a configure is acknowledged. -/
theorem attach_allowed {x : XdgSurface} {size : Size} {box : Option Box} (hconf : x.configured = true)
    (hsize : size.isSet = true) (hbox : ∀ b ∈ box, b.size.isSet = true) :
    x.commitAllowed ⟨.attach size, box⟩ = true := by
  unfold XdgSurface.commitAllowed
  rw [hconf]
  cases box with
  | none => simp [Size.isSet_iff.mp hsize]
  | some b => simp [Size.isSet_iff.mp hsize, Size.isSet_iff.mp (hbox b rfl)]

/-- The first buffer, with an output that takes its size. -/
def mapCommit (size : Size) (box : Option Box) : Action :=
  .commit ⟨.attach size, box⟩ 0 ⟨true, 0, .ok⟩ .ok

/-- The window is mapped, at the size it prefers. -/
structure MappedAt [CInt] (cfg : Config) (win : Window) (size : Size) (box : Option Box)
    (v : Window) : Prop where
  alive : v.xdg.aborted = false
  mapped : v.xdg.mapped = true
  configured : v.xdg.configured = true
  configureList : v.xdg.configureList = []
  configureIdle : v.xdg.configureIdle = true
  scheduled : v.xdg.scheduled.size = ⟨0, 0⟩
  pending : v.xdg.pending.tiled = false
  geometry : v.xdg.geometry = box.getD win.xdg.geometry
  outputSize : v.outputSize =
    some (cfg.scale (toplevelPreferredSize cfg (sizedSurface (box.getD win.xdg.geometry) size)))
  sizeFromWm : v.sizeFromWm = false
  lastClientConf : v.lastClientConf = win.lastClientConf
  fitHistory : v.fitHistory = win.fitHistory

/-- The commit of a first buffer maps the window at the size it prefers. -/
theorem step_mapCommit [CInt] (cfg : Config) {base : Window} (hready : Readied base win) {size : Size}
    {box : Option Box} (hsize : size.isSet = true) (hbox : ∀ b ∈ box, b.size.isSet = true) :
    ∃ v, Wlx.step cfg win (mapCommit size box) = some v ∧ MappedAt cfg win size box v := by
  have hinit : win.xdg.initialized = true := by
    by_contra hinit
    have hblank := (hready.inv.blank (Bool.not_eq_true _ ▸ hinit)).1
    rw [hready.configured] at hblank
    cases hblank
  have hallowed := attach_allowed hready.configured hsize hbox
  have hkeep := (hready.inv.wlSurfaceCommit cfg 0 ⟨true, 0, .ok⟩ .ok ⟨.attach size, box⟩).2
  refine ⟨_, step_eq_some.mpr ⟨hready.alive, hallowed, rfl⟩, ?_⟩
  have haborted : (handle cfg win (mapCommit size box)).xdg.aborted = false := hkeep.trans hready.alive
  have hout := hready.inv.output_eq_none hready.mapped
  have hunmap : win.xdg.unmapCommit ⟨.attach size, box⟩ = false := by
    rw [XdgSurface.unmapCommit, hready.mapped]
    rfl
  obtain ⟨hxdg, hidle, hscheduled, hmode, howner, hconf, hhistory⟩ :=
    mapOnBuffer_created cfg (win.roleCommitted ⟨.attach size, box⟩) hready.mapped rfl hout rfl
  have hv : handle cfg win (mapCommit size box) =
      surfaceCommit cfg 0 .ok ((win.roleCommitted ⟨.attach size, box⟩).mapOnBuffer cfg ⟨true, 0, .ok⟩) := by
    show surfaceCommit cfg 0 .ok (applyCommit cfg ⟨true, 0, .ok⟩ ⟨.attach size, box⟩ win) = _
    rw [applyCommit_of_not_unmap cfg _ hunmap]
  rw [hv] at haborted ⊢
  generalize (win.roleCommitted ⟨.attach size, box⟩).mapOnBuffer cfg ⟨true, 0, .ok⟩ = mid at *
  obtain ⟨out, ho, hsize'⟩ := Option.map_eq_some_iff.mp hmode
  have hsettled : cfg.scale (toplevelPreferredSize cfg mid.xdg) = out.size := by
    rw [hsize', toplevelPreferredSize_congr hxdg.geometry hxdg.surfaceSize]
    rfl
  have hprep := prepareCommit_prepared cfg mid
  -- the output was created in the size the commit then asks for
  rw [surfaceCommit_of_settled 0 .ok ho hsettled] at haborted ⊢
  exact {
    alive := haborted
    mapped := hprep.xdg.mapped.trans hxdg.mapped
    configured := hprep.xdg.configured.trans (hxdg.configured.trans hready.configured)
    configureList := hprep.xdg.configureList.trans (hxdg.configureList.trans hready.configureList)
    configureIdle := hprep.xdg.idle hidle
    scheduled := (congrArg ToplevelState.size hprep.scheduled).trans hscheduled
    pending := by
      show (prepareCommit cfg mid).xdg.pending.tiled = false
      rw [hprep.xdg.pending, hxdg.pending]
      exact hready.pending
    geometry := hprep.xdg.geometry.trans hxdg.geometry
    outputSize := by
      show (prepareCommit cfg mid).output.map (·.size) = _
      rw [hprep.output]
      exact hmode.trans (congrArg (fun size => some (cfg.scale size)) (toplevelPreferredSize_congr rfl rfl))
    sizeFromWm := by
      show ((prepareCommit cfg mid).sizeFromWm && _) = false
      rw [hprep.sizeFromWm, howner]
      rfl
    lastClientConf := hprep.lastClientConf.trans hconf
    fitHistory := (prepareCommit_fitHistory cfg mid).trans hhistory }

/-- A resize that fails its tests leaves all but the record of the mode. -/
theorem resizeOutputTo_testFailed [CInt] (cfg : Config) (now : Int) (size : Size) (win : Window) :
    ∃ last, resizeOutputTo cfg now size .testFailed win = { win with lastOutputSize := last } := by
  unfold resizeOutputTo
  split
  · exact ⟨_, rfl⟩
  · rename_i out ho
    split
    · exact ⟨_, rfl⟩
    · split
      · exact ⟨_, rfl⟩
      -- what the backend refuses is not recorded
      · have hcommit : commitOutput cfg now size .testFailed win = win := by
          unfold commitOutput
          rw [ho]
          show { win with output := some out } = win
          rw [← ho]
        rw [hcommit]
        exact ⟨_, rfl⟩

/-- A fit the host refuses is noted all the same. -/
theorem fitHost_testFailed [CInt] (cfg : Config) (now : Int) (host conf : Size) (win : Window) :
    ∃ last, fitHost cfg now .testFailed host conf win =
      let noted : Window :=
        { win with fitPrev := win.fitLast, fitLast := host, fitLastMsec := now, lastOutputSize := last }
      if win.lastClientConf ≠ conf then noted.wlxToplevelSetSize conf else noted := by
  obtain ⟨last, hresize⟩ := resizeOutputTo_testFailed cfg now host
    { win with fitPrev := win.fitLast, fitLast := host, fitLastMsec := now }
  refine ⟨last, ?_⟩
  unfold fitHost
  dsimp only
  rw [hresize]

/-- A buffer of another size, with an output that does not take it. -/
def fitCommit (size : Size) (box : Option Box) (now : Int) : Action :=
  .commit ⟨.attach size, box⟩ now ⟨true, 0, .ok⟩ .testFailed

/-- **A fit** configures the client to its size, unless that is what is remembered. -/
theorem step_fitCommit [CInt] {base : Window} {size₀ size mode : Size} {box₀ : Option Box} (box : Option Box)
    (now : Int) (hinv : Inv win) (hmapped : MappedAt cfg base size₀ box₀ win) (hsize : size.isSet = true)
    (hbox : ∀ b ∈ box, b.size.isSet = true) (hmode : win.outputSize = some mode)
    (hmismatch : (cfg.scale (toplevelPreferredSize cfg
      (sizedSurface (box.getD win.xdg.geometry) size))).differs 1 mode = true)
    (hpasses : ∀ host, oscillates now win host = false) :
    let conf := geometryOrPreferred cfg (sizedSurface (box.getD win.xdg.geometry) size)
    ∃ v, Wlx.step cfg win (fitCommit size box now) = some v ∧ v.xdg.aborted = false ∧
      v.xdg.configureList = [] ∧ v.xdg.configureIdle = true ∧
      v.xdg.scheduled.size = if win.lastClientConf ≠ conf then conf else ⟨0, 0⟩ := by
  intro conf
  have hallowed := attach_allowed hmapped.configured hsize hbox
  have hkeep := (hinv.wlSurfaceCommit cfg now ⟨true, 0, .ok⟩ .testFailed ⟨.attach size, box⟩).2
  refine ⟨_, step_eq_some.mpr ⟨hmapped.alive, hallowed, rfl⟩, hkeep.trans hmapped.alive, ?_⟩
  have hunmap : win.xdg.unmapCommit ⟨.attach size, box⟩ = false := by
    rw [XdgSurface.unmapCommit]
    simp
  have hv : handle cfg win (fitCommit size box now) =
      surfaceCommit cfg now .testFailed (win.roleCommitted ⟨.attach size, box⟩) :=
    wlSurfaceCommit_of_mapped cfg now ⟨true, 0, .ok⟩ .testFailed hmapped.mapped hunmap
  obtain ⟨out, ho, hout⟩ := Option.map_eq_some_iff.mp hmode
  -- the commit fits
  have hfits : fitsHost cfg now (win.roleCommitted ⟨.attach size, box⟩) out = true := by
    have hdiffers : sizeMismatch cfg (win.roleCommitted ⟨.attach size, box⟩) out = true := by
      unfold sizeMismatch
      have hpref : toplevelPreferredSize cfg (win.roleCommitted ⟨.attach size, box⟩).xdg =
          toplevelPreferredSize cfg (sizedSurface (box.getD win.xdg.geometry) size) :=
        toplevelPreferredSize_congr rfl rfl
      rw [hout, hpref]
      exact hmismatch
    have hfloating : (win.roleCommitted ⟨.attach size, box⟩).tiled = false := by
      show (win.xdg.pending.tiled || win.xdg.pending.tiled) = false
      rw [hmapped.pending]
      rfl
    have howned : (win.roleCommitted ⟨.attach size, box⟩).sizeFromWm = false := hmapped.sizeFromWm
    have hpass : oscillates now (win.roleCommitted ⟨.attach size, box⟩)
        (wantedHost cfg (win.roleCommitted ⟨.attach size, box⟩)) = false := hpasses _
    simp only [fitsHost, hdiffers, hfloating, howned, hpass, Bool.not_false, Bool.true_or, Bool.and_self]
  have hprep := prepareCommit_prepared cfg (win.roleCommitted ⟨.attach size, box⟩)
  have ho' : (win.roleCommitted ⟨.attach size, box⟩).output = some out := ho
  obtain ⟨hout', hfits', -⟩ := prepareCommit_reads cfg now ho'
  have hconf :
      geometryOrPreferred cfg (prepareCommit cfg (win.roleCommitted ⟨.attach size, box⟩)).xdg = conf :=
    geometryOrPreferred_congr hprep.xdg.geometry hprep.xdg.surfaceSize
  rw [hv, surfaceCommit, fitWindow, hout']
  dsimp only
  rw [fitDecision_of_fits (hfits'.trans hfits), hconf]
  generalize prepareCommit cfg (win.roleCommitted ⟨.attach size, box⟩) = prepared at hprep
  obtain ⟨last, hfit⟩ := fitHost_testFailed cfg now (wantedHost cfg prepared) conf
    (releaseHostSize cfg prepared out)
  have hlast : (releaseHostSize cfg prepared out).lastClientConf = win.lastClientConf := hprep.lastClientConf
  have hlist : prepared.xdg.configureList = [] := hprep.xdg.configureList.trans hmapped.configureList
  have hidle : prepared.xdg.configureIdle = true := hprep.xdg.idle hmapped.configureIdle
  have hscheduled : prepared.xdg.scheduled.size = ⟨0, 0⟩ :=
    (congrArg ToplevelState.size hprep.scheduled).trans hmapped.scheduled
  have hrun : runDecision cfg now .testFailed (releaseHostSize cfg prepared out)
      (.fit (wantedHost cfg prepared) conf) =
      fitHost cfg now .testFailed (wantedHost cfg prepared) conf (releaseHostSize cfg prepared out) := rfl
  rw [hrun, hfit]
  dsimp only
  rw [hlast]
  split
  · have hset := (XdgSurface.setSize_configured prepared.xdg conf).toScheduled
    refine ⟨hset.configureList.trans hlist, hset.idle hidle, ?_⟩
    show (XdgSurface.scheduleConfigure _).scheduled.size = conf
    rw [XdgSurface.scheduleConfigure_scheduled]
  · exact ⟨hlist, hidle, hscheduled⟩

/-- A map, a fit and the configure that is scheduled by then. -/
def refitting (size₀ : Size) (box₀ : Option Box) (size : Size) (box : Option Box) (now : Int) : List Action :=
  readying ++ [mapCommit size₀ box₀, fitCommit size box now, .sendConfigure]

/-- Only the history of fits is read. -/
theorem oscillates_congr (h : v.fitHistory = win.fitHistory) (now : Int) (host : Size) :
    oscillates now v host = oscillates now win host := by
  obtain ⟨hlast, hprev, hmsec⟩ : v.fitLast = win.fitLast ∧ v.fitPrev = win.fitPrev ∧
      v.fitLastMsec = win.fitLastMsec := by
    simpa [fitHistory] using h
  unfold oscillates sinceFit
  rw [hlast, hprev, hmsec]

/-- From blank to mapped, at any size. -/
theorem run_mapped [CInt] (cfg : Config) (hblank : Blank win) {size : Size} {box : Option Box}
    (hsize : size.isSet = true) (hbox : ∀ b ∈ box, b.size.isSet = true) :
    ∃ u v, Readied win u ∧ Run.run (Wlx.step cfg) win (readying ++ [mapCommit size box]) = some v ∧ Inv v ∧
      MappedAt cfg u size box v := by
  obtain ⟨u, hu, hready⟩ := run_readying cfg hblank
  obtain ⟨v, hv, hmapped⟩ := step_mapCommit cfg hready hsize hbox
  refine ⟨u, v, hready, ?_, hready.inv.step hv, hmapped⟩
  rw [Run.run_append, hu, Option.bind_some, Run.run_cons, hv]
  rfl

/-- Mapped again and committed at another size, the window is fitted. -/
theorem run_refitting [CInt] (cfg : Config) (hblank : Blank win) {size₀ size : Size} {box₀ box : Option Box}
    {now : Int} (hsize₀ : size₀.isSet = true) (hbox₀ : ∀ b ∈ box₀, b.size.isSet = true)
    (hsize : size.isSet = true)
    (hbox : ∀ b ∈ box, b.size.isSet = true)
    (hmismatch : (cfg.scale (toplevelPreferredSize cfg
      (sizedSurface (box.getD (box₀.getD win.xdg.geometry)) size))).differs 1
        (cfg.scale (toplevelPreferredSize cfg (sizedSurface (box₀.getD win.xdg.geometry) size₀))) = true)
    (hpasses : ∀ host, oscillates now win host = false) :
    let conf := geometryOrPreferred cfg (sizedSurface (box.getD (box₀.getD win.xdg.geometry)) size)
    ∃ v s, Run.run (Wlx.step cfg) win (refitting size₀ box₀ size box now) = some v ∧
      v.xdg.configureList = [] ++ [s] ∧ s.size = if win.lastClientConf ≠ conf then conf else ⟨0, 0⟩ := by
  intro conf
  obtain ⟨u, m, hready, hm, hinv, hmapped⟩ := run_mapped cfg hblank hsize₀ hbox₀
  have hgeo : m.xdg.geometry = box₀.getD win.xdg.geometry := by rw [hmapped.geometry, hready.geometry]
  have hconf : m.lastClientConf = win.lastClientConf := hmapped.lastClientConf.trans hready.lastClientConf
  have hhistory : m.fitHistory = win.fitHistory := hmapped.fitHistory.trans hready.fitHistory
  -- the second commit is of another size, and the guard lets it pass
  obtain ⟨w, hw, halive, hlist, hidle, hscheduled⟩ := step_fitCommit box now hinv hmapped hsize hbox
    hmapped.outputSize (by rw [hgeo, hready.geometry]; exact hmismatch)
    fun host => (oscillates_congr hhistory now host).trans (hpasses host)
  have hsend : Wlx.step cfg w .sendConfigure = some { w with xdg := w.xdg.sendConfigure } :=
    step_eq_some.mpr ⟨halive, hidle, rfl⟩
  refine ⟨{ w with xdg := w.xdg.sendConfigure }, w.xdg.scheduled, ?_, ?_, ?_⟩
  · show Run.run _ win (readying ++ ([mapCommit size₀ box₀] ++ [fitCommit size box now, .sendConfigure])) = _
    rw [← List.append_assoc, Run.run_append, hm, Option.bind_some, Run.run_cons, hw, Option.bind_some,
      Run.run_cons, hsend]
    rfl
  · show w.xdg.configureList ++ [w.xdg.scheduled] = _
    rw [hlist]
  · rw [hscheduled, hgeo, hconf]

/-! ## Sizes that tell

A client can ask for any size, so integers have no bound from here on. -/

/-- A side is as large on the host as it needs to be. -/
theorem exists_scale (cfg : Config) (m n : Int) : ∃ side, m ≤ side ∧ n < wlxScaleSize cfg side := by
  unfold wlxScaleSize
  split
  · exact ⟨max m (n + 1), le_max_left .., lt_of_lt_of_le (lt_add_one n) (le_max_right ..)⟩
  · rename_i hscale
    have hpos : 0 < cfg.contentScale := not_le.mp hscale
    let q : ℚ := (n + 1) / cfg.contentScale
    let k : Int := max m (lround q + 1)
    -- one more than the quotient, rounded
    have hk : q < k := by
      have hle : lround q + 1 ≤ k := le_max_right ..
      have hle' : (lround q : ℚ) + 1 ≤ k := by exact_mod_cast hle
      obtain ⟨hlow, -⟩ := lround_bounds q
      linarith
    have hlarge : (n + 1 : ℚ) < k * cfg.contentScale := (div_lt_iff₀ hpos).mp hk
    obtain ⟨hlow, -⟩ := lround_bounds (k * cfg.contentScale)
    have hround : (n : ℚ) < lround (k * cfg.contentScale) := by linarith
    exact ⟨k, le_max_left .., lt_of_lt_of_le (by exact_mod_cast hround) (le_max_right ..)⟩

/-- A square that is large enough is preferred as it is. -/
theorem toplevelPreferredSize_square {x : XdgSurface} {side : Int} (hside : minOutputSize ≤ side)
    (hsize : committedSize cfg x = ⟨side, side⟩) : toplevelPreferredSize cfg x = ⟨side, side⟩ := by
  unfold toplevelPreferredSize
  rw [hsize]
  simp only [not_lt.mpr hside, if_false]

/-- Without a geometry the surface counts, -/
theorem sizedSurface_of_noGeometry (cfg : Config) (size : Size) (hsize : size.isSet = true) :
    committedSize cfg (sizedSurface Box.zero size) = size := by
  unfold committedSize sizedSurface
  dsimp only
  rw [hsize, if_neg (by simp [Box.zero, Box.size]), if_pos rfl]

/-- with one of its size either does, -/
theorem sizedSurface_of_sameSize (cfg : Config) (size : Size) (hsize : size.isSet = true) :
    committedSize cfg (sizedSurface ⟨0, 0, size.width, size.height⟩ size) = size := by
  unfold committedSize sizedSurface
  dsimp only
  rw [hsize]
  split <;> rfl

/-- and with client decorations preferred the surface counts again. -/
theorem sizedSurface_of_preferCsd (hcsd : cfg.preferCsd = true) (geometry : Box) {size : Size}
    (hsize : size.isSet = true) : committedSize cfg (sizedSurface geometry size) = size := by
  unfold committedSize sizedSurface
  dsimp only
  rw [hcsd, hsize, if_neg (by simp), if_pos rfl]

/-- Sizes whose widths are two pixels apart on the host differ. -/
theorem differs_of_far {s t : Size} (hfar : s.width + 1 < t.width ∨ t.width + 1 < s.width) :
    s.differs 1 t = true := by
  have hwidth : 1 < |s.width - t.width| := by
    rw [lt_abs]
    omega
  simp [Size.differs, hwidth]

/-- No size that is set is empty. -/
theorem zero_ne_of_isSet {size : Size} (hset : size.isSet = true) : (⟨0, 0⟩ : Size) ≠ size := fun hz => by
  rw [← hz] at hset
  exact absurd hset (by decide)

theorem square_isSet {side : Int} (hside : minOutputSize ≤ side) : (⟨side, side⟩ : Size).isSet = true := by
  unfold minOutputSize at hside
  exact Size.isSet_iff.mpr ⟨by dsimp only; omega, by dsimp only; omega⟩

/-- The guard against oscillation lets a fit pass that is late enough. -/
theorem oscillates_late (win : Window) (host : Size) :
    oscillates (win.fitLastMsec + fitOscillationMs) win host = false := by
  have hlate : ¬(0 ≤ sinceFit (win.fitLastMsec + fitOscillationMs) win ∧
      sinceFit (win.fitLastMsec + fitOscillationMs) win < fitOscillationMs) := by
    unfold sinceFit
    split <;> omega
  unfold oscillates
  by_contra hpass
  simp only [Bool.not_eq_false, Bool.and_eq_true, decide_eq_true_eq] at hpass
  exact hlate ⟨hpass.1.1.1.2, hpass.1.1.2⟩

/-- Without a history nothing oscillates. -/
theorem oscillates_fresh (now : Int) (host : Size) : oscillates now .fresh host = false := rfl

/-- What a late fit tells of the size that is remembered: the fresh window configures any. -/
theorem SameDecisions.refitting_eq [CInt] (h : SameDecisions cfg win) (hblank : Blank win) {size₀ size : Size}
    {box₀ box : Option Box} (hsize₀ : size₀.isSet = true) (hbox₀ : ∀ b ∈ box₀, b.size.isSet = true)
    (hsize : size.isSet = true) (hbox : ∀ b ∈ box, b.size.isSet = true)
    (hmismatch : ∀ geometry, (cfg.scale (toplevelPreferredSize cfg
      (sizedSurface (box.getD (box₀.getD geometry)) size))).differs 1
        (cfg.scale (toplevelPreferredSize cfg (sizedSurface (box₀.getD geometry) size₀))) = true) :
    let conf (geometry : Box) :=
      geometryOrPreferred cfg (sizedSurface (box.getD (box₀.getD geometry)) size)
    conf Box.zero =
      if win.lastClientConf ≠ conf win.xdg.geometry then conf win.xdg.geometry else ⟨0, 0⟩ := by
  intro conf
  obtain ⟨u, s, hu, hus, hs⟩ := run_refitting cfg blank_fresh hsize₀ hbox₀ hsize hbox (hmismatch _)
    (oscillates_fresh (win.fitLastMsec + fitOscillationMs))
  obtain ⟨v, t, hv, hvt, ht⟩ := run_refitting cfg hblank hsize₀ hbox₀ hsize hbox (hmismatch _)
    (oscillates_late win)
  -- both send a configure, and have to send the same
  have hsizes : s.size = t.size := (congrArg ToplevelState.size (h.last_eq _ hu hv hus hvt) :)
  have hs' : s.size = conf Box.zero := by
    rw [hs]
    split
    · rfl
    · rename_i hzero
      exact not_not.mp hzero
  rw [← hs', hsizes, ht]

/-- **The configured size**: a client that comes back to the size it was configured to last is not told
so when the host does not follow. -/
theorem SameDecisions.conf (h : SameDecisions cfg win) (hblank : Blank win) :
    win.lastClientConf = ⟨0, 0⟩ := by
  rcases hblank.remembers.sized with hset | ⟨hzero, -⟩
  swap
  · exact hzero
  generalize hlast : win.lastClientConf = last at hset
  -- mapped far from the last size, and back to it
  obtain ⟨side, hside, hfar⟩ := exists_scale cfg minOutputSize
    (wlxScaleSize cfg
      (toplevelPreferredSize cfg (sizedSurface ⟨0, 0, last.width, last.height⟩ last)).width + 1)
  have hsquare := square_isSet hside
  have hmismatch : (cfg.scale (toplevelPreferredSize cfg
      (sizedSurface ⟨0, 0, last.width, last.height⟩ last))).differs 1
        (cfg.scale (toplevelPreferredSize cfg (sizedSurface ⟨0, 0, side, side⟩ ⟨side, side⟩))) = true := by
    refine differs_of_far (.inl ?_)
    rw [toplevelPreferredSize_square hside (sizedSurface_of_sameSize cfg ⟨side, side⟩ hsquare)]
    exact hfar
  have hconf : geometryOrPreferred cfg (sizedSurface ⟨0, 0, last.width, last.height⟩ last) = last := by
    obtain ⟨hw, hh⟩ := Size.isSet_iff.mp hset
    unfold geometryOrPreferred sizedSurface
    dsimp only
    rw [if_pos hw, if_pos hh]
  have hbox {size : Size} (hsize : size.isSet = true) :
      ∀ b ∈ some (⟨0, 0, size.width, size.height⟩ : Box), b.size.isSet = true := fun b hb => by
    obtain rfl := Option.some_inj.mp hb
    exact hsize
  have htold := h.refitting_eq hblank hsquare (hbox hsquare) hset (hbox hset) fun _ => hmismatch
  simp only [Option.getD_some, hconf, hlast, ne_eq, not_true_eq_false, if_false] at htold
  exact absurd htold.symm (zero_ne_of_isSet hset)

/-- Where the geometry goes before the buffer, the output is created in its size. -/
theorem SameDecisions.geometry_of_noCsd (h : SameDecisions cfg win) (hblank : Blank win)
    (hcsd : cfg.preferCsd = false) : win.xdg.geometry.size.isSet = false := by
  rw [← Bool.not_eq_true]
  intro hset
  obtain ⟨side, hside, hfar⟩ := exists_scale cfg minOutputSize
    (wlxScaleSize cfg
      (toplevelPreferredSize cfg (sizedSurface win.xdg.geometry win.xdg.geometry.size)).width)
  have hsquare := square_isSet hside
  have hnone : ∀ b ∈ (none : Option Box), b.size.isSet = true := fun b hb => absurd hb (Option.not_mem_none b)
  obtain ⟨b, u, hb, hu, -, hmapped⟩ := run_mapped cfg blank_fresh hsquare hnone
  obtain ⟨b', v, hb', hv, -, hmapped'⟩ := run_mapped cfg hblank hsquare hnone
  have houtput : u.outputSize = v.outputSize :=
    congrArg (fun d => d.output.map (·.size)) (h _ u v hu hv)
  -- the buffer's size in one, the geometry's in the other
  have hpref : toplevelPreferredSize cfg (sizedSurface win.xdg.geometry ⟨side, side⟩) =
      toplevelPreferredSize cfg (sizedSurface win.xdg.geometry win.xdg.geometry.size) := by
    unfold toplevelPreferredSize committedSize sizedSurface
    dsimp only
    rw [hcsd, hset]
    rfl
  rw [hmapped.outputSize, hmapped'.outputSize, Option.getD_none, Option.getD_none, hb.geometry,
    hb'.geometry, show Window.fresh.xdg.geometry = Box.zero from rfl, Option.some_inj,
    toplevelPreferredSize_square hside (sizedSurface_of_noGeometry cfg ⟨side, side⟩ hsquare),
    hpref] at houtput
  exact absurd (congrArg Size.width houtput) hfar.ne'

/-- Where it does not, a fit configures the client to it. -/
theorem SameDecisions.geometry_of_csd (h : SameDecisions cfg win) (hblank : Blank win)
    (hcsd : cfg.preferCsd = true) (hconf : win.lastClientConf = ⟨0, 0⟩) :
    win.xdg.geometry.size.isSet = false := by
  rw [← Bool.not_eq_true]
  intro hset
  -- mapped small, and enlarged beyond the geometry
  obtain ⟨side, hside, hfar⟩ := exists_scale cfg (max minOutputSize (win.xdg.geometry.width + 1))
    (wlxScaleSize cfg minOutputSize + 1)
  obtain ⟨hmin, hwide⟩ := max_le_iff.mp hside
  have hpref (geometry : Box) {n : Int} (hn : minOutputSize ≤ n) :
      toplevelPreferredSize cfg (sizedSurface geometry ⟨n, n⟩) = ⟨n, n⟩ :=
    toplevelPreferredSize_square hn (sizedSurface_of_preferCsd hcsd geometry (square_isSet hn))
  have hmismatch (geometry : Box) :
      (cfg.scale (toplevelPreferredSize cfg (sizedSurface geometry ⟨side, side⟩))).differs 1
        (cfg.scale (toplevelPreferredSize cfg
          (sizedSurface geometry ⟨minOutputSize, minOutputSize⟩))) = true := by
    refine differs_of_far (.inr ?_)
    rw [hpref _ hmin, hpref _ (le_refl _)]
    exact hfar
  have hplain : geometryOrPreferred cfg (sizedSurface Box.zero ⟨side, side⟩) = ⟨side, side⟩ := by
    unfold geometryOrPreferred
    rw [hpref _ hmin]
    rfl
  have hkept :
      geometryOrPreferred cfg (sizedSurface win.xdg.geometry ⟨side, side⟩) = win.xdg.geometry.size := by
    obtain ⟨hw, hh⟩ := Size.isSet_iff.mp hset
    unfold geometryOrPreferred
    exact congrArg₂ Size.mk (if_pos hw) (if_pos hh)
  have hnone : ∀ b ∈ (none : Option Box), b.size.isSet = true := fun b hb => absurd hb (Option.not_mem_none b)
  have htold := h.refitting_eq hblank (square_isSet (le_refl minOutputSize)) hnone (square_isSet hmin) hnone
    hmismatch
  rw [hconf] at htold
  simp only [Option.getD_none, hplain, hkept, ne_eq, zero_ne_of_isSet hset, not_false_eq_true,
    if_true] at htold
  have hwidth : side = win.xdg.geometry.width := congrArg Size.width htold
  omega

/-- **The geometry**: the decisions depend on it either way. -/
theorem SameDecisions.geometry (h : SameDecisions cfg win) (hblank : Blank win)
    (hconf : win.lastClientConf = ⟨0, 0⟩) : win.xdg.geometry = Box.zero := by
  have hunset : win.xdg.geometry.size.isSet = false := by
    cases hcsd : cfg.preferCsd with
    | false => exact h.geometry_of_noCsd hblank hcsd
    | true => exact h.geometry_of_csd hblank hcsd hconf
  rcases hblank.remembers.geometry with hzero | hset
  · exact hzero
  · rw [hunset] at hset
    cases hset

/-- A failed assertion is about a surface that awaits its initial commit. -/
theorem configureList_of_aborted [CInt] (hinv : Inv win) {a : Action} (hstep : Wlx.step cfg win a = some v)
    (habort : v.xdg.aborted = true) : v.xdg.configureList = [] := by
  have hearly : ¬RequestsWhenReady win a := fun hready => by
    rw [(aborted_step hinv hstep).mpr hready] at habort
    cases habort
  -- such a surface has been sent no configure
  have hblank (hready : ¬(win.initialConfigureSent = true → win.xdg.initialized = true)) {x : XdgSurface}
      (hx : win.xdg.Scheduled x) : x.configureList = [] := by
    have hinit : win.xdg.initialized = false := by
      rw [← Bool.not_eq_true]
      exact fun hinit => hready fun _ => hinit
    exact hx.configureList.trans (hinv.blank hinit).2.2.1
  obtain ⟨-, -, rfl⟩ := step_eq_some.mp hstep
  cases a with
  | requestMaximize want => exact hblank hearly (request_keeps ({ · with maximized := want }) win)
  | requestFullscreen want => exact hblank hearly (request_keeps ({ · with fullscreen := want }) win)
  | newDecoration => exact hblank hearly (Quiet.wlxDecorationApplyMode { win with decoration := true }).xdg
  | requestDecorationMode => exact hblank hearly (Quiet.wlxDecorationApplyMode win).xdg
  | _ => exact absurd trivial hearly

/-- A connection that is closed has nothing to acknowledge. -/
theorem run_configureList_of_aborted [CInt] {history : List Action}
    (hrun : Run.run (Wlx.step cfg) .fresh history = some win) (habort : win.xdg.aborted = true) :
    win.xdg.configureList = [] :=
  (Run.run_invariant (I := fun w => Inv w ∧ (w.xdg.aborted = true → w.xdg.configureList = []))
    (fun _ _ _ h hstep => ⟨h.1.step hstep, configureList_of_aborted h.1 hstep⟩)
    ⟨Inv.fresh, fun h => nomatch h⟩ hrun).2 habort

/-- Nothing follows a failed assertion. -/
theorem SameDecisions.of_aborted [CInt] (habort : win.xdg.aborted = true) (hlist : win.xdg.configureList = [])
    (hout : win.output = none) : SameDecisions cfg win := by
  intro traffic u v hfresh hrun
  cases traffic with
  | nil =>
    cases hfresh
    cases hrun
    unfold sizeDecisions
    rw [hlist, hout]
    rfl
  | cons a as =>
    obtain ⟨w, hw, -⟩ := Run.run_cons_inv hrun
    have halive := (step_eq_some.mp hw).1
    rw [habort] at halive
    cases halive

/-- **What is left decides**: a window whose history ends unmapped makes the same decisions as a fresh one
iff the history leaves nothing, or has ended the session. -/
theorem sameDecisions_iff (cfg : Config) {history : List Action}
    (hrun : Run.run (Wlx.step cfg) .fresh history = some win) (hunmapped : win.xdg.mapped = false) :
    SameDecisions cfg win ↔ win.xdg.aborted = true ∨ LeavesNothing win := by
  obtain ⟨hinv, hrem⟩ := Remembers.run hrun
  cases habort : win.xdg.aborted with
  | true =>
    have hlist := run_configureList_of_aborted hrun habort
    exact iff_of_true (.of_aborted habort hlist (hinv.output_eq_none hunmapped)) (.inl rfl)
  | false =>
    constructor
    · intro h
      have hwin : Unmapped win := ⟨hinv, hrem, hunmapped, habort⟩
      -- each thing that is left is told by traffic of its own
      obtain ⟨hinit, hstates⟩ := h.states hwin
      have hblank : Blank win := ⟨hwin, hinit, hstates⟩
      have hconf := h.conf hblank
      exact .inr ⟨hinit, h.geometry hblank hconf, hconf, hstates⟩
    · rintro (hfailed | h) traffic u v hfresh hagain
      · cases hfailed
      · exact (h.alike hinv hrem hunmapped).run Inv.fresh hinv hfresh hagain

end Traffic

/-- A null buffer. -/
def nullCommit (now : Int) : Action := .commit ⟨.detach, none⟩ now ⟨true, 0, .ok⟩ .ok

/-- A client that maps without a geometry, keeps its size and unmaps. -/
def plainRun : List Action := readying ++ [mapCommit ⟨800, 600⟩ none, nullCommit 2000]

/-- It leaves nothing to its next mapping. -/
theorem plainRun_sameDecisions :
    ∃ win, Run.run (Wlx.step ⟨1, false⟩) .fresh plainRun = some win ∧ SameDecisions ⟨1, false⟩ win := by
  have hleft : (Run.run (Wlx.step ⟨1, false⟩) .fresh plainRun).map
      (fun win => decide (win.xdg.mapped = false ∧ win.LeavesNothing)) = some true := by decide +kernel
  obtain ⟨win, hwin, hleft⟩ := Option.map_eq_some_iff.mp hleft
  obtain ⟨hunmapped, hnothing⟩ := of_decide_eq_true hleft
  exact ⟨win, hwin, (sameDecisions_iff ⟨1, false⟩ hwin hunmapped).mpr (.inr hnothing)⟩

/-- A client that maps at 800x600 and shrinks to 400x300. It asks not to be maximized first, as there is no
initial configure for a window that is mapped again. -/
def shrinkRun (now : Int) : List Action :=
  [.commit ⟨.keep, none⟩ now ⟨true, 0, .ok⟩ .ok, .requestMaximize false, .sendConfigure, .ackConfigure 0,
    .commit ⟨.attach ⟨800, 600⟩, some ⟨0, 0, 800, 600⟩⟩ (now + 10) ⟨true, 0, .ok⟩ .ok,
    .commit ⟨.attach ⟨400, 300⟩, some ⟨0, 0, 400, 300⟩⟩ (now + 1000) ⟨true, 0, .ok⟩ .ok, .sendConfigure]

/-- When it does all that a second time, it is not configured to 400x300. -/
theorem shrinkRun_again_differs :
    ¬ ∀ (cfg : Config) (history : List Action) (win : Window),
      Run.run (Wlx.step cfg) .fresh history = some win → win.xdg.mapped = false → SameDecisions cfg win := by
  intro h
  have hunmapped : (Run.run (Wlx.step ⟨1, false⟩) .fresh (shrinkRun 1000 ++ [nullCommit 3000])).map
      (·.xdg.mapped) = some false := by decide +kernel
  obtain ⟨win, hwin, hunmapped⟩ := Option.map_eq_some_iff.mp hunmapped
  have hfirst : (Run.run (Wlx.step ⟨1, false⟩) .fresh (shrinkRun 5000)).map
      (fun v => v.xdg.configureList.map (·.size)) = some [⟨400, 300⟩] := by decide +kernel
  have hagain : (Run.run (Wlx.step ⟨1, false⟩) .fresh
      (shrinkRun 1000 ++ [nullCommit 3000] ++ shrinkRun 5000)).map
      (fun v => v.xdg.configureList.map (·.size)) = some [⟨0, 0⟩] := by decide +kernel
  rw [Run.run_append, hwin, Option.bind_some] at hagain
  obtain ⟨u, hu, hsizes⟩ := Option.map_eq_some_iff.mp hfirst
  obtain ⟨v, hv, hsizes'⟩ := Option.map_eq_some_iff.mp hagain
  have hlists : u.xdg.configureList.map (·.unfocused) = v.xdg.configureList.map (·.unfocused) :=
    congrArg SizeDecisions.configures (h ⟨1, false⟩ _ win hwin hunmapped (shrinkRun 5000) u v hu hv)
  have hsame : u.xdg.configureList.map (·.size) = v.xdg.configureList.map (·.size) := by
    have hmapped := congrArg (List.map ToplevelState.size) hlists
    rw [List.map_map, List.map_map] at hmapped
    exact hmapped
  rw [hsizes, hsizes'] at hsame
  exact absurd hsame (by decide)

end Window

end Wlx
