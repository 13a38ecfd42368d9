import WlX11.Window

/-!
# WlX11 — the handlers of one toplevel

The listeners and event handlers of `xdg.c`, `x11.c` and `move_resize.c` that act on one toplevel,
in the order a reader meets them in the life of a window: `surface_commit` and its size decision,
map and unmap, the maximize/fullscreen and decoration requests, the host's `_NET_WM_STATE`,
`output_request_state`, the size sync after a `ReparentNotify`, and focus.
-/

namespace Wlx

open X11Output (CommitOutcome)

namespace Window

variable [CInt]

/-! ## `surface_commit`

The listener runs after wlroots has applied the commit. It is cut here at its own comments: drop
the stretch hold, send the initial configure, answer a waiting decoration, track the CSD margin, and
fit the X11 window. -/

/-- The client's buffer roughly matches the host size again: stop holding the last frame. -/
def dropHold (cfg : Config) (win : Window) : Window :=
  match win.output with
  | none => win
  | some out =>
    let shown := if !cfg.preferCsd && win.xdg.geometry.size.isSet
      then win.xdg.geometry.size else win.xdg.surfaceSize
    if win.holdPresent && !shown.differs 2 (cfg.unscale out.size)
      then { win with holdPresent := false } else win

/-- The first commit of the window answers with the capabilities and a configure. -/
def sendInitialConfigure (win : Window) : Window :=
  if win.initialConfigureSent then win
  else
    { win with
      initialConfigureSent := true
      xdg := win.xdg.setWmCapabilities.scheduleConfigure }

/-- A decoration that came before the initial configure gets its mode now. -/
def applyPendingDecoration (win : Window) : Window :=
  if win.pendingDecoration then
    { win with pendingDecoration := false, xdg := win.xdg.decorationSetMode }
  else win

/-- `csd_margin`: buffer minus geometry, when both are set. -/
def trackCsdMargin (win : Window) : Window :=
  let x := win.xdg
  if x.geometry.size.isSet && x.surfaceSize.isSet then
    { win with csdMargin :=
        ⟨max 0 (x.surfaceSize.width - x.geometry.width),
          max 0 (x.surfaceSize.height - x.geometry.height)⟩ }
  else win

/-- `size_mismatch`: the host size the client would like differs from the output by more than 1. -/
def sizeMismatch (cfg : Config) (win : Window) (out : X11Output) : Bool :=
  (cfg.scale (toplevelPreferredSize cfg win.xdg)).differs 1 out.size

/-- `conf_differs`: the committed geometry is not the one last configured. -/
def confDiffers (cfg : Config) (win : Window) : Bool :=
  !win.lastClientConf.isSet || (geometryOrPreferred cfg win.xdg).differs 1 win.lastClientConf

/-- `assert_shrink`: an untiled client asserts a size of its own that is smaller than the output in
some dimension. -/
def assertShrink (cfg : Config) (win : Window) (out : X11Output) : Bool :=
  let want := cfg.scale (toplevelPreferredSize cfg win.xdg)
  sizeMismatch cfg win out && confDiffers cfg win && !win.tiled &&
    (want.width < out.size.width - 1 || want.height < out.size.height - 1)

/-- Only a shrink releases `size_from_wm`. -/
def releaseHostSize (cfg : Config) (win : Window) (out : X11Output) : Window :=
  { win with sizeFromWm := win.sizeFromWm && !assertShrink cfg win out }

/-- What `surface_commit` does about the size. -/
inductive FitDecision where
  /-- resize the output to the host size and configure the client -/
  | fit (host conf : Size)
  /-- the fit would undo the previous one too soon -/
  | oscillation
  /-- the host owns the size: make the client fill it -/
  | hold
  /-- sizes agree, or the wanted size is too small to fit -/
  | idle
deriving DecidableEq, Repr

/-- `want_fit`: an untiled client that owns its size and wants another one. -/
def wantFit (cfg : Config) (win : Window) (out : X11Output) : Bool :=
  let want := toplevelPreferredSize cfg win.xdg
  sizeMismatch cfg win out && !win.tiled && !win.sizeFromWm &&
    minOutputSize ≤ want.width && minOutputSize ≤ want.height

/-- `since_fit`. -/
def sinceFit (now : Int) (win : Window) : Int :=
  if 0 < win.fitLastMsec then now - win.fitLastMsec else -1

/-- The A→B→A guard for a fit to `host`. -/
def oscillates (now : Int) (win : Window) (host : Size) : Bool :=
  0 < win.fitLast.width && 0 < win.fitPrev.width &&
    0 ≤ sinceFit now win && sinceFit now win < fitOscillationMs &&
    host = win.fitPrev && win.fitLast ≠ win.fitPrev

/-- The decision for a window whose `size_from_wm` is already updated by `releaseHostSize`. -/
def fitDecision (cfg : Config) (now : Int) (win : Window) (out : X11Output) : FitDecision :=
  let host := cfg.scale (toplevelPreferredSize cfg win.xdg)
  if wantFit cfg win out then
    if oscillates now win host then .oscillation
    else .fit host (geometryOrPreferred cfg win.xdg)
  else if sizeMismatch cfg win out && (win.sizeFromWm || win.tiled) then .hold
  else .idle

/-- The `want_fit` branch: record the fit, resize the output, configure the client. -/
def fitHost (cfg : Config) (now : Int) (outcome : CommitOutcome) (host conf : Size)
    (win : Window) : Window :=
  let win := resizeOutputTo cfg now host outcome
    { win with fitPrev := win.fitLast, fitLast := host, fitLastMsec := now }
  if win.lastClientConf ≠ conf then win.wlxToplevelSetSize conf else win

/-- Carry out a decision. -/
def runDecision (cfg : Config) (now : Int) (outcome : CommitOutcome) (win : Window) :
    FitDecision → Window
  | .fit host conf => fitHost cfg now outcome host conf win
  | .hold => wlxToplevelFillHost cfg now win
  | .oscillation => win
  | .idle => win

/-- "Fit the X11 window". -/
def fitWindow (cfg : Config) (now : Int) (outcome : CommitOutcome) (win : Window) : Window :=
  match win.output with
  | none => win
  | some out =>
    let win := releaseHostSize cfg win out
    runDecision cfg now outcome win (fitDecision cfg now win out)

/-- The part of `surface_commit` that comes before the fit. -/
def prepareCommit (cfg : Config) (win : Window) : Window :=
  (dropHold cfg win).sendInitialConfigure.applyPendingDecoration.trackCsdMargin

/-- `surface_commit`. -/
def surfaceCommit (cfg : Config) (now : Int) (outcome : CommitOutcome) (win : Window) : Window :=
  fitWindow cfg now outcome (prepareCommit cfg win)

/-! ## Focus -/

/-- `set_active_window` for this window. -/
def setActiveWindow (win : Window) : Window :=
  if win.focused then win else { win with focused := true, xdg := win.xdg.setActivated true }

/-- `set_active_window` for another window, or for none. -/
def setInactive (win : Window) : Window :=
  if win.focused then { win with focused := false, xdg := win.xdg.setActivated false } else win

/-! ## Map and unmap -/

/-- How the requests a map makes turn out: whether the backend can create an output, the sequence
number its connection is at, and the first mode commit. -/
structure MapEnv where
  created : Bool
  seq : Nat
  outcome : CommitOutcome
deriving DecidableEq, Repr

/-- `create_output_for_window`. The listeners are attached after the first commit, so that one runs
no handler. -/
def createOutputForWindow (cfg : Config) (env : MapEnv) (win : Window) : Window :=
  if env.created then
    let out := ((X11Output.create env.seq).commitState
      (cfg.scale (toplevelPreferredSize cfg win.xdg)) env.outcome).1
    { win with sizeFromWm := false, output := some out, lastOutputSize := out.size }.wlxToplevelSetSize
      ⟨0, 0⟩
  else { win with sizeFromWm := false }

/-- `xdg_toplevel_map`. -/
def xdgToplevelMap (cfg : Config) (env : MapEnv) (win : Window) : Window :=
  if win.output.isSome then win
  else
    let win := createOutputForWindow cfg env win
    if win.output.isSome then win.setActiveWindow else win

/-- The `output_destroy` listener: the X11 window is gone, and with it the focus. -/
def outputDestroy (win : Window) : Window := { win with output := none, focused := false }

/-- `xdg_toplevel_unmap`. -/
def xdgToplevelUnmap (win : Window) : Window :=
  if win.output.isSome then win.outputDestroy else win

/-- A null buffer on a mapped surface unmaps it before anything else (`wlr_surface_unmap`). -/
def unmapOnNull (c : SurfaceCommit) (win : Window) : Window :=
  if win.xdg.unmapCommit c then { win with xdg := { win.xdg with mapped := false } }.xdgToplevelUnmap
  else win

/-- `xdg_surface_role_commit` maps a surface that has a buffer (`wlr_surface_map`). -/
def mapOnBuffer (cfg : Config) (env : MapEnv) (win : Window) : Window :=
  if !win.xdg.mapped && win.xdg.hasBuffer then
    { win with xdg := { win.xdg with mapped := true } }.xdgToplevelMap cfg env
  else win

/-- A `wl_surface.commit` as wlroots runs it, up to the program's commit listener: unmap on a null
buffer, apply the pending state, the role's own commit, map when there is a buffer. -/
def applyCommit (cfg : Config) (env : MapEnv) (c : SurfaceCommit) (win : Window) : Window :=
  let unmapped := win.unmapOnNull c
  { unmapped with
    xdg := (unmapped.xdg.applyPending c).roleCommit (win.xdg.unmapCommit c) }.mapOnBuffer cfg env

/-- A `wl_surface.commit` with the program's commit listener, which comes last. -/
def wlSurfaceCommit (cfg : Config) (now : Int) (env : MapEnv) (outcome : CommitOutcome)
    (c : SurfaceCommit) (win : Window) : Window :=
  surfaceCommit cfg now outcome (applyCommit cfg env c win)

/-! ## Client requests -/

/-- `toplevel_request_maximize`: always answer with a configure, except before the first one. -/
def toplevelRequestMaximize (want : Bool) (win : Window) : Window :=
  if win.initialConfigureSent then { win with xdg := win.xdg.setMaximized want } else win

/-- `toplevel_request_fullscreen`. -/
def toplevelRequestFullscreen (want : Bool) (win : Window) : Window :=
  if win.initialConfigureSent then { win with xdg := win.xdg.setFullscreen want } else win

/-- `wlx_decoration_apply_mode`: apply the mode, or queue it until the initial configure. -/
def wlxDecorationApplyMode (win : Window) : Window :=
  if win.initialConfigureSent then { win with xdg := win.xdg.decorationSetMode }
  else { win with pendingDecoration := true }

/-- `server_new_toplevel_decoration`. -/
def serverNewToplevelDecoration (win : Window) : Window :=
  { win with decoration := true }.wlxDecorationApplyMode

/-- `decoration_destroy`. -/
def decorationDestroy (win : Window) : Window :=
  { win with decoration := false, pendingDecoration := false }

/-! ## Host events -/

/-- The atoms of `_NET_WM_STATE` the program looks for. -/
inductive NetWmAtom where
  | maximizedVert
  | maximizedHorz
  | fullscreen
  | other
deriving DecidableEq, Repr

/-- The two states mirrored to the client. -/
structure NetWmState where
  maximized : Bool
  fullscreen : Bool
deriving DecidableEq, Repr

/-- Read `_NET_WM_STATE` from the targets in turn (the content window, then the frame); the first
that has the property as a list of atoms decides. EWMH: fully maximized only when both directions
are set. -/
def readNetWmState : List (Option (List NetWmAtom)) → Option NetWmState
  | [] => none
  | none :: replies => readNetWmState replies
  | some atoms :: _ => some
    { maximized := atoms.contains .maximizedVert && atoms.contains .maximizedHorz
      fullscreen := atoms.contains .fullscreen }

/-- Mirroring one state: a new host state takes the size and drops the CSD margin, a restored one
gives the size back. -/
def mirrorSize (on : Bool) (win : Window) : Window :=
  if on then { win with sizeFromWm := true, csdMargin := ⟨0, 0⟩ }
  else { win with sizeFromWm := false }

/-- The maximized half of `win_handle_net_wm_state_notify`. -/
def mirrorMaximized (maximized : Bool) (win : Window) : Window :=
  if maximized = (win.xdg.current.maximized || win.xdg.pending.maximized) then win
  else { mirrorSize maximized win with xdg := win.xdg.setMaximized maximized }

/-- The fullscreen half of `win_handle_net_wm_state_notify`. -/
def mirrorFullscreen (fullscreen : Bool) (win : Window) : Window :=
  if fullscreen = (win.xdg.current.fullscreen || win.xdg.pending.fullscreen) then win
  else { mirrorSize fullscreen win with xdg := win.xdg.setFullscreen fullscreen }

/-- `win_handle_net_wm_state_notify`. -/
def winHandleNetWmStateNotify (cfg : Config) (now : Int)
    (replies : List (Option (List NetWmAtom))) (win : Window) : Window :=
  if win.initialConfigureSent then
    match readNetWmState replies with
    | none => win
    | some host =>
      let win := (mirrorMaximized host.maximized win).mirrorFullscreen host.fullscreen
      if (host.maximized || host.fullscreen) && win.output.isSome
        then wlxToplevelFillHost cfg now win else win
  else win

/-- `output_request_state`: the host has resized the window. -/
def outputRequestState (cfg : Config) (now : Int) (replies : List (Option (List NetWmAtom)))
    (outcome : CommitOutcome) (req : Size) (win : Window) : Window :=
  match win.output with
  | none => win
  | some out =>
    if req.width ≤ 0 ∨ req.height ≤ 0 then win
    else if req = out.size then win
    else
      commitOutput cfg now req outcome
        (winHandleNetWmStateNotify cfg now replies { win with sizeFromWm := true })

/-- A `ConfigureNotify` for the output's window: the backend filters it, and what is left reaches
`output_request_state`. -/
def configureNotify (cfg : Config) (now : Int) (replies : List (Option (List NetWmAtom)))
    (outcome : CommitOutcome) (ev : ConfigureNotify) (win : Window) : Window :=
  match win.output with
  | none => win
  | some out =>
    let win := { win with output := some (out.handleX11ConfigureNotify ev).1 }
    match (out.handleX11ConfigureNotify ev).2 with
    | none => win
    | some req => outputRequestState cfg now replies outcome req win

/-- The size sync at the end of the `ReparentNotify` branch of `handle_xcb_readable`: the content
window turned out to be `drawable`, so the output follows it. -/
def reparentSync (cfg : Config) (now : Int) (outcome : CommitOutcome) (drawable : Size)
    (win : Window) : Window :=
  match win.output with
  | none => win
  | some out =>
    if drawable.isSet ∧ drawable ≠ out.size then
      (resizeOutputTo cfg now drawable outcome win).wlxToplevelSetSize (cfg.unscale drawable)
    else win

end Window

end Wlx
