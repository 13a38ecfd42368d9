import WlX11.XdgShell
import WlX11.X11Output

/-!
# WlX11 — `struct wlx_window` and its size policy

The per-toplevel state of the program and the functions of `output.c` that size it:
`toplevel_preferred_size`, `wlx_toplevel_set_size`, `wlx_toplevel_size_for_output`,
`wlx_toplevel_fill_host`, the `output_commit` listener, `resize_output_to` and the mode commits they
run through. The handlers that call them are in `WlX11.Handlers`.

Left out of the structure: the X window ids, the size hints, the title and the scene nodes (the
scene has modules of its own); no decision about a size reads them.
-/

namespace Wlx

/-- `WLX_MIN_OUTPUT_SIZE`. -/
def minOutputSize : Int := 32
/-- `WLX_DEFAULT_WIDTH`. -/
def defaultWidth : Int := 1024
/-- `WLX_DEFAULT_HEIGHT`. -/
def defaultHeight : Int := 720
/-- `WLX_FIT_OSCILLATION_MS`. -/
def fitOscillationMs : Int := 400

/-- `struct wlx_window`, its `xdg_toplevel` and its X11 output. -/
structure Window where
  xdg : XdgSurface
  /-- `win->output`: set from map to unmap. -/
  output : Option X11Output
  lastOutputSize : Size
  csdMargin : Size
  /-- `size_from_wm`: the host owns the window's size. -/
  sizeFromWm : Bool
  /-- `last_client_conf_w/h`: the size of the last configure with a size. -/
  lastClientConf : Size
  fitLast : Size
  fitPrev : Size
  fitLastMsec : Int
  fillHostLastMsec : Int
  holdPresent : Bool
  initialConfigureSent : Bool
  /-- The toplevel has an `xdg_toplevel_decoration` object. -/
  decoration : Bool
  /-- `win->pending_decoration`: its mode waits for the initial configure. -/
  pendingDecoration : Bool
  /-- `server->focused_window == win`. -/
  focused : Bool
deriving DecidableEq

namespace Window

/-- The window `server_new_xdg_toplevel` allocates. -/
def fresh : Window where
  xdg := .fresh
  output := none
  lastOutputSize := ⟨0, 0⟩
  csdMargin := ⟨0, 0⟩
  sizeFromWm := false
  lastClientConf := ⟨0, 0⟩
  fitLast := ⟨0, 0⟩
  fitPrev := ⟨0, 0⟩
  fitLastMsec := 0
  fillHostLastMsec := 0
  holdPresent := false
  initialConfigureSent := false
  decoration := false
  pendingDecoration := false
  focused := false

/-- The mode of the window's output. -/
def outputSize (win : Window) : Option Size := win.output.map (·.size)

/-! ## Sizes the policy compares -/

/-- `toplevel_preferred_size` before the defaults: the geometry (unless `--csd`), else the surface,
else the geometry again. -/
def committedSize (cfg : Config) (x : XdgSurface) : Size :=
  if !cfg.preferCsd && x.geometry.size.isSet then x.geometry.size
  else if x.surfaceSize.isSet then x.surfaceSize
  else x.geometry.size

/-- `toplevel_preferred_size`: the logical size the client wants, with the defaults for sides below
`WLX_MIN_OUTPUT_SIZE`. -/
def toplevelPreferredSize (cfg : Config) (x : XdgSurface) : Size :=
  let size := committedSize cfg x
  { width := if size.width < minOutputSize then defaultWidth else size.width
    height := if size.height < minOutputSize then defaultHeight else size.height }

/-- The geometry size, zero in a dimension it is not set in (`wlx_toplevel_fill_host`). -/
def geometryOrZero (x : XdgSurface) : Size :=
  { width := if 0 < x.geometry.width then x.geometry.width else 0
    height := if 0 < x.geometry.height then x.geometry.height else 0 }

/-- The geometry size, the preferred size in a dimension it is not set in (`surface_commit`). -/
def geometryOrPreferred (cfg : Config) (x : XdgSurface) : Size :=
  { width := if 0 < x.geometry.width then x.geometry.width
      else (toplevelPreferredSize cfg x).width
    height := if 0 < x.geometry.height then x.geometry.height
      else (toplevelPreferredSize cfg x).height }

/-- Current or pending (acknowledged) state maximized or fullscreen. -/
def tiled (win : Window) : Bool := win.xdg.current.tiled || win.xdg.pending.tiled

variable [CInt]

/-! ## Configuring the client -/

/-- `wlx_toplevel_set_size`. -/
def wlxToplevelSetSize (win : Window) (size : Size) : Window :=
  { win with
    xdg := win.xdg.setSize size
    lastClientConf := if size.isSet then size else win.lastClientConf }

/-- `wlx_toplevel_size_for_output`: the logical size that fills the output, less the CSD margin of a
floating client. -/
def wlxToplevelSizeForOutput (cfg : Config) (win : Window) : Size :=
  match win.output with
  | none => ⟨0, 0⟩
  | some out =>
    let size := cfg.unscale out.size
    if cfg.preferCsd && !win.tiled && (0 < win.csdMargin.width || 0 < win.csdMargin.height) then
      ⟨max 1 (size.width - win.csdMargin.width), max 1 (size.height - win.csdMargin.height)⟩
    else size

/-- `last_ok` of `wlx_toplevel_fill_host`: the last configure already has the size. -/
def lastOk (win : Window) (size : Size) : Bool :=
  win.lastClientConf.isSet && !size.differs 1 win.lastClientConf

/-- `conf_ok` of `wlx_toplevel_fill_host`: the client's geometry already has the size. -/
def confOk (win : Window) (size : Size) : Bool :=
  (geometryOrZero win.xdg).isSet && !size.differs 1 (geometryOrZero win.xdg)

/-- `wlx_toplevel_fill_host` at time `now`: configure the client to fill the host window, unless it
does already; re-assert a size it ignores at most every 500 ms. -/
def wlxToplevelFillHost (cfg : Config) (now : Int) (win : Window) : Window :=
  let size := wlxToplevelSizeForOutput cfg win
  if size.width < 1 ∨ size.height < 1 then win
  else if win.lastOk size ∧ win.confOk size then win
  else if win.lastOk size then
    if 0 < win.fillHostLastMsec ∧ now - win.fillHostLastMsec < 500 then win
    else { win with fillHostLastMsec := now }.wlxToplevelSetSize size
  else win.wlxToplevelSetSize size

/-! ## Committing an output mode -/

/-- The `output_commit` listener: the output has a new mode, so the client must fill it. -/
def outputCommit (cfg : Config) (now : Int) (win : Window) : Window :=
  match win.output with
  | none => win
  | some out =>
    if out.size.width ≤ 0 ∨ out.size.height ≤ 0 then win
    else if out.size = win.lastOutputSize then win
    else
      wlxToplevelFillHost cfg now
        { win with
          holdPresent := decide (minOutputSize < win.lastOutputSize.width ∧
            minOutputSize < win.lastOutputSize.height)
          lastOutputSize := out.size }

/-- `wlr_output_commit_state` on the window's output: a successful commit runs the listener. -/
def commitOutput (cfg : Config) (now : Int) (size : Size) (outcome : X11Output.CommitOutcome)
    (win : Window) : Window :=
  match win.output with
  | none => win
  | some out =>
    let win' := { win with output := some (out.commitState size outcome).1 }
    if (out.commitState size outcome).2 then outputCommit cfg now win' else win'

/-- `resize_output_to`. -/
def resizeOutputTo (cfg : Config) (now : Int) (size : Size) (outcome : X11Output.CommitOutcome)
    (win : Window) : Window :=
  match win.output with
  | none => win
  | some out =>
    if size.width < minOutputSize ∨ size.height < minOutputSize then win
    else if out.size = size then win
    else
      let win' := commitOutput cfg now size outcome win
      { win' with
        lastOutputSize := match win'.output with
          | none => win'.lastOutputSize
          | some out' => out'.size }

end Window

end Wlx
