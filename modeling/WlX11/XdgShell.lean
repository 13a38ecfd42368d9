import WlX11.Scale

/-!
# WlX11 — the xdg_surface of one toplevel

The part of wlroots' xdg-shell implementation the program's handlers stand on
(`types/xdg_shell/wlr_xdg_surface.c` and `wlr_xdg_toplevel.c`): when an `xdg_surface` is
*initialized*, which configures are scheduled, sent and acknowledged, and what a `wl_surface.commit`
applies. One structure holds the `wl_surface`, the `xdg_surface` and the `xdg_toplevel` of a window;
popups, titles, min/max sizes and serial numbers play no part in it.

`wlr_xdg_surface_schedule_configure` asserts `surface->initialized`. The assertion is modelled by a
sticky flag, `aborted`: a handler that reaches the assertion on an uninitialized surface sets it.
-/

namespace Wlx

/-- The fields of `wlr_xdg_toplevel_state` and `wlr_xdg_toplevel_configure` the program sets or
reads. -/
structure ToplevelState where
  maximized : Bool
  fullscreen : Bool
  activated : Bool
  size : Size
deriving DecidableEq, Repr

/-- A freshly allocated state. -/
def ToplevelState.zero : ToplevelState := ⟨false, false, false, ⟨0, 0⟩⟩

/-- Maximized or fullscreen: what the program's size policy calls tiled. -/
def ToplevelState.tiled (s : ToplevelState) : Bool := s.maximized || s.fullscreen

/-- `wlr_xdg_surface` of a toplevel, with the parts of its `wl_surface` and `wlr_xdg_toplevel` the
program uses. -/
structure XdgSurface where
  initialized : Bool
  /-- The last commit was the initial commit of the role, or the first one after an unmap. -/
  initialCommit : Bool
  /-- Some configure has been acknowledged since the last reset. -/
  configured : Bool
  /-- `configure_idle`: a configure is scheduled and not sent yet. -/
  configureIdle : Bool
  /-- `configure_list`: sent and not acknowledged, oldest first. -/
  configureList : List ToplevelState
  mapped : Bool
  hasBuffer : Bool
  /-- `surface->current.width/height`. -/
  surfaceSize : Size
  /-- `current.geometry`: the window geometry the client set, zero when it has set none. -/
  geometry : Box
  current : ToplevelState
  pending : ToplevelState
  scheduled : ToplevelState
  /-- `assert(surface->initialized)` has failed. -/
  aborted : Bool
deriving DecidableEq, Repr

namespace XdgSurface

/-- The surface `create_xdg_toplevel` leaves. -/
def fresh : XdgSurface where
  initialized := false
  initialCommit := false
  configured := false
  configureIdle := false
  configureList := []
  mapped := false
  hasBuffer := false
  surfaceSize := ⟨0, 0⟩
  geometry := Box.zero
  current := .zero
  pending := .zero
  scheduled := .zero
  aborted := false

/-! ## Scheduling and sending configures -/

/-- `wlr_xdg_surface_schedule_configure`. -/
def scheduleConfigure (x : XdgSurface) : XdgSurface :=
  if x.initialized then { x with configureIdle := true } else { x with aborted := true }

/-- `wlr_xdg_toplevel_set_size`. -/
def setSize (x : XdgSurface) (size : Size) : XdgSurface :=
  { x with scheduled := { x.scheduled with size := size } }.scheduleConfigure

/-- `wlr_xdg_toplevel_set_activated`. -/
def setActivated (x : XdgSurface) (activated : Bool) : XdgSurface :=
  { x with scheduled := { x.scheduled with activated := activated } }.scheduleConfigure

/-- `wlr_xdg_toplevel_set_maximized`. -/
def setMaximized (x : XdgSurface) (maximized : Bool) : XdgSurface :=
  { x with scheduled := { x.scheduled with maximized := maximized } }.scheduleConfigure

/-- `wlr_xdg_toplevel_set_fullscreen`. -/
def setFullscreen (x : XdgSurface) (fullscreen : Bool) : XdgSurface :=
  { x with scheduled := { x.scheduled with fullscreen := fullscreen } }.scheduleConfigure

/-- `wlr_xdg_toplevel_set_wm_capabilities`: the capabilities are constant here, so all that is left
is the configure it schedules. -/
def setWmCapabilities (x : XdgSurface) : XdgSurface := x.scheduleConfigure

/-- `wlr_xdg_toplevel_decoration_v1_set_mode`: again a constant mode and a scheduled configure. -/
def decorationSetMode (x : XdgSurface) : XdgSurface := x.scheduleConfigure

/-- `surface_send_configure`, run from the idle source: the scheduled state goes out and waits for
its acknowledgement. -/
def sendConfigure (x : XdgSurface) : XdgSurface :=
  { x with configureIdle := false, configureList := x.configureList ++ [x.scheduled] }

/-- `xdg_surface.ack_configure` for the `n`-th configure still unacknowledged: that one and all
older ones leave the list, and its state becomes the pending one. A wrong serial is a protocol error
and changes nothing. -/
def ackConfigure (x : XdgSurface) (n : Nat) : XdgSurface :=
  match x.configureList[n]? with
  | none => x
  | some configure =>
    { x with
      configureList := x.configureList.drop (n + 1)
      pending := configure
      configured := true }

/-! ## Commits -/

end XdgSurface

/-- What a commit does to the surface's buffer. `attach s` stands for every commit that leaves the
surface with a buffer and logical size `s`, be it through a new buffer, a buffer scale or a
viewport. -/
inductive BufferUpdate where
  | keep
  | attach (size : Size)
  | detach
deriving DecidableEq, Repr

/-- The client-side state of one `wl_surface.commit`: the buffer, and the window geometry when the
client has set one since its last commit. -/
structure SurfaceCommit where
  buffer : BufferUpdate
  geometry : Option Box
deriving DecidableEq, Repr

namespace XdgSurface

/-- Whether the surface has a buffer once the commit is applied. -/
def hasBufferAfter (x : XdgSurface) (c : SurfaceCommit) : Bool :=
  match c.buffer with
  | .keep => x.hasBuffer
  | .attach _ => true
  | .detach => false

/-- The surface's logical size once the commit is applied. -/
def surfaceSizeAfter (x : XdgSurface) (c : SurfaceCommit) : Size :=
  match c.buffer with
  | .keep => x.surfaceSize
  | .attach size => size
  | .detach => ⟨0, 0⟩

/-- The commit is not a protocol error: buffers and window geometries have positive sides
(`xdg_surface_handle_set_window_geometry`), and no buffer comes before the first acknowledged
configure (`xdg_surface_role_client_commit`). -/
def commitAllowed (x : XdgSurface) (c : SurfaceCommit) : Bool :=
  (match c.buffer with
    | .attach size => size.isSet
    | _ => true) &&
  (match c.geometry with
    | some box => box.size.isSet
    | none => true) &&
  (!x.hasBufferAfter c || x.configured)

/-- A buffer takes a configure that has been acknowledged. -/
theorem configured_of_hasBufferAfter {x : XdgSurface} {c : SurfaceCommit}
    (hallowed : x.commitAllowed c = true) (hbuf : x.hasBufferAfter c = true) : x.configured = true := by
  simp only [commitAllowed, hbuf, Bool.and_eq_true, Bool.or_eq_true, Bool.not_true] at hallowed
  simpa using hallowed.2

/-- `surface->unmap_commit`: a null buffer on a mapped surface. -/
def unmapCommit (x : XdgSurface) (c : SurfaceCommit) : Bool :=
  x.mapped && decide (c.buffer = .detach)

/-- `surface_state_move` with its synced states: the pending state becomes the current one. -/
def applyPending (x : XdgSurface) (c : SurfaceCommit) : XdgSurface :=
  { x with
    hasBuffer := x.hasBufferAfter c
    surfaceSize := x.surfaceSizeAfter c
    geometry := c.geometry.getD x.geometry
    current := x.pending }

/-- `reset_xdg_surface`: the surface must go through a new initial commit before it can map. The
toplevel's own states are not reset. -/
def reset (x : XdgSurface) : XdgSurface :=
  { x with initialized := false, configured := false, configureIdle := false, configureList := [] }

/-- The first half of `xdg_surface_role_commit`. -/
def roleCommit (x : XdgSurface) (unmapCommit : Bool) : XdgSurface :=
  if unmapCommit then { x.reset with initialCommit := false }
  else { x with initialCommit := !x.initialized, initialized := true }

end XdgSurface

end Wlx
