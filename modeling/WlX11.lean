import WlX11.Lib.Run
import WlX11.Lib.Serial
import WlX11.Lib.Row
import WlX11.Scale
import WlX11.XdgShell
import WlX11.X11Output
import WlX11.Window
import WlX11.Handlers
import WlX11.HandlerLemmas
import WlX11.Session
import WlX11.ConfigureCycle
import WlX11.HostAuthority
import WlX11.MirroredState
import WlX11.HostTracking
import WlX11.Desktop
import WlX11.SizeAgreement
import WlX11.EventFilter
import WlX11.OutputLayout
import WlX11.Placement
import WlX11.Scene
import WlX11.Isolation
import WlX11.Selection
import WlX11.Clipboard
import WlX11.Dnd
import WlX11.SelectionService
import WlX11.Drag
import WlX11.DragSession
import WlX11.DragReplies
import WlX11.DragGrammar
import WlX11.Export
import WlX11.ExportWhole
import WlX11.ExportIndependence
import WlX11.StaleService
import WlX11.XSelections
import WlX11.EchoSuppression
import WlX11.SelectionSync
import WlX11.InboundDrag
import WlX11.PopupPlacement
import WlX11.Subpresent
import WlX11.SubpresentRegistry
import WlX11.SubpresentOverflow
import WlX11.OverflowRegistry
import WlX11.ButtonHold
import WlX11.FocusTracking
import WlX11.CommitStanding
import WlX11.RestoreOrder
import WlX11.ScaledOnce
import WlX11.PointerInverse
import WlX11.PopupOrigin
import WlX11.ReceiveWhole
import WlX11.WmState
import WlX11.MoveResize
import WlX11.PointerGrab
import WlX11.ActiveWindow
import WlX11.EventLoop
import WlX11.DragService
import WlX11.DragTarget
import WlX11.FitPolicy
import WlX11.FitOscillation
import WlX11.RoundTrip
import WlX11.FillRate
import WlX11.ReparentSync
import WlX11.PresentSize
import WlX11.PopupUnconstrain
import WlX11.MimeChoice
import WlX11.DragGeometry
import WlX11.DragCorrection
import WlX11.SizeHints
import WlX11.ButtonPaths
import WlX11.PopupOwner
import WlX11.PresentStacking
import WlX11.Metadata
import WlX11.SizeMemory
import WlX11.AlikeWindows
import WlX11.Remap
import WlX11.ScaleRange
import WlX11.BufferedReads
import WlX11.Descriptors
import WlX11.RootBoxCache
import WlX11.Lib.Span
import WlX11.Positioner
import WlX11.Lib.Tally
import WlX11.PresentBuffers
import WlX11.Lib.Debt
import WlX11.DamageRing
import WlX11.Repaint
import WlX11.RepaintRuns
import WlX11.RepaintRest
import WlX11.Lib.SmallSet
import WlX11.Keyboard
import WlX11.KeyboardMirror
import WlX11.Lib.Sheets
import WlX11.Lib.Zipper
import WlX11.SceneGraph
import WlX11.SceneVisibility
import WlX11.SceneFrames
import WlX11.SceneOutput
