import HostView.Main
import HostView.Rehearsal.Bus
import HostView.Rehearsal.RenderLoop
import HostView.Rehearsal.Surface
import HostView.Rehearsal.View
import HostView.Rehearsal.Viewer
import HostView.Shutdown
import HostView.Proofs.Path
import HostView.Proofs.Surface.Lifecycle
import HostView.Proofs.Resize.Coordinator
import HostView.Proofs.Resize.Section
import HostView.Proofs.Resize.Handshake
import HostView.Proofs.Resize.Episode
import HostView.Proofs.Resize.Release
import HostView.Proofs.Engine.Bus
import HostView.Proofs.Render.Drive
import HostView.Proofs.Render.Moves
import HostView.Proofs.Render.Unhooked
import HostView.Proofs.Render.Course
import HostView.Proofs.Render.Stretch
import HostView.Proofs.Render.Waiting
import HostView.Proofs.Render.Headless
import HostView.Proofs.Render.Release
import HostView.Proofs.Render.Drag
import HostView.Proofs.Host.Start
import HostView.Proofs.Host.Course
import HostView.Proofs.Host.Teardown
import HostView.Proofs.Resize.Wakeup
import HostView.Proofs.Resize.Announcement
import HostView.Proofs.Resize.Presentation
import HostView.Proofs.Pointer.Stream
import HostView.Proofs.Pointer.History
import HostView.Proofs.Hook.Course
import HostView.Proofs.Hook.Conduct
import HostView.Proofs.Hook.Chain
import HostView.Proofs.Hook.Plain
import HostView.Proofs.Hook.Calm
import HostView.Proofs.Hook.Reentry
import HostView.Proofs.Window.Composition
import HostView.Proofs.Window.Cursor
import HostView.Proofs.View.Discipline
import HostView.Proofs.Host.Control
import HostView.Proofs.Viewer.Quit
import HostView.Proofs.Viewer.Loop
import HostView.Proofs.Resize.Replay
import HostView.Proofs.Resize.Ineffective
import HostView.Proofs.Resize.Thinning
import HostView.Proofs.Since
import HostView.Proofs.Pointer.Departure
import HostView.Proofs.Hook.Apart
import HostView.Proofs.Window.Typing
import HostView.Proofs.Engine.Traffic
import HostView.Proofs.Engine.Delivery
import HostView.Proofs.Engine.Consumer
import HostView.Proofs.Surface.Account
import HostView.Proofs.Surface.Mirror
import HostView.Proofs.Surface.Pairing
import HostView.Proofs.Config.File
import HostView.Proofs.Resize.Counters
import HostView.Proofs.Config.Keys
