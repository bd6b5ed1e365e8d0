import HostView.Surface.Lifecycle

/-!
# The state behind the resize lock

A resize is an *episode*: it begins with a request, lasts until a frame at the requested size has
been presented, and may change its target in between.  A `Coordinator` holds the phase of the
episode, the surface, and how many episodes have been `started` and `presented`.

The functions here are the critical sections: each runs as a whole while the resize lock is held.
`HostView.Resize.Handshake` says which thread runs which of them, and when.
-/

namespace HostView

/-- How far an episode has come. -/
inductive ResizePhase
  | idle
  /-- A frame of the target size is asked for. -/
  | requested (target : Size)
  /-- The surface has the target size, and a frame of it is about to be presented. -/
  | frameReady
deriving DecidableEq

/-- What the resize lock guards. -/
structure Coordinator (σ : Type) where
  phase : ResizePhase := .idle
  surface : Lifecycle σ
  started : Nat := 0
  presented : Nat := 0

/-- What is left to do when a swap has given up the lock. -/
structure Swapped where
  succeeded : Bool
  /-- The swap presented the frame of an episode. -/
  finished : Bool
deriving DecidableEq

namespace Coordinator

variable {σ : Type}

/-- A record of the resize protocol. -/
def note (level : Log.Level) (message : String) : Event :=
  .log (Log.Area.resize.record level message)

/-- Registers a request.  It has an episode to wait for unless the size is empty, or no episode
is under way and the surface has the size already. -/
def register (c : Coordinator σ) (size : Size) : Option Nat × Coordinator σ × List Event :=
  if size.isEmpty then (none, c, [note .debug s!"resize: degenerate {size.text} ignored"])
  else if c.phase = .idle then
    if c.surface.dimensions = size then (none, c, [])
    else
      (some (c.started + 1), { c with phase := .requested size, started := c.started + 1 }, [])
  else
    (some c.started, { c with phase := .requested size },
      [note .debug s!"resize: retargeting outstanding episode {c.started} to {size.text}"])

/-- Whether the frame of an episode has been presented. -/
def hasPresented (c : Coordinator σ) (episode : Nat) : Bool := decide (episode ≤ c.presented)

/-- The phase changes. -/
def enter (phase : ResizePhase) : Work (Coordinator σ) Event Unit :=
  .change fun c => { c with phase }

/-- Work on the surface. -/
def onSurface {α : Type} (w : Work (Lifecycle σ) Event α) : Work (Coordinator σ) Event α :=
  .within Coordinator.surface (fun surface c => { c with surface }) id w

variable [SurfaceDevice σ]

/-- The engine is about to draw a frame of some size.  If it is the size asked for, the surface
takes it on; a failure leaves the episode waiting for the next frame of that size. -/
def acquire (size : Size) : Work (Coordinator σ) Event Unit := do
  let c ← Work.state
  match c.phase with
  | .idle | .frameReady => return
  | .requested target =>
    if size = target then
      match ← onSurface (Lifecycle.resize size) with
      | .ok () =>
        let _ ← onSurface Lifecycle.makeCurrent
        enter .frameReady
        Work.emit (note .debug s!"resize: surface now {size.text}, frame pending swap")
      | .error e =>
        Work.emit (note .warn s!"resize: surface resize to {size.text} failed: {e.message}")
    else
      Work.emit
        (note .trace s!"resize: acquire at {size.text} while waiting for {target.text}")

/-- The engine has drawn a frame.  While a size is asked for, the frame is of another one and is
refused. -/
def swap : Work (Coordinator σ) Event Swapped := do
  let c ← Work.state
  match c.phase with
  | .requested _ => return ⟨false, false⟩
  | .idle => return ⟨← onSurface Lifecycle.swap, false⟩
  | .frameReady =>
    let succeeded ← onSurface Lifecycle.swap
    Work.change fun c => { c with phase := .idle, presented := c.started }
    return ⟨succeeded, true⟩

end Coordinator

end HostView
