import HostView.Event

/-!
# The life of a surface

A `Lifecycle` is the only owner of a surface device.  It knows whether there is a surface and how
large it is, destroys it once however often it is asked to, and lets it be resized only while it
lives.
-/

namespace HostView

/-- A surface device with what its owner knows about the surface. -/
structure Lifecycle (σ : Type) where
  device : σ
  target : RenderTarget
  dimensions : Size := .zero
  live : Bool := false
  destroyed : Bool := false

namespace Lifecycle

variable {σ : Type} [SurfaceDevice σ]

/-- Asks the device; what it logs comes before the call is seen as answered. -/
def ask (call : DeviceCall) : Work (Lifecycle σ) Event call.Answer := fun l =>
  let r := SurfaceDevice.perform call l.device
  ⟨r.outcome, { l with device := r.state },
    r.events.map .log ++ [.device ⟨call, r.outcome⟩]⟩

/-- Logs in the name of the surface. -/
def report (message : String) : Work (Lifecycle σ) Event Unit :=
  .emit (.log (Log.Area.surface.record .info message))

/-- Makes a surface of the wanted size; how large it became is asked of the device. -/
def create (wanted : Size) : Work (Lifecycle σ) Event (Except SurfaceError Unit) := do
  let l ← Work.state
  match ← ask (.create l.target wanted) with
  | .error e => return .error e
  | .ok () =>
    let size ← ask .dimensions
    Work.change fun l => { l with dimensions := size, live := true, destroyed := false }
    report s!"surface: created {size.text} for {l.target.text}"
    return .ok ()

/-- Destroys the surface, unless that was done already. -/
def destroy : Work (Lifecycle σ) Event Unit := do
  let l ← Work.state
  unless l.destroyed do
    ask .destroy
    Work.change fun l => { l with dimensions := .zero, live := false, destroyed := true }
    report s!"surface: destroyed {l.target.text}"

/-- Resizes the surface that lives. -/
def resize (size : Size) : Work (Lifecycle σ) Event (Except SurfaceError Unit) := do
  let l ← Work.state
  if l.live then
    match ← ask (.resize l.target size) with
    | .error e => return .error e
    | .ok () =>
      Work.change fun l => { l with dimensions := size }
      return .ok ()
  else return .error .missing

def makeCurrent : Work (Lifecycle σ) Event Bool := ask .makeCurrent

def makeResourceCurrent : Work (Lifecycle σ) Event Bool := ask .makeResourceCurrent

def clearContext : Work (Lifecycle σ) Event Bool := ask .clearContext

def swap : Work (Lifecycle σ) Event Bool := ask .swap

end Lifecycle

end HostView
