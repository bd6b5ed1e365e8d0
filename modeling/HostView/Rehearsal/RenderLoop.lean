import HostView.Rehearsal.Device
import HostView.Rehearsal.Schedule

/-!
# Rehearsing the render loop

A script of resizes and events for a view with a render thread that waits as long as it takes
for its next event, so that every event is worth exactly one turn.
-/

namespace HostView.Rehearsal

/-- One step of a script for the render loop. -/
inductive LoopStep
  | resize (size : Size)
  | send (event : EngineEvent)
  | set (change : Knobs → Knobs)

/-- The start of a rehearsal of the render loop. -/
structure LoopScript where
  device : ScriptedDevice
  target : RenderTarget
  bounds : Size
  /-- The size that the render thread starts with. -/
  initial : Size
  create : Bool
  /-- Changes to the device after the creation of the surface. -/
  before : List (Knobs → Knobs)
  steps : List LoopStep

/-- A step, by the session that it left and the requests that are parked, each by its step. -/
structure LoopResult where
  session : Session ScriptedDevice
  parked : List Nat

/-- What came of a rehearsal of the render loop. -/
structure LoopReport where
  created : Option SurfaceError := none
  results : List LoopResult := []
  /-- What was seen from the creation of the surface until the render thread had stopped. -/
  seen : List Event := []
  /-- What stopping the render thread returned. -/
  frames : Nat := 0
  /-- What stopping it a second time returned. -/
  again : Nat := 0
  /-- What was seen when the surface was destroyed; it is not while a request is parked. -/
  teardown : Option (List Event) := none

namespace LoopScript

open Schedule

/-- The thread that runs the script; the thread of step `n` is `n + 2`. -/
def scriptThread : ThreadId := 1

def requestThread (step : Nat) : ThreadId := step + 2

/-- Changes what the device is told to do. -/
def setKnobs (change : Knobs → Knobs) : Play ScriptedDevice Unit :=
  .change fun s =>
    { s with
      view.handshake.coordinator.surface.device.knobs :=
        change s.view.handshake.coordinator.surface.device.knobs }

/-- Runs a step: its thread, then a turn of the render thread, then the calls that it woke. -/
def act (number : Nat) (parked : List ThreadId) :
    LoopStep → Play ScriptedDevice (List ThreadId)
  | .resize size => do
    request (requestThread number) size
    settle
    wakeUp (parked ++ [requestThread number])
  | .send event => do
    Work.change fun s => (s.carry [.engine event]).1
    settle
    wakeUp parked
  | .set change => do
    setKnobs change
    return parked

/-- Runs the steps and keeps what each of them left. -/
def actAll (number : Nat) (parked : List ThreadId) :
    List LoopStep → Play ScriptedDevice (List LoopResult)
  | [] => return []
  | step :: steps => do
    let parked ← act number parked step
    let session ← Work.state
    let later ← actAll (number + 1) parked steps
    return ⟨session, parked.map (· - 2)⟩ :: later

/-- The session before the render thread starts. -/
def session (s : LoopScript) : Session ScriptedDevice where
  view := { handshake :=
    { coordinator := { surface := { device := s.device, target := s.target } }, scale := 1 } }
  loop := { size := s.initial }

/-- Makes the surface. -/
def createSurface (bounds : Size) : Play ScriptedDevice (Option SurfaceError) := fun s =>
  let moved := s.view.handshake.call scriptThread (.surface (.create bounds))
  let error := match moved.reply with
    | some (.returned (.created (.error e))) => some e
    | _ => none
  ⟨.returned error, { s with view.handshake := moved.next },
    moved.events.map ((scriptThread, ·))⟩

/-- Runs the script from the creation of the surface until the render thread has stopped; an
event without pixels wakes it for that. -/
def play (script : LoopScript) : Play ScriptedDevice (Option SurfaceError × List LoopResult) := do
  let created ← if script.create then createSurface script.bounds else pure none
  for change in script.before do setKnobs change
  settle
  let results ← actAll 0 [] script.steps
  move scriptThread .stop
  Work.change fun s => (s.carry [.engine (.metrics ⟨.zero, 1⟩)]).1
  settle
  return (created, results)

/-- Runs the script and destroys the surface in the end. -/
def run (script : LoopScript) : LoopReport :=
  let r := script.play script.session
  let (created, results) := match r.outcome with
    | .returned answer => answer
    | .panicked _ => (none, [])
  let joined := r.state.join
  let rejoined := joined.bind (·.2.join)
  let parked := ((results.getLast?.map (·.parked)).getD []).isEmpty
  let teardown := Lifecycle.destroy r.state.view.handshake.coordinator.surface
  { created, results
    seen := r.events.map (·.2)
    frames := (joined.map (·.1)).getD 0
    again := (rejoined.map (·.1)).getD 0
    teardown := if parked then some teardown.events else none }

end LoopScript

end HostView.Rehearsal
