import HostView.Rehearsal.Device
import HostView.Surface.Lifecycle

/-!
# Rehearsing a surface and its life

Scripts over one headless surface, and over the life of a surface on a scripted device.
-/

namespace HostView.Rehearsal

/-- What a call to a device has answered. -/
inductive DeviceAnswer
  | done
  | flag (value : Bool)
  | dimensions (size : Size)
  | failed (error : SurfaceError)
  | panicked (message : String)

/-- An answer of any type of call in one form. -/
def DeviceAnswer.ofOutcome : (call : DeviceCall) → Outcome call.Answer → DeviceAnswer
  | _, .panicked message => .panicked message
  | .create _ _, .returned r | .resize _ _, .returned r =>
    match r with
    | .ok () => .done
    | .error e => .failed e
  | .makeCurrent, .returned b | .makeResourceCurrent, .returned b
  | .clearContext, .returned b | .swap, .returned b => .flag b
  | .dimensions, .returned size => .dimensions size
  | .destroy, .returned () => .done

/-- Runs a list of calls on a headless surface; each is answered with the state it left. -/
def runHeadless (h : Headless) : List DeviceCall → List (DeviceAnswer × Headless)
  | [] => []
  | call :: calls =>
    let r := SurfaceDevice.perform call h
    (.ofOutcome call r.outcome, r.state) :: runHeadless r.state calls

/-- One step in the life of a surface. -/
inductive LifeStep
  | create (wanted : Size)
  | destroy
  | makeCurrent
  | makeResourceCurrent
  | clearContext
  | set (change : Knobs → Knobs)

/-- What a step in the life of a surface does. -/
def LifeStep.work : LifeStep → Work (Lifecycle ScriptedDevice) Event DeviceAnswer
  | create wanted => do
    match ← Lifecycle.create wanted with
    | .ok () => return .done
    | .error e => return .failed e
  | destroy => do
    Lifecycle.destroy
    return .done
  | makeCurrent => do return .flag (← Lifecycle.makeCurrent)
  | makeResourceCurrent => do return .flag (← Lifecycle.makeResourceCurrent)
  | clearContext => do return .flag (← Lifecycle.clearContext)
  | set change => do
    Work.change fun l => { l with device.knobs := change l.device.knobs }
    return .done

/-- Runs the steps and then lets the surface go, which destroys it; the last run is that end. -/
def runLife (l : Lifecycle ScriptedDevice) :
    List LifeStep →
      List (Run (Lifecycle ScriptedDevice) Event DeviceAnswer) ×
        Run (Lifecycle ScriptedDevice) Event Unit
  | [] => ([], Lifecycle.destroy l)
  | step :: steps =>
    let r := step.work l
    let rest := runLife r.state steps
    (r :: rest.1, rest.2)

end HostView.Rehearsal
