import HostView.Surface.Headless

/-!
# A surface device that does what it is told

A `ScriptedDevice` stands before a headless surface, or before none at all, and can be told to
fail: to refuse the next creations or resizes, to answer `false` without asking the surface, to
panic in a swap, or to report dimensions of its own.
-/

namespace HostView.Rehearsal

/-- What a scripted device asks when it is not told otherwise. -/
inductive Backing
  | headless (surface : Headless)
  /-- Everything succeeds, and only the size is kept. -/
  | plain (size : Size)

/-- What a scripted device is told to do. -/
structure Knobs where
  failCreate : Nat := 0
  failResize : Nat := 0
  makeCurrent : Bool := true
  makeResourceCurrent : Bool := true
  clear : Bool := true
  swap : Bool := true
  panicSwap : Bool := false
  dimensions : Option Size := none

/-- A surface device under a script's control. -/
structure ScriptedDevice where
  backing : Backing
  knobs : Knobs := {}

/-- A plain surface agrees to everything. -/
def plainAnswer (size : Size) : (call : DeviceCall) → call.Answer × Size
  | .create _ size => (.ok (), size)
  | .resize _ size => (.ok (), size)
  | .makeCurrent | .makeResourceCurrent | .clearContext | .swap => (true, size)
  | .dimensions => (size, size)
  | .destroy => ((), size)

/-- Asks the surface behind the device. -/
def Backing.perform (call : DeviceCall) : Work Backing Log.Record call.Answer
  | .headless surface =>
    let r := SurfaceDevice.perform call surface
    ⟨r.outcome, .headless r.state, r.events⟩
  | .plain size =>
    let r := plainAnswer size call
    ⟨.returned r.1, .plain r.2, []⟩

/-- Passes the call on. -/
def ScriptedDevice.pass (call : DeviceCall) : Work ScriptedDevice Log.Record call.Answer :=
  .within ScriptedDevice.backing (fun backing d => { d with backing }) id (Backing.perform call)

/-- Passes the call on, or answers `false` in its place. -/
def ScriptedDevice.passIf (knob : Knobs → Bool) (call : DeviceCall) (h : call.Answer = Bool) :
    Work ScriptedDevice Log.Record call.Answer := fun d =>
  if knob d.knobs then pass call d else ⟨.returned (h ▸ false), d, []⟩

instance : SurfaceDevice ScriptedDevice where
  perform
    | .create target size => fun d =>
      if d.knobs.failCreate = 0 then ScriptedDevice.pass (.create target size) d
      else
        ⟨.returned (.error (.createFailed "no device")),
          { d with knobs.failCreate := d.knobs.failCreate - 1 }, []⟩
    | .resize target size => fun d =>
      if d.knobs.failResize = 0 then ScriptedDevice.pass (.resize target size) d
      else
        ⟨.returned (.error (.resizeFailed size "device lost")),
          { d with knobs.failResize := d.knobs.failResize - 1 }, []⟩
    | .makeCurrent => ScriptedDevice.passIf Knobs.makeCurrent .makeCurrent rfl
    | .makeResourceCurrent =>
      ScriptedDevice.passIf Knobs.makeResourceCurrent .makeResourceCurrent rfl
    | .clearContext => ScriptedDevice.passIf Knobs.clear .clearContext rfl
    | .swap => fun d =>
      if d.knobs.panicSwap then ⟨.panicked "swap panic", d, []⟩
      else ScriptedDevice.passIf Knobs.swap .swap rfl d
    | .dimensions => fun d =>
      match d.knobs.dimensions with
      | some size => ⟨.returned size, d, []⟩
      | none => ScriptedDevice.pass .dimensions d
    | .destroy => ScriptedDevice.pass .destroy

end HostView.Rehearsal
