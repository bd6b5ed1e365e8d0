import HostView.Error
import HostView.Log.Record
import HostView.Work

/-!
# Surface devices

A `SurfaceDevice` is whatever really holds the surface of a window.  It is asked by
`DeviceCall`s, each with its own type of answer, and may do anything in return: change its state,
log, fail or panic.
-/

namespace HostView

/-- What can be asked of a surface device. -/
inductive DeviceCall
  | create (target : RenderTarget) (size : Size)
  | resize (target : RenderTarget) (size : Size)
  | makeCurrent
  | makeResourceCurrent
  | clearContext
  | swap
  | dimensions
  | destroy
deriving DecidableEq

/-- What a device answers to a call. -/
abbrev DeviceCall.Answer : DeviceCall → Type
  | create _ _ | resize _ _ => Except SurfaceError Unit
  | makeCurrent | makeResourceCurrent | clearContext | swap => Bool
  | dimensions => Size
  | destroy => Unit

/-- A type of surface devices. -/
class SurfaceDevice (σ : Type) where
  /-- What a device does when it is asked. -/
  perform (call : DeviceCall) : Work σ Log.Record call.Answer

/-- A call that a device has answered, or has panicked in. -/
structure DeviceEvent where
  call : DeviceCall
  outcome : Outcome call.Answer

end HostView
