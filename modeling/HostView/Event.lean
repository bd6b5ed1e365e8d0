import HostView.Engine.Event
import HostView.Hook.Dispatch
import HostView.Surface.Device

/-!
# What is seen of a view

Everything that a view does can be read off a list of `Event`s: the locks it takes, the calls it
makes to its collaborators, and what it logs.  Each list belongs to one thread.
-/

namespace HostView

/-- The locks of a view. -/
inductive Lock
  | resize | pointer | hooks
deriving DecidableEq

/-- A call to the window that a view belongs to. -/
inductive WindowCall
  /-- It is asked how large it is. -/
  | bounds
  /-- It is asked for its scale. -/
  | scale
  /-- A frame at a new size has been presented. -/
  | resized
  | cursorRect (area : Rect)

/-- Something that a thread does to a view or that a view does on a thread. -/
inductive Event
  | locked (lock : Lock)
  | unlocked (lock : Lock)
  | device (event : DeviceEvent)
  | engine (event : EngineEvent)
  | window (call : WindowCall)
  | hook (manner : Manner) (callback : Callback)
  /-- A call to the hooks that came from a hook has returned. -/
  | reentered (callback : Callback) (consumed : Bool)
  /-- All threads that sleep on the resize lock are woken. -/
  | notified
  | log (record : Log.Record)

namespace Event

/-- The log among the events. -/
def records (events : List Event) : List Log.Record :=
  events.filterMap fun
    | log r => some r
    | _ => none

/-- The calls to the surface device among the events. -/
def deviceEvents (events : List Event) : List DeviceEvent :=
  events.filterMap fun
    | device e => some e
    | _ => none

/-- What the engine is told among the events. -/
def engineEvents (events : List Event) : List EngineEvent :=
  events.filterMap fun
    | engine e => some e
    | _ => none

/-- Events that happen while a lock is held. -/
def guarded (lock : Lock) (events : List Event) : List Event :=
  .locked lock :: events ++ [.unlocked lock]

end Event

end HostView
