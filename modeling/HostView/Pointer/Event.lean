import HostView.Decimal
import HostView.Geometry
import HostView.Log.Record
import HostView.Pointer.Buttons

/-!
# Pointer events

`PointerInput` is what a window system reports, in whatever order it likes.  `PointerEvent` is
what the engine is told; `HostView.Pointer.Normalizer` turns the one into the other.
-/

namespace HostView

/-- The part that an event plays in the life of a pointer. -/
inductive Phase
  | add | remove | hover | down | move | up
deriving DecidableEq, Inhabited

/-- The name of the phase in messages. -/
def Phase.name : Phase → String
  | add => "Add"
  | remove => "Remove"
  | hover => "Hover"
  | down => "Down"
  | move => "Move"
  | up => "Up"

/-- What an event carries beside position and buttons. -/
inductive PointerSignal
  | none
  | scroll (delta : Point)

/-- One event for the engine. -/
structure PointerEvent where
  phase : Phase
  position : Point
  buttons : Buttons
  signal : PointerSignal

/-- What the log says about an event. -/
def PointerEvent.summary (e : PointerEvent) : String :=
  let x := Decimal.tenths e.position.x
  let y := Decimal.tenths e.position.y
  s!"{e.phase.name} at ({x}, {y}) buttons={e.buttons.text}"

/-- A report of the window system about its only pointer. -/
inductive PointerInput
  | add (position : Point)
  | move (position : Point)
  | down (position : Point) (buttons : Buttons)
  | up (position : Point) (buttons : Buttons)
  | leave
  | scroll (position : Point) (delta : Point) (multiplier : Int32)

end HostView
