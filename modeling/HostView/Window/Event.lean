import HostView.Geometry

/-!
# Window events

What a window system reports about a window.  A wheel turned by lines counts in single precision,
so its distances are rounded to that first.
-/

namespace HostView

/-- A mouse button by its place on the mouse. -/
inductive MouseButton
  | left | right | middle | back | forward
  | other (number : Nat)
deriving DecidableEq

/-- How far a wheel was turned, in lines or in pixels; away from the user is positive. -/
inductive WheelDelta
  | lines (x y : Float32)
  | pixels (distance : Point)

/-- A physical key, by its name on a standard keyboard if it has one. -/
inductive PhysicalKey
  | named (name : String)
  | unidentified
deriving DecidableEq

/-- A key that went down or up. -/
structure KeyInput where
  key : PhysicalKey
  text : Option String
  pressed : Bool
  repeated : Bool
  /-- The window system made the event up, for instance when the window got the focus. -/
  synthetic : Bool

/-- What an input method reports. -/
inductive Ime
  | enabled
  | preedit (text : String) (cursor : Option (Nat × Nat))
  | commit (text : String)
  | disabled

/-- An event of a window. -/
inductive WindowEvent
  | resized (size : Size)
  | cursorMoved (position : Point)
  | cursorLeft
  | mouse (pressed : Bool) (button : MouseButton)
  | wheel (delta : WheelDelta)
  | key (input : KeyInput)
  | ime (ime : Ime)
  | closeRequested
  | destroyed
  | redrawRequested
  /-- An event that nothing depends on. -/
  | other

end HostView
