import HostView.Geometry

/-!
# Windows and the window system

A `NativeWindow` is what the window system knows of a window.  A `Binding` makes it the window of
a view: it tells size, scale and target, asks for a redraw after a resize, and places the text
cursor in whole pixels.
-/

namespace HostView

/-- A window as the window system keeps it. -/
structure NativeWindow where
  id : UInt64
  innerSize : Size
  scaleFactor : Float
  /-- How often a redraw was asked for. -/
  redraws : Nat := 0

/-- The window in messages. -/
def NativeWindow.text (w : NativeWindow) : String := s!"WindowId({w.id})"

/-- An area in whole pixels. -/
structure PixelArea where
  x : Int32
  y : Int32
  width : UInt32
  height : UInt32
deriving DecidableEq

/-- Each number is rounded, halves away from zero, and clamped to its range. -/
def Rect.pixels (r : Rect) : PixelArea :=
  ⟨r.x.round.toInt32, r.y.round.toInt32, r.width.round.toUInt32, r.height.round.toUInt32⟩

/-- What a host asks of the window system. -/
inductive SystemCall
  | createWindow (title : String) (size : Size)
  | allowIme (allowed : Bool)
  | placeIme (area : PixelArea)
  | exit
  | waitUntil
deriving DecidableEq

/-- A window as the window of a view; a scale of its own overrides that of the window. -/
structure Binding where
  window : NativeWindow
  scaleOverride : Option Float

namespace Binding

def bounds (b : Binding) : Size := b.window.innerSize

def scale (b : Binding) : Float := b.scaleOverride.getD b.window.scaleFactor

/-- The target that the surface of the view is made for. -/
def target (b : Binding) : RenderTarget := ⟨b.window.id⟩

/-- A frame at a new size has been presented. -/
def resized (b : Binding) : Binding := { b with window.redraws := b.window.redraws + 1 }

/-- The text cursor has moved. -/
def cursorMoved (_ : Binding) (area : Rect) : SystemCall := .placeIme area.pixels

end Binding

end HostView
