/-!
# Sizes, points and the window they belong to

Sizes are counted in whole device pixels and are `32`-bit words, positions are doubles in the
same pixels.  `Size.isEmpty` is the one test on sizes that every other module uses: a size with a
zero side can hold no frame.
-/

namespace HostView

/-- A width and a height in device pixels. -/
structure Size where
  width : UInt32
  height : UInt32
deriving DecidableEq, Inhabited

namespace Size

/-- The size without pixels, which a surface has before it is created. -/
def zero : Size := ⟨0, 0⟩

/-- A size with a zero side cannot hold a frame. -/
def isEmpty (s : Size) : Bool := s.width == 0 || s.height == 0

/-- The size as it appears in messages, for instance `800x600`. -/
def text (s : Size) : String := s!"{s.width}x{s.height}"

@[simp] theorem isEmpty_zero : zero.isEmpty = true := rfl

theorem isEmpty_eq_false_iff {s : Size} :
    s.isEmpty = false ↔ s.width ≠ 0 ∧ s.height ≠ 0 := by
  simp [isEmpty]

end Size

/-- A position, or a distance along both axes, in device pixels. -/
structure Point where
  x : Float
  y : Float
deriving Inhabited

/-- The corner of the window, where a pointer is taken to be before it is first seen. -/
def Point.origin : Point := ⟨0, 0⟩

/-- An area of the window, given by its corner and its extent. -/
structure Rect where
  x : Float
  y : Float
  width : Float
  height : Float

/-- The native drawable that a surface is created for. -/
structure RenderTarget where
  id : UInt64
deriving DecidableEq, Inhabited

/-- The target as it appears in messages. -/
def RenderTarget.text (t : RenderTarget) : String := s!"RenderTarget({t.id})"

/-- The size and the scale that the engine lays its content out for. -/
structure Metrics where
  size : Size
  scale : Float

end HostView
