import HostView.Pointer.Event
import HostView.Window.Keys

/-!
# From window events to the view

Buttons and wheels are reported without a position, so a `Translator` remembers where the cursor
was.  A `Composer` remembers whether an input method is composing; while it is, keys bring no
text of their own.

Neither calls the view.  They say what it is to be asked for, and have changed their own state
by then.
-/

namespace HostView

/-- The buttons that the engine knows, for each place on the mouse. -/
def MouseButton.buttons? : MouseButton → Option Buttons
  | left => some .primary
  | right => some .secondary
  | middle => some .middle
  | back => some .back
  | forward => some .forward
  | other _ => none

/-- How many pixels a line of the wheel stands for. -/
def lineScroll : Int32 := 20

/-- The distance and its multiplier for the engine, where towards the user is positive. -/
def WheelDelta.scroll : WheelDelta → Point × Int32
  | lines x y => (⟨-x.toFloat, -y.toFloat⟩, lineScroll)
  | pixels distance => (⟨-distance.x, -distance.y⟩, 1)

/-- Whether an input method is composing. -/
structure Composer where
  composing : Bool := false
deriving DecidableEq

namespace Composer

/-- An open composition ends. -/
def close (c : Composer) : Composer × List Callback :=
  if c.composing then ({ c with composing := false }, [.composeEnd]) else (c, [])

/-- The calls to the hooks for a report of the input method.  The first text opens a composition,
and an empty one changes the composition without closing it. -/
def apply (c : Composer) : Ime → Composer × List Callback
  | .enabled => (c, [])
  | .preedit text cursor =>
    if text.isEmpty then (c, if c.composing then [.composeChange "" 0] else [])
    else
      let position := (cursor.map (·.1)).getD text.utf8ByteSize
      ({ c with composing := true },
        (if c.composing then [] else [.composeBegin]) ++ [.composeChange text position])
  | .commit text => (c.close.1, c.close.2 ++ [.text text])
  | .disabled => c.close

end Composer

/-- What the view is asked for. -/
inductive ViewRequest
  | nothing
  | resize (size : Size)
  | point (input : PointerInput)
  /-- A key, and the text that it brings unless a hook keeps the key for itself. -/
  | key (event : KeyEvent) (text : Option String)
  | compose (calls : List Callback)

/-- Where the cursor is, and whether an input method is composing. -/
structure Translator where
  cursor : Point := .origin
  composer : Composer := {}

namespace Translator

/-- The key as hooks see it. -/
def keyEvent (k : KeyInput) : KeyEvent where
  key := k.key.virtualKey
  scancode := 0
  action := .of k.pressed k.repeated
  character := k.text.bind fun t => t.toList.head?
  extended := k.key.isExtended

/-- What an event asks the view for. -/
def translate (t : Translator) : WindowEvent → Translator × ViewRequest
  | .resized size => (t, .resize size)
  | .cursorMoved position => ({ t with cursor := position }, .point (.move position))
  | .cursorLeft => (t, .point .leave)
  | .mouse pressed button =>
    match button.buttons? with
    | none => (t, .nothing)
    | some buttons =>
      (t, .point (if pressed then .down t.cursor buttons else .up t.cursor buttons))
  | .wheel delta =>
    let (distance, multiplier) := delta.scroll
    (t, .point (.scroll t.cursor distance multiplier))
  | .key input =>
    if input.synthetic then (t, .nothing)
    else
      (t, .key (keyEvent input)
        (if input.pressed && !t.composer.composing then input.text else none))
  | .ime ime =>
    let (composer, calls) := t.composer.apply ime
    ({ t with composer }, .compose calls)
  | .closeRequested | .destroyed | .redrawRequested | .other => (t, .nothing)

end Translator

end HostView
