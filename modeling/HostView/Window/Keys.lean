import HostView.Keyboard.Event
import HostView.Window.Event

/-!
# Key codes

Hooks know keys by *virtual-key codes*: letters and digits have the code of their character,
function keys follow `0x70`, and a few others have a code of their own.  A key without one has
the code zero.
-/

namespace HostView

/-- The keys that have a virtual-key code, and all others. -/
inductive KeyCode
  | letter (index : Fin 26)
  | digit (index : Fin 10)
  | function (index : Fin 12)
  | backspace | tab | enter | numpadEnter
  | shiftLeft | shiftRight | controlLeft | controlRight | altLeft | altRight
  | escape | space
  | pageUp | pageDown | home | endKey
  | arrowLeft | arrowUp | arrowRight | arrowDown
  | insert | delete
  | other
deriving DecidableEq

namespace KeyCode

/-- The keys that are found by their whole name. -/
def byName : List (String × KeyCode) :=
  [("Backspace", backspace), ("Tab", tab), ("Enter", enter), ("NumpadEnter", numpadEnter),
    ("ShiftLeft", shiftLeft), ("ShiftRight", shiftRight), ("ControlLeft", controlLeft),
    ("ControlRight", controlRight), ("AltLeft", altLeft), ("AltRight", altRight),
    ("Escape", escape), ("Space", space), ("PageUp", pageUp), ("PageDown", pageDown),
    ("Home", home), ("End", endKey), ("ArrowLeft", arrowLeft), ("ArrowUp", arrowUp),
    ("ArrowRight", arrowRight), ("ArrowDown", arrowDown), ("Insert", insert), ("Delete", delete)]

/-- The name of each letter key. -/
def letterNames : List (String × KeyCode) :=
  (List.finRange 26).map fun i => (String.ofList ['K', 'e', 'y', Char.ofNat (65 + i.val)], letter i)

/-- The name of each digit key. -/
def digitNames : List (String × KeyCode) :=
  (List.finRange 10).map fun i => (s!"Digit{i.val}", digit i)

/-- The name of each function key. -/
def functionNames : List (String × KeyCode) :=
  (List.finRange 12).map fun i => (s!"F{i.val + 1}", function i)

/-- The key of a name. -/
def ofName (name : String) : KeyCode :=
  ((byName ++ letterNames ++ digitNames ++ functionNames).lookup name).getD other

/-- The virtual-key code of a key. -/
def virtualKey : KeyCode → UInt32
  | letter index => 0x41 + index.val.toUInt32
  | digit index => 0x30 + index.val.toUInt32
  | function index => 0x70 + index.val.toUInt32
  | backspace => 0x08
  | tab => 0x09
  | enter | numpadEnter => 0x0D
  | shiftLeft | shiftRight => 0x10
  | controlLeft | controlRight => 0x11
  | altLeft | altRight => 0x12
  | escape => 0x1B
  | space => 0x20
  | pageUp => 0x21
  | pageDown => 0x22
  | endKey => 0x23
  | home => 0x24
  | arrowLeft => 0x25
  | arrowUp => 0x26
  | arrowRight => 0x27
  | arrowDown => 0x28
  | insert => 0x2D
  | delete => 0x2E
  | other => 0

/-- The keys that keyboards once reported with an extra code before their own. -/
def isExtended : KeyCode → Bool
  | controlRight | altRight | numpadEnter | insert | delete | home | endKey | pageUp | pageDown
  | arrowLeft | arrowUp | arrowRight | arrowDown => true
  | _ => false

end KeyCode

namespace PhysicalKey

def code : PhysicalKey → KeyCode
  | named name => .ofName name
  | unidentified => .other

/-- The virtual-key code of a physical key. -/
def virtualKey (k : PhysicalKey) : UInt32 := k.code.virtualKey

def isExtended (k : PhysicalKey) : Bool := k.code.isExtended

end PhysicalKey

/-- A key that goes down again while it is down is repeated. -/
def KeyAction.of (pressed repeated : Bool) : KeyAction :=
  match pressed, repeated with
  | true, true => .repeated
  | true, false => .press
  | false, _ => .release

end HostView
