/-!
# Key events and text

What a keyboard hook can be told: a key, a piece of text, or the progress of a composition, in
which an input method shows text that is not final yet.
-/

namespace HostView

/-- What happened to a key. -/
inductive KeyAction
  | press | release | repeated
deriving DecidableEq

/-- The name of the action in messages. -/
def KeyAction.name : KeyAction → String
  | press => "Press"
  | release => "Release"
  | repeated => "Repeat"

/-- A key as hooks see it. -/
structure KeyEvent where
  key : UInt32
  scancode : UInt32
  action : KeyAction
  character : Option Char
  extended : Bool
deriving DecidableEq

/-- A call to the keyboard hooks. -/
inductive Callback
  | key (event : KeyEvent)
  | text (text : String)
  | composeBegin
  | composeEnd
  | composeChange (text : String) (cursor : Nat)
deriving DecidableEq

/-- The five ways in which a hook is called. -/
inductive CallbackKind
  | key | text | composeBegin | composeEnd | composeChange
deriving DecidableEq

def Callback.kind : Callback → CallbackKind
  | key _ => .key
  | text _ => .text
  | composeBegin => .composeBegin
  | composeEnd => .composeEnd
  | composeChange _ _ => .composeChange

/-- Whether a call tells the progress of a composition. -/
def CallbackKind.composes : CallbackKind → Bool
  | key | text => false
  | composeBegin | composeEnd | composeChange => true

end HostView
