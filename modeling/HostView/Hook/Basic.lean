import HostView.Keyboard.Event
import HostView.Pointer.Event

/-!
# Keyboard hooks

A `Hook` is called with keys, text and compositions.  Its `Manner` says how it answers and what
it always does; its script says what it does beside that on particular calls: register further
hooks, call the view again, move the pointer, or panic, and answer otherwise than by its rule.
Every script is finite, and each of its `Reaction`s is used up by one call.
-/

namespace HostView

/-- Which keys a hook keeps for itself. -/
inductive KeyRule
  | always (consumed : Bool)
  | codes (keys : List UInt32)
  | pressOf (key : UInt32)
deriving DecidableEq

def KeyRule.consumes : KeyRule → KeyEvent → Bool
  | always consumed, _ => consumed
  | codes keys, e => keys.contains e.key
  | pressOf key, e => e.key == key && e.action == .press

/-- What a hook does on every call, whatever its script says. -/
inductive Duty
  | quitOnEscape
  | echoText
deriving DecidableEq

/-- The lasting traits of a hook. -/
structure Manner where
  name : String
  consumes : KeyRule
  /-- Whether the hook takes notice of compositions. -/
  composes : Bool := true
  duty : Option Duty := none
deriving DecidableEq

/-- Whether a hook of this manner takes notice of a call. -/
def Manner.hears (m : Manner) (callback : Callback) : Bool :=
  m.composes || !callback.kind.composes

mutual

/-- A member of the hook chain. -/
inductive Hook
  | mk (manner : Manner) (script : List Reaction)

/-- What a hook does the first time that it is called in a certain way, and how it answers then if
it does not go by its rule. -/
inductive Reaction
  | mk (kind : CallbackKind) (actions : List Action) (answer : Option Bool := none)

/-- What a hook can do while it is called. -/
inductive Action
  | register (hook : Hook)
  | enter (callback : Callback)
  | point (input : PointerInput)
  | panic (message : String)

end

/-- A hook that keeps nothing for itself and does nothing. -/
def Hook.idle (name : String) : Hook := .mk { name, consumes := .always false } []

instance : Inhabited Hook := ⟨.idle ""⟩

def Hook.manner : Hook → Manner
  | .mk manner _ => manner

def Hook.script : Hook → List Reaction
  | .mk _ script => script

def Reaction.kind : Reaction → CallbackKind
  | .mk kind _ _ => kind

def Reaction.actions : Reaction → List Action
  | .mk _ actions _ => actions

def Reaction.answer : Reaction → Option Bool
  | .mk _ _ answer => answer

/-- The actions of the first reaction of a kind, and the script without it. -/
def takeReaction (kind : CallbackKind) : List Reaction → List Action × List Reaction
  | [] => ([], [])
  | r :: rs =>
    if r.kind = kind then (r.actions, rs)
    else
      let rest := takeReaction kind rs
      (rest.1, r :: rest.2)

/-- A call to a hook: what it does now, and the hook that is left. -/
def Hook.react (h : Hook) (callback : Callback) : List Action × Hook :=
  if h.manner.hears callback then
    let taken := takeReaction callback.kind h.script
    (taken.1, .mk h.manner taken.2)
  else ([], h)

/-- The answer that a script holds ready for the next call of a kind. -/
def nextAnswer (kind : CallbackKind) (rs : List Reaction) : Option Bool :=
  (rs.find? fun r => r.kind = kind).bind Reaction.answer

/-- Whether a hook that is called now keeps the call for itself; only keys can be kept. -/
def Hook.consumes (h : Hook) : Callback → Bool
  | .key e => (nextAnswer .key h.script).getD (h.manner.consumes.consumes e)
  | _ => false

@[simp] theorem Hook.manner_react (h : Hook) (c : Callback) :
    (h.react c).2.manner = h.manner := by
  unfold react; split <;> rfl

end HostView
