/-!
# Values of a TOML document

A document is a tree of `Value`s.  Every item knows the bytes of the document that it was read
from, unless it came into being only by being named on the way to another one; every key knows
its bytes.  The entries of a table are in the order in which they were added.
-/

namespace HostView.Toml

/-- Bytes of a document, the last one excluded. -/
structure Span where
  start : Nat
  stop : Nat
deriving DecidableEq, Inhabited

/-- A key with the bytes that spell it. -/
structure Key where
  name : String
  span : Span
deriving DecidableEq, Inhabited

/-- How a table came into being. -/
inductive Origin
  /-- By a header, or as the document itself. -/
  | header
  /-- On the way to a table further in that has a header. -/
  | implied
  /-- On the way to a value with a dotted key. -/
  | dotted
  /-- In braces. -/
  | braces
deriving DecidableEq

mutual

/-- A value of a document. -/
inductive Value
  | string (text : String)
  | integer (number : Int)
  | float (number : Float)
  | boolean (value : Bool)
  | datetime
  | array (items : List Item)
  /-- The tables under one header in double brackets. -/
  | tables (items : List Item)
  | table (origin : Origin) (entries : List Entry)

/-- A value with its bytes. -/
inductive Item
  | mk (span : Option Span) (value : Value)

/-- A key with what it stands for. -/
inductive Entry
  | mk (key : Key) (item : Item)

end

instance : Inhabited Value := ⟨.datetime⟩
instance : Inhabited Item := ⟨.mk none .datetime⟩

def Item.span : Item → Option Span
  | .mk span _ => span

def Item.value : Item → Value
  | .mk _ value => value

def Entry.key : Entry → Key
  | .mk key _ => key

def Entry.item : Entry → Item
  | .mk _ item => item

/-- What a key stands for in a table. -/
def lookup (name : String) (entries : List Entry) : Option Item :=
  (entries.find? fun e => e.key.name == name).map Entry.item

/-- Gives a key of a table something else to stand for. -/
def replace (name : String) (item : Item) (entries : List Entry) : List Entry :=
  entries.map fun e => if e.key.name == name then .mk e.key item else e

/-- Removes a key from a table. -/
def erase (name : String) (entries : List Entry) : List Entry :=
  entries.filter fun e => e.key.name != name

end HostView.Toml
