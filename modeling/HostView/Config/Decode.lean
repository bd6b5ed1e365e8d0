import HostView.Decimal
import HostView.Geometry
import HostView.Text.Quoted
import HostView.Toml.Value

/-!
# Settings, and how a table is read as settings

Each setting is decoded from the value of its key alone; unknown keys are skipped, and a missing
key leaves the default.  A section may also be an array of its settings in order.  The first
value of the wrong kind, in the order of the table, is the error of the whole.
-/

namespace HostView

/-- What is logged, and how. -/
structure LogSettings where
  filter : String := "info"
  timestamps : Bool := true
deriving DecidableEq

/-- How the engine is driven. -/
structure RenderSettings where
  frameInterval : UInt64 := 16
deriving DecidableEq

/-- The pause between frames in milliseconds, which is never zero. -/
def RenderSettings.pause (r : RenderSettings) : UInt64 := max r.frameInterval 1

/-- All settings. -/
structure Settings where
  title : String := "embedview"
  size : Size := ⟨1280, 720⟩
  /-- Takes the place of the scale of the window. -/
  scale : Option Float := none
  log : LogSettings := {}
  render : RenderSettings := {}

namespace Config

open Toml

/-- What a setting accepts. -/
inductive Expected
  | string
  | boolean
  | float
  | unsigned32
  | unsigned64
  | logSection
  | renderSection
deriving DecidableEq

/-- The name of what is expected, in messages. -/
def Expected.name : Expected → String
  | string => "a string"
  | boolean => "a boolean"
  | float => "f64"
  | unsigned32 => "u32"
  | unsigned64 => "u64"
  | logSection => "struct LogConfig"
  | renderSection => "struct RenderConfig"

/-- Why a value was refused. -/
inductive Reason
  /-- The value is of another kind. -/
  | wrongKind (found : Value) (expected : Expected)
  /-- The number is out of range. -/
  | outOfRange (found : Int) (expected : Expected)

/-- A value that was refused, with its bytes or those of its key. -/
structure Mismatch where
  reason : Reason
  span : Option Span

/-- A float in messages; a whole number is told from an integer by a point. -/
def floatText (x : Float) : String :=
  let text := Decimal.shortest x
  if x.isFinite && !text.toList.contains '.' then text ++ ".0" else text

/-- A value in messages; tables and times both count as maps. -/
def describe : Value → String
  | .string text => "string " ++ Text.quote text
  | .integer n => "integer \x60" ++ toString n ++ "\x60"
  | .float x => "floating point \x60" ++ floatText x ++ "\x60"
  | .boolean b => "boolean \x60" ++ toString b ++ "\x60"
  | .array _ | .tables _ => "sequence"
  | .datetime | .table _ _ => "map"

/-- The reason in messages. -/
def Reason.message : Reason → String
  | wrongKind found expected =>
    "invalid type: " ++ describe found ++ ", expected " ++ expected.name
  | outOfRange found expected =>
    "invalid value: integer \x60" ++ toString found ++ "\x60, expected " ++ expected.name

/-- What becomes of an item. -/
abbrev Decoded (α : Type) := Except Mismatch α

/-- An item is of another kind than expected. -/
def refuse {α : Type} (item : Item) (expected : Expected) : Decoded α :=
  .error ⟨.wrongKind item.value expected, item.span⟩

/-! ### Single values -/

def string (item : Item) : Decoded String :=
  match item.value with
  | .string text => .ok text
  | _ => refuse item .string

def boolean (item : Item) : Decoded Bool :=
  match item.value with
  | .boolean b => .ok b
  | _ => refuse item .boolean

/-- Whole numbers are accepted as well. -/
def float (item : Item) : Decoded Float :=
  match item.value with
  | .float x => .ok x
  | .integer n => .ok (Float.ofInt n)
  | _ => refuse item .float

/-- A whole number below a bound. -/
def unsigned (bound : Nat) (expected : Expected) (item : Item) : Decoded Nat :=
  match item.value with
  | .integer n =>
    if 0 ≤ n ∧ n < bound then .ok n.toNat
    else .error ⟨.outOfRange n expected, item.span⟩
  | _ => refuse item expected

def unsigned32 (item : Item) : Decoded UInt32 :=
  (unsigned (Nat.pow 2 32) .unsigned32 item).map Nat.toUInt32

def unsigned64 (item : Item) : Decoded UInt64 :=
  (unsigned (Nat.pow 2 64) .unsigned64 item).map Nat.toUInt64

/-! ### Sections -/

/-- How the value of a key changes what is being decoded; unknown keys change nothing. -/
abbrev Field (α : Type) := α → Item → Decoded α

/-- A mismatch without bytes of its own is shown at its key. -/
def atKey {α : Type} (key : Key) (d : Decoded α) : Decoded α :=
  d.mapError fun m => { m with span := m.span.or (some key.span) }

/-- Decodes the entries of a table in their order. -/
def entriesInto {α : Type} (fields : List (String × Field α)) (start : α)
    (entries : List Entry) : Decoded α :=
  entries.foldlM
    (fun a e =>
      match fields.lookup e.key.name with
      | none => .ok a
      | some field => atKey e.key (field a e.item))
    start

/-- Decodes items by their place; those too many are skipped. -/
def itemsInto {α : Type} : List (String × Field α) → α → List Item → Decoded α
  | (_, field) :: fields, a, item :: items => do itemsInto fields (← field a item) items
  | _, a, _ => .ok a

/-- Decodes a section from a table or from an array. -/
def sectionInto {α : Type} (fields : List (String × Field α)) (expected : Expected) (start : α)
    (item : Item) : Decoded α :=
  match item.value with
  | .table _ entries => entriesInto fields start entries
  | .array items | .tables items => itemsInto fields start items
  | .datetime => .ok start
  | _ => refuse item expected

def logFields : List (String × Field LogSettings) :=
  [("filter", fun s item => do return { s with filter := ← string item }),
    ("timestamps", fun s item => do return { s with timestamps := ← boolean item })]

def renderFields : List (String × Field RenderSettings) :=
  [("frame_interval_ms", fun s item => do return { s with frameInterval := ← unsigned64 item })]

def fields : List (String × Field Settings) :=
  [("title", fun s item => do return { s with title := ← string item }),
    ("width", fun s item => do return { s with size.width := ← unsigned32 item }),
    ("height", fun s item => do return { s with size.height := ← unsigned32 item }),
    ("pixel_ratio", fun s item => do return { s with scale := some (← float item) }),
    ("log", fun s item => do
      return { s with log := ← sectionInto logFields .logSection {} item }),
    ("render", fun s item => do
      return { s with render := ← sectionInto renderFields .renderSection {} item })]

/-- The settings of a document. -/
def decode (entries : List Entry) : Decoded Settings := entriesInto fields {} entries

end Config

end HostView
