import HostView.Log.Record

/-!
# Which records are written

A filter is given by a text such as `info,app=debug/word`: directives with commas between them,
and behind a slash a piece of text that every record has to contain.  A directive names a level,
a target, or both; the one with the longest target that begins the target of a record decides
about it.
-/

namespace HostView

/-! ### Blanks -/

namespace Text

/-- The blank characters that are not next to each other in one of the ranges of `isBlank`. -/
def singleBlanks : List Nat := [0x20, 0x85, 0xA0, 0x1680, 0x2028, 0x2029, 0x202F, 0x205F, 0x3000]

/-- Whether a character is white space. -/
def isBlank (c : Char) : Bool :=
  (0x09 ≤ c.toNat && c.toNat ≤ 0x0D) || (0x2000 ≤ c.toNat && c.toNat ≤ 0x200A) ||
    singleBlanks.contains c.toNat

/-- The characters without blanks at either end. -/
def trim (cs : List Char) : List Char :=
  ((cs.dropWhile isBlank).reverse.dropWhile isBlank).reverse

end Text

namespace Log

/-! ### Filters -/

/-- What is written of the targets that begin with `target`, or of all; without a level, nothing
is. -/
structure Directive where
  target : Option String
  level : Option Level
deriving DecidableEq

/-- Which records are written. -/
structure Filter where
  directives : List Directive
  /-- Text that a message has to contain. -/
  pattern : Option String := none
deriving DecidableEq

/-! ### Reading a filter -/

/-- The level of a name in any case; `off` is no level at all. -/
def levelOfName? (name : List Char) : Option (Option Level) :=
  let upper := String.ofList (name.map Char.toUpper)
  if upper = "OFF" then some none
  else (Level.all.find? fun l => l.name = upper).map some

/-- What one directive says, or the part of it that cannot be understood. -/
def readDirective (text : List Char) : Except (List Char) Directive :=
  match text.splitOn '=' with
  | [single] =>
    match levelOfName? single with
    | some level => .ok ⟨none, level⟩
    | none => .ok ⟨some (String.ofList single), some .trace⟩
  | [target, level] =>
    let level := Text.trim level
    if level.isEmpty then .ok ⟨some (String.ofList target), some .trace⟩
    else
      match levelOfName? level with
      | some l => .ok ⟨some (String.ofList target), l⟩
      | none => .error level
  | _ => .error text

/-- A later directive for a target takes the place of an earlier one. -/
def addDirective (d : Directive) : List Directive → List Directive
  | [] => [d]
  | e :: es => if e.target = d.target then d :: es else e :: addDirective d es

/-- Reads the directives; those that cannot be understood are given back. -/
def readDirectives : List (List Char) → List Directive × List (List Char)
  | [] => ([], [])
  | text :: texts =>
    let (ds, bad) := readDirectives texts
    if (Text.trim text).isEmpty then (ds, bad)
    else
      match readDirective (Text.trim text) with
      | .ok d => (d :: ds, bad)
      | .error part => (ds, part :: bad)

/-- The warning about a part of a filter. -/
def ignoring (text : List Char) (why : String) : String :=
  "warning: invalid logging spec '" ++ String.ofList text ++ "'" ++ why ++ ", ignoring it"

/-- Without any directive, errors are written. -/
def Filter.standard : List Directive := [⟨none, some .error⟩]

/-- The filter of a text, and the warnings about its parts. -/
def Filter.read (text : String) : Filter × List String :=
  let finish (ds : List Directive) : List Directive :=
    if ds.isEmpty then standard else ds.foldl (fun all d => addDirective d all) []
  match text.toList.splitOn '/' with
  | directives :: rest =>
    if 2 ≤ rest.length then
      ({ directives := standard }, [ignoring text.toList " (too many '/'s)"])
    else
      let (ds, bad) := readDirectives (directives.splitOn ',')
      ({ directives := finish ds, pattern := rest.head?.map String.ofList },
        bad.map fun part => ignoring part "")
  | [] => ({ directives := standard }, [])

/-! ### Using a filter -/

/-- Whether a text contains another one. -/
def containsText (pattern : List Char) : List Char → Bool
  | [] => pattern.isEmpty
  | c :: cs => pattern.isPrefixOf (c :: cs) || containsText pattern cs

/-- The text that a target has to begin with. -/
def Directive.beginning (d : Directive) : String := d.target.getD ""

/-- The directive that decides about a target: of those that begin it the longest, and of equally
long ones the last. -/
def Filter.decider (f : Filter) (target : String) : Option Directive :=
  (f.directives.filter fun d => d.beginning.toList.isPrefixOf target.toList).foldl
    (fun best d =>
      match best with
      | none => some d
      | some b => if b.beginning.utf8ByteSize ≤ d.beginning.utf8ByteSize then some d else some b)
    none

/-- How much a level lets through. -/
def rankOf (level : Option Level) : Nat := (level.map Level.rank).getD 0

/-- Whether a record is written. -/
def Filter.accepts (f : Filter) (r : Record) : Bool :=
  (match f.decider r.target with
    | none => false
    | some d => r.level.rank ≤ rankOf d.level) &&
  (match f.pattern with
    | none => true
    | some pattern => containsText pattern.toList r.message.toList)

/-- The least serious level that any directive lets through. -/
def Filter.maxLevel (f : Filter) : Option Level :=
  (f.directives.map Directive.level).foldl
    (fun best level => if rankOf best ≤ rankOf level then level else best) none

end Log

end HostView
