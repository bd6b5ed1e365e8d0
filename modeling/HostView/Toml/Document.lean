import HostView.Toml.Scalar
import HostView.Toml.Table

/-!
# Reading a document

A document is a list of lines: blank ones, pairs of a key and a value, and headers.  It is read
line by line, cut into sections at the headers, and built into one table.  `parse?` fails on
everything that is not a document.
-/

namespace HostView.Toml

open Reader

/-- How many arrays and tables in braces may stand inside each other. -/
def maxDepth : Nat := 79

/-- How many keys a dotted key or a header may have. -/
def maxKeys : Nat := 79

/-! ### Keys -/

/-- A character of a key without quotes. -/
def isBareKey (c : Char) : Bool := c.isAlphanum || c == '-' || c == '_'

/-- One key with its bytes. -/
def simpleKey : Reader Key := do
  let bare : Reader String := do
    let cs ← takeWhile isBareKey
    check (!cs.isEmpty)
    return String.ofList cs
  let (name, span) ← spanned (basicString <|> literalString <|> bare)
  return ⟨name, span⟩

/-- Keys with points between them: the last one and those before it. -/
def dottedKey : Reader (List Key × Key) := do
  let one : Reader Key := do
    blanks
    let key ← simpleKey
    blanks
    return key
  let keys ← separated one (char '.')
  check (keys.length ≤ maxKeys)
  match keys.getLast? with
  | none => failure
  | some last => return (keys.dropLast, last)

/-! ### Values -/

/-- A pair whose value is read by `value`. -/
def pair (value : Reader Value) : Reader Pair := do
  let (path, key) ← dottedKey
  let _ ← char '='
  blanks
  let (v, span) ← spanned value
  return ⟨path, key, .mk (some span) v⟩

/-- An array; a comma may follow its last item. -/
def array (value : Reader Value) : Reader Value := do
  let item : Reader Item := do
    filling
    let (v, span) ← spanned value
    filling
    return .mk (some span) v
  let items : Reader (List Item) := do
    let items ← separated item (char ',')
    let _ ← attempt (char ',')
    return items
  let _ ← char '['
  let found ← attempt items
  filling
  let _ ← char ']'
  return .array (found.getD [])

/-- A table in braces, on one line. -/
def braces (value : Reader Value) : Reader Value := do
  let spaced : Reader Pair := do
    let p ← pair value
    blanks
    return p
  let _ ← char '\x7b'
  let pairs ← attempt (separated spaced (char ','))
  blanks
  let _ ← char '\x7d'
  match addPairs [] (pairs.getD []) with
  | none => failure
  | some entries => return .table .braces entries

/-- A value in which arrays and braces stand inside each other at most `depth` times. -/
def value : Nat → Reader Value
  | 0 => scalar
  | depth + 1 => scalar <|> array (value depth) <|> braces (value depth)

/-! ### Documents -/

/-- A line of a document. -/
inductive Line
  | blank
  | pair (pair : Pair)
  | header (s : Section)

/-- A header; the section that it opens has no pairs yet. -/
def header : Reader Section := do
  let double : Reader (Bool × List Key × Key) := do
    chars ['[', '[']
    let key ← dottedKey
    chars [']', ']']
    return (true, key)
  let single : Reader (Bool × List Key × Key) := do
    let _ ← char '['
    let key ← dottedKey
    let _ ← char ']'
    return (false, key)
  let ((repeated, path, key), span) ← spanned (double <|> single)
  return { path, key, repeated, span, pairs := [] }

/-- One line. -/
def line : Reader Line := do
  blanks
  match ← peek with
  | none => failure
  | some '[' => do
    let s ← header
    lineEnd
    return .header s
  | some '#' => do
    comment
    newline <|> atEnd
    return .blank
  | some '\r' | some '\n' => do
    newline
    return .blank
  | some _ => do
    let p ← pair (value maxDepth)
    lineEnd
    return .pair p

/-- All lines; a byte order mark before the first one is skipped. -/
def lines : Reader (List Line) := do
  let _ ← attempt (char '\ufeff')
  let ls ← many line
  blanks
  atEnd
  return ls

/-- The pairs before the first header, and the sections. -/
def sections : List Line → List Pair × List Section
  | [] => ([], [])
  | .blank :: ls => sections ls
  | .pair p :: ls =>
    let (pairs, rest) := sections ls
    (p :: pairs, rest)
  | .header s :: ls =>
    let (pairs, rest) := sections ls
    ([], { s with pairs } :: rest)

/-- The table that lines build. -/
def build (ls : List Line) : Option (List Entry) := do
  let (pairs, rest) := sections ls
  rest.foldlM addSection (← addPairs [] pairs)

/-- The table of a document. -/
def parse? (text : String) : Option (List Entry) :=
  (lines ⟨text.toList, 0⟩).bind fun (ls, _) => build ls

end HostView.Toml
