import HostView.Toml.Value

/-!
# Reading characters

A `Reader` takes characters off the front of a document and keeps count of the bytes; where it
cannot go on it fails, and an alternative starts where it started.  Repetition is bounded by the
number of characters that are left.
-/

namespace HostView.Toml

/-- The characters that are left, and the number of bytes before them. -/
structure Cursor where
  rest : List Char
  position : Nat

/-- A reader of one piece of a document. -/
abbrev Reader := StateT Cursor Option

namespace Reader

variable {α β : Type}

/-- The next character, which stays where it is. -/
def peek : Reader (Option Char) := fun c => some (c.rest.head?, c)

/-- The next character, if it satisfies a condition. -/
def satisfy (p : Char → Bool) : Reader Char := fun c =>
  match c.rest with
  | [] => none
  | x :: xs => if p x then some (x, ⟨xs, c.position + x.utf8Size⟩) else none

/-- One given character. -/
def char (x : Char) : Reader Char := satisfy (· == x)

/-- Given characters, one after the other. -/
def chars : List Char → Reader Unit
  | [] => return
  | x :: xs => do
    let _ ← char x
    chars xs

/-- As many characters as satisfy a condition. -/
def takeWhile (p : Char → Bool) : Reader (List Char) := fun c =>
  let taken := c.rest.takeWhile p
  some (taken, ⟨c.rest.dropWhile p, c.position + taken.foldr (·.utf8Size + ·) 0⟩)

/-- What a reader reads, or nothing where it fails. -/
def attempt (r : Reader α) : Reader (Option α) := fun c =>
  match r c with
  | some (a, c) => some (some a, c)
  | none => some (none, c)

/-- At most `count` pieces. -/
def repeatFor (r : Reader α) : Nat → Reader (List α)
  | 0 => return []
  | count + 1 => do
    match ← attempt r with
    | none => return []
    | some a => return a :: (← repeatFor r count)

/-- As many pieces as there are; each is to have at least one character. -/
def many (r : Reader α) : Reader (List α) := fun c => repeatFor r c.rest.length c

/-- Pieces with a separator between them, at least one. -/
def separated (r : Reader α) (separator : Reader β) : Reader (List α) := do
  let first ← r
  return first :: (← many do let _ ← separator; r)

/-- Exactly `count` pieces. -/
def exactly (r : Reader α) : Nat → Reader (List α)
  | 0 => return []
  | count + 1 => do
    let a ← r
    return a :: (← exactly r count)

/-- What a reader reads, with its bytes. -/
def spanned (r : Reader α) : Reader (α × Span) := fun c =>
  (r c).map fun (a, d) => ((a, ⟨c.position, d.position⟩), d)

/-- Fails where a condition does not hold. -/
def check (condition : Bool) : Reader Unit := if condition then return else failure

/-- The end of the document. -/
def atEnd : Reader Unit := fun c => if c.rest.isEmpty then some ((), c) else none

end Reader

/-! ### Blanks and lines -/

open Reader

/-- Spaces and tabs. -/
def isBlank (c : Char) : Bool := c == ' ' || c == '\t'

/-- Skips spaces and tabs. -/
def blanks : Reader Unit := do let _ ← takeWhile isBlank

/-- The end of a line; a carriage return counts only before a line feed. -/
def newline : Reader Unit := do
  let _ ← attempt (char '\r')
  let _ ← char '\n'

/-- Characters that may stand in comments and in text. -/
def isVisible (c : Char) : Bool := c == '\t' || (0x20 ≤ c.toNat && c.toNat != 0x7F)

/-- A comment, up to the end of its line. -/
def comment : Reader Unit := do
  let _ ← char '#'
  let _ ← takeWhile isVisible

/-- What may follow on a line that is complete. -/
def lineEnd : Reader Unit := do
  blanks
  let _ ← attempt comment
  newline <|> atEnd

/-- Blanks, comments and ends of lines, as they may stand between the items of an array. -/
def filling : Reader Unit := do
  let blank : Reader Unit := do let _ ← satisfy isBlank
  let _ ← many (blank <|> newline <|> comment)

end HostView.Toml
