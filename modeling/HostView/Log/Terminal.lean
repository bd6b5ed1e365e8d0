/-!
# What a terminal shows of a text

A text can hold controls for a terminal: sequences that colour or move, commands, and strings for a
device.  A reader takes the text character by character, keeps what stands in none of these, and
leaves the rest out.
-/

namespace HostView.Log

/-- Where the reader of a terminal is. -/
inductive TerminalState
  | ground
  /-- Behind an escape. -/
  | escape
  /-- Behind an escape and a mark, which one more character follows. -/
  | marked
  /-- In a control sequence, which ends with a letter or the like. -/
  | sequence
  /-- In a command for the terminal, which ends with a bell. -/
  | command
  /-- At the head of a string for a device. -/
  | deviceHead
  /-- In the parameters of a string for a device. -/
  | deviceParameters
  /-- In the marks that stand before the name of a string for a device. -/
  | deviceMarks
  /-- In a string, which ends with a terminator. -/
  | string
deriving DecidableEq

/-- Whether a character is one of the first hundred and twenty-eight. -/
def isAscii (c : Char) : Bool := c.toNat < 0x80

/-- Whether a character is a blank of the first hundred and twenty-eight. -/
def isAsciiBlank (c : Char) : Bool :=
  c == ' ' || c == '\t' || c == '\n' || c == '\r' || c == '\x0c'

/-- Whether a character is a control of the first hundred and twenty-eight. -/
def isAsciiControl (c : Char) : Bool := c.toNat < 0x20 || c.toNat == 0x7F

/-- Whether a character is a mark, as they stand before the last character of a control. -/
def isMark (c : Char) : Bool := ' ' ≤ c && c ≤ '/'

/-- Whether a character can end what a mark leads to. -/
def endsMarked (c : Char) : Bool := '0' ≤ c && c ≤ '~'

/-- Whether a character can end a control sequence. -/
def endsSequence (c : Char) : Bool := '@' ≤ c && c ≤ '~'

/-- Whether a character contains the byte that ends a string. -/
def hasTerminator (c : Char) : Bool := (String.utf8EncodeChar c).contains 0x9C

namespace TerminalState

/-- Whether a character is shown.  Blanks that are controls are shown inside a sequence too. -/
def shows (s : TerminalState) (c : Char) : Bool :=
  match s with
  | ground => isAsciiBlank c || !isAsciiControl c
  | escape | marked | sequence => isAsciiBlank c && c != ' '
  | command | deviceHead | deviceParameters | deviceMarks | string => false

/-- What a character that stands behind an escape leads to. -/
def afterEscape (c : Char) : TerminalState :=
  if c == '[' then sequence
  else if c == ']' then command
  else if c == 'P' then deviceHead
  else if c == 'X' || c == '^' || c == '_' then string
  else if isMark c then marked
  else if endsMarked c then ground
  else escape

/-- What a character that is not shown leads to. -/
def afterHidden (s : TerminalState) (c : Char) : TerminalState :=
  if c == '\x1b' then escape
  else if c == '\x18' || c == '\x1a' then ground
  else
    match s with
    | ground => ground
    | escape => afterEscape c
    | marked => if endsMarked c then ground else marked
    | sequence => if endsSequence c then ground else sequence
    | command => if c == '\x07' then ground else command
    | deviceHead =>
      if isMark c then deviceMarks
      else if '0' ≤ c && c ≤ '?' then deviceParameters
      else if endsSequence c then string
      else deviceHead
    | deviceParameters =>
      if isMark c then deviceMarks
      else if '<' ≤ c && c ≤ '~' then string
      else deviceParameters
    | deviceMarks => if endsMarked c then string else deviceMarks
    | string => if hasTerminator c then ground else string

/-- What a character that is shown leads to: one beyond the first hundred and twenty-eight ends a
sequence, while the others leave it open. -/
def afterShown (s : TerminalState) (c : Char) : TerminalState :=
  if isAscii c then s else ground

end TerminalState

/-- A reader of what is written to a terminal. -/
structure TerminalReader where
  state : TerminalState
  /-- The last character was shown.  Then the next one is judged as on the ground, although a
  sequence that a blank has interrupted is still open, and goes on behind the text that is shown. -/
  showing : Bool
deriving DecidableEq

namespace TerminalReader

/-- A reader at the start of a text. -/
def start : TerminalReader := ⟨.ground, false⟩

/-- Whether a character is shown. -/
def shows (r : TerminalReader) (c : Char) : Bool :=
  if r.showing then TerminalState.ground.shows c else r.state.shows c

/-- The reader behind a character. -/
def next (r : TerminalReader) (c : Char) : TerminalReader :=
  if r.shows c then ⟨r.state.afterShown c, true⟩ else ⟨r.state.afterHidden c, false⟩

/-- The characters that are shown. -/
def visible (r : TerminalReader) : List Char → List Char
  | [] => []
  | c :: cs => if r.shows c then c :: (r.next c).visible cs else (r.next c).visible cs

end TerminalReader

/-- The part of a text that a terminal would show. -/
def visible (text : String) : String := String.ofList (TerminalReader.start.visible text.toList)

end HostView.Log
