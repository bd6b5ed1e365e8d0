import HostView.Decimal
import HostView.Toml.Reader

/-!
# Strings, numbers and times

Strings stand in single or double quotes, or in three of either and then over several lines.
Numbers may be grouped by underscores.  A date or a time is checked and then known only to be
one.
-/

namespace HostView.Toml

open Reader

/-! ### Strings -/

/-- The value of a digit in any base up to sixteen. -/
def digitValue (c : Char) : Nat :=
  if c.isDigit then c.toNat - '0'.toNat else c.toLower.toNat - 'a'.toNat + 10

/-- Whether a character is a digit of a base up to sixteen. -/
def isDigitOf (base : Nat) (c : Char) : Bool :=
  (c.isDigit || ('a' ≤ c.toLower && c.toLower ≤ 'f')) && digitValue c < base

/-- The number that digits spell. -/
def number (base : Nat) (digits : List Char) : Nat :=
  digits.foldl (fun n c => base * n + digitValue c) 0

/-- A character given by the hexadecimal digits of its code point. -/
def codePoint (count : Nat) : Reader Char := do
  let n := number 16 (← exactly (satisfy (isDigitOf 16)) count)
  check (decide n.isValidChar)
  return Char.ofNat n

/-- The character behind a backslash. -/
def escaped : Reader Char := do
  match ← satisfy fun _ => true with
  | 'b' => return '\x08'
  | 't' => return '\t'
  | 'n' => return '\n'
  | 'f' => return '\x0c'
  | 'r' => return '\r'
  | '"' => return '"'
  | '\\' => return '\\'
  | 'u' => codePoint 4
  | 'U' => codePoint 8
  | _ => failure

/-- A character of a string in double quotes that stands for itself. -/
def isPlain (c : Char) : Bool := isVisible c && c != '"' && c != '\\'

/-- A character of a string in single quotes. -/
def isLiteral (c : Char) : Bool := isVisible c && c != '\''

/-- A string in double quotes, on one line. -/
def basicString : Reader String := do
  let _ ← char '"'
  let body ← many (satisfy isPlain <|> do let _ ← char '\\'; escaped)
  let _ ← char '"'
  return String.ofList body

/-- A string in single quotes, on one line. -/
def literalString : Reader String := do
  let _ ← char '\''
  let body ← takeWhile isLiteral
  let _ ← char '\''
  return String.ofList body

/-- An end of line inside a string. -/
def lineFeed : Reader (List Char) := do
  newline
  return ['\n']

/-- A backslash at the end of a line swallows all blanks and lines up to the next character. -/
def lineSplice : Reader (List Char) := do
  let _ ← char '\\'
  blanks
  newline
  let blank : Reader Unit := do let _ ← satisfy isBlank
  let _ ← many (blank <|> newline)
  return []

/-- One or two quotes inside a string of several lines. -/
def innerQuotes (quote : Char) : Reader (List Char) := do
  let quotes ← takeWhile (· == quote)
  check (0 < quotes.length && quotes.length < 3)
  return quotes

/-- The three quotes that end a string of several lines; two more before them belong to it. -/
def closingQuotes (quote : Char) : Reader (List Char) := do
  let quotes ← takeWhile (· == quote)
  check (3 ≤ quotes.length && quotes.length ≤ 5)
  return quotes.drop 3

/-- A string of several lines; an end of line right behind the quotes is not part of it. -/
def longString (quote : Char) (piece : Reader (List Char)) : Reader String := do
  chars [quote, quote, quote]
  let _ ← attempt newline
  let body ← many (piece <|> lineFeed <|> innerQuotes quote)
  return String.ofList (body.flatten ++ (← closingQuotes quote))

/-- A string of several lines in double quotes. -/
def longBasicString : Reader String :=
  longString '"' <|
    (do return [← satisfy isPlain]) <|> lineSplice <|>
      do
        let _ ← char '\\'
        return [← escaped]

/-- A string of several lines in single quotes. -/
def longLiteralString : Reader String := longString '\'' do return [← satisfy isLiteral]

/-! ### Numbers -/

def isDigit (c : Char) : Bool := c.isDigit

/-- Digits, of which two neighbours may have an underscore between them. -/
def grouped (p : Char → Bool) : Reader (List Char) := do
  let first ← satisfy p
  let rest ← many (satisfy p <|> do let _ ← char '_'; satisfy p)
  return first :: rest

/-- Whether there is a minus sign; a plus sign is skipped. -/
def sign : Reader Bool := do
  match ← attempt (char '-' <|> char '+') with
  | some '-' => return true
  | _ => return false

/-- The digits of a decimal number; only zero itself begins with a zero. -/
def decimalDigits : Reader (List Char) := do
  match ← peek with
  | some '0' => return [← char '0']
  | _ => grouped isDigit

/-- The numbers that fit in sixty-four bits. -/
def fits (n : Int) : Bool := -Int.pow 2 63 ≤ n && n < Int.pow 2 63

/-- A whole number in base two, eight or sixteen. -/
def prefixedInteger (letter : Char) (base : Nat) : Reader Value := do
  chars ['0', letter]
  let n : Int := number base (← grouped (isDigitOf base))
  check (fits n)
  return .integer n

/-- A whole number in base ten. -/
def decimalInteger : Reader Value := do
  let negative ← sign
  let n : Int := number 10 (← decimalDigits)
  let n := if negative then -n else n
  check (fits n)
  return .integer n

/-- The digits behind a point. -/
def fractionDigits : Reader (List Char) := do
  let _ ← char '.'
  grouped isDigit

/-- The power of ten behind an `e`. -/
def exponent : Reader Int := do
  let _ ← char 'e' <|> char 'E'
  let negative ← sign
  let n : Int := number 10 (← grouped isDigit)
  return if negative then -n else n

/-- A number with a fraction or an exponent; one that is too large for a double is refused, unless
it is negative. -/
def decimalFloat : Reader Value := do
  let negative ← sign
  let whole ← decimalDigits
  let fraction ← attempt fractionDigits
  let power ← attempt exponent
  check (fraction.isSome || power.isSome)
  let fraction := fraction.getD []
  let x := Decimal.toFloat (number 10 (whole ++ fraction)) (power.getD 0 - fraction.length)
  let x := if negative then -x else x
  check (negative || !x.isInf)
  return .float x

/-- An infinity, or no number at all. -/
def specialFloat : Reader Value := do
  let negative ← sign
  let signed (x : Float) := if negative then -x else x
  (do chars ['i', 'n', 'f']; return .float (signed (1.0 / 0.0))) <|>
    do chars ['n', 'a', 'n']; return .float (signed (0.0 / 0.0))

/-! ### Dates and times -/

/-- A number of a given count of digits within bounds. -/
def bounded (count low high : Nat) : Reader Nat := do
  let n := number 10 (← exactly (satisfy isDigit) count)
  check (low ≤ n && n ≤ high)
  return n

/-- How many days a month has. -/
def daysIn (year month : Nat) : Nat :=
  if month = 2 then
    if year % 4 = 0 ∧ (year % 100 ≠ 0 ∨ year % 400 = 0) then 29 else 28
  else if month = 4 ∨ month = 6 ∨ month = 9 ∨ month = 11 then 30
  else 31

def date : Reader Unit := do
  let year ← bounded 4 0 9999
  let _ ← char '-'
  let month ← bounded 2 1 12
  let _ ← char '-'
  let _ ← bounded 2 1 (daysIn year month)

def time : Reader Unit := do
  let _ ← bounded 2 0 23
  let _ ← char ':'
  let _ ← bounded 2 0 59
  let _ ← char ':'
  let _ ← bounded 2 0 60
  let _ ← attempt do
    let _ ← char '.'
    let _ ← satisfy isDigit
    takeWhile isDigit

/-- The distance of a time from universal time. -/
def offset : Reader Unit :=
  (do let _ ← char 'Z' <|> char 'z') <|> do
    let _ ← char '+' <|> char '-'
    let _ ← bounded 2 0 23
    let _ ← char ':'
    let _ ← bounded 2 0 59

/-- A date, a time, or both. -/
def datetime : Reader Value :=
  (do
    date
    let _ ← attempt do
      let _ ← char 'T' <|> char 't' <|> char ' '
      time
      attempt offset
    return .datetime) <|>
  do
    time
    return .datetime

/-! ### All of them -/

/-- A value that holds no other values. -/
def scalar : Reader Value := do
  let string (r : Reader String) : Reader Value := do return .string (← r)
  let word (w : String) (b : Bool) : Reader Value := do
    chars w.toList
    return .boolean b
  string longBasicString <|> string basicString <|> string longLiteralString <|>
    string literalString <|> word "true" true <|> word "false" false <|> datetime <|>
    decimalFloat <|> specialFloat <|> prefixedInteger 'x' 16 <|> prefixedInteger 'o' 8 <|>
    prefixedInteger 'b' 2 <|> decimalInteger

end HostView.Toml
