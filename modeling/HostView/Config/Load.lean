import HostView.Config.Decode
import HostView.Error
import HostView.Toml.Document

/-!
# Loading the settings

Settings are read from the text of a document.  A document that cannot be read, a value of the
wrong kind and an empty window are errors; the second of them is shown with the line that it
stands on.  A file that is not there, that cannot be read, or whose bytes are no text, stands for
the defaults.
-/

namespace HostView.Config

open Toml

/-- Why there are no settings. -/
inductive Failure
  /-- The text is not a document. -/
  | malformed
  /-- A value is of the wrong kind or out of range. -/
  | mismatch (text : String) (mismatch : Mismatch)
  /-- The window would have no pixels. -/
  | emptyWindow (size : Size)

/-! ### Showing a mistake -/

/-- The characters of the first `count` bytes; a character that is cut by the end does not
count. -/
def takeBytes : Nat → List Char → List Char
  | _, [] => []
  | count, c :: cs => if c.utf8Size ≤ count then c :: takeBytes (count - c.utf8Size) cs else []

/-- The number of the line, counted from zero, and its column, in which a byte stands. -/
def position (text : String) (byte : Nat) : Nat × Nat :=
  let before := takeBytes byte text.toList
  (before.count '\n', (before.reverse.takeWhile (· != '\n')).length)

/-- The lines of a text; only line feeds end one. -/
def splitLines (text : String) : List String :=
  (text.toList.splitOn '\n').map String.ofList

/-- A message under the line that it is about, with the bytes in question marked. -/
def annotate (text : String) (span : Span) (message : String) : String :=
  let (line, column) := position text span.start
  let content := ((splitLines text)[line]?).getD ""
  let number := toString (line + 1)
  let gutter := "".pushn ' ' (number.length + 1) ++ "|"
  let marks := max 1 (min (span.stop - span.start) (content.utf8ByteSize - column))
  "TOML parse error at line " ++ number ++ ", column " ++ toString (column + 1) ++ "\n" ++
    gutter ++ "\n" ++
    number ++ " | " ++ content ++ "\n" ++
    gutter ++ "".pushn ' ' (column + 1) ++ "".pushn '^' marks ++ "\n" ++
    message ++ "\n"

/-- The text of a failure; that of a malformed document is not specified any further. -/
def Failure.message : Failure → String
  | malformed => "TOML parse error"
  | mismatch text m =>
    match m.span with
    | some span => annotate text span m.reason.message
    | none => m.reason.message ++ "\n"
  | emptyWindow size => s!"window size must be non-zero, got {size.text}"

/-! ### Loading -/

/-- The settings that a text holds. -/
def ofText (text : String) : Except Failure Settings := do
  match parse? text with
  | none => .error .malformed
  | some entries =>
    match decode entries with
    | .error m => .error (.mismatch text m)
    | .ok settings =>
      if settings.size.isEmpty then .error (.emptyWindow settings.size) else .ok settings

/-- What is found at the path of a file. -/
inductive FileContent
  | missing
  | directory
  /-- There is a file, but it cannot be read. -/
  | unreadable
  | bytes (bytes : ByteArray)

/-- The text of a file, if there is any. -/
def FileContent.text? : FileContent → Option String
  | missing | directory | unreadable => none
  | bytes b => String.fromUTF8? b

/-- The settings that a file holds; without a text there are the defaults. -/
def ofFile (content : FileContent) : Except Failure Settings :=
  match content.text? with
  | none => .ok {}
  | some text => ofText text

/-- A failure as an error of the view; `path` names the file, if there is one. -/
def Failure.error (path : Option String) (f : Failure) : ViewError :=
  .config ((path.map (· ++ ": ")).getD "" ++ f.message)

/-- The settings of a view from a text. -/
def read (text : String) : Except ViewError Settings :=
  (ofText text).mapError (Failure.error none)

/-- The settings of a view from the file at a path. -/
def load (path : String) (content : FileContent) : Except ViewError Settings :=
  (ofFile content).mapError (Failure.error (some path))

end HostView.Config
