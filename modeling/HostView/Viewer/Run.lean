import HostView.Config.Load
import HostView.Hook.Duty
import HostView.Host.App
import HostView.Log.Format

/-!
# The viewer

The viewer loads its settings, sets up the log, and runs a host with its two hooks.  What goes
wrong is written with its causes, and makes the exit code one.
-/

namespace HostView.Viewer

/-- The file that holds the settings. -/
def settingsPath : String := "viewer.toml"

/-- A span of milliseconds: in seconds from one second on, with no more digits than needed. -/
def millisecondsText (ms : Nat) : String :=
  if ms < 1000 then toString ms ++ "ms"
  else
    let digits := Nat.toDigits 10 (1000 + ms % 1000)
    let fraction := Decimal.trimZeros (digits.drop 1)
    toString (ms / 1000) ++ (if fraction.isEmpty then "" else "." ++ String.ofList fraction) ++ "s"

/-- The first record of a run. -/
def greeting (s : Settings) : Log.Record :=
  Log.Area.viewer.record .info
    ("viewer: " ++ s.size.text ++ " '" ++ s.title ++ "', frame interval " ++
      millisecondsText s.render.pause.toNat)

/-- The host of the viewer. -/
def host (s : Settings) : Host where
  settings := s
  hooks := [quitOnEscape, echoText]

/-! ### Errors with their causes -/

/-- A text in which further lines are indented. -/
def hang (first later : String) (text : String) : String :=
  first ++ ("\n" ++ later).intercalate ((text.toList.splitOn '\n').map String.ofList)

/-- Each cause on lines of its own; several causes are numbered. -/
def causes (texts : List String) : List String :=
  match texts with
  | [single] => [hang "    " "    " single]
  | _ => texts.zipIdx.map fun (text, n) =>
      let number := toString n
      hang ("".pushn ' ' (5 - number.length) ++ number ++ ": ") "       " text

/-- The text that tells what failed and why. -/
def failureOutput (what : String) (error : ViewError) : String :=
  let causes := causes (error.message :: error.sources)
  "Error: " ++ what ++ "\n\nCaused by:\n" ++ "\n".intercalate causes ++ "\n"

/-! ### A run -/

/-- What a run of the viewer leaves behind: its exit code and its error output. -/
structure Exit where
  code : Nat
  errors : String

/-- The viewer cannot start without settings. -/
def unloadable (error : ViewError) : Exit :=
  ⟨1, failureOutput ("loading " ++ settingsPath) error⟩

/-- The end of a run that has logged some records after the greeting. -/
def finish (settings : Settings) (environment : Option String) (stamp : String)
    (records : List Log.Record) (result : Except ViewError Unit) : Exit :=
  let logger := Log.Logger.init settings.log environment
  let log := logger.warningOutput ++ logger.output stamp (greeting settings :: records)
  match result with
  | .ok () => ⟨0, log⟩
  | .error e => ⟨1, log ++ failureOutput "viewer host" e⟩

end HostView.Viewer
