import HostView.Config.Decode
import HostView.Log.Filter
import HostView.Log.Terminal

/-!
# How records are written

With a time stamp, the level is padded and the further lines of a message are indented; without
one, a record is written as it is.  What controls a terminal is taken out of either.
-/

namespace HostView.Log

/-- A level as wide as the widest. -/
def paddedName (l : Level) : String := l.name.pushn ' ' (5 - l.name.length)

/-- A message whose further lines are indented. -/
def indented (message : String) : String :=
  "\n    ".intercalate ((message.toList.splitOn '\n').map String.ofList)

/-- A record with the time at which it was written, or without. -/
def Record.write (stamp : Option String) (r : Record) : String :=
  match stamp with
  | some stamp =>
    let target := if r.target.isEmpty then "" else " " ++ r.target
    "[" ++ stamp ++ " " ++ paddedName r.level ++ target ++ "] " ++ indented r.message
  | none => "[" ++ r.level.name ++ " " ++ r.target ++ "] " ++ r.message

/-- What is written for a record. -/
def Record.output (stamp : Option String) (r : Record) : String :=
  visible (r.write stamp ++ "\n")

/-! ### The logger of a process -/

/-- The logger that settings ask for; a filter of the environment takes the place of theirs. -/
structure Logger where
  filter : Filter
  warnings : List String
  timestamps : Bool

/-- Sets up a logger.  Only the first one of a process is used, but every one warns. -/
def Logger.init (settings : LogSettings) (environment : Option String) : Logger :=
  let read := Filter.read (environment.getD settings.filter)
  ⟨read.1, read.2, settings.timestamps⟩

/-- Why a second logger is not used. -/
def Logger.alreadySet : String :=
  "attempted to set a logger after the logging system was already initialized"

/-- The warnings as they are written. -/
def Logger.warningOutput (l : Logger) : String :=
  String.join (l.warnings.map fun w => w ++ "\n")

/-- What is written for a list of records. -/
def Logger.output (l : Logger) (stamp : String) (records : List Record) : String :=
  String.join ((records.filter l.filter.accepts).map
    (Record.output (if l.timestamps then some stamp else none)))

end HostView.Log
