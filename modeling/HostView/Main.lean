import HostView.Viewer.Run

/-!
# The command line of the viewer

`main` reads the settings and the environment, runs the viewer, and writes what it leaves behind
to the error output.  It has no window system to run on, so after the greeting every run ends with
that error.
-/

namespace HostView

/-- The bytes of the settings file, if it can be read. -/
def readSettings : IO Config.FileContent := do
  try
    return .bytes (← IO.FS.readBinFile Viewer.settingsPath)
  catch
    | .noFileOrDirectory _ _ _ => return .missing
    | _ => return .unreadable

/-- The time since the start of the machine, in milliseconds, as a stamp for records. -/
def stamp : IO String := do return toString (← IO.monoMsNow)

/-- Why the loop of the window system cannot be made. -/
def noWindowSystem : ViewError := .platform "no window system"

end HostView

open HostView in
/-- Runs the viewer. -/
def main : IO UInt32 := do
  let exit ← match Config.load Viewer.settingsPath (← readSettings) with
    | .error e => pure (Viewer.unloadable e)
    | .ok settings =>
      pure (Viewer.finish settings (← IO.getEnv "RUST_LOG") (← stamp) []
        (.error noWindowSystem))
  IO.eprint exit.errors
  return exit.code.toUInt32
