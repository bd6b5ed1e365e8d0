import HostView.Rehearsal.Host
import HostView.Viewer.Run

/-!
# Rehearsing the viewer

A run of the whole viewer, from the file of its settings to its exit code, over a scripted window
system or over none.
-/

namespace HostView.Rehearsal

/-- The records of all threads, in the order in which they were logged. -/
def scriptRecords (seen : List (ThreadId × ScriptSeen)) : List Log.Record :=
  seen.filterMap fun
    | (_, .host (.view (.log r))) => some r
    | _ => none

/-- The records of one thread. -/
def threadRecords (thread : ThreadId) (seen : List (ThreadId × ScriptSeen)) :
    List Log.Record :=
  scriptRecords (seen.filter fun s => s.1 == thread)

/-- A run of the viewer. -/
structure ViewerReport where
  exit : Viewer.Exit
  /-- What was seen of the window system, if its loop ever ran. -/
  seen : Option (List (ThreadId × ScriptSeen))

/-- Runs the viewer; without a window system, its loop cannot be made for the reason given. -/
def runViewer (file : Config.FileContent) (environment : Option String) (stamp : String)
    (system : Except String Script) : ViewerReport :=
  match Config.load Viewer.settingsPath file with
  | .error e => ⟨Viewer.unloadable e, none⟩
  | .ok settings =>
    let finish := Viewer.finish settings environment stamp
    match system with
    | .error reason => ⟨finish [] (.error (.platform reason)), none⟩
    | .ok script =>
      let report := HostPlay.run script (Viewer.host settings)
      let result := match report.result with
        | .returned r => r
        | .panicked message => .error (.platform message)
      ⟨finish (scriptRecords (report.seen.getD [])) result, report.seen⟩

end HostView.Rehearsal
