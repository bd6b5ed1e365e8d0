import HostView.Hook.Basic
import HostView.Text.Quoted

/-!
# The duties of hooks

Two hooks belong to the viewer itself: one quits when Escape is pressed, and one writes all text
and compositions to the log.
-/

namespace HostView

/-- The code of the key that quits. -/
def escapeKey : UInt32 := 0x1B

/-- A hook that asks for shutdown when Escape is pressed, and keeps that key for itself. -/
def quitOnEscape : Hook :=
  .mk { name := "EscapeToQuit", consumes := .pressOf escapeKey, duty := some .quitOnEscape } []

/-- A hook that logs text and compositions. -/
def echoText : Hook :=
  .mk { name := "TextEcho", consumes := .always false, duty := some .echoText } []

/-- Whether a call makes a hook of this manner ask for shutdown. -/
def Manner.quits (m : Manner) : Callback → Bool
  | .key e => m.duty == some .quitOnEscape && m.consumes.consumes e
  | _ => false

/-- What the text hook logs about a call. -/
def Callback.echo : Callback → List Log.Record
  | .key _ => []
  | .text t => [Log.Area.typing.record .debug ("commit " ++ Text.quote t)]
  | .composeBegin => [Log.Area.typing.record .debug "compose begin"]
  | .composeEnd => [Log.Area.typing.record .debug "compose end"]
  | .composeChange t cursor =>
    [Log.Area.typing.record .debug
      ("compose " ++ Text.quote t ++ " cursor=" ++ toString cursor)]

/-- What a hook of this manner logs about a call. -/
def Manner.records (m : Manner) (c : Callback) : List Log.Record :=
  match m.duty with
  | none => []
  | some .echoText => c.echo
  | some .quitOnEscape =>
    if m.quits c then
      [Log.Area.viewer.record .info "viewer: escape pressed, shutting down"]
    else []

end HostView
