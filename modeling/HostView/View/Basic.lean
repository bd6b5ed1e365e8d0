import HostView.Hook.Dispatch
import HostView.Hook.Duty
import HostView.Pointer.Normalizer
import HostView.Resize.Handshake
import HostView.Window.Translator

/-!
# The view

A `View` is one window seen by the engine: the resize handshake, the pointer, and the chain of
keyboard hooks.  Each of the three has a lock of its own, and none is held while the engine, the
window or a hook is called.  Of what an event asks for, everything but a resize is done at once, on
the thread that brings the event (`View.fulfil`).
-/

namespace HostView

/-- A window with an engine drawing into it. -/
structure View (σ : Type) where
  handshake : Handshake σ
  pointer : Normalizer := {}
  hooks : List Hook := []

namespace View

variable {σ : Type}

/-- The report of the window system is normalised under the pointer lock; the engine is told
when the lock is free again. -/
def pointerEvents (d : Dispatch) : List Event :=
  Event.guarded .pointer (d.records.map .log) ++ d.events.map fun e => .engine (.pointer e)

/-- The window system reports about the pointer. -/
def point (v : View σ) (input : PointerInput) : View σ × List Event :=
  let d := v.pointer.dispatch input
  ({ v with pointer := d.next }, pointerEvents d)

/-- The text cursor has moved; the window is told where it is. -/
def moveCursor (area : Rect) : List Event := [.window (.cursorRect area)]

/-- The window is asked how large it is: whoever wants a surface, or the engine to know the size of
the window, asks first. -/
def askBounds : List Event := [.window .bounds]

/-- How far the resize has come. -/
def phase (v : View σ) : ResizePhase × List Event :=
  (v.handshake.coordinator.phase, Event.guarded .resize [])

/-- How large the surface is. -/
def dimensions (v : View σ) : Size × List Event :=
  (v.handshake.coordinator.surface.dimensions, Event.guarded .resize [])

/-- What is known of the pointer. -/
def pointerState (v : View σ) : PointerState × List Event :=
  (v.pointer.state, Event.guarded .pointer [])

/-- Adds a hook at the end of the chain. -/
def addHook (v : View σ) (hook : Hook) : View σ × List Event :=
  ({ v with hooks := v.hooks ++ [hook] }, Event.guarded .hooks [])

/-- What is seen of a dispatch to the hooks, and where it leaves the pointer. -/
def hear (pointer : Normalizer) : List Signal → Normalizer × List Event
  | [] => (pointer, [])
  | .touched :: rest =>
    let r := hear pointer rest
    (r.1, Event.guarded .hooks [] ++ r.2)
  | .called manner callback :: rest =>
    let r := hear pointer rest
    (r.1, .hook manner callback :: (manner.records callback).map .log ++ r.2)
  | .pointed input :: rest =>
    let d := pointer.dispatch input
    let r := hear d.next rest
    (r.1, pointerEvents d ++ r.2)
  | .returned callback consumed :: rest =>
    let r := hear pointer rest
    (r.1, .reentered callback consumed :: r.2)

/-- Calls the hooks; the answer is whether one of them kept the call for itself. -/
def notify (v : View σ) (callback : Callback) : Run (View σ) Event Bool :=
  let ended := Dispatcher.dispatch v.hooks callback
  let heard := hear v.pointer ended.signals
  ⟨ended.outcome, { v with hooks := ended.slot, pointer := heard.1 }, heard.2⟩

/-- Makes several calls to the hooks, one after the other. -/
def notifyAll : List Callback → Work (View σ) Event Unit
  | [] => pure ()
  | c :: cs => do
    let _ ← (notify · c)
    notifyAll cs

/-- Does what is asked for; the answer is whether the event was used.  A resize is left to the
thread that can wait for it. -/
def fulfil : ViewRequest → Work (View σ) Event Bool
  | .nothing => return false
  | .resize _ => return true
  | .point input => fun v =>
    let r := v.point input
    ⟨.returned true, r.1, r.2⟩
  | .key event text => do
    if ← (notify · (.key event)) then return true
    match text with
    | none => return false
    | some text =>
      let _ ← (notify · (.text text))
      return false
  | .compose calls => do
    notifyAll calls
    return true

end View

end HostView
