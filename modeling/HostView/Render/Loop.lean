import HostView.Engine.Event

/-!
# The render loop

The render thread keeps the size that the engine was last told, and draws one frame of that size
in each turn: it waits for an event, takes in all that have come, acquires a frame buffer and
swaps.  A size without pixels is not drawn.  The stop flag is looked at between turns.

`RenderLoop` is where the thread is and what it keeps; `HostView.Render.Session` lets it move.
-/

namespace HostView

/-- What the render thread does next. -/
inductive LoopStage
  | starting
  | testing
  | receiving
  | draining
  | acquiring
  | swapping
  /-- A swap has presented an episode and has not returned yet. -/
  | presenting
  | clearing
  | finished
  | crashed
deriving DecidableEq

/-- The render thread. -/
structure RenderLoop where
  stage : LoopStage := .starting
  size : Size
  /-- Swaps that have succeeded. -/
  frames : Nat := 0

namespace RenderLoop

/-- Whether the thread has ended, well or badly. -/
def isOver (l : RenderLoop) : Bool := l.stage = .finished || l.stage = .crashed

/-- Takes in an event: only metrics change what is drawn. -/
def consume (l : RenderLoop) : EngineEvent → RenderLoop
  | .metrics m => { l with size := m.size }
  | .pointer _ => l

/-- The end of a turn. -/
def turned (l : RenderLoop) (succeeded : Bool) : RenderLoop :=
  { l with stage := .testing, frames := if succeeded then l.frames + 1 else l.frames }

end RenderLoop

/-- A record of the render thread. -/
def renderNote (level : Log.Level) (message : String) : Log.Record :=
  Log.Area.render.record level message

/-- The log of an event that is taken in. -/
def EngineEvent.receipt : EngineEvent → Log.Record
  | .metrics m =>
    let scale := Decimal.shortest m.scale
    renderNote .debug s!"render: metrics {m.size.text} @{scale}"
  | .pointer e => renderNote .trace s!"render: pointer {e.summary}"

end HostView
