import HostView.Render.Session

/-!
# One order for the threads of a session

A session allows its threads to move in any order.  Here they take turns: a calling thread goes
as far as it can, then the render thread takes in all events and draws until it would wait, and
then the calls that it has woken go on.  What is seen is kept with the thread it belongs to.
-/

namespace HostView.Rehearsal.Schedule

variable {σ : Type} [SurfaceDevice σ]

/-- Work on a session; what is seen belongs to a thread. -/
abbrev Play (σ : Type) (α : Type) := Work (Session σ) (ThreadId × Event) α

/-- A move of a thread, if it can be made. -/
def move (thread : ThreadId) (m : SessionMove) : Play σ Unit := fun s =>
  match s.step m with
  | none => ⟨.returned (), s, []⟩
  | some moved => ⟨.returned (), moved.next, moved.events.map ((thread, ·))⟩

/-- Whether the render thread would wait for an event, or has ended. -/
def isIdle (s : Session σ) : Bool :=
  s.loop.isOver || (s.loop.stage = .receiving && s.bus.queue.isEmpty)

/-- Lets the render thread make at most `count` moves, until it would wait. -/
def renderFor : Nat → Play σ Unit
  | 0 => return
  | count + 1 => do
    unless isIdle (← Work.state) do
      move Session.renderThread .render
      renderFor count

/-- How many moves a turn has beside those that take in events, with some to spare. -/
def turnMoves : Nat := 16

/-- Lets the render thread go on until it would wait: after one turn no event is left. -/
def settle : Play σ Unit := do
  renderFor ((← Work.state).bus.queue.length + turnMoves)

/-- A calling thread goes on until it sleeps or has returned. -/
def resume (thread : ThreadId) : Nat → Play σ Unit
  | 0 => return
  | count + 1 => do
    let s ← Work.state
    unless s.view.handshake.isAsleep thread do
      move thread (.platform thread .proceed)
      resume thread count

/-- How many moves a request has at most: it registers, tells the engine, and waits. -/
def requestMoves : Nat := 3

/-- A request to resize goes as far as it can by itself. -/
def request (thread : ThreadId) (size : Size) : Play σ Unit := do
  move thread (.platform thread (.call (.request size)))
  resume thread requestMoves

/-- Whether a call of a thread has returned. -/
def hasReturned (s : Session σ) (thread : ThreadId) : Bool :=
  (s.view.handshake.stack thread).isEmpty

/-- The calls of the threads that were woken go on; the answer is which threads still wait. -/
def wakeUp : List ThreadId → Play σ (List ThreadId)
  | [] => return []
  | t :: ts => do
    resume t requestMoves
    let returned := hasReturned (← Work.state) t
    let others ← wakeUp ts
    return if returned then others else t :: others

/-- The render thread is asked to stop and stops. -/
def stop (thread : ThreadId) : Play σ Unit := do
  move thread .stop
  unless (← Work.state).loop.isOver do
    -- a render thread that waits for an event stops waiting in time
    let s ← Work.state
    if s.loop.stage = .receiving then move Session.renderThread .render
    settle

end HostView.Rehearsal.Schedule
