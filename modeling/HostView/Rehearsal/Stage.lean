import HostView.Rehearsal.Device
import HostView.View.Basic

/-!
# The stage of a rehearsal

A `Stage` is a view whose collaborators follow a script: a scripted device, an engine that may
call back once while it gets new metrics, and a window of which the size and the scale can be
set.  Requests to resize run on threads of their own and may stay parked from one step of the
script to the next.

Every function here is made of moves of the handshake, in the order in which a single processor
would run the threads: the thread that a step starts goes as far as it can, and then the
requests that it has woken go on, the oldest first.
-/

namespace HostView.Rehearsal

/-- What the engine does, once, while it gets new metrics. -/
inductive EngineReaction
  | acquire
  | present
  | swap
  | resize (size : Size)
  /-- Presents the frame, and then has another thread ask for a new size. -/
  | presentAndRestart (size : Size)

/-- What is seen on the stage: the view at work, or the engine calling back. -/
inductive Seen
  | event (event : Event)
  | acquired
  | swapped (value : Bool)
  | restarted (parked : Bool)

/-- What a parked request is known by: the step that made it, or that the engine made it. -/
inductive RequestName
  | step (number : Nat)
  | restart
deriving DecidableEq

/-- A request on a thread of its own. -/
structure Request where
  thread : ThreadId
  name : RequestName
  /-- The request is the answer to a window event. -/
  forEvent : Bool := false

/-- The view with its scripted surroundings. -/
structure Stage where
  view : View ScriptedDevice
  bounds : Size
  bus : Option (Bus EngineEvent) := none
  reaction : Option EngineReaction := none
  /-- The requests that are parked, the oldest first. -/
  parked : List Request := []
  /-- The step of the script. -/
  number : Nat := 0

namespace Stage

/-- The thread that runs the script. -/
def scriptThread : ThreadId := 0

/-- The thread of the request that the current step makes. -/
def requestThread (s : Stage) : ThreadId := 2 * s.number + 1

/-- The thread of the request that the engine makes during the current step. -/
def restartThread (s : Stage) : ThreadId := 2 * s.number + 2

/-- Work on the stage; what is seen belongs to a thread. -/
abbrev Act (α : Type) := Work Stage (ThreadId × Seen) α

/-- Something is seen on a thread. -/
def see (thread : ThreadId) (seen : Seen) : Act Unit := Work.emit (thread, seen)

/-- An event of the view is seen; what the engine is told may go to a bus. -/
def deliver (thread : ThreadId) (event : Event) : Act Unit := do
  let s ← Work.state
  match event, s.bus with
  | .engine e, some bus =>
    let sent := bus.send e
    Work.change fun s => { s with bus := some sent.1 }
    for r in sent.2.records do see thread (.event (.log r))
  | _, _ => see thread (.event event)

/-- Events of the view are seen, one after the other. -/
def deliverAll (thread : ThreadId) : List Event → Act Unit
  | [] => return
  | e :: es => do
    deliver thread e
    deliverAll thread es

/-- A move of the handshake, if the thread can make it. -/
def move (thread : ThreadId) (m : Move) : Act (Option Reply) := do
  let s ← Work.state
  match s.view.handshake.step thread m with
  | none => return none
  | some moved =>
    Work.change fun s => { s with view.handshake := moved.next }
    deliverAll thread moved.events
    match moved.reply with
    | none => return none
    | some (.returned reply) => return some reply
    | some (.panicked message) => fun s => ⟨.panicked message, s, []⟩

/-- A swap as a whole: if it presents an episode, the sleepers and the window are told. -/
def swap (thread : ThreadId) : Act Bool := do
  match ← move thread (.call .swap) with
  | some (.flag value) => return value
  | _ =>
    let _ ← move thread .proceed
    match ← move thread .proceed with
    | some (.flag value) => return value
    | _ => return false

/-- Whether a thread sleeps. -/
def isParked (thread : ThreadId) : Act Bool := do
  return (← Work.state).view.handshake.isAsleep thread

/-- The engine gets the metrics and does not call back; then the thread goes on. -/
def tellQuietly (thread : ThreadId) : Act Bool := do
  let _ ← move thread .proceed
  let _ ← move thread .proceed
  isParked thread

/-- A request whose metrics the engine takes in quietly; the answer is whether it is parked. -/
def requestQuietly (thread : ThreadId) (size : Size) : Act Bool := do
  let _ ← move thread (.call (.request size))
  let _ ← move thread .proceed
  tellQuietly thread

/-- Draws and acquires a frame inside a callback. -/
def acquireInside (thread : ThreadId) (size : Size) : Act Unit := do
  let _ ← move thread (.call (.acquire size))
  see thread .acquired

/-- Swaps inside a callback. -/
def swapInside (thread : ThreadId) : Act Unit := do
  see thread (.swapped (← swap thread))

/-- What the engine does with metrics of a size, on the thread that brings them; the answer is
whether the thread is parked by it. -/
def react (thread : ThreadId) (size : Size) : EngineReaction → Act Bool
  | .acquire => do
    acquireInside thread size
    return false
  | .present => do
    acquireInside thread size
    swapInside thread
    return false
  | .swap => do
    swapInside thread
    return false
  | .resize size => requestQuietly thread size
  | .presentAndRestart size' => do
    acquireInside thread size
    swapInside thread
    let other := (← Work.state).restartThread
    let parked ← requestQuietly other size'
    if parked then
      Work.change fun s => { s with parked := s.parked ++ [{ thread := other, name := .restart }] }
    see thread (.restarted parked)
    return false

/-- The engine gets metrics and may call back; then the thread goes on as far as it can.  The
answer is whether it is parked. -/
def tell (thread : ThreadId) (size : Size) : Act Bool := do
  let _ ← move thread .proceed
  let reaction := (← Work.state).reaction
  Work.change fun s => { s with reaction := none }
  match reaction with
  | some r => if ← react thread size r then return true
  | none => pure ()
  let _ ← move thread .proceed
  isParked thread

/-- A request; the answer is whether it is parked. -/
def request (thread : ThreadId) (size : Size) : Act Bool := do
  let _ ← move thread (.call (.request size))
  let _ ← move thread .proceed
  tell thread size

/-- The thread of the script tells the engine the size of the window. -/
def announce : Act Unit := do
  deliverAll scriptThread View.askBounds
  let size := (← Work.state).bounds
  let _ ← move scriptThread (.call (.tell size))
  let _ ← tell scriptThread size

/-- A thread that was woken goes on until it sleeps again or is in the middle of nothing; it is
in the middle of at most `depth` requests. -/
def resume (thread : ThreadId) : Nat → Act Unit
  | 0 => return
  | depth + 1 => do
    let _ ← move thread .proceed
    unless ← isParked thread do resume thread depth

/-- The requests that were woken go on, the oldest first; those that return are the answer. -/
def release : List Request → Act (List Request)
  | [] => return []
  | r :: rs => do
    unless ← isParked r.thread do
      resume r.thread ((← Work.state).view.handshake.stack r.thread).length
    let returned := !(← isParked r.thread)
    let others ← release rs
    return if returned then r :: others else others

/-- All requests that can go on do so; those that cannot stay parked. -/
def releaseAll : Act (List Request) := do
  let released ← release (← Work.state).parked
  Work.change fun s =>
    { s with parked := s.parked.filter fun r => !(released.any (·.thread == r.thread)) }
  return released

/-- Runs a task on the surface. -/
def surface (task : SurfaceTask) : Act Reply := do
  return (← move scriptThread (.call (.surface task))).getD .done

end Stage

end HostView.Rehearsal
