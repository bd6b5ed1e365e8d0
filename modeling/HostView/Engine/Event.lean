import HostView.Pointer.Event

/-!
# Events for the engine, and their bus

A `Bus` is a queue with any number of senders and one receiving thread.  Sending never waits: a
full or closed bus refuses the event.  The first thread that receives becomes the `owner`; a
receive by any other thread is a violation and touches nothing.

`drain` empties the bus while the consumer of each event may send further ones.
-/

namespace HostView

/-- What crosses from the view into the render engine. -/
inductive EngineEvent
  | metrics (metrics : Metrics)
  | pointer (event : PointerEvent)

/-- A thread, told apart from others by its number. -/
abbrev ThreadId := Nat

/-- A queue of events for one consumer. -/
structure Bus (α : Type) where
  /-- How many events may wait; without a capacity any number may. -/
  capacity : Option Nat
  queue : List α := []
  /-- The thread that has received first. -/
  owner : Option ThreadId := none
  /-- Whether the receiving side still exists. -/
  isOpen : Bool := true

/-- What became of an event that was sent. -/
inductive Sent
  | accepted
  | full
  | closed
deriving DecidableEq

namespace Sent

/-- Senders learn no more than this. -/
def succeeded (s : Sent) : Bool := s == accepted

/-- The log of a send: only a refusal is worth a word. -/
def records : Sent → List Log.Record
  | accepted => []
  | full => [Log.Area.bus.record .warn "bus: full, event dropped"]
  | closed => [Log.Area.bus.record .debug "bus: consumer gone, event dropped"]

end Sent

/-- What a second consumer is told. -/
def Bus.violation : String :=
  "Bus<E> single-consumer violation: multiple consumers detected"

namespace Bus

variable {α : Type}

/-- Whether another event fits. -/
def hasRoom (b : Bus α) : Bool :=
  match b.capacity with
  | none => true
  | some limit => decide (b.queue.length < limit)

/-- Offers an event to the bus. -/
def send (b : Bus α) (event : α) : Bus α × Sent :=
  if !b.isOpen then (b, .closed)
  else if b.hasRoom then ({ b with queue := b.queue ++ [event] }, .accepted)
  else (b, .full)

/-- Offers several events, one after the other. -/
def sendAll (b : Bus α) : List α → Bus α × List Sent
  | [] => (b, [])
  | e :: es =>
    let first := b.send e
    let rest := first.1.sendAll es
    (rest.1, first.2 :: rest.2)

/-- The bus as the property of `thread`, if nobody else owns it. -/
def claim (b : Bus α) (thread : ThreadId) : Option (Bus α) :=
  match b.owner with
  | none => some { b with owner := some thread }
  | some owner => if owner = thread then some b else none

/-- Takes the oldest event off the queue. -/
def pop (b : Bus α) : Option α × Bus α :=
  match b.queue with
  | [] => (none, b)
  | e :: es => (some e, { b with queue := es })

/-- Receives an event if one is waiting; `none` for a thread that is not the consumer. -/
def receive (b : Bus α) (thread : ThreadId) : Option (Option α × Bus α) :=
  (b.claim thread).map pop

/-- An event that a drain handed out, and what became of the events sent on its receipt. -/
structure Delivery (α : Type) where
  event : α
  sent : List Sent

/-- Hands out events until none is left.  The consumer's answers to the first events are given by
`replies`, each the events it sends on receipt; later events are answered by nothing. -/
def deliver : List (α → List α) → Bus α → List (Delivery α) × Bus α
  | [], b => (b.queue.map (⟨·, []⟩), { b with queue := [] })
  | reply :: later, b =>
    match b.queue with
    | [] => ([], b)
    | e :: es =>
      let answered := { b with queue := es }.sendAll (reply e)
      let rest := deliver later answered.1
      (⟨e, answered.2⟩ :: rest.1, rest.2)

/-- Empties the bus; `none` for a thread that is not the consumer. -/
def drain (b : Bus α) (thread : ThreadId) (replies : List (α → List α) := []) :
    Option (List (Delivery α) × Bus α) :=
  (b.claim thread).map (deliver replies)

/-- The receiving side goes away, and with it what was still waiting. -/
def close (b : Bus α) : Bus α := { b with queue := [], isOpen := false }

end Bus

end HostView
