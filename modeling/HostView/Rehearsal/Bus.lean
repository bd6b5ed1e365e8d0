import HostView.Engine.Event
import HostView.Pointer.Normalizer

/-!
# Rehearsing a bus

A script of sends and receives over one bus.  The script's own thread receives unless a step asks
for another one, which is then a new thread each time.
-/

namespace HostView.Rehearsal

/-- An event that a step makes and puts on the bus, with what is logged while it is made. -/
structure Made (α : Type) where
  event : α
  records : List Log.Record := []

/-- The last event that a report yields for a pointer of which nothing is known yet; all that it
yields is logged. -/
def Made.ofPointer? (report : PointerInput) : Option (Made PointerEvent) :=
  let dispatch := ({} : Normalizer).dispatch report
  dispatch.events.getLast?.map fun event => ⟨event, dispatch.records⟩

/-- One step of a bus script; `elsewhere` asks for a new receiving thread. -/
inductive BusStep (α : Type)
  | sender (ofSender : Bool)
  | send (made : Made α)
  | post (made : Made α)
  | receive (elsewhere : Bool)
  | drain (echoes : Nat) (elsewhere : Bool)
  | close

/-- What a step of a bus script answers. -/
inductive BusAnswer (α : Type)
  | done
  | gone
  | senderGone
  | sender (number : Nat)
  | sent (succeeded : Bool)
  | received (event : Option α)
  | drained (deliveries : List (Bus.Delivery α))
  | violation

/-- The bus with the numbers given out so far. -/
structure BusStage (α : Type) where
  bus : Bus α
  senders : Nat := 1
  threads : ThreadId := 0

namespace BusStage

variable {α : Type}

/-- The receiving thread of a step; the script's own is number zero. -/
def receiver (s : BusStage α) (elsewhere : Bool) : ThreadId × BusStage α :=
  if elsewhere then (s.threads + 1, { s with threads := s.threads + 1 }) else (0, s)

/-- Runs one step. -/
def step (s : BusStage α) : BusStep α → BusStage α × BusAnswer α × List Log.Record
  | .sender ofSender =>
    if ofSender || s.bus.isOpen then
      ({ s with senders := s.senders + 1 }, .sender s.senders, [])
    else (s, .senderGone, [])
  | .send made =>
    let sent := s.bus.send made.event
    ({ s with bus := sent.1 }, .sent sent.2.succeeded, made.records ++ sent.2.records)
  | .post made =>
    let sent := s.bus.send made.event
    ({ s with bus := sent.1 }, .done, made.records ++ sent.2.records)
  | .receive elsewhere =>
    let (thread, s) := s.receiver elsewhere
    if !s.bus.isOpen then (s, .gone, [])
    else
      match s.bus.receive thread with
      | none => (s, .violation, [])
      | some (event, bus) => ({ s with bus }, .received event, [])
  | .drain echoes elsewhere =>
    let (thread, s) := s.receiver elsewhere
    if !s.bus.isOpen then (s, .gone, [])
    else
      match s.bus.drain thread (List.replicate echoes fun e => [e]) with
      | none => (s, .violation, [])
      | some (deliveries, bus) =>
        ({ s with bus }, .drained deliveries,
          deliveries.flatMap fun d => d.sent.flatMap Sent.records)
  | .close => ({ s with bus := s.bus.close }, .done, [])

/-- Runs a script; each step is answered with the bus as it left it. -/
def run (s : BusStage α) :
    List (BusStep α) → List (BusAnswer α × List Log.Record × Bus α)
  | [] => []
  | step :: steps =>
    let (s, answer, records) := s.step step
    (answer, records, s.bus) :: s.run steps

end BusStage

end HostView.Rehearsal
