import HostView.Proofs.Engine.Bus
import HostView.Proofs.Path
import Mathlib.Logic.Function.Basic

/-!
# Threads at a bus, step by step

A receive first makes sure that its thread is the consumer, and then takes events off the queue, one
with each step; between any two steps other threads go on, and the callback of a drain sends or
receives itself.  So each thread has a stack of the receives that it is in (`Receiving`).  A bus
that keeps no events hands one over only while somebody waits for it (`BusMove.meet`).

What a step comes to is listed once, in `Traffic.Stepped`.
-/

namespace HostView

/-- The ways to receive. -/
inductive Reception
  /-- One event, if there is one or, if the receive is timed, as soon as there is one. -/
  | single (timed : Bool)
  /-- All events, which are given to a callback. -/
  | drain

/-- A receive that a thread is in, and how many events its callback was called with so far. -/
structure Receiving where
  how : Reception
  handed : Nat := 0

/-- A bus with its senders and the receives that the threads are in, the innermost first. -/
structure Traffic (α : Type) where
  bus : Bus α
  senders : Nat := 0
  receives : ThreadId → List Receiving := fun _ => []

/-- What can be done about a bus. -/
inductive BusMove (α : Type)
  /-- The bus gives out a sender. -/
  | connect
  | clone (sender : Nat)
  /-- A send, whether or not the sender learns what became of it. -/
  | send (sender : Nat) (event : α)
  /-- A send at a bus that keeps no events, for which a thread is waiting. -/
  | meet (sender : Nat) (event : α) (thread : ThreadId)
  /-- A receive begins. -/
  | receive (thread : ThreadId) (how : Reception)
  /-- The innermost receive of a thread looks for the next event. -/
  | proceed (thread : ThreadId)
  /-- The callback of the innermost receive of a thread panics. -/
  | unwind (thread : ThreadId)
  /-- The bus goes away, which it cannot do while somebody receives. -/
  | close

/-- What is known of a step. -/
inductive BusNews (α : Type)
  | connected
  | sent (event : α) (fate : Sent)
  | met (event : α) (thread : ThreadId)
  | violation (thread : ThreadId)
  /-- A receive has passed the check of its thread. -/
  | admitted (thread : ThreadId)
  | received (thread : ThreadId) (event : Option α)
  /-- A callback is called. -/
  | handed (thread : ThreadId) (event : α)
  | drained (thread : ThreadId) (count : Nat)
  | unwound (thread : ThreadId)
  | closed

namespace BusNews

variable {α : Type}

/-- The event that the bus took. -/
def accepted : BusNews α → Option α
  | sent event .accepted | met event _ => some event
  | _ => none

/-- The event that came out of the bus, and the thread that got it. -/
def delivery : BusNews α → Option (ThreadId × α)
  | received thread (some event) | handed thread event | met event thread => some (thread, event)
  | _ => none

end BusNews

/-- What a move comes to. -/
structure BusMoved (α : Type) where
  next : Traffic α
  news : BusNews α

namespace Traffic

variable {α : Type}

/-- The receives that a thread is in change. -/
def setReceives (s : Traffic α) (t : ThreadId) (receives : List Receiving) : Traffic α :=
  { s with receives := Function.update s.receives t receives }

/-- The events on the bus change. -/
def setQueue (s : Traffic α) (queue : List α) : Traffic α :=
  { s with bus := { s.bus with queue } }

section Projections

variable (s : Traffic α) (t : ThreadId) (receives : List Receiving) (queue : List α)

@[simp] theorem setReceives_bus : (s.setReceives t receives).bus = s.bus := rfl

@[simp] theorem setReceives_senders : (s.setReceives t receives).senders = s.senders := rfl

@[simp] theorem setReceives_same : (s.setReceives t receives).receives t = receives :=
  Function.update_self ..

theorem setReceives_of_ne {t u : ThreadId} (ne : u ≠ t) :
    (s.setReceives t receives).receives u = s.receives u := Function.update_of_ne ne ..

@[simp] theorem setQueue_bus : (s.setQueue queue).bus = { s.bus with queue } := rfl

@[simp] theorem setQueue_senders : (s.setQueue queue).senders = s.senders := rfl

@[simp] theorem setQueue_receives : (s.setQueue queue).receives = s.receives := rfl

end Projections

/-- The innermost receive of a thread takes the oldest event, or finds that there is none. -/
def proceed (s : Traffic α) (t : ThreadId) : Option (BusMoved α) :=
  match s.receives t with
  | [] => none
  | ⟨.single _, _⟩ :: outer =>
    let popped := s.bus.pop
    some ⟨{ s with bus := popped.2 }.setReceives t outer, .received t popped.1⟩
  | ⟨.drain, handed⟩ :: outer =>
    match s.bus.pop with
    | (none, bus) => some ⟨{ s with bus }.setReceives t outer, .drained t handed⟩
    | (some event, bus) =>
      some ⟨{ s with bus }.setReceives t (⟨.drain, handed + 1⟩ :: outer), .handed t event⟩

/-- Whether nobody receives; only the owner of a bus can be in a receive. -/
def isQuiet (s : Traffic α) : Bool := s.bus.owner.all fun t => (s.receives t).isEmpty

/-- One move, if it can be made. -/
def step (s : Traffic α) : BusMove α → Option (BusMoved α)
  | .connect =>
    if s.bus.isOpen then some ⟨{ s with senders := s.senders + 1 }, .connected⟩ else none
  | .clone sender =>
    if sender < s.senders then some ⟨{ s with senders := s.senders + 1 }, .connected⟩ else none
  | .send sender event =>
    if sender < s.senders then
      let sent := s.bus.send event
      some ⟨{ s with bus := sent.1 }, .sent event sent.2⟩
    else none
  | .meet sender event t =>
    match s.receives t with
    | ⟨.single true, _⟩ :: outer =>
      if sender < s.senders ∧ s.bus.capacity = some 0 ∧ s.bus.isOpen then
        some ⟨s.setReceives t outer, .met event t⟩
      else none
    | _ => none
  | .receive t how =>
    if s.bus.isOpen then
      match s.bus.claim t with
      | none => some ⟨s, .violation t⟩
      | some bus => some ⟨{ s with bus }.setReceives t (⟨how, 0⟩ :: s.receives t), .admitted t⟩
    else none
  | .proceed t => s.proceed t
  | .unwind t =>
    match s.receives t with
    | ⟨.drain, _⟩ :: outer => some ⟨s.setReceives t outer, .unwound t⟩
    | _ => none
  | .close =>
    if s.bus.isOpen ∧ s.isQuiet then some ⟨{ s with bus := s.bus.close }, .closed⟩ else none

/-- A step that was taken. -/
abbrev Step (α : Type) := StepTaken (Traffic α) (BusMove α) (BusMoved α)

/-- Any sequence of moves, of any threads. -/
abbrev Course (start : Traffic α) (steps : List (Step α)) (s : Traffic α) : Prop :=
  Path step BusMoved.next start steps s

/-- A new bus, with or without a capacity. -/
def fresh (capacity : Option Nat) : Traffic α where
  bus := { capacity }

/-! ### What a move comes to -/

/-- What a move comes to. -/
inductive Stepped (s : Traffic α) : BusMove α → BusMoved α → Prop
  | connected {m : BusMove α} (how : m = .connect ∨ ∃ sender, m = .clone sender) :
      Stepped s m ⟨{ s with senders := s.senders + 1 }, .connected⟩
  | sent {sender : Nat} {event : α} (known : sender < s.senders) :
      Stepped s (.send sender event)
        ⟨{ s with bus := (s.bus.send event).1 }, .sent event (s.bus.send event).2⟩
  | met {sender handed : Nat} {event : α} {t : ThreadId} {outer : List Receiving}
      (top : s.receives t = ⟨.single true, handed⟩ :: outer) (none : s.bus.capacity = some 0)
      (isOpen : s.bus.isOpen = true) :
      Stepped s (.meet sender event t) ⟨s.setReceives t outer, .met event t⟩
  | refused {t : ThreadId} {how : Reception} (isOpen : s.bus.isOpen = true)
      (other : s.bus.claim t = none) : Stepped s (.receive t how) ⟨s, .violation t⟩
  | admitted {t : ThreadId} {how : Reception} {bus : Bus α} (isOpen : s.bus.isOpen = true)
      (claimed : s.bus.claim t = some bus) :
      Stepped s (.receive t how)
        ⟨{ s with bus }.setReceives t (⟨how, 0⟩ :: s.receives t), .admitted t⟩
  | received {t : ThreadId} {timed : Bool} {handed : Nat} {outer : List Receiving}
      (top : s.receives t = ⟨.single timed, handed⟩ :: outer) :
      Stepped s (.proceed t)
        ⟨(s.setQueue s.bus.queue.tail).setReceives t outer, .received t s.bus.queue.head?⟩
  | handed {t : ThreadId} {handed : Nat} {outer : List Receiving} {event : α} {queue : List α}
      (top : s.receives t = ⟨.drain, handed⟩ :: outer) (waits : s.bus.queue = event :: queue) :
      Stepped s (.proceed t)
        ⟨(s.setQueue queue).setReceives t (⟨.drain, handed + 1⟩ :: outer), .handed t event⟩
  | drained {t : ThreadId} {handed : Nat} {outer : List Receiving}
      (top : s.receives t = ⟨.drain, handed⟩ :: outer) (empty : s.bus.queue = []) :
      Stepped s (.proceed t) ⟨s.setReceives t outer, .drained t handed⟩
  | unwound {t : ThreadId} {handed : Nat} {outer : List Receiving}
      (top : s.receives t = ⟨.drain, handed⟩ :: outer) :
      Stepped s (.unwind t) ⟨s.setReceives t outer, .unwound t⟩
  | closed (isOpen : s.bus.isOpen = true) (quiet : s.isQuiet = true) :
      Stepped s .close ⟨{ s with bus := s.bus.close }, .closed⟩

variable {s : Traffic α} {m : BusMove α} {r : BusMoved α}

theorem stepped_proceed {t : ThreadId} (taken : s.proceed t = some r) :
    Stepped s (.proceed t) r := by
  simp only [proceed] at taken
  split at taken
  next => cases taken
  next timed handed outer top =>
    rw [Bus.pop_eq] at taken
    obtain rfl := Option.some.inj taken
    exact .received top
  next handed outer top =>
    cases waits : s.bus.queue with
    | nil =>
      rw [Bus.pop, waits] at taken
      obtain rfl := Option.some.inj taken
      exact .drained top waits
    | cons event queue =>
      rw [Bus.pop, waits] at taken
      obtain rfl := Option.some.inj taken
      exact .handed top waits

/-- Every move that can be made is listed. -/
theorem stepped (taken : s.step m = some r) : Stepped s m r := by
  cases m with
  | connect =>
    obtain ⟨-, eq⟩ := Option.ite_none_right_eq_some.1 taken
    obtain rfl := Option.some.inj eq
    exact .connected (.inl rfl)
  | clone sender =>
    obtain ⟨-, eq⟩ := Option.ite_none_right_eq_some.1 taken
    obtain rfl := Option.some.inj eq
    exact .connected (.inr ⟨sender, rfl⟩)
  | send sender event =>
    obtain ⟨known, eq⟩ := Option.ite_none_right_eq_some.1 taken
    obtain rfl := Option.some.inj eq
    exact .sent known
  | meet sender event t =>
    simp only [step] at taken
    split at taken
    next handed outer top =>
      obtain ⟨⟨-, none, isOpen⟩, eq⟩ := Option.ite_none_right_eq_some.1 taken
      obtain rfl := Option.some.inj eq
      exact .met top none isOpen
    next => cases taken
  | receive t how =>
    obtain ⟨isOpen, eq⟩ := Option.ite_none_right_eq_some.1 taken
    cases claimed : s.bus.claim t with
    | none =>
      rw [claimed] at eq
      obtain rfl := Option.some.inj eq
      exact .refused isOpen claimed
    | some bus =>
      rw [claimed] at eq
      obtain rfl := Option.some.inj eq
      exact .admitted isOpen claimed
  | proceed t => exact stepped_proceed taken
  | unwind t =>
    simp only [step] at taken
    split at taken
    next handed outer top =>
      obtain rfl := Option.some.inj taken
      exact .unwound top
    next => cases taken
  | close =>
    obtain ⟨⟨isOpen, quiet⟩, eq⟩ := Option.ite_none_right_eq_some.1 taken
    obtain rfl := Option.some.inj eq
    exact .closed isOpen quiet

/-- A receive is refused if the bus belongs to another thread, and then nothing changes. -/
theorem Stepped.checked {t : ThreadId} {how : Reception} (made : Stepped s (.receive t how) r) :
    (s.bus.claim t = none ∧ r = ⟨s, .violation t⟩) ∨
      ∃ bus, s.bus.claim t = some bus ∧
        r = ⟨{ s with bus }.setReceives t (⟨how, 0⟩ :: s.receives t), .admitted t⟩ := by
  cases made with
  | connected how =>
    obtain same | ⟨sender, same⟩ := how <;> cases same
  | refused isOpen other => exact .inl ⟨other, rfl⟩
  | admitted isOpen claimed => exact .inr ⟨_, claimed, rfl⟩

/-! ### What came out of the bus, and what went in -/

/-- The events that the bus took, the oldest first. -/
def accepted (steps : List (Step α)) : List α := steps.filterMap (·.result.news.accepted)

/-- The events that came out of the bus, with the threads that got them, the oldest first. -/
def deliveries (steps : List (Step α)) : List (ThreadId × α) :=
  steps.filterMap (·.result.news.delivery)

/-- The events that came out of the bus. -/
def delivered (steps : List (Step α)) : List α := (deliveries steps).map (·.2)

theorem accepted_snoc (steps : List (Step α)) (x : Step α) :
    accepted (steps ++ [x]) = accepted steps ++ x.result.news.accepted.toList := by
  cases took : x.result.news.accepted <;> simp [accepted, took]

theorem deliveries_snoc (steps : List (Step α)) (x : Step α) :
    deliveries (steps ++ [x]) = deliveries steps ++ x.result.news.delivery.toList := by
  cases out : x.result.news.delivery <;> simp [deliveries, out]

theorem delivered_snoc (steps : List (Step α)) (x : Step α) :
    delivered (steps ++ [x]) =
      delivered steps ++ x.result.news.delivery.toList.map (·.2) := by
  rw [delivered, deliveries_snoc, List.map_append]
  rfl

end Traffic

end HostView
