import HostView.Engine.Event
import HostView.Resize.Coordinator

/-!
# Threads around the resize lock

A thread that requests a resize registers it, tells the engine the new metrics with the lock
released, and then sleeps until its episode has been presented.  Another thread acquires and
swaps frames; the swap that presents an episode gives up the lock, wakes all sleepers, and only
then tells the window.

A `Handshake` is the coordinator with what every thread is in the middle of.  `Handshake.step`
makes one move of one thread; a move takes the lock at most once and holds it to its end, so any
interleaving of the threads is a list of moves.  While it tells the engine, a thread may be
called back, so each thread has a stack of activities.
-/

namespace HostView

/-- What a thread is in the middle of. -/
inductive Activity
  /-- A request that is about to take the lock and register. -/
  | entering (size : Size)
  /-- A request that is about to tell the engine its size. -/
  | telling (size : Size) (episode : Option Nat)
  /-- A request whose metrics the engine has got; the engine may call back until the request goes
  on. -/
  | told (size : Size) (episode : Option Nat)
  /-- A request that sleeps until it is woken. -/
  | asleep (episode : Nat)
  /-- A request that was woken and is about to take the lock again. -/
  | woken (episode : Nat)
  /-- A swap that has presented an episode and is about to wake the sleepers. -/
  | waking (succeeded : Bool)
  /-- A swap that is about to tell the window. -/
  | announcing (succeeded : Bool)
deriving DecidableEq

/-- Waking reaches those that sleep and nobody else. -/
def Activity.wake : Activity → Activity
  | asleep episode => woken episode
  | a => a

/-- Work on the surface that is asked for from outside the handshake. -/
inductive SurfaceTask
  | create (size : Size)
  | destroy
  | makeCurrent
  | makeResourceCurrent
  | clearContext
deriving DecidableEq

/-- A call that a thread makes. -/
inductive HandshakeCall
  | request (size : Size)
  /-- The engine is told a size without a request. -/
  | tell (size : Size)
  | acquire (size : Size)
  | swap
  | surface (task : SurfaceTask)
deriving DecidableEq

/-- What a call returns. -/
inductive Reply
  | done
  | flag (value : Bool)
  | created (result : Except SurfaceError Unit)

/-- A move of a thread: it makes a call, or it goes on with what it is in the middle of. -/
inductive Move
  | call (call : HandshakeCall)
  | proceed
deriving DecidableEq

/-- The coordinator, the scale of the window, and the stacks of all threads. -/
structure Handshake (σ : Type) where
  coordinator : Coordinator σ
  /-- What the window answers when it is asked for its scale, which is done anew for every send.  No
  move changes it, so a run keeps the scale that it begins with. -/
  scale : Float
  stack : ThreadId → List Activity := fun _ => []

/-- What a move comes to: the new state, what was seen, and, if a call ended with it, what the
call returned. -/
structure Moved (σ : Type) where
  next : Handshake σ
  events : List Event := []
  reply : Option (Outcome Reply) := none

namespace Handshake

variable {σ : Type}

/-- The stack of one thread changes. -/
def setStack (h : Handshake σ) (thread : ThreadId) (stack : List Activity) : Handshake σ :=
  { h with stack := fun t => if t = thread then stack else h.stack t }

/-- Every sleeper is woken. -/
def wakeAll (h : Handshake σ) : Handshake σ :=
  { h with stack := fun t => (h.stack t).map Activity.wake }

/-- A thread can make a call if it is in the middle of nothing, or is called back by the engine. -/
def canCall (h : Handshake σ) (thread : ThreadId) : Bool :=
  match h.stack thread with
  | [] => true
  | .told _ _ :: _ => true
  | _ => false

/-- Whether a thread sleeps. -/
def isAsleep (h : Handshake σ) (thread : ThreadId) : Bool :=
  match h.stack thread with
  | .asleep _ :: _ => true
  | _ => false

/-- The end of an activity that returns something. -/
def finish (h : Handshake σ) (thread : ThreadId) (rest : List Activity) (reply : Reply)
    (events : List Event) : Moved σ :=
  ⟨h.setStack thread rest, events, some (.returned reply)⟩

/-- What a thread that waits for an episode says when it goes on. -/
def presentedNote (episode : Nat) : Event :=
  Coordinator.note .debug s!"resize: episode {episode} presented"

/-- A thread that holds the lock and waits for an episode goes on if the episode has been
presented, and sleeps otherwise. -/
def await (h : Handshake σ) (thread : ThreadId) (rest : List Activity) (episode : Nat)
    (before : List Event) : Moved σ :=
  if h.coordinator.hasPresented episode then
    h.finish thread rest .done (Event.guarded .resize (before ++ [presentedNote episode]))
  else ⟨h.setStack thread (.asleep episode :: rest), Event.guarded .resize before, none⟩

/-- A thread goes on with its innermost activity; one that sleeps cannot. -/
def proceed (h : Handshake σ) (thread : ThreadId) : Option (Moved σ) :=
  match h.stack thread with
  | [] => none
  | .entering size :: rest =>
    let (episode, coordinator, events) := h.coordinator.register size
    some ⟨{ h with coordinator }.setStack thread (.telling size episode :: rest),
      Event.guarded .resize events, none⟩
  | .telling size episode :: rest =>
    some ⟨h.setStack thread (.told size episode :: rest),
      [.window .scale, .engine (.metrics ⟨size, h.scale⟩)], none⟩
  | .told _ none :: rest => some (h.finish thread rest .done [])
  | .told size (some episode) :: rest =>
    some (h.await thread rest episode
      [Coordinator.note .debug
        s!"resize: waiting for a {size.text} frame (episode {episode})"])
  | .asleep _ :: _ => none
  | .woken episode :: rest => some (h.await thread rest episode [])
  | .waking succeeded :: rest =>
    some ⟨(h.setStack thread (.announcing succeeded :: rest)).wakeAll, [.notified], none⟩
  | .announcing succeeded :: rest =>
    some (h.finish thread rest (.flag succeeded)
      (.window .resized ::
        if succeeded then []
        else [Coordinator.note .warn "resize: post-resize swap reported failure"]))

variable [SurfaceDevice σ]

/-- A critical section that runs in one go.  A panic in it unwinds the whole thread. -/
def critical {α : Type} (h : Handshake σ) (thread : ThreadId) (w : Work (Coordinator σ) Event α)
    (after : α → Handshake σ → Handshake σ × Option Reply) : Moved σ :=
  let r := w h.coordinator
  let h := { h with coordinator := r.state }
  let events := Event.guarded .resize r.events
  match r.outcome with
  | .returned a =>
    let (h, reply) := after a h
    ⟨h, events, reply.map .returned⟩
  | .panicked message => ⟨h.setStack thread [], events, some (.panicked message)⟩

/-- The work of a task on the surface. -/
def surfaceWork : SurfaceTask → Work (Lifecycle σ) Event Reply
  | .create size => do return .created (← Lifecycle.create size)
  | .destroy => do
    Lifecycle.destroy
    return .done
  | .makeCurrent => do return .flag (← Lifecycle.makeCurrent)
  | .makeResourceCurrent => do return .flag (← Lifecycle.makeResourceCurrent)
  | .clearContext => do return .flag (← Lifecycle.clearContext)

/-- A thread makes a call. -/
def call (h : Handshake σ) (thread : ThreadId) : HandshakeCall → Moved σ
  | .request size => ⟨h.setStack thread (.entering size :: h.stack thread), [], none⟩
  | .tell size => ⟨h.setStack thread (.telling size none :: h.stack thread), [], none⟩
  | .acquire size => h.critical thread (Coordinator.acquire size) fun _ h => (h, some .done)
  | .swap => h.critical thread Coordinator.swap fun swapped h =>
      if swapped.finished then
        (h.setStack thread (.waking swapped.succeeded :: h.stack thread), none)
      else (h, some (.flag swapped.succeeded))
  | .surface task =>
    h.critical thread (Coordinator.onSurface (surfaceWork task)) fun reply h => (h, some reply)

/-- One move of one thread, if the thread can make it. -/
def step (h : Handshake σ) (thread : ThreadId) : Move → Option (Moved σ)
  | .call c => if h.canCall thread then some (h.call thread c) else none
  | .proceed => h.proceed thread

end Handshake

end HostView
