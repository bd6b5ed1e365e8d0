import HostView.Proofs.Resize.Release
import HostView.Proofs.View.Locks
import Mathlib.Logic.Function.Basic

/-!
# Threads at a view, event by event

A move of the handshake runs a critical section in one go.  Here the same threads are seen one event
at a time: a thread that has begun a section holds the lock until it comes to the end of what there
is to be seen, meanwhile the memory that the lock guards may hold anything (`ThreadMove.write`), and
all other threads go on.  While the engine, the window or a hook is called, the thread can call any
entry point of the view again, so each thread has a stack of `Frame`s.

Nothing here keeps a thread from calling back with a lock held, or from waiting for a lock that it
holds itself: that it does not happen is proved in `HostView.Proofs.View.Discipline`.
-/

namespace HostView

/-- An entry point of a view that is not part of the resize handshake. -/
inductive ViewCall
  | point (input : PointerInput)
  | addHook (hook : Hook)
  | notify (callback : Callback)
  | moveCursor (area : Rect)
  | askBounds
  | phase
  | dimensions
  | pointerState

/-- What is seen of a call that finds the view like this. -/
def ViewCall.events {σ : Type} (found : View σ) : ViewCall → List Event
  | point input => (found.point input).2
  | addHook hook => (found.addHook hook).2
  | notify callback => (found.notify callback).events
  | moveCursor area => View.moveCursor area
  | askBounds => View.askBounds
  | phase => found.phase.2
  | dimensions => found.dimensions.2
  | pointerState => found.pointerState.2

theorem ViewCall.keeps_events {σ : Type} (found : View σ) (call : ViewCall) :
    Event.Keeps none none (call.events found) := by
  cases call with
  | point input => exact View.keeps_pointerEvents _
  | notify callback => exact View.keeps_hear _ _
  | addHook | phase | dimensions | pointerState => exact Event.keeps_nil.guarded
  | moveCursor | askBounds => exact rfl

/-- A call that a thread is in: how many activities of the handshake were under way outside of it,
and what is still to be seen of it before it goes on or returns. -/
structure Frame where
  depth : Nat
  events : List Event

namespace Frame

/-- All that is still to be seen of a thread, the innermost call first. -/
def script (frames : List Frame) : List Event := frames.flatMap events

/-- A thread can call the view if it is in no call, or in a callback. -/
def isOpen : List Frame → Bool
  | [] => true
  | ⟨_, e :: _⟩ :: _ => e.isCallback
  | ⟨_, []⟩ :: _ => false

end Frame

/-- All threads at a view. -/
structure Threads (σ : Type) where
  memory : Handshake σ
  /-- What the section of the resize lock that is under way leaves in the end. -/
  pending : Option (Coordinator σ) := none
  holder : Lock → Option ThreadId := fun _ => none
  frames : ThreadId → List Frame := fun _ => []

/-- A move of a thread. -/
inductive ThreadMove (σ : Type)
  /-- A call that finds the view like this; the parts that other locks guard may be anything. -/
  | enter (call : ViewCall) (found : View σ)
  | call (call : HandshakeCall)
  /-- The innermost call goes on with its activity in the handshake. -/
  | proceed
  /-- What is to be seen next happens. -/
  | act
  /-- A section that is under way writes to the memory. -/
  | write (coordinator : Coordinator σ)
  /-- The innermost call returns. -/
  | leave

namespace Threads

variable {σ : Type}

/-- What the memory is going to be when nobody is in a section of the resize lock. -/
def settled (s : Threads σ) : Handshake σ :=
  s.memory.withCoordinator (s.pending.getD s.memory.coordinator)

/-- What is to be seen next of a thread; a callback is what the thread is in. -/
def doing (s : Threads σ) (t : ThreadId) : Option Event :=
  (s.frames t).head?.bind fun frame => frame.events.head?

/-- The phase and the size that a thread reads which holds the resize lock and changes nothing. -/
def observed (s : Threads σ) (t : ThreadId) : Option (ResizePhase × Size) :=
  let v : View σ := { handshake := s.memory }
  if s.holder .resize = some t ∧ s.pending.isNone then some (v.phase.1, v.dimensions.1) else none

/-- The calls of a thread change. -/
def setFrames (s : Threads σ) (t : ThreadId) (frames : List Frame) : Threads σ :=
  { s with frames := Function.update s.frames t frames }

/-- A thread gets a lock. -/
def take (s : Threads σ) (t : ThreadId) (lock : Lock) : Threads σ :=
  { s with holder := Function.update s.holder lock (some t) }

/-- A lock becomes free; what a section of the resize lock leaves is then in the memory. -/
def release (s : Threads σ) (lock : Lock) : Threads σ :=
  match lock with
  | .resize =>
    { s with memory := s.settled, pending := none, holder := Function.update s.holder lock none }
  | _ => { s with holder := Function.update s.holder lock none }

/-- What is to be seen next of a thread happens.  A lock that is held has to be waited for. -/
def act (s : Threads σ) (t : ThreadId) : Option (Threads σ) :=
  match s.frames t with
  | ⟨depth, .locked lock :: events⟩ :: outer =>
    if s.holder lock = none then some ((s.take t lock).setFrames t (⟨depth, events⟩ :: outer))
    else none
  | ⟨depth, .unlocked lock :: events⟩ :: outer =>
    if s.holder lock = some t then some ((s.release lock).setFrames t (⟨depth, events⟩ :: outer))
    else none
  | ⟨depth, _ :: events⟩ :: outer => some (s.setFrames t (⟨depth, events⟩ :: outer))
  | _ => none

/-- The calls of a thread after a move of the handshake; a panic takes it out of all of them. -/
def framesAfter (moved : Moved σ) (depth : Nat) (outer : List Frame) (events : List Event) :
    List Frame :=
  match moved.reply with
  | some (.panicked _) => [⟨0, events⟩]
  | _ => ⟨depth, events⟩ :: outer

/-- A thread makes a move of the handshake.  If it is a section of the resize lock, it has to wait
for the lock, and what it leaves is pending until the lock is free again. -/
def make (s : Threads σ) (t : ThreadId) (depth : Nat) (outer : List Frame) (moved : Moved σ) :
    Option (Threads σ) :=
  match moved.events with
  | .locked .resize :: events =>
    if s.holder .resize = none then
      some (({ s with
          memory := moved.next.withCoordinator s.memory.coordinator,
          pending := some moved.next.coordinator }.take t .resize).setFrames t
        (framesAfter moved depth outer events))
    else none
  | events =>
    some ({ s with memory := moved.next }.setFrames t (framesAfter moved depth outer events))

section Projections

variable (s : Threads σ) (t u : ThreadId) (frames : List Frame) (lock : Lock)

@[simp] theorem setFrames_memory : (s.setFrames t frames).memory = s.memory := rfl

@[simp] theorem setFrames_pending : (s.setFrames t frames).pending = s.pending := rfl

@[simp] theorem setFrames_holder : (s.setFrames t frames).holder = s.holder := rfl

@[simp] theorem setFrames_same : (s.setFrames t frames).frames t = frames :=
  Function.update_self ..

theorem setFrames_of_ne {t u : ThreadId} (ne : u ≠ t) :
    (s.setFrames t frames).frames u = s.frames u := Function.update_of_ne ne ..

@[simp] theorem take_memory : (s.take t lock).memory = s.memory := rfl

@[simp] theorem take_pending : (s.take t lock).pending = s.pending := rfl

@[simp] theorem take_frames : (s.take t lock).frames = s.frames := rfl

@[simp] theorem take_holder :
    (s.take t lock).holder = Function.update s.holder lock (some t) := rfl

@[simp] theorem release_frames : (s.release lock).frames = s.frames := by
  cases lock <;> rfl

@[simp] theorem release_holder :
    (s.release lock).holder = Function.update s.holder lock none := by
  cases lock <;> rfl

@[simp] theorem release_stack : (s.release lock).memory.stack = s.memory.stack := by
  cases lock <;> rfl

@[simp] theorem settled_release : (s.release lock).settled = s.settled := by
  cases lock <;> rfl

end Projections

variable [SurfaceDevice σ]

/-- One move of one thread, if the thread can make it. -/
def step (s : Threads σ) (t : ThreadId) : ThreadMove σ → Option (Threads σ)
  | .enter call found =>
    if Frame.isOpen (s.frames t) then
      some (s.setFrames t (⟨(s.memory.stack t).length, call.events found⟩ :: s.frames t))
    else none
  | .call call =>
    if Frame.isOpen (s.frames t) then
      (s.memory.step t (.call call)).bind (s.make t (s.memory.stack t).length (s.frames t))
    else none
  | .proceed =>
    match s.frames t with
    | ⟨depth, []⟩ :: outer =>
      if depth < (s.memory.stack t).length then
        (s.memory.step t .proceed).bind (s.make t depth outer)
      else none
    | _ => none
  | .act => s.act t
  | .write coordinator =>
    if s.holder .resize = some t ∧ s.pending.isSome then
      some { s with memory := s.memory.withCoordinator coordinator }
    else none
  | .leave =>
    match s.frames t with
    | ⟨depth, []⟩ :: outer =>
      if depth = (s.memory.stack t).length then some (s.setFrames t outer) else none
    | _ => none

/-- A step of all threads is a move of one of them. -/
abbrev Step (σ : Type) := StepTaken (Threads σ) (ThreadId × ThreadMove σ) (Threads σ)

/-- An interleaving of the moves of any threads. -/
abbrev Course (start : Threads σ) (steps : List (Step σ)) (s : Threads σ) : Prop :=
  Path (fun s (m : ThreadId × ThreadMove σ) => s.step m.1 m.2) id start steps s

/-! ### What a move comes to -/

/-- A thread is at a point where it can make a move of the handshake, inside the calls `outer`. -/
inductive Ready (s : Threads σ) (t : ThreadId) :
    ThreadMove σ → Move → Nat → List Frame → Prop
  | call {call : HandshakeCall} (isOpen : Frame.isOpen (s.frames t) = true) :
      Ready s t (.call call) (.call call) (s.memory.stack t).length (s.frames t)
  | proceed {depth : Nat} {outer : List Frame} (top : s.frames t = ⟨depth, []⟩ :: outer)
      (deeper : depth < (s.memory.stack t).length) : Ready s t .proceed .proceed depth outer

/-- What a move of thread `t` comes to. -/
inductive Stepped (s : Threads σ) (t : ThreadId) : ThreadMove σ → Threads σ → Prop
  | entered {call : ViewCall} {found : View σ} (isOpen : Frame.isOpen (s.frames t) = true) :
      Stepped s t (.enter call found)
        (s.setFrames t (⟨(s.memory.stack t).length, call.events found⟩ :: s.frames t))
  | moved {move : ThreadMove σ} {m : Move} {depth : Nat} {outer : List Frame} {moved : Moved σ}
      (ready : Ready s t move m depth outer) (taken : s.memory.step t m = some moved)
      (apart : ∀ es, moved.events ≠ .locked .resize :: es) :
      Stepped s t move
        ({ s with memory := moved.next }.setFrames t (framesAfter moved depth outer moved.events))
  | begun {move : ThreadMove σ} {m : Move} {depth : Nat} {outer : List Frame} {moved : Moved σ}
      {events : List Event} (ready : Ready s t move m depth outer)
      (taken : s.memory.step t m = some moved)
      (locks : moved.events = .locked .resize :: events) (free : s.holder .resize = none) :
      Stepped s t move
        (({ s with
            memory := moved.next.withCoordinator s.memory.coordinator,
            pending := some moved.next.coordinator }.take t .resize).setFrames t
          (framesAfter moved depth outer events))
  | locked {depth : Nat} {lock : Lock} {events : List Event} {outer : List Frame}
      (top : s.frames t = ⟨depth, .locked lock :: events⟩ :: outer) (free : s.holder lock = none) :
      Stepped s t .act ((s.take t lock).setFrames t (⟨depth, events⟩ :: outer))
  | unlocked {depth : Nat} {lock : Lock} {events : List Event} {outer : List Frame}
      (top : s.frames t = ⟨depth, .unlocked lock :: events⟩ :: outer)
      (held : s.holder lock = some t) :
      Stepped s t .act ((s.release lock).setFrames t (⟨depth, events⟩ :: outer))
  | acted {depth : Nat} {e : Event} {events : List Event} {outer : List Frame}
      (top : s.frames t = ⟨depth, e :: events⟩ :: outer) (notTaken : ∀ lock, e ≠ .locked lock)
      (notGiven : ∀ lock, e ≠ .unlocked lock) :
      Stepped s t .act (s.setFrames t (⟨depth, events⟩ :: outer))
  | wrote {coordinator : Coordinator σ} (held : s.holder .resize = some t)
      (writes : s.pending.isSome = true) :
      Stepped s t (.write coordinator) { s with memory := s.memory.withCoordinator coordinator }
  | left {outer : List Frame} (top : s.frames t = ⟨(s.memory.stack t).length, []⟩ :: outer) :
      Stepped s t .leave (s.setFrames t outer)

theorem stepped_make {s s' : Threads σ} {t : ThreadId} {move : ThreadMove σ} {m : Move}
    {depth : Nat} {outer : List Frame} (ready : Ready s t move m depth outer)
    (made : (s.memory.step t m).bind (s.make t depth outer) = some s') : Stepped s t move s' := by
  obtain ⟨moved, taken, made⟩ := Option.bind_eq_some_iff.1 made
  unfold make at made
  split at made
  next events locks =>
    split at made
    next free =>
      obtain rfl := Option.some.inj made
      exact .begun ready taken locks free
    next => cases made
  next apart =>
    obtain rfl := Option.some.inj made
    exact .moved ready taken fun es eq => apart es eq

/-- Every move that can be made is listed. -/
theorem stepped {s s' : Threads σ} {t : ThreadId} {move : ThreadMove σ}
    (taken : s.step t move = some s') : Stepped s t move s' := by
  cases move with
  | enter call found =>
    obtain ⟨isOpen, eq⟩ := Option.ite_none_right_eq_some.1 taken
    obtain rfl := Option.some.inj eq
    exact .entered isOpen
  | call call =>
    obtain ⟨isOpen, made⟩ := Option.ite_none_right_eq_some.1 taken
    exact stepped_make (.call isOpen) made
  | proceed =>
    simp only [step] at taken
    split at taken
    next depth outer top =>
      obtain ⟨deeper, made⟩ := Option.ite_none_right_eq_some.1 taken
      exact stepped_make (.proceed top deeper) made
    next => cases taken
  | act =>
    simp only [step, act] at taken
    split at taken
    next depth lock events outer top =>
      obtain ⟨free, eq⟩ := Option.ite_none_right_eq_some.1 taken
      obtain rfl := Option.some.inj eq
      exact .locked top free
    next depth lock events outer top =>
      obtain ⟨held, eq⟩ := Option.ite_none_right_eq_some.1 taken
      obtain rfl := Option.some.inj eq
      exact .unlocked top held
    next depth e events outer notTaken notGiven top =>
      obtain rfl := Option.some.inj taken
      exact .acted top (fun lock eq => notTaken lock eq) fun lock eq => notGiven lock eq
    next => cases taken
  | write coordinator =>
    obtain ⟨⟨held, writes⟩, eq⟩ := Option.ite_none_right_eq_some.1 taken
    obtain rfl := Option.some.inj eq
    exact .wrote held writes
  | leave =>
    simp only [step] at taken
    split at taken
    next depth outer top =>
      obtain ⟨rfl, eq⟩ := Option.ite_none_right_eq_some.1 taken
      obtain rfl := Option.some.inj eq
      exact .left top
    next => cases taken

end Threads

end HostView
