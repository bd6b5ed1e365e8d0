import HostView.Proofs.Engine.Bus
import HostView.Proofs.Path
import HostView.Proofs.Resize.Handshake
import HostView.Proofs.View.Request
import HostView.Render.Session

/-!
# One platform thread and the render loop

`Session.drive` lets one platform thread and the render thread move in any order.  The platform
thread makes one call after the other: it resizes, has other things done, and in the end stops the
render thread and waits for it.  `Session.Wired` is what always holds of where the two threads
are, whatever the sizes.
-/

namespace HostView

/-- A move of a session that only one platform thread calls. -/
inductive DriveMove
  /-- The platform thread is told of a new size. -/
  | resize (size : Size)
  /-- The platform thread has something done that needs no other thread. -/
  | use (request : ViewRequest)
  /-- The platform thread goes on with the resize that it is in the middle of. -/
  | proceed
  /-- The platform thread asks the render thread to stop, and from then on waits for its end. -/
  | stop
  /-- The render thread moves. -/
  | render

/-- A request is never in the middle of a swap. -/
def Activity.IsRequest : Activity → Prop
  | waking _ | announcing _ => False
  | _ => True

namespace Session

variable {σ : Type}

/-! ### The parts of a session -/

/-- What the resize lock of the view guards. -/
def coordinator (s : Session σ) : Coordinator σ := s.view.handshake.coordinator

/-- What a thread is in the middle of. -/
def stack (s : Session σ) (t : ThreadId) : List Activity := s.view.handshake.stack t

/-- The sizes that are still to be drawn at: the size of the render loop, and those on the bus. -/
def pipe (s : Session σ) : List Size := s.loop.size :: s.bus.sizes

/-- The same session around another handshake. -/
def withHandshake (s : Session σ) (handshake : Handshake σ) : Session σ :=
  { s with view.handshake := handshake }

def withCoordinator (s : Session σ) (c : Coordinator σ) : Session σ :=
  s.withHandshake (s.view.handshake.withCoordinator c)

def withDevice (s : Session σ) (device : σ) : Session σ :=
  s.withCoordinator (s.coordinator.withDevice device)

def withStack (s : Session σ) (t : ThreadId) (stack : List Activity) : Session σ :=
  s.withHandshake (s.view.handshake.setStack t stack)

def withBus (s : Session σ) (bus : Bus EngineEvent) : Session σ := { s with bus }

def withLoop (s : Session σ) (loop : RenderLoop) : Session σ := { s with loop }

/-- The render thread owns the bus, and this is left on it. -/
def left (s : Session σ) (queue : List EngineEvent) : Session σ :=
  s.withBus { s.bus with owner := some renderThread, queue }

theorem stack_of_handshake {s t : Session σ} (same : t.view.handshake = s.view.handshake)
    (p : ThreadId) : t.stack p = s.stack p := congrArg (Handshake.stack · p) same

theorem coordinator_of_handshake {s t : Session σ} (same : t.view.handshake = s.view.handshake) :
    t.coordinator = s.coordinator := congrArg Handshake.coordinator same

section Projections

variable (s : Session σ) (h : Handshake σ) (c : Coordinator σ) (d : σ) (t u : ThreadId)
  (l : List Activity) (b : Bus EngineEvent) (r : RenderLoop) (stage : LoopStage)
  (q : List EngineEvent)

@[simp] theorem withHandshake_coordinator : (s.withHandshake h).coordinator = h.coordinator := rfl
@[simp] theorem withHandshake_stack : (s.withHandshake h).stack = h.stack := rfl
@[simp] theorem withHandshake_bus : (s.withHandshake h).bus = s.bus := rfl
@[simp] theorem withHandshake_loop : (s.withHandshake h).loop = s.loop := rfl
@[simp] theorem withHandshake_stopRequested :
    (s.withHandshake h).stopRequested = s.stopRequested := rfl

@[simp] theorem withCoordinator_coordinator : (s.withCoordinator c).coordinator = c := rfl
@[simp] theorem withCoordinator_stack : (s.withCoordinator c).stack = s.stack := rfl
@[simp] theorem withCoordinator_bus : (s.withCoordinator c).bus = s.bus := rfl
@[simp] theorem withCoordinator_loop : (s.withCoordinator c).loop = s.loop := rfl
@[simp] theorem withCoordinator_stopRequested :
    (s.withCoordinator c).stopRequested = s.stopRequested := rfl

@[simp] theorem withDevice_coordinator :
    (s.withDevice d).coordinator = s.coordinator.withDevice d := rfl
@[simp] theorem withDevice_stack : (s.withDevice d).stack = s.stack := rfl
@[simp] theorem withDevice_bus : (s.withDevice d).bus = s.bus := rfl
@[simp] theorem withDevice_loop : (s.withDevice d).loop = s.loop := rfl
@[simp] theorem withDevice_stopRequested : (s.withDevice d).stopRequested = s.stopRequested := rfl

@[simp] theorem withStack_coordinator : (s.withStack t l).coordinator = s.coordinator := rfl
@[simp] theorem withStack_same : (s.withStack t l).stack t = l := if_pos rfl
theorem withStack_of_ne {t u : ThreadId} (ne : u ≠ t) : (s.withStack t l).stack u = s.stack u :=
  if_neg ne
@[simp] theorem withStack_bus : (s.withStack t l).bus = s.bus := rfl
@[simp] theorem withStack_loop : (s.withStack t l).loop = s.loop := rfl
@[simp] theorem withStack_stopRequested : (s.withStack t l).stopRequested = s.stopRequested := rfl

@[simp] theorem withBus_coordinator : (s.withBus b).coordinator = s.coordinator := rfl
@[simp] theorem withBus_stack : (s.withBus b).stack = s.stack := rfl
@[simp] theorem withBus_bus : (s.withBus b).bus = b := rfl
@[simp] theorem withBus_loop : (s.withBus b).loop = s.loop := rfl
@[simp] theorem withBus_stopRequested : (s.withBus b).stopRequested = s.stopRequested := rfl

@[simp] theorem withLoop_coordinator : (s.withLoop r).coordinator = s.coordinator := rfl
@[simp] theorem withLoop_stack : (s.withLoop r).stack = s.stack := rfl
@[simp] theorem withLoop_bus : (s.withLoop r).bus = s.bus := rfl
@[simp] theorem withLoop_loop : (s.withLoop r).loop = r := rfl
@[simp] theorem withLoop_stopRequested : (s.withLoop r).stopRequested = s.stopRequested := rfl

@[simp] theorem atStage_coordinator : (s.atStage stage).coordinator = s.coordinator := rfl
@[simp] theorem atStage_stack : (s.atStage stage).stack = s.stack := rfl
@[simp] theorem atStage_bus : (s.atStage stage).bus = s.bus := rfl
@[simp] theorem atStage_stage : (s.atStage stage).loop.stage = stage := rfl
@[simp] theorem atStage_size : (s.atStage stage).loop.size = s.loop.size := rfl
@[simp] theorem atStage_frames : (s.atStage stage).loop.frames = s.loop.frames := rfl
@[simp] theorem atStage_stopRequested : (s.atStage stage).stopRequested = s.stopRequested := rfl

@[simp] theorem halted_coordinator : (s.halted stage).coordinator = s.coordinator := rfl
@[simp] theorem halted_stack : (s.halted stage).stack = s.stack := rfl
@[simp] theorem halted_bus : (s.halted stage).bus = s.bus.close := rfl
@[simp] theorem halted_stage : (s.halted stage).loop.stage = stage := rfl
@[simp] theorem halted_size : (s.halted stage).loop.size = s.loop.size := rfl
@[simp] theorem halted_frames : (s.halted stage).loop.frames = s.loop.frames := rfl
@[simp] theorem halted_stopRequested : (s.halted stage).stopRequested = s.stopRequested := rfl

@[simp] theorem left_coordinator : (s.left q).coordinator = s.coordinator := rfl
@[simp] theorem left_stack : (s.left q).stack = s.stack := rfl
@[simp] theorem left_loop : (s.left q).loop = s.loop := rfl
@[simp] theorem left_stopRequested : (s.left q).stopRequested = s.stopRequested := rfl
@[simp] theorem left_queue : (s.left q).bus.queue = q := rfl

end Projections

/-! ### The composition -/

/-- The platform thread can make a call: it is in the middle of nothing, and does not wait for
the end of the render thread. -/
def isFree (s : Session σ) (p : ThreadId) : Bool := (s.stack p).isEmpty && !s.stopRequested

theorem isFree_iff {s : Session σ} {p : ThreadId} :
    s.isFree p = true ↔ s.stack p = [] ∧ s.stopRequested = false := by
  simp [isFree]

/-- A view right after its start: the surface, the metrics on the bus and the render loop all
have the size of the window. -/
structure Fresh (size : Size) (s : Session σ) : Prop where
  idle : s.coordinator.phase = .idle
  even : s.coordinator.presented = s.coordinator.started
  sized : s.coordinator.surface.dimensions = size
  alive : s.coordinator.surface.live = true
  free : ∀ t, s.stack t = []
  bus : s.bus = { capacity := none, queue := [.metrics ⟨size, s.view.handshake.scale⟩] }
  loop : s.loop = { size }
  running : s.stopRequested = false
  unjoined : s.joined = false

/-- Where the two threads are, and who owns the bus. -/
structure Wired (p : ThreadId) (s : Session σ) : Prop where
  unbounded : s.bus.capacity = none
  consumer : s.bus.owner = none ∨ s.bus.owner = some renderThread
  isOpen : s.bus.isOpen = !s.loop.isOver
  drawing : s.loop.stage = .acquiring ∨ s.loop.stage = .swapping → s.loop.size.isEmpty = false
  presenting : s.loop.stage = .presenting → ∃ succeeded,
    s.stack renderThread = [.waking succeeded] ∨ s.stack renderThread = [.announcing succeeded]
  elsewhere : s.loop.stage ≠ .presenting → s.stack renderThread = []
  alive : s.coordinator.surface.live = true
  request : s.stack p = [] ∨ ∃ a : Activity, s.stack p = [a] ∧ a.IsRequest
  stopped : s.stopRequested = true → s.stack p = []
  ending : s.loop.stage = .clearing ∨ s.loop.stage = .finished → s.stopRequested = true

theorem Fresh.wired {size : Size} {s : Session σ} (fresh : Fresh size s) (p : ThreadId) :
    Wired p s where
  unbounded := by rw [fresh.bus]
  consumer := by simp [fresh.bus]
  isOpen := by simp [fresh.bus, fresh.loop, RenderLoop.isOver]
  drawing := by simp [fresh.loop]
  presenting := by simp [fresh.loop]
  elsewhere := fun _ => fresh.free _
  alive := fresh.alive
  request := .inl (fresh.free p)
  stopped := fun _ => fresh.free p
  ending := by simp [fresh.loop]

variable [SurfaceDevice σ]

/-- One move of the platform thread `p` or of the render thread, if it can be made. -/
def drive (p : ThreadId) (s : Session σ) : DriveMove → Option (SessionMoved σ)
  | .resize size => if s.isFree p then s.step (.platform p (.call (.request size))) else none
  | .use request =>
    if s.isFree p then
      let r := fulfil request s
      some ⟨r.state, r.events, none⟩
    else none
  | .proceed => s.step (.platform p .proceed)
  | .stop => if s.isFree p then s.step .stop else none
  | .render => s.step .render

end Session

/-- A step of the platform thread or of the render thread. -/
abbrev DriveStep (σ : Type) := StepTaken (Session σ) DriveMove (SessionMoved σ)

/-- An interleaving of one platform thread with the render thread. -/
abbrev Session.Drives {σ : Type} [SurfaceDevice σ] (p : ThreadId) (start : Session σ)
    (steps : List (DriveStep σ)) (s : Session σ) : Prop :=
  Path (drive p) SessionMoved.next start steps s

end HostView
