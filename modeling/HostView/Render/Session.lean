import HostView.Render.Loop
import HostView.View.Basic

/-!
# A view with its render thread

A `Session` is a view, the bus that carries its events, and the render thread at the other end.
Its moves are those of the render thread, those of the threads that call the view, and the wish
that the render thread stop.  Any interleaving of the threads is a list of moves.
-/

namespace HostView

/-- A view whose events go to a render thread. -/
structure Session (σ : Type) where
  view : View σ
  bus : Bus EngineEvent := { capacity := none }
  loop : RenderLoop
  stopRequested : Bool := false
  /-- Whether the end of the render thread has been waited for. -/
  joined : Bool := false

/-- A move of a session. -/
inductive SessionMove
  /-- A thread other than the render thread moves in the handshake. -/
  | platform (thread : ThreadId) (move : Move)
  /-- The render thread makes its next move. -/
  | render
  /-- The render thread is asked to stop. -/
  | stop

/-- What a move of a session comes to. -/
structure SessionMoved (σ : Type) where
  next : Session σ
  events : List Event := []
  reply : Option (Outcome Reply) := none

namespace Session

variable {σ : Type}

/-- The render thread. -/
def renderThread : ThreadId := 0

/-- An event of the view happens: what the engine is told goes to the bus. -/
def carry (s : Session σ) : List Event → Session σ × List Event
  | [] => (s, [])
  | e :: es =>
    let (s, before) := match e with
      | .engine event =>
        let sent := s.bus.send event
        ({ s with bus := sent.1 }, e :: sent.2.records.map .log)
      | _ => (s, [e])
    let rest := s.carry es
    (rest.1, before ++ rest.2)

/-- The render thread is at its next stage. -/
def atStage (s : Session σ) (stage : LoopStage) : Session σ := { s with loop.stage := stage }

/-- The render thread has ended, and its end of the bus is gone. -/
def halted (s : Session σ) (stage : LoopStage) : Session σ :=
  { s with bus := s.bus.close, loop.stage := stage }

/-- The render thread takes the oldest event off the bus, if there is one. -/
def takeEvent (s : Session σ) : Option (Option EngineEvent × Session σ) :=
  (s.bus.receive renderThread).map fun (event, bus) => (event, { s with bus })

/-- A session whose render thread has panicked. -/
def crash (s : Session σ) : SessionMoved σ := ⟨s.halted .crashed, [], none⟩

/-- The render thread has a move of the handshake made, and goes on with the reply. -/
def afterMove (s : Session σ) (moved : Option (Moved σ))
    (next : Session σ → Option Reply → Session σ × List Event) : SessionMoved σ :=
  match moved with
  | none => s.crash
  | some moved =>
    let (s, events) := { s with view.handshake := moved.next }.carry moved.events
    match moved.reply with
    | some (.panicked _) => ⟨s.halted .crashed, events, none⟩
    | some (.returned reply) =>
      let (s, more) := next s (some reply)
      ⟨s, events ++ more, none⟩
    | none =>
      let (s, more) := next s none
      ⟨s, events ++ more, none⟩

/-- The frame of a turn has been swapped, or is about to have been. -/
def afterSwap (s : Session σ) : Option Reply → Session σ × List Event
  | some (.flag succeeded) => ({ s with loop := s.loop.turned succeeded }, [])
  | _ => (s.atStage .presenting, [])

variable [SurfaceDevice σ]

/-- The next move of the render thread; it has none when it has ended. -/
def render (s : Session σ) : Option (SessionMoved σ) :=
  let step (m : Move) := s.view.handshake.step renderThread m
  match s.loop.stage with
  | .starting =>
    some <| s.afterMove (step (.call (.surface .makeCurrent))) fun s reply =>
      let current := match reply with
        | some (.flag b) => b
        | _ => false
      (s.atStage .testing,
        (if current then []
          else [.log (renderNote .warn "render: could not make the context current")]) ++
          [.log (renderNote .info s!"render: started at {s.loop.size.text}")])
  | .testing =>
    some ⟨s.atStage (if s.stopRequested then .clearing else .receiving), [], none⟩
  | .receiving =>
    match s.takeEvent with
    | none => some s.crash
    | some (none, s) => some ⟨s.atStage .draining, [], none⟩
    | some (some e, s) =>
      some ⟨{ s with loop := s.loop.consume e }.atStage .draining, [.log e.receipt], none⟩
  | .draining =>
    match s.takeEvent with
    | none => some s.crash
    | some (none, s) =>
      some ⟨s.atStage (if s.loop.size.isEmpty then .testing else .acquiring), [], none⟩
    | some (some e, s) => some ⟨{ s with loop := s.loop.consume e }, [.log e.receipt], none⟩
  | .acquiring =>
    some <| s.afterMove (step (.call (.acquire s.loop.size))) fun s _ =>
      (s.atStage .swapping, [])
  | .swapping => some <| s.afterMove (step (.call .swap)) afterSwap
  | .presenting => some <| s.afterMove (step .proceed) afterSwap
  | .clearing =>
    some <| s.afterMove (step (.call (.surface .clearContext))) fun s _ =>
      (s.halted .finished,
        [.log (renderNote .info s!"render: stopped after {s.loop.frames} frames")])
  | .finished | .crashed => none

/-- One move of the session, if it can be made. -/
def step (s : Session σ) : SessionMove → Option (SessionMoved σ)
  | .platform thread m =>
    if thread = renderThread then none
    else
      (s.view.handshake.step thread m).map fun moved =>
        let (s, events) := { s with view.handshake := moved.next }.carry moved.events
        ⟨s, events, moved.reply⟩
  | .render => s.render
  | .stop => some ⟨{ s with stopRequested := true }, [], none⟩

/-- What the render thread returned, once it has ended; after a panic it counts for nothing. -/
def frames (s : Session σ) : Nat :=
  match s.loop.stage with
  | .finished => s.loop.frames
  | _ => 0

/-- Whoever stops the render thread waits for its end, and gets what it returned the first time. -/
def join (s : Session σ) : Option (Nat × Session σ) :=
  if s.joined then some (0, s)
  else if s.loop.isOver then some (s.frames, { s with joined := true })
  else none

/-- Has something done on the calling thread that needs no other thread. -/
def fulfil (request : ViewRequest) : Work (Session σ) Event Bool := fun s =>
  let r := View.fulfil request s.view
  let (s, events) := { s with view := r.state }.carry r.events
  ⟨r.outcome, s, events⟩

end Session

end HostView
