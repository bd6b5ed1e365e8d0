import HostView.Rehearsal.Stage
import HostView.View.Basic

/-!
# Rehearsing a view

A script calls every entry point of a view, as the platform, the engine and the window system
would.  `runView` answers each step with what it returned, what was seen, and which requests were
released by it.
-/

namespace HostView.Rehearsal

/-- What the surroundings of a view can be told. -/
inductive Setting
  | bounds (size : Size)
  | scale (factor : Float)
  | reaction (reaction : Option EngineReaction)
  | knobs (change : Knobs → Knobs)

/-- One step of a script for a view. -/
inductive ViewStep
  | announce
  | create
  | task (task : SurfaceTask)
  | acquire (size : Size)
  | swap
  | point (input : PointerInput)
  | cursorRect (area : Rect)
  | addHook (hook : Hook)
  | callback (callback : Callback)
  | resize (size : Size)
  | window (event : WindowEvent)
  | ime (ime : Ime)
  | set (settings : List Setting)
  | drain

/-- What a step returns. -/
inductive ViewAnswer
  | done
  | flag (value : Bool)
  | frameBuffer
  | failed (error : ViewError)
  | parked
  /-- The translator waits inside another event. -/
  | busy
  | drained (events : List EngineEvent)

/-- A stage with what turns window events into calls. -/
structure ViewStage where
  stage : Stage
  /-- The window takes no notice of the text cursor. -/
  ignoresCursor : Bool := false
  translator : Translator := {}
  composer : Composer := {}

/-- The result of one step. -/
structure ViewResult where
  outcome : Outcome ViewAnswer
  after : ViewStage
  seen : List (ThreadId × Seen)
  released : List Request

/-- What a task on the surface returns to its caller. -/
def ViewAnswer.ofReply : Reply → ViewAnswer
  | .done => .done
  | .flag value => .flag value
  | .created (.ok ()) => .done
  | .created (.error e) => .failed (.surface e)

/-- Changes a setting. -/
def Setting.apply (s : Stage) : Setting → Stage
  | bounds size => { s with bounds := size }
  | scale factor => { s with view.handshake.scale := factor }
  | reaction r => { s with reaction := r }
  | knobs change =>
    { s with
      view.handshake.coordinator.surface.device.knobs :=
        change s.view.handshake.coordinator.surface.device.knobs }

namespace ViewStage

/-- Work on the view as a whole, on the thread of the script. -/
def onView {α : Type} (w : Work (View ScriptedDevice) Event α) : Stage.Act α := fun s =>
  let r := w s.view
  let seen := Stage.deliverAll Stage.scriptThread r.events { s with view := r.state }
  ⟨r.outcome, seen.state, seen.events⟩

/-- A request on a thread of its own. -/
def request (size : Size) (forEvent : Bool) : Stage.Act ViewAnswer := do
  let s ← Work.state
  let thread := s.requestThread
  if ← Stage.request thread size then
    let r : Request := { thread, name := .step s.number, forEvent }
    -- a request that the engine has made meanwhile is younger
    Work.change fun s =>
      let (older, younger) := s.parked.partition (·.thread < thread)
      { s with parked := older ++ [r] ++ younger }
    return .parked
  else return if forEvent then .flag true else .done

/-- What a step does on the stage, apart from the changes to the translators. -/
def act (step : ViewStep) (asked : ViewRequest) (calls : List Callback) : Stage.Act ViewAnswer :=
  match step with
  | .announce => do
    Stage.announce
    return .done
  | .create => do
    Stage.deliverAll Stage.scriptThread View.askBounds
    let bounds := (← Work.state).bounds
    return .ofReply (← Stage.surface (.create bounds))
  | .task task => do return .ofReply (← Stage.surface task)
  | .acquire size => do
    let _ ← Stage.move Stage.scriptThread (.call (.acquire size))
    return .frameBuffer
  | .swap => do return .flag (← Stage.swap Stage.scriptThread)
  | .point input => do
    let _ ← onView (View.fulfil (.point input))
    return .done
  | .cursorRect area => do
    Stage.deliverAll Stage.scriptThread (View.moveCursor area)
    return .done
  | .addHook hook => do
    onView fun v =>
      let r := v.addHook hook
      ⟨.returned (), r.1, r.2⟩
    return .done
  | .callback callback => do
    let consumed ← onView (View.notify · callback)
    return match callback with
      | .key _ => .flag consumed
      | _ => .done
  | .resize size => request size false
  | .window _ =>
    match asked with
    | .resize size => request size true
    | asked => do return .flag (← onView (View.fulfil asked))
  | .ime _ => do
    onView (View.notifyAll calls)
    return .done
  | .set settings => do
    Work.change fun s => settings.foldl Setting.apply s
    return .done
  | .drain => do
    let s ← Work.state
    match s.bus with
    | none => return .drained []
    | some bus =>
      match bus.drain Stage.scriptThread with
      | none => return .drained []
      | some (deliveries, bus) =>
        Work.change fun s => { s with bus := some bus }
        return .drained (deliveries.map (·.event))

/-- Whether the translator waits inside an event that is parked. -/
def isBusy (v : ViewStage) : Bool := v.stage.parked.any (·.forEvent)

/-- Runs one step, and then the requests that it has woken. -/
def step (v : ViewStage) (number : Nat) (step : ViewStep) : ViewResult :=
  let v := { v with stage.number := number }
  let idle := match step with
    | .window _ => v.isBusy
    | .cursorRect _ => v.ignoresCursor
    | _ => false
  if idle then
    let answer := match step with
      | .window _ => .busy
      | _ => .done
    ⟨.returned answer, v, [], []⟩
  else
    let (translator, asked) := match step with
      | .window event => v.translator.translate event
      | _ => (v.translator, .nothing)
    let (composer, calls) := match step with
      | .ime ime => v.composer.apply ime
      | _ => (v.composer, [])
    let r := act step asked calls v.stage
    let outcome := match step, r.outcome with
      | .ime _, .returned _ => .returned (.flag composer.composing)
      | _, outcome => outcome
    let released := Stage.releaseAll r.state
    let requests := match released.outcome with
      | .returned requests => requests
      | .panicked _ => []
    ⟨outcome, { v with stage := released.state, translator, composer },
      r.events ++ released.events, requests⟩

/-- Runs a script. -/
def run (v : ViewStage) (number : Nat) : List ViewStep → List ViewResult
  | [] => []
  | s :: ss =>
    let r := v.step number s
    r :: r.after.run (number + 1) ss

/-- The view goes away, and its surface with it. -/
def drop (v : ViewStage) : List Seen :=
  ((Lifecycle.destroy v.stage.view.handshake.coordinator.surface).events).map .event

end ViewStage

end HostView.Rehearsal
