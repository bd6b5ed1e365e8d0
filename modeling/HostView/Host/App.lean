import HostView.Config.Decode
import HostView.Render.Session
import HostView.Surface.Headless
import HostView.Window.System

/-!
# The host of a window

A `Host` answers the callbacks of a window system's event loop.  It opens one window when the
loop has resumed, hands the events of that window to its view, leaves the loop when the window is
closed or shutdown is asked for, and takes the window down when the loop ends.

`Host.step` makes one move: a callback, or a step of the main thread or of the render thread
while a callback waits for something.  Any interleaving of the two is a list of moves.
-/

namespace HostView

/-- What is seen of a host: its calls to the window system, and its view at work. -/
inductive HostEvent
  | system (call : SystemCall)
  | view (event : Event)

/-- The window that a host has opened. -/
structure OpenWindow where
  binding : Binding
  session : Session Headless
  translator : Translator := {}

/-- What the main thread of a host is in the middle of. -/
inductive HostStage
  | free
  /-- A resize has been requested and has not returned yet. -/
  | resizing
  /-- The render thread has been asked to stop, so that the window can be closed. -/
  | closing
  /-- The same, but the window is given up without being closed. -/
  | abandoning
  /-- A hook has panicked. -/
  | panicked (message : String)
deriving DecidableEq

/-- Whether the loop can end without a word: nothing is under way, or a hook has panicked in it. -/
def HostStage.canEnd : HostStage → Bool
  | free | panicked _ => true
  | resizing | closing | abandoning => false

/-- A host with the hooks that its window will get. -/
structure Host where
  settings : Settings
  hooks : List Hook := []
  window : Option OpenWindow := none
  /-- Whether shutdown was asked for. -/
  shutdown : Bool := false
  /-- Why the window could not be opened. -/
  error : Option ViewError := none
  stage : HostStage := .free

/-- A move of a host. -/
inductive HostMove
  /-- The loop has resumed; a request for a window would be answered so, and one for a thread. -/
  | resumed (answer : Except String NativeWindow) (thread : Except String Unit)
  | windowEvent (id : UInt64) (event : WindowEvent)
  /-- The loop is about to wait for the next event. -/
  | aboutToWait
  /-- The loop is about to end. -/
  | exiting
  /-- The loop has ended without a word, by itself or because a hook has panicked. -/
  | abandoned
  /-- Somebody else asks for shutdown. -/
  | shutdown
  /-- The main thread goes on. -/
  | proceed
  /-- The render thread goes on. -/
  | render

/-- What a move of a host comes to; what is seen belongs to a thread. -/
structure HostMoved where
  next : Host
  seen : List (ThreadId × HostEvent) := []

namespace Host

/-- The thread of the event loop. -/
def mainThread : ThreadId := 1

/-- A record of the host. -/
def note (level : Log.Level) (message : String) : HostEvent :=
  .view (.log (Log.Area.host.record level message))

/-- Things that are seen on the main thread. -/
def onMain (events : List HostEvent) : List (ThreadId × HostEvent) :=
  events.map ((mainThread, ·))

/-- Asks for shutdown and leaves the loop. -/
def exit (h : Host) (before : List HostEvent) : HostMoved :=
  ⟨{ h with shutdown := true }, onMain (before ++ [.system .exit])⟩

/-! ### Opening the window -/

/-- A host whose window could not be opened. -/
def fail (h : Host) (error : ViewError) (before : List HostEvent) : HostMoved :=
  { h with error := some error }.exit
    (before ++ [note .error ("host: startup failed: " ++ error.message)])

/-- The same, where a view has been made for the window already: it goes, and with it its surface. -/
def discard (h : Host) (v : View Headless) (error : ViewError) (before : List HostEvent) :
    HostMoved :=
  let dropped := Lifecycle.destroy v.handshake.coordinator.surface
  h.fail error (before ++ dropped.events.map .view)

/-- Adds hooks to the chain of a view. -/
def addHooks (v : View Headless) : List Hook → View Headless × List Event
  | [] => (v, [])
  | hook :: hooks =>
    let (v, first) := v.addHook hook
    let (v, rest) := addHooks v hooks
    (v, first ++ rest)

/-- The engine is told the first size of the window, before anybody else could call. -/
def announce (s : Session Headless) (size : Size) : Session Headless × List Event :=
  let go (m : Move) : Session Headless × List Event → Session Headless × List Event
    | (s, events) =>
      match s.step (.platform mainThread m) with
      | none => (s, events)
      | some moved => (moved.next, events ++ moved.events)
  go .proceed (go .proceed (go (.call (.tell size)) (s, [])))

/-- The engine is told the size of the window, and a view that has its surface gets a render thread,
if there is one. -/
def launch (h : Host) (binding : Binding) (view : View Headless) (before : List HostEvent)
    (thread : Except String Unit) : HostMoved :=
  let bounds := binding.bounds
  let (session, announced) := announce { view, loop := { size := bounds } } bounds
  let before := before ++ (View.askBounds ++ announced).map .view
  match thread with
  | .error e => h.discard session.view (.platform ("render thread spawn failed: " ++ e)) before
  | .ok () =>
    let ready := note .info
      ("host: window " ++ binding.window.text ++ " '" ++ h.settings.title ++ "' ready")
    ⟨{ h with window := some { binding, session } }, onMain (before ++ [ready])⟩

/-- Makes a view and a render thread for a window that the window system has made. -/
def start (h : Host) (made : NativeWindow) (thread : Except String Unit) : HostMoved :=
  let binding : Binding := ⟨made, h.settings.scale⟩
  let bounds := binding.bounds
  let view : View Headless :=
    { handshake :=
      { coordinator := { surface := { device := {}, target := binding.target } }
        scale := binding.scale } }
  let (view, hooked) := addHooks view h.hooks
  let created := view.handshake.call mainThread (.surface (.create bounds))
  let view := { view with handshake := created.next }
  let before : List HostEvent :=
    .system (.allowIme true) :: (hooked ++ View.askBounds ++ created.events).map .view
  let h := { h with hooks := [] }
  match created.reply with
  | some (.returned (.created (.error e))) => h.discard view (.surface e) before
  | _ => h.launch binding view before thread

/-- Opens a window, unless there is one. -/
def resume (h : Host) (answer : Except String NativeWindow) (thread : Except String Unit) :
    HostMoved :=
  match h.window with
  | some _ => ⟨h, []⟩
  | none =>
    let asked := .system (.createWindow h.settings.title h.settings.size)
    match answer with
    | .error e => h.fail (.platform ("window create failed: " ++ e)) [asked]
    | .ok made =>
      let moved := h.start made thread
      { moved with seen := (mainThread, asked) :: moved.seen }

/-! ### The window at work -/

/-- Takes note of what its view does: presented episodes ask for a redraw, and a hook may have
asked for shutdown. -/
def carry (h : Host) (w : OpenWindow) (events : List Event) : Host :=
  let redraws := events.countP fun
    | .window .resized => true
    | _ => false
  let quits := events.any fun
    | .hook manner callback => manner.quits callback
    | _ => false
  { h with
    window := some
      { w with binding.window.redraws := w.binding.window.redraws + redraws }
    shutdown := h.shutdown || quits }

/-- A move of the session of the window. -/
def sessionStep (h : Host) (w : OpenWindow) (thread : ThreadId) (m : SessionMove) :
    Option HostMoved :=
  (w.session.step m).map fun moved =>
    ⟨h.carry { w with session := moved.next } moved.events,
      moved.events.map fun e => (thread, .view e)⟩

/-- An event of the window goes to its view; a resize has to wait for the render thread. -/
def forward (h : Host) (w : OpenWindow) (event : WindowEvent) : HostMoved :=
  let (translator, request) := w.translator.translate event
  let w := { w with translator }
  match request with
  | .resize size =>
    let w := { w with binding.window.innerSize := size }
    match h.sessionStep w mainThread (.platform mainThread (.call (.request size))) with
    | none => ⟨h, []⟩
    | some moved => { moved with next := { moved.next with stage := .resizing } }
  | request =>
    let r := Session.fulfil request w.session
    let next := h.carry { w with session := r.state } r.events
    let next := match r.outcome with
      | .returned _ => next
      | .panicked message => { next with stage := .panicked message }
    ⟨next, onMain (r.events.map .view)⟩

/-- An event of some window; only the host's own window counts. -/
def windowEvent (h : Host) (id : UInt64) (event : WindowEvent) : HostMoved :=
  match h.window with
  | none => ⟨h, []⟩
  | some w =>
    if w.binding.window.id ≠ id then ⟨h, []⟩
    else
      match event with
      | .closeRequested | .destroyed => h.exit []
      | .redrawRequested => ⟨h, []⟩
      | event => h.forward w event

/-- Leaves the loop if shutdown was asked for, and otherwise has it wake up in time to look
again. -/
def wait (h : Host) : HostMoved :=
  if h.shutdown then h.exit [] else ⟨h, onMain [.system .waitUntil]⟩

/-! ### Closing the window -/

/-- The render thread is asked to stop; the main thread waits for it at the given stage. -/
def stop (h : Host) (stage : HostStage) : HostMoved :=
  match h.window with
  | none => ⟨h, []⟩
  | some w =>
    match h.sessionStep w mainThread .stop with
    | none => ⟨h, []⟩
    | some moved => { moved with next := { moved.next with stage } }

/-- The render thread has ended: the surface is destroyed and the window closed. -/
def close (h : Host) (w : OpenWindow) : HostMoved :=
  let crashed : List HostEvent :=
    if w.session.loop.stage = .crashed then
      [.view (.log (renderNote .error "render: thread panicked"))]
    else []
  let destroyed := w.session.view.handshake.call mainThread (.surface .destroy)
  let closed := note .info
    ("host: window " ++ w.binding.window.text ++ " closed after " ++
      toString w.session.frames ++ " frames")
  ⟨{ h with window := none, stage := .free },
    onMain (crashed ++ destroyed.events.map .view ++ [closed])⟩

/-- The render thread has ended, and the last owner of the surface destroys it. -/
def giveUp (h : Host) (w : OpenWindow) : HostMoved :=
  let dropped := Lifecycle.destroy w.session.view.handshake.coordinator.surface
  ⟨{ h with window := none, stage := .free },
    dropped.events.map fun e => (Session.renderThread, .view e)⟩

/-- The main thread goes on with what it is in the middle of, if it can. -/
def proceed (h : Host) : Option HostMoved :=
  match h.stage, h.window with
  | .resizing, some w =>
    (h.sessionStep w mainThread (.platform mainThread .proceed)).map fun moved =>
      let returned := match moved.next.window with
        | none => true
        | some w => (w.session.view.handshake.stack mainThread).isEmpty
      if returned then { moved with next := { moved.next with stage := .free } } else moved
  | .closing, some w => if w.session.loop.isOver then some (h.close w) else none
  | .abandoning, some w => if w.session.loop.isOver then some (h.giveUp w) else none
  | _, _ => none

/-- One move, if it can be made: callbacks come only when the main thread is free, and after a panic
of a hook only the end of the loop is left. -/
def step (h : Host) (m : HostMove) : Option HostMoved :=
  let whenFree (moved : HostMoved) : Option HostMoved :=
    if h.stage = .free then some moved else none
  match m with
  | .resumed answer thread => whenFree (h.resume answer thread)
  | .windowEvent id event => whenFree (h.windowEvent id event)
  | .aboutToWait => whenFree h.wait
  | .exiting => whenFree (h.stop .closing)
  | .abandoned => if h.stage.canEnd then some (h.stop .abandoning) else none
  | .shutdown => some ⟨{ h with shutdown := true }, []⟩
  | .proceed => h.proceed
  | .render =>
    match h.window with
    | none => none
    | some w => h.sessionStep w Session.renderThread .render

end Host

end HostView
