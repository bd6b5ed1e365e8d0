import HostView.Host.App

/-!
# Rehearsing a host

A script stands for the window system: it answers the request for a window and delivers its items
one per turn, until the host has left the loop.  There is always a render thread to be had; it moves
whenever the main thread waits for it, and takes in all events at the end of each turn.
-/

namespace HostView.Rehearsal

/-- What happens in one turn of the scripted loop. -/
inductive ScriptItem
  | resumed
  | idle
  /-- Somebody asks for shutdown. -/
  | shutdown
  /-- The process is interrupted, and the loop turns until the host has left it. -/
  | interrupt
  /-- An event of a window; without a number, of the script's own window. -/
  | window (id : Option UInt64) (event : WindowEvent)

/-- A scripted window system. -/
structure Script where
  items : List ScriptItem
  windowId : UInt64 := 7
  scale : Float := 1
  /-- The size of the window, if it is not the one that was asked for. -/
  innerSize : Option Size := none
  createError : Option String := none
  loopError : Option String := none
  runError : Option String := none

/-- What is seen of a run: the turns of the loop, and the host at work. -/
inductive ScriptSeen
  | item (number : Nat)
  | woken
  | host (event : HostEvent)
  | exiting
  | redraws (count : Nat)

/-- What came of a run. -/
structure ScriptReport where
  result : Outcome (Except ViewError Unit)
  shutdown : Bool
  /-- What was seen, with the thread it belongs to; nothing if the loop could not be made. -/
  seen : Option (List (ThreadId × ScriptSeen))

/-- A host under a script, with the redraws that its window has been asked for. -/
structure HostPlay where
  host : Host
  redraws : Nat := 0
  /-- Whether the host has left the loop. -/
  left : Bool := false

namespace HostPlay

abbrev Act (α : Type) := Work HostPlay (ThreadId × ScriptSeen) α

/-- Something is seen on the main thread. -/
def see (seen : ScriptSeen) : Act Unit := Work.emit (Host.mainThread, seen)

/-- Whether a move leaves the loop. -/
def leaves (moved : HostMoved) : Bool :=
  moved.seen.any fun
    | (_, .system .exit) => true
    | _ => false

/-- A move of the host, if it can be made; the answer is whether it could. -/
def move (m : HostMove) : Act Bool := fun p =>
  match p.host.step m with
  | none => ⟨.returned false, p, []⟩
  | some moved =>
    let redraws := match moved.next.window with
      | none => p.redraws
      | some w => w.binding.window.redraws
    let outcome : Outcome Bool := match moved.next.stage with
      | .panicked message => .panicked message
      | _ => .returned true
    ⟨outcome, ⟨moved.next, redraws, p.left || leaves moved⟩,
      moved.seen.map fun (thread, e) => (thread, .host e)⟩

/-- Whether the render thread waits for an event, or there is none. -/
def renderIdle (h : Host) : Bool :=
  match h.window with
  | none => true
  | some w =>
    w.session.loop.isOver ||
      (w.session.loop.stage = .receiving && w.session.bus.queue.isEmpty && h.stage = .free)

/-- At most `count` moves of the two threads, the main thread first. -/
def settleFor : Nat → Act Unit
  | 0 => return
  | count + 1 => do
    if ← move .proceed then settleFor count
    else
      unless renderIdle (← Work.state).host do
        let _ ← move .render
        settleFor count

/-- More moves than a callback and the turn of the render thread after it can take, events aside:
a turn has nine at most, and two turns have to be waited for. -/
def callbackMoves : Nat := 32

/-- Goes on until both threads would wait. -/
def settle : Act Unit := do
  let waiting := match (← Work.state).host.window with
    | none => 0
    | some w => w.session.bus.queue.length
  settleFor (waiting + callbackMoves)

/-- A callback of the loop. -/
def callback (m : HostMove) : Act Unit := do
  let _ ← move m
  settle

/-- What the script's window system answers to a request for a window. -/
def windowAnswer (s : Script) (settings : Settings) : Except String NativeWindow :=
  match s.createError with
  | some e => .error e
  | none => .ok ⟨s.windowId, s.innerSize.getD settings.size, s.scale, 0⟩

/-- One item. -/
def item (s : Script) : ScriptItem → Act Unit
  | .resumed => do callback (.resumed (windowAnswer s (← Work.state).host.settings) (.ok ()))
  | .idle => return
  | .shutdown => callback .shutdown
  | .interrupt => do
    callback .shutdown
    see .woken
  | .window id event => callback (.windowEvent (id.getD s.windowId) event)

/-- The turns of the loop. -/
def turns (s : Script) (number : Nat) : List ScriptItem → Act Unit
  | [] => return
  | i :: is => do
    see (.item number)
    item s i
    callback .aboutToWait
    unless (← Work.state).left do turns s (number + 1) is

/-- The whole loop. -/
def loop (s : Script) : Act (Except ViewError Unit) := do
  turns s 0 s.items
  see .exiting
  callback .exiting
  see (.redraws (← Work.state).redraws)
  match s.runError, (← Work.state).host.error with
  | some e, _ => return .error (.platform e)
  | none, some e => return .error e
  | none, none => return .ok ()

/-- Runs a host under a script. -/
def run (s : Script) (host : Host) : ScriptReport :=
  match s.loopError with
  | some e => ⟨.returned (.error (.platform e)), host.shutdown, none⟩
  | none =>
    let r := loop s { host }
    ⟨r.outcome, r.state.host.shutdown, some r.events⟩

end HostPlay

end HostView.Rehearsal
