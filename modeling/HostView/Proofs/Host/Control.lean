import HostView.Proofs.Host.Teardown
import HostView.Proofs.Render.Unhooked

/-!
# What a move of a host comes to

`Host.Handled` lists what every move of a host comes to, with what it asks of the window system,
and `Host.handled` is the only place below which `Host.step` is unfolded for this.  From the list it
is read off when a move leaves the loop (`Host.leaves_iff`), opens a window, raises the wish for
shutdown (`Host.shutdown_next`) or fails to start (`Host.error_next`).
-/

namespace HostView

/-- The call to the window system that an event is. -/
def HostEvent.systemCall : HostEvent → Option SystemCall
  | .system call => some call
  | .view _ => none

/-- Whether a window is asked for. -/
def SystemCall.creates : SystemCall → Bool
  | createWindow _ _ => true
  | _ => false

/-- An event with which a window goes away. -/
def WindowEvent.isEnd : WindowEvent → Bool
  | closeRequested | destroyed => true
  | _ => false

/-- A move with which the loop has come to its end. -/
def HostMove.endsLoop : HostMove → Bool
  | exiting | abandoned => true
  | _ => false

/-- The loop has resumed, so that a window can be opened. -/
def HostMove.resumes : HostMove → Bool
  | resumed _ _ => true
  | _ => false

namespace Host

variable {h : Host} {m : HostMove} {moved : HostMoved}

/-! ### What is asked of the window system -/

/-- The calls to the window system that are seen. -/
def calls (seen : List (ThreadId × HostEvent)) : List SystemCall :=
  seen.filterMap fun (_, e) => e.systemCall

theorem calls_onMain (es : List HostEvent) :
    calls (onMain es) = es.filterMap HostEvent.systemCall := by
  rw [calls, onMain, List.filterMap_map]
  rfl

theorem calls_views (es : List Event) :
    (es.map HostEvent.view).filterMap HostEvent.systemCall = [] := by
  rw [List.filterMap_map]
  exact List.filterMap_eq_nil_iff.2 fun _ _ => rfl

/-- A view at work asks nothing of the window system. -/
theorem calls_view (t : ThreadId) (es : List Event) :
    calls (es.map fun e => (t, .view e)) = [] := by
  rw [calls, List.filterMap_map]
  exact List.filterMap_eq_nil_iff.2 fun _ _ => rfl

theorem calls_between (before after : List SystemCall) (es : List Event) :
    calls (onMain (before.map .system ++ es.map .view ++ after.map .system)) = before ++ after := by
  have all (calls : List SystemCall) :
      (calls.map HostEvent.system).filterMap HostEvent.systemCall = calls := by
    rw [List.filterMap_map]
    exact List.filterMap_some
  simp only [calls_onMain, List.filterMap_append, all, calls_views, List.append_nil]

/-- A move leaves the loop. -/
def Leaves (moved : HostMoved) : Prop := .exit ∈ calls moved.seen

/-! ### Why -/

/-- The host has opened the window with this number. -/
def Owns (h : Host) (id : UInt64) : Prop := ∃ w, h.window = some w ∧ w.binding.window.id = id

/-- Why the start-up fails with a move, if it does. -/
def startupError (h : Host) : HostMove → Option ViewError
  | .resumed answer thread => if h.window.isNone then refusal answer thread else none
  | _ => none

/-- The host's own window goes away with a move. -/
def Closes (h : Host) (m : HostMove) : Prop :=
  ∃ id event, m = .windowEvent id event ∧ h.Owns id ∧ event.isEnd = true

/-! ### Every move -/

/-- The window that a move leaves when it has its session do something, and what is seen. -/
inductive Worked (w : OpenWindow) : HostMove → OpenWindow → List Event → Prop
  /-- What an event asks for is done at once. -/
  | used {id : UInt64} {event : WindowEvent} {w' : OpenWindow} (own : w.binding.window.id = id)
      (stays : event.isEnd = false)
      (session : w'.session =
        (Session.fulfil (w.translator.translate event).2 w.session).state) :
      Worked w (.windowEvent id event) w'
        (Session.fulfil (w.translator.translate event).2 w.session).events
  /-- A resize is asked for. -/
  | resizes {id : UInt64} {size : Size} {w' : OpenWindow} {sm : SessionMove}
      {r : SessionMoved Headless} (own : w.binding.window.id = id)
      (taken : w.session.step sm = some r) (session : w'.session = r.next) :
      Worked w (.windowEvent id (.resized size)) w' r.events
  /-- One of the threads goes on, or the render thread is asked to stop. -/
  | goes {m : HostMove} {w' : OpenWindow} {sm : SessionMove} {r : SessionMoved Headless}
      (goes : m = .proceed ∨ m = .render ∨ m.endsLoop = true)
      (taken : w.session.step sm = some r) (session : w'.session = r.next) : Worked w m w' r.events

/-- What a move of a host comes to. -/
inductive Handled (h : Host) : HostMove → HostMoved → Prop
  | again {answer : Except String NativeWindow} {thread : Except String Unit}
      (window : h.window ≠ none) : Handled h (.resumed answer thread) ⟨h, []⟩
  | failed {answer : Except String NativeWindow} {thread : Except String Unit} {error : ViewError}
      {hooks : List Hook} {seen : List (ThreadId × HostEvent)} {asked : List SystemCall}
      (closed : h.window = none) (refused : refusal answer thread = some error)
      (asks : asked = [] ∨ asked = [.allowIme true])
      (told : calls seen =
        .createWindow h.settings.title h.settings.size :: asked ++ [.exit]) :
      Handled h (.resumed answer thread)
        ⟨{ h with hooks, error := some error, shutdown := true }, seen⟩
  | opened {made : NativeWindow} {thread : Except String Unit} {w : OpenWindow}
      {seen : List (ThreadId × HostEvent)} (closed : h.window = none)
      (accepted : refusal (.ok made) thread = none)
      (window : w.binding.window = made) (hooks : w.session.view.hooks = h.hooks)
      (told : calls seen = [.createWindow h.settings.title h.settings.size, .allowIme true]) :
      Handled h (.resumed (.ok made) thread) ⟨{ h with hooks := [], window := some w }, seen⟩
  | foreign {id : UInt64} {event : WindowEvent} (foreign : ¬ h.Owns id) :
      Handled h (.windowEvent id event) ⟨h, []⟩
  | closed {id : UInt64} {event : WindowEvent} (own : h.Owns id) (ends : event.isEnd = true) :
      Handled h (.windowEvent id event) (h.exit [])
  /-- A redraw comes from the render thread, and a resize can be asked for only by a thread that
  is in the middle of nothing. -/
  | still {id : UInt64} {event : WindowEvent}
      (still : event = .redrawRequested ∨ ∃ size, event = .resized size) :
      Handled h (.windowEvent id event) ⟨h, []⟩
  | worked {m : HostMove} {w w' : OpenWindow} {es : List Event} {t : ThreadId}
      {s : HostStage} (window : h.window = some w)
      (number : w'.binding.window.id = w.binding.window.id) (work : Worked w m w' es)
      (down : s.TakesDown → h.stage.TakesDown ∨ m.endsLoop = true) :
      Handled h m ⟨{ h.carry w' es with stage := s }, es.map fun e => (t, .view e)⟩
  | left (asked : h.shutdown = true) : Handled h .aboutToWait (h.exit [])
  | waits (unasked : h.shutdown = false) :
      Handled h .aboutToWait ⟨h, onMain [.system .waitUntil]⟩
  | asked : Handled h .shutdown ⟨{ h with shutdown := true }, []⟩
  | gone {m : HostMove} (closed : h.window = none) (ends : m.endsLoop = true) : Handled h m ⟨h, []⟩
  | ended {w : OpenWindow} {seen : List (ThreadId × HostEvent)} (window : h.window = some w)
      (down : h.stage.TakesDown) (quiet : calls seen = []) :
      Handled h .proceed ⟨{ h with window := none, stage := .free }, seen⟩

theorem handled_resume (answer : Except String NativeWindow) (thread : Except String Unit) :
    Handled h (.resumed answer thread) (h.resume answer thread) := by
  rw [resume]
  cases closed : h.window with
  | some w => exact .again (by simp [closed])
  | none =>
    cases answer with
    | error e =>
      exact .failed closed rfl (.inl rfl) (calls_between [_] [.exit] [Event.log _])
    | ok made =>
      have seen (es : List Event) (after : List SystemCall) := calls_between
        [.createWindow h.settings.title h.settings.size, .allowIme true] after es
      dsimp only
      cases refused : refusal (.ok made) thread with
      | some error =>
        obtain ⟨es, start, -⟩ := start_refused (h := h) refused
        rw [start]
        exact .failed closed refused (.inr rfl) (seen es [.exit])
      | none =>
        obtain ⟨w, es, start, window, hooks, -⟩ := start_accepted (h := h) refused
        have told := seen es []
        rw [List.map_nil, List.append_nil] at told
        rw [start]
        exact .opened closed refused window hooks told

/-- Only a resize asks for a resize. -/
theorem translate_resize {t : Translator} {event : WindowEvent} {size : Size}
    (translated : (t.translate event).2 = .resize size) : event = .resized size := by
  cases event with
  | resized => cases translated; rfl
  | mouse pressed button => cases button <;> cases translated
  | key input =>
    rw [Translator.translate] at translated
    split at translated <;> cases translated
  | _ => cases translated

theorem sessionStep_eq {w : OpenWindow} {t : ThreadId} {sm : SessionMove}
    (taken : h.sessionStep w t sm = some moved) :
    ∃ r, w.session.step sm = some r ∧
      moved = ⟨h.carry { w with session := r.next } r.events,
        r.events.map fun e => (t, .view e)⟩ := by
  obtain ⟨r, made, rfl⟩ := Option.map_eq_some_iff.1 taken
  exact ⟨r, made, rfl⟩

/-- What is done at once leaves the main thread in the middle of nothing, or with a panic. -/
theorem handled_used (translator : Translator) {w : OpenWindow} {event : WindowEvent}
    {request : ViewRequest} (window : h.window = some w) (stays : event.isEnd = false)
    (translated : (w.translator.translate event).2 = request) :
    let r := Session.fulfil request w.session
    let next := h.carry { w with translator, session := r.state } r.events
    Handled h (.windowEvent w.binding.window.id event)
      ⟨match r.outcome with
        | .returned _ => next
        | .panicked message => { next with stage := .panicked message },
        onMain (r.events.map .view)⟩ := by
  intro r next
  obtain rfl := translated
  have work : Worked w (.windowEvent w.binding.window.id event)
      { w with translator, session := r.state } r.events := .used rfl stays rfl
  have seen : onMain (r.events.map .view) = r.events.map fun e => (mainThread, .view e) :=
    List.map_map
  rw [seen]
  cases outcome : r.outcome with
  | returned => exact .worked (s := h.stage) window rfl work .inl
  | panicked message =>
    exact .worked (s := .panicked message) window rfl work nofun

theorem handled_forward {w : OpenWindow} {event : WindowEvent} (window : h.window = some w)
    (stays : event.isEnd = false) :
    Handled h (.windowEvent w.binding.window.id event) (h.forward w event) := by
  rw [forward]
  rcases translated : w.translator.translate event with ⟨translator, request⟩
  have used := handled_used translator window stays (congrArg Prod.snd translated)
  cases request with
  | resize size =>
    obtain rfl := translate_resize (congrArg Prod.snd translated)
    dsimp only
    split
    next => exact .still (.inr ⟨size, rfl⟩)
    next taken =>
      obtain ⟨r, made, rfl⟩ := sessionStep_eq taken
      exact .worked window rfl (.resizes rfl made rfl) nofun
  | nothing => exact used
  | point => exact used
  | key => exact used
  | compose => exact used

theorem handled_windowEvent (id : UInt64) (event : WindowEvent) :
    Handled h (.windowEvent id event) (h.windowEvent id event) := by
  rw [windowEvent]
  cases window : h.window with
  | none =>
    refine .foreign ?_
    rintro ⟨w, opened, -⟩
    cases window.symm.trans opened
  | some w =>
    dsimp only
    split
    next other =>
      refine .foreign ?_
      rintro ⟨w', opened, number⟩
      cases window.symm.trans opened
      exact other number
    next own =>
      obtain rfl := not_not.1 own
      split
      next => exact .closed ⟨w, window, rfl⟩ rfl
      next => exact .closed ⟨w, window, rfl⟩ rfl
      next => exact .still (.inl rfl)
      next notClosed notDestroyed _ =>
        refine handled_forward window ?_
        cases event with
        | closeRequested => exact absurd rfl notClosed
        | destroyed => exact absurd rfl notDestroyed
        | _ => rfl

theorem handled_wait : Handled h .aboutToWait h.wait := by
  rw [wait]
  split
  next asked => exact .left asked
  next unasked => exact .waits (eq_false_of_ne_true unasked)

theorem handled_stop {stage : HostStage} (ends : m.endsLoop = true) :
    Handled h m (h.stop stage) := by
  rw [stop]
  cases window : h.window with
  | none => exact .gone window ends
  | some w =>
    have stops : w.session.step .stop = some ⟨{ w.session with stopRequested := true }, [], none⟩ :=
      rfl
    exact .worked (t := mainThread) (s := stage) window rfl (.goes (.inr (.inr ends)) stops rfl)
      fun _ => .inr ends

theorem handled_proceed (taken : h.proceed = some moved) : Handled h .proceed moved := by
  rw [proceed] at taken
  split at taken
  next w stage window =>
    obtain ⟨mid, inner, rfl⟩ := Option.map_eq_some_iff.1 taken
    obtain ⟨r, made, rfl⟩ := sessionStep_eq inner
    have work : Worked w .proceed { w with session := r.next } r.events := .goes (.inl rfl) made rfl
    have either (returned : Bool) : Handled h .proceed
        (let moved : HostMoved := ⟨h.carry { w with session := r.next } r.events,
          r.events.map fun e => (mainThread, .view e)⟩
        if returned then { moved with next := { moved.next with stage := .free } } else moved) := by
      cases returned with
      | true => exact .worked (s := .free) window rfl work (by simp [HostStage.TakesDown])
      | false => exact .worked (s := h.stage) window rfl work .inl
    exact either _
  next w stage window =>
    split at taken
    next =>
      obtain rfl := Option.some.inj taken
      have quiet : calls (h.close w).seen = [] := by
        rw [close, calls_onMain, List.filterMap_append, List.filterMap_append, calls_views]
        split <;> rfl
      exact .ended window (.inl stage) quiet
    next => cases taken
  next w stage window =>
    split at taken
    next =>
      obtain rfl := Option.some.inj taken
      exact .ended window (.inr stage) (calls_view _ _)
    next => cases taken
  next => cases taken

/-- Every move of a host is listed. -/
theorem handled (taken : h.step m = some moved) : Handled h m moved := by
  have whenFree {r : HostMoved} (made : (if h.stage = .free then some r else none) = some moved)
      (listed : Handled h m r) : Handled h m moved := by
    split at made
    next => exact Option.some.inj made ▸ listed
    next => cases made
  cases m with
  | resumed answer thread => exact whenFree taken (handled_resume answer thread)
  | windowEvent id event => exact whenFree taken (handled_windowEvent id event)
  | aboutToWait => exact whenFree taken handled_wait
  | exiting => exact whenFree taken (handled_stop rfl)
  | abandoned =>
    simp only [step] at taken
    split at taken
    next => exact Option.some.inj taken ▸ handled_stop rfl
    next => cases taken
  | shutdown =>
    obtain rfl := Option.some.inj taken
    exact .asked
  | proceed => exact handled_proceed taken
  | render =>
    simp only [step] at taken
    split at taken
    next => cases taken
    next w window =>
      obtain ⟨r, made, rfl⟩ := sessionStep_eq taken
      exact .worked (s := h.stage) window rfl (.goes (.inr (.inl rfl)) made rfl) .inl

/-! ### What can be read off a move -/

@[simp] theorem closes_windowEvent {id : UInt64} {event : WindowEvent} :
    h.Closes (.windowEvent id event) ↔ h.Owns id ∧ event.isEnd = true := by
  constructor
  · rintro ⟨id', event', same, own, ends⟩
    cases same
    exact ⟨own, ends⟩
  · rintro ⟨own, ends⟩
    exact ⟨id, event, rfl, own, ends⟩

/-- Nothing about the window or the loop is decided by a move. -/
structure Undecided (h : Host) (m : HostMove) : Prop where
  unfailed : h.startupError m = none
  stays : ¬ h.Closes m
  busy : m ≠ .aboutToWait
  unasked : m ≠ .shutdown
  under : m.resumes = false

theorem undecided_of_goes (goes : m = .proceed ∨ m = .render ∨ m.endsLoop = true) :
    h.Undecided m := by
  cases m with
  | resumed | windowEvent | aboutToWait | shutdown => simp [HostMove.endsLoop] at goes
  | _ => exact ⟨rfl, by simp [Closes], nofun, nofun, rfl⟩

theorem ne_windowEvent_of_goes (goes : m = .proceed ∨ m = .render ∨ m.endsLoop = true)
    (id : UInt64) (event : WindowEvent) : m ≠ .windowEvent id event := by
  rintro rfl
  simp [HostMove.endsLoop] at goes

theorem undecided_of_worked {w w' : OpenWindow} {es : List Event} (work : Worked w m w' es) :
    h.Undecided m := by
  cases work with
  | used own stays => exact ⟨rfl, by simp [stays], nofun, nofun, rfl⟩
  | resizes => exact ⟨rfl, by simp [WindowEvent.isEnd], nofun, nofun, rfl⟩
  | goes goes => exact undecided_of_goes goes

theorem not_isEnd_of_still {event : WindowEvent}
    (still : event = .redrawRequested ∨ ∃ size, event = .resized size) : event.isEnd = false := by
  obtain rfl | ⟨size, rfl⟩ := still <;> rfl

theorem startupError_of_open {answer : Except String NativeWindow} {thread : Except String Unit}
    (window : h.window ≠ none) : h.startupError (.resumed answer thread) = none :=
  if_neg (by simpa using window)

theorem startupError_of_closed {answer : Except String NativeWindow} {thread : Except String Unit}
    (closed : h.window = none) : h.startupError (.resumed answer thread) = refusal answer thread :=
  if_pos (by simp [closed])

/-- A move leaves the loop if the start-up fails with it, if the window goes away, or if the loop
is about to wait and shutdown was asked for. -/
theorem leaves_iff (made : Handled h m moved) :
    Leaves moved ↔
      h.startupError m ≠ none ∨ h.Closes m ∨ m = .aboutToWait ∧ h.shutdown = true := by
  cases made with
  | again window => simp [Leaves, calls, startupError_of_open window, Closes]
  | failed closed refused asks told =>
    simp [Leaves, told, startupError_of_closed closed, refused]
  | opened closed accepted window hooks told =>
    simp [Leaves, told, startupError_of_closed closed, accepted, Closes]
  | foreign foreign => simp [Leaves, calls, startupError, foreign]
  | closed own ends => simp [Leaves, exit, calls_onMain, HostEvent.systemCall, own, ends]
  | still still => simp [Leaves, calls, startupError, not_isEnd_of_still still]
  | worked window number work =>
    obtain ⟨unfailed, stays, busy, -⟩ := undecided_of_worked (h := h) work
    simp [Leaves, calls_view, unfailed, stays, busy]
  | left asked => simp [Leaves, exit, calls_onMain, HostEvent.systemCall, asked]
  | waits unasked =>
    simp [Leaves, calls_onMain, HostEvent.systemCall, unasked, startupError, Closes]
  | asked => simp [Leaves, calls, startupError, Closes]
  | gone closed ends =>
    obtain ⟨unfailed, stays, busy, -⟩ := undecided_of_goes (h := h) (.inr (.inr ends))
    simp [Leaves, calls, unfailed, stays, busy]
  | ended window down quiet => simp [Leaves, quiet, startupError, Closes]

/-- The error of a host is that of the last start-up that failed. -/
theorem error_next (made : Handled h m moved) :
    moved.next.error = (h.startupError m).or h.error := by
  cases made with
  | again window => rw [startupError_of_open window, Option.none_or]
  | failed closed refused =>
    rw [startupError_of_closed closed, refused]
    rfl
  | opened closed accepted => rw [startupError_of_closed closed, accepted, Option.none_or]
  | worked window number work =>
    rw [(undecided_of_worked work).unfailed]
    rfl
  | gone closed ends =>
    rw [(undecided_of_goes (.inr (.inr ends))).unfailed]
    rfl
  | _ => rfl

theorem shutdown_kept (made : Handled h m moved) (asked : h.shutdown = true) :
    moved.next.shutdown = true := by
  cases made with
  | worked => simp [carry, asked]
  | _ => first | exact asked | rfl

/-- Whoever leaves the loop has asked for shutdown. -/
theorem shutdown_of_leaves (made : Handled h m moved) (leaves : Leaves moved) :
    moved.next.shutdown = true := by
  cases made with
  | again | foreign | still | gone | asked => simp [Leaves, calls] at leaves
  | opened closed accepted window hooks told => simp [Leaves, told] at leaves
  | worked => simp [Leaves, calls_view] at leaves
  | waits => simp [Leaves, calls_onMain, HostEvent.systemCall] at leaves
  | ended window down quiet => simp [Leaves, quiet] at leaves
  | failed | closed | left => rfl

/-! ### Windows -/

/-- A window is asked for by a start that finds none, and by nothing else. -/
theorem created_of_handled (made : Handled h m moved) :
    (calls moved.seen).countP SystemCall.creates = (h.window.isNone && m.resumes).toNat := by
  cases made with
  | again window =>
    rw [Option.isNone_eq_false_iff.2 (Option.isSome_iff_ne_none.2 window)]
    rfl
  | failed closed refused asks told =>
    rw [told, closed]
    obtain rfl | rfl := asks <;> rfl
  | opened closed accepted window hooks told =>
    rw [told, closed]
    rfl
  | worked window number work =>
    rw [calls_view, window]
    rfl
  | gone closed ends =>
    rw [(undecided_of_goes (h := h) (.inr (.inr ends))).under, Bool.and_false]
    rfl
  | ended window down quiet =>
    rw [quiet, window]
    rfl
  | _ =>
    rw [show HostMove.resumes _ = false from rfl, Bool.and_false]
    rfl

/-- Within the loop a window is opened by a start that does not fail, and stays. -/
theorem window_eq_none_iff (made : Handled h m moved) (up : ¬ h.stage.TakesDown) :
    moved.next.window = none ↔
      h.window = none ∧ (m.resumes = true → h.startupError m ≠ none) := by
  cases made with
  | again window => simp [window]
  | failed closed refused => simp [closed, startupError_of_closed closed, refused]
  | opened closed accepted =>
    simp [startupError_of_closed closed, accepted, HostMove.resumes]
  | worked window => simp [carry, window]
  | gone closed ends =>
    have under := (undecided_of_goes (h := h) (.inr (.inr ends))).under
    simp [closed, under]
  | ended window down => exact absurd down up
  | _ => simp [exit, HostMove.resumes]

theorem stays_up (made : Handled h m moved) (up : ¬ h.stage.TakesDown) (on : m.endsLoop = false) :
    ¬ moved.next.stage.TakesDown := by
  cases made with
  | worked window number work down =>
    intro falls
    obtain falls | ends := down falls
    · exact up falls
    · cases on.symm.trans ends
  | ended => nofun
  | _ => exact up

/-! ### Moves without consequence -/

/-- An event of another window, or of any window while none is open, is not looked at. -/
theorem ignored_of_foreign {id : UInt64} {event : WindowEvent}
    (made : Handled h (.windowEvent id event) moved) (foreign : ¬ h.Owns id) : moved = ⟨h, []⟩ := by
  cases made with
  | foreign | still | gone => rfl
  | closed own => exact absurd own foreign
  | worked window number work =>
    cases work with
    | used own | resizes own => exact absurd ⟨_, window, own⟩ foreign
    | goes goes => simp [HostMove.endsLoop] at goes

/-- A host that has a window opens no other. -/
theorem ignored_of_open {answer : Except String NativeWindow} {thread : Except String Unit}
    (made : Handled h (.resumed answer thread) moved) (window : h.window ≠ none) :
    moved = ⟨h, []⟩ := by
  cases made with
  | again | gone => rfl
  | failed closed | opened closed => exact absurd closed window
  | worked _ _ work => cases (undecided_of_worked (h := h) work).under

/-! ### Who asks for shutdown -/

/-- While an event of the host's own window is dealt with, a hook asks for shutdown. -/
def Quits (h : Host) (m : HostMove) (moved : HostMoved) : Prop :=
  ∃ id event, m = .windowEvent id event ∧ h.Owns id ∧
    ∃ t manner callback, (t, .view (.hook manner callback)) ∈ moved.seen ∧
      manner.quits callback = true

theorem carry_shutdown (w : OpenWindow) (es : List Event) :
    (h.carry w es).shutdown = true ↔
      h.shutdown = true ∨ ∃ call ∈ es.filterMap Event.hookCall, call.1.quits call.2 = true := by
  rw [carry, Bool.or_eq_true, List.any_eq_true]
  refine or_congr_right ⟨?_, ?_⟩
  · rintro ⟨e, mem, quits⟩
    cases e with
    | hook manner callback => exact ⟨_, Event.mem_hookCalls.2 mem, quits⟩
    | _ => cases quits
  · rintro ⟨⟨manner, callback⟩, mem, quits⟩
    exact ⟨_, Event.mem_hookCalls.1 mem, quits⟩

theorem quits_of_worked {w w' : OpenWindow} {es : List Event} {t : ThreadId} {next : Host}
    (window : h.window = some w) (work : Worked w m w' es) :
    h.Quits m ⟨next, es.map fun e => (t, .view e)⟩ ↔
      ∃ call ∈ es.filterMap Event.hookCall, call.1.quits call.2 = true := by
  constructor
  · rintro ⟨-, -, -, -, t', manner, callback, mem, quits⟩
    obtain ⟨e, inside, same⟩ := List.mem_map.1 mem
    cases same
    exact ⟨_, Event.mem_hookCalls.2 inside, quits⟩
  · rintro ⟨⟨manner, callback⟩, mem, quits⟩
    cases work with
    | used own =>
      have inside := Event.mem_hookCalls.1 mem
      exact ⟨_, _, rfl, ⟨_, window, own⟩, t, manner, callback,
        List.mem_map.2 ⟨_, inside, rfl⟩, quits⟩
    | resizes own taken => simp [(Session.step_unhooked taken).calls] at mem
    | goes goes taken => simp [(Session.step_unhooked taken).calls] at mem

/-- Shutdown is asked for by somebody else, by a host whose start-up fails or whose window goes
away, and by hooks. -/
theorem shutdown_next (made : Handled h m moved) :
    moved.next.shutdown = true ↔
      h.shutdown = true ∨ m = .shutdown ∨ h.startupError m ≠ none ∨ h.Closes m ∨
        h.Quits m moved := by
  cases made with
  | again window => simp [startupError_of_open window, Closes, Quits]
  | failed closed refused => simp [startupError_of_closed closed, refused]
  | opened closed accepted => simp [startupError_of_closed closed, accepted, Closes, Quits]
  | foreign foreign => simp [startupError, foreign, Quits]
  | closed own ends => simp [exit, own, ends]
  | still still => simp [startupError, not_isEnd_of_still still, Quits]
  | worked window number work =>
    obtain ⟨unfailed, stays, -, unasked, -⟩ := undecided_of_worked (h := h) work
    simp only [unfailed, stays, unasked, ne_eq, not_true_eq_false, false_or]
    exact (carry_shutdown _ _).trans (or_congr_right (quits_of_worked window work).symm)
  | left asked => simp [exit, asked]
  | waits unasked => simp [unasked, startupError, Closes, Quits]
  | asked => simp
  | gone closed ends =>
    obtain ⟨unfailed, stays, -, unasked, -⟩ := undecided_of_goes (h := h) (.inr (.inr ends))
    simp [unfailed, stays, unasked, Quits]
  | ended window down quiet => simp [startupError, Closes, Quits]

end Host

end HostView
