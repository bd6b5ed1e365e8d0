import HostView.Proofs.Host.Start

/-!
# A host and the session of its window

Whatever a host does, its window is opened, or fails to be, or its session moves as one platform
thread and the render thread let it, or it is taken down (`Host.Stepped`).  So at any point of the
course of a host the session of its window has been driven there from its opening, and the main
thread is in the middle of what the session says it is (`Host.Sound`).
-/

namespace HostView

/-- A step of a host. -/
abbrev HostStep := StepTaken Host HostMove HostMoved

/-- The thread that makes a move of a driven session. -/
def DriveMove.thread : DriveMove → ThreadId
  | .render => Session.renderThread
  | _ => Host.mainThread

/-- What the main thread is in the middle of is what the session of the window says. -/
def HostStage.Fits (s : Session Headless) : HostStage → Prop
  | .free | .panicked _ => s.isFree Host.mainThread = true
  | .resizing => s.stopRequested = false
  | .closing | .abandoning => s.stopRequested = true

theorem Host.main_ne_render : mainThread ≠ Session.renderThread := by decide

namespace Session

variable {s : Session Headless} {p : ThreadId} {m : DriveMove} {moved : SessionMoved Headless}

theorem stopRequested_of_rendered {σ : Type} [SurfaceDevice σ] {s : Session σ}
    {moved : SessionMoved σ} (made : Rendered s moved) :
    moved.next.stopRequested = s.stopRequested := by
  cases made <;> rfl

/-- The render thread leaves the main thread in the middle of what it is. -/
theorem fits_of_rendered {stage : HostStage} (made : Rendered s moved) (fits : stage.Fits s) :
    stage.Fits moved.next := by
  have stop := stopRequested_of_rendered made
  have free (free : s.isFree Host.mainThread = true) :
      moved.next.isFree Host.mainThread = true := by
    obtain ⟨free, running⟩ := isFree_iff.1 free
    refine isFree_iff.2 ⟨?_, stop.trans running⟩
    obtain ⟨-, same | woken⟩ := apart_of_rendered Host.main_ne_render made
    · rw [same, free]
    · rw [woken, free]
      rfl
  cases stage with
  | free => exact free fits
  | panicked => exact free fits
  | resizing => exact stop.trans fits
  | closing => exact stop.trans fits
  | abandoning => exact stop.trans fits

/-- Nothing that a session over a headless surface does destroys the surface. -/
theorem destroyed_step (made : Driven p s m moved) :
    moved.next.coordinator.surface.destroyed = s.coordinator.surface.destroyed := by
  cases made with
  | used _ _ handshake => rw [coordinator_of_handshake handshake]
  | registered _ entry => cases entry <;> rfl
  | rendered made =>
    cases made with
    | crashed _ _ answer => exact absurd answer Headless.not_panicked
    | _ => rfl
  | _ => rfl

/-- A session of a window that has been driven from its opening on. -/
structure Underway (s : Session Headless) : Prop where
  driven : ∃ size start steps, Opened size start ∧ Drives Host.mainThread start steps s
  intact : s.coordinator.surface.destroyed = false

theorem Underway.live (underway : s.Underway) : ∃ size steps, Live size Host.mainThread steps s := by
  obtain ⟨size, start, steps, opened, drives⟩ := underway.driven
  exact ⟨size, steps, Drives.live_of_opened drives Host.main_ne_render opened⟩

theorem Underway.wired (underway : s.Underway) : s.Wired Host.mainThread := by
  obtain ⟨size, steps, live⟩ := underway.live
  exact live.wired

theorem Underway.owned (underway : s.Underway) : s.Owned := by
  obtain ⟨size, start, steps, opened, drives⟩ := underway.driven
  exact (Drives.wentWell drives Host.main_ne_render opened).1

theorem Underway.step (underway : s.Underway) (taken : s.drive Host.mainThread m = some moved) :
    moved.next.Underway where
  driven := by
    obtain ⟨size, start, steps, opened, drives⟩ := underway.driven
    exact ⟨size, start, _, opened, drives.snoc taken⟩
  intact := by
    rw [destroyed_step (Session.driven Host.main_ne_render underway.wired taken), underway.intact]

end Session

namespace Host

/-- The session of the window, if there is one. -/
def session (h : Host) : Option (Session Headless) := h.window.map OpenWindow.session

/-- The main thread looks after the window, if there is one. -/
structure Sound (h : Host) : Prop where
  closed : h.session = none → h.stage = .free
  underway : ∀ s, h.session = some s → h.stage.Fits s ∧ s.Underway

/-- What a move of a host comes to for its window. -/
inductive Stepped (h : Host) (m : HostMove) (moved : HostMoved) : Prop
  | kept (session : moved.next.session = h.session) (stage : moved.next.stage = h.stage)
      (still : deeds moved.seen = [])
  | refused (closed : h.session = none) (closed' : moved.next.session = none)
      (stage : moved.next.stage = h.stage)
      (answer : ∃ made thread, m = .resumed (.ok made) thread ∧ deeds moved.seen =
        [(mainThread, .created !made.innerSize.isEmpty), (mainThread, .destroyed)])
  | opened {s : Session Headless} {size : Size} (closed : h.session = none)
      (session : moved.next.session = some s) (stage : moved.next.stage = h.stage)
      (fresh : s.Opened size) (intact : s.coordinator.surface.destroyed = false)
      (done : deeds moved.seen = [(mainThread, .created true)])
  | driven {s : Session Headless} {d : DriveMove} {r : SessionMoved Headless}
      (session : h.session = some s) (taken : s.drive mainThread d = some r)
      (session' : moved.next.session = some r.next) (fits : moved.next.stage.Fits r.next)
      (done : deeds moved.seen = (r.events.filterMap Event.deed).map ((d.thread, ·)))
  | ended {s : Session Headless} {t : ThreadId} (session : h.session = some s)
      (stage : h.stage = .closing ∧ t = mainThread ∨
        h.stage = .abandoning ∧ t = Session.renderThread)
      (ended : s.loop.isOver = true) (closed : moved.next.session = none)
      (free : moved.next.stage = .free) (done : deeds moved.seen = [(t, .destroyed)])

/-! ### One move -/

variable {h : Host} {w : OpenWindow} {m : HostMove} {moved : HostMoved}

theorem session_of_window (window : h.window = some w) : h.session = some w.session := by
  rw [session, window]
  rfl

theorem session_of_closed (closed : h.window = none) : h.session = none := by
  rw [session, closed]
  rfl

theorem sessionStep_spec {t : ThreadId} {sm : SessionMove}
    (taken : h.sessionStep w t sm = some moved) :
    ∃ r, w.session.step sm = some r ∧
      (∃ w', moved.next.window = some w' ∧ w'.session = r.next) ∧
      moved.next.stage = h.stage ∧
      deeds moved.seen = (r.events.filterMap Event.deed).map ((t, ·)) := by
  obtain ⟨r, made, rfl⟩ := Option.map_eq_some_iff.1 taken
  exact ⟨r, made, ⟨_, rfl, rfl⟩, rfl, deeds_view t r.events⟩

/-- Leaving the loop leaves the window alone. -/
theorem stepped_exit {h' : Host} {before : List HostEvent} (session : h'.session = h.session)
    (stage : h'.stage = h.stage) (still : before.filterMap HostEvent.deed = []) :
    Stepped h m (h'.exit before) := by
  refine .kept session stage ?_
  rw [exit, deeds_onMain, List.filterMap_append, still]
  rfl

theorem stepped_resume {answer : Except String NativeWindow} {thread : Except String Unit} :
    Stepped h (.resumed answer thread) (h.resume answer thread) := by
  cases closed : h.window with
  | some w =>
    simp only [resume, closed]
    exact .kept rfl rfl rfl
  | none =>
    cases answer with
    | error e =>
      simp only [resume, closed]
      exact stepped_exit rfl rfl rfl
    | ok made =>
      simp only [resume, closed]
      cases refused : refusal (.ok made) thread with
      | some error =>
        obtain ⟨es, start, done⟩ := start_refused (h := h) refused
        rw [start]
        refine .refused (session_of_closed closed) (session_of_closed closed) rfl
          ⟨made, thread, rfl, ?_⟩
        exact (deeds_between [_, _] [.exit] es).trans (congrArg (List.map _) done)
      | none =>
        obtain ⟨w, es, start, -, -, fresh, intact, done⟩ := start_accepted (h := h) refused
        rw [start]
        have told := deeds_between
          [.createWindow h.settings.title h.settings.size, .allowIme true] [] es
        rw [List.map_nil, List.append_nil, done] at told
        exact .opened (session_of_closed closed) rfl rfl fresh intact told

/-- A thread moves the session, and the main thread goes on to some stage. -/
theorem stepped_session {w₀ : OpenWindow} {t : ThreadId} {sm : SessionMove} {d : DriveMove}
    (taken : h.sessionStep w₀ t sm = some moved) (window : h.window = some w)
    (session : w₀.session = w.session)
    (drive : w.session.drive mainThread d = w.session.step sm) (thread : d.thread = t)
    {stage : HostStage}
    (fits : ∀ r, w.session.drive mainThread d = some r → stage.Fits r.next) :
    Stepped h m { moved with next := { moved.next with stage } } := by
  obtain ⟨r, made, ⟨w', window', session'⟩, -, done⟩ := sessionStep_spec taken
  rw [session, ← drive] at made
  refine .driven (session_of_window window) made ?_ (fits r made) (thread ▸ done)
  rw [← session']
  exact session_of_window window'

/-- The render thread is asked to stop when nothing is under way. -/
theorem stepped_stop {stage : HostStage} (closing : stage = .closing ∨ stage = .abandoning)
    (free : ∀ s, h.session = some s → s.isFree mainThread = true) :
    Stepped h m (h.stop stage) := by
  unfold stop
  cases window : h.window with
  | none => exact .kept rfl rfl rfl
  | some w =>
    have drive : w.session.drive mainThread .stop = w.session.step .stop :=
      if_pos (free _ (session_of_window window))
    dsimp only
    split
    next => exact .kept rfl rfl rfl
    next moved taken =>
      refine stepped_session taken window rfl drive rfl fun r made => ?_
      rw [drive] at made
      obtain rfl := Option.some.inj made
      obtain rfl | rfl := closing <;> rfl

/-- What is done at once leaves the main thread free, unless a hook panics. -/
theorem stepped_fulfil (w₀ : OpenWindow) (request : ViewRequest) (window : h.window = some w)
    (wired : w.session.Wired mainThread) (free : w.session.isFree mainThread = true)
    (stage : h.stage = .free) :
    let r := Session.fulfil request w.session
    let next := h.carry { w₀ with session := r.state } r.events
    Stepped h m ⟨match r.outcome with
      | .returned _ => next
      | .panicked message => { next with stage := .panicked message },
      onMain (r.events.map .view)⟩ := by
  intro r next
  have drive : w.session.drive mainThread (.use request) = some ⟨r.state, r.events, none⟩ :=
    if_pos free
  have free' : r.state.isFree mainThread = true := by
    obtain ⟨idle, running⟩ := Session.isFree_iff.1 free
    cases Session.driven_use wired idle running request with
    | used _ _ handshake _ stop =>
      exact Session.isFree_iff.2
        ⟨(Session.stack_of_handshake handshake _).trans idle, stop.trans running⟩
  have done : deeds (onMain (r.events.map .view)) =
      (r.events.filterMap Event.deed).map ((mainThread, ·)) := by
    rw [deeds_onMain, filterMap_view]
  have session := session_of_window window
  cases outcome : r.outcome with
  | returned => exact .driven session drive rfl (stage ▸ free') done
  | panicked => exact .driven session drive rfl free' done

theorem stepped_forward {event : WindowEvent} (window : h.window = some w)
    (wired : w.session.Wired mainThread) (free : w.session.isFree mainThread = true)
    (stage : h.stage = .free) : Stepped h m (h.forward w event) := by
  unfold forward
  rcases w.translator.translate event with ⟨translator, request⟩
  have used (request : ViewRequest) :=
    stepped_fulfil (m := m) { w with translator } request window wired free stage
  cases request with
  | resize size =>
    have drive : w.session.drive mainThread (.resize size) =
        w.session.step (.platform mainThread (.call (.request size))) := if_pos free
    dsimp only
    split
    next => exact .kept rfl rfl rfl
    next moved taken =>
      refine stepped_session taken window rfl drive rfl fun r made => ?_
      obtain ⟨idle, running⟩ := Session.isFree_iff.1 free
      cases Session.driven main_ne_render wired made with
      | asked => exact running
  | nothing => exact used .nothing
  | point input => exact used (.point input)
  | key event text => exact used (.key event text)
  | compose calls => exact used (.compose calls)

theorem stepped_windowEvent {id : UInt64} {event : WindowEvent} (sound : h.Sound)
    (stage : h.stage = .free) : Stepped h m (h.windowEvent id event) := by
  unfold windowEvent
  cases window : h.window with
  | none => exact .kept rfl rfl rfl
  | some w =>
    obtain ⟨fits, underway⟩ := sound.underway _ (session_of_window window)
    rw [stage] at fits
    dsimp only
    split
    next => exact .kept rfl rfl rfl
    next =>
      split
      next => exact stepped_exit rfl rfl rfl
      next => exact stepped_exit rfl rfl rfl
      next => exact .kept rfl rfl rfl
      next => exact stepped_forward window underway.wired fits stage

/-- The main thread goes on with a resize, and is free when that has returned. -/
theorem stepped_resizing (window : h.window = some w) (wired : w.session.Wired mainThread)
    (running : w.session.stopRequested = false) (stage : h.stage = .resizing)
    (taken : h.proceed = some moved) : Stepped h m moved := by
  have running' (r : SessionMoved Headless) (made : w.session.drive mainThread .proceed = some r) :
      r.next.stopRequested = false := by
    rw [← running]
    cases Session.driven main_ne_render wired made <;> rfl
  simp only [proceed, stage, window] at taken
  obtain ⟨mid, inner, rfl⟩ := Option.map_eq_some_iff.1 taken
  obtain ⟨r, made, ⟨w', window', session'⟩, same, done⟩ := sessionStep_spec inner
  have session := session_of_window window
  have next : mid.next.session = some r.next := session' ▸ session_of_window window'
  simp only [window', session']
  split
  next returned =>
    refine .driven (d := .proceed) session made (congrArg some session') ?_ done
    exact Session.isFree_iff.2 ⟨List.isEmpty_iff.1 returned, running' r made⟩
  next =>
    refine .driven (d := .proceed) session made next ?_ done
    rw [same, stage]
    exact running' r made

theorem close_deeds (intact : w.session.coordinator.surface.destroyed = false) :
    deeds (h.close w).seen = [(mainThread, .destroyed)] := by
  have destroyed : (w.session.view.handshake.call mainThread (.surface .destroy)).events =
      Event.guarded .resize ((Lifecycle.destroy w.session.coordinator.surface).events.map id) := by
    rw [Handshake.call, Handshake.critical_events]
    exact congrArg (fun es => Event.guarded .resize (es.map id)) (Work.map_events _)
  rw [close, deeds_onMain]
  simp only [List.filterMap_append, filterMap_view, destroyed, List.map_id,
    Event.observer_deed.guarded, Lifecycle.deeds_destroy intact]
  split <;> rfl

theorem giveUp_deeds (intact : w.session.coordinator.surface.destroyed = false) :
    deeds (h.giveUp w).seen = [(Session.renderThread, .destroyed)] := by
  have dropped := Lifecycle.deeds_destroy intact
  rw [giveUp, deeds_view]
  exact congrArg (List.map _) dropped

theorem stepped_proceed (sound : h.Sound) (taken : h.proceed = some moved) :
    Stepped h m moved := by
  have unfinished := taken
  unfold proceed at taken
  split at taken
  next w stage window =>
    obtain ⟨fits, underway⟩ := sound.underway _ (session_of_window window)
    rw [stage] at fits
    exact stepped_resizing window underway.wired fits stage unfinished
  next w stage window =>
    obtain ⟨-, underway⟩ := sound.underway _ (session_of_window window)
    split at taken
    next ended =>
      obtain rfl := Option.some.inj taken
      exact .ended (session_of_window window) (.inl ⟨stage, rfl⟩) ended rfl rfl
        (close_deeds underway.intact)
    next => cases taken
  next w stage window =>
    obtain ⟨-, underway⟩ := sound.underway _ (session_of_window window)
    split at taken
    next ended =>
      obtain rfl := Option.some.inj taken
      exact .ended (session_of_window window) (.inr ⟨stage, rfl⟩) ended rfl rfl
        (giveUp_deeds underway.intact)
    next => cases taken
  next => cases taken

/-- Every move of a host is listed. -/
theorem stepped (sound : h.Sound) (taken : h.step m = some moved) : Stepped h m moved := by
  have whenFree {r : HostMoved} (made : (if h.stage = .free then some r else none) = some moved)
      (stepped : h.stage = .free → Stepped h m r) : Stepped h m moved := by
    split at made
    next free => exact Option.some.inj made ▸ stepped free
    next => cases made
  have free (stage : h.stage.canEnd = true) (s : Session Headless) (session : h.session = some s) :
      s.isFree mainThread = true := by
    obtain ⟨fits, -⟩ := sound.underway s session
    cases at_stage : h.stage <;> rw [at_stage] at fits stage <;> first | exact fits | cases stage
  cases m with
  | resumed answer thread => exact whenFree taken fun _ => stepped_resume
  | windowEvent id event => exact whenFree taken fun stage => stepped_windowEvent sound stage
  | aboutToWait =>
    refine whenFree taken fun _ => ?_
    unfold wait
    split
    next => exact stepped_exit rfl rfl rfl
    next => exact .kept rfl rfl rfl
  | exiting =>
    refine whenFree taken fun stage => ?_
    exact stepped_stop (.inl rfl) (free (by rw [stage]; rfl))
  | abandoned =>
    simp only [step] at taken
    split at taken
    next ends => exact Option.some.inj taken ▸ stepped_stop (.inr rfl) (free ends)
    next => cases taken
  | shutdown =>
    obtain rfl := Option.some.inj taken
    exact .kept rfl rfl rfl
  | proceed => exact stepped_proceed sound taken
  | render =>
    simp only [step] at taken
    split at taken
    next => cases taken
    next w window =>
      obtain ⟨fits, underway⟩ := sound.underway _ (session_of_window window)
      obtain ⟨r, made, ⟨w', window', session⟩, same, done⟩ := sessionStep_spec taken
      refine .driven (d := .render) (session_of_window window) made
        (session ▸ session_of_window window') ?_ done
      rw [same]
      exact Session.fits_of_rendered (Session.rendered underway.wired made) fits

/-! ### The course -/

/-- Any moves of a host. -/
abbrev Course (start : Host) (steps : List HostStep) (h : Host) : Prop :=
  Path step HostMoved.next start steps h

theorem Sound.step (sound : h.Sound) (taken : h.step m = some moved) : moved.next.Sound := by
  cases stepped sound taken with
  | kept session stage =>
    exact ⟨by rw [session, stage]; exact sound.closed,
      by rw [session, stage]; exact sound.underway⟩
  | refused closed closed' stage =>
    exact ⟨fun _ => stage.trans (sound.closed closed), by simp [closed']⟩
  | @opened s size closed session stage fresh intact =>
    refine ⟨by simp [session], fun s' same => ?_⟩
    obtain rfl : s = s' := Option.some.inj (session.symm.trans same)
    rw [stage, sound.closed closed]
    exact ⟨Session.isFree_iff.2 ⟨fresh.fresh.free _, fresh.fresh.running⟩,
      ⟨size, s, [], fresh, .nil⟩, intact⟩
  | @driven s d r session taken session' fits =>
    obtain ⟨-, underway⟩ := sound.underway s session
    refine ⟨by simp [session'], fun s' same => ?_⟩
    obtain rfl : r.next = s' := Option.some.inj (session'.symm.trans same)
    exact ⟨fits, underway.step taken⟩
  | ended _ _ _ closed free => exact ⟨fun _ => free, by simp [closed]⟩

theorem Course.sound {start : Host} {steps : List HostStep} (course : Course start steps h)
    (sound : start.Sound) : h.Sound :=
  Path.invariant course sound Sound.step

end Host

end HostView
