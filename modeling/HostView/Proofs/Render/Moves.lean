import HostView.Proofs.Render.Drive

/-!
# What a move of a driven session comes to

`Session.Rendered` lists every move of the render thread and `Session.Driven` every move of a
session, with the session that it leaves, what is seen of it, and the answers of the device that
led to it.  A panic of the device is the only way for the render thread to crash.
-/

namespace HostView

/-! ### Events on their way to the bus -/

namespace Event

@[simp] theorem engineEvents_nil : engineEvents [] = [] := rfl

theorem engineEvents_append (es es' : List Event) :
    engineEvents (es ++ es') = engineEvents es ++ engineEvents es' := List.filterMap_append

@[simp] theorem engineEvents_logs (records : List Log.Record) :
    engineEvents (records.map .log) = [] := by
  rw [engineEvents, List.filterMap_map]
  exact List.filterMap_eq_nil_iff.2 fun _ _ => rfl

@[simp] theorem engineEvents_answered (call : DeviceCall) (outcome : Outcome call.Answer)
    (records : List Log.Record) : engineEvents (answered call outcome records) = [] := by
  rw [answered, engineEvents_append, engineEvents_logs]
  rfl

theorem engineEvents_guarded {lock : Lock} {es : List Event} (silent : engineEvents es = []) :
    engineEvents (guarded lock es) = [] := by
  change engineEvents (es ++ [.unlocked lock]) = []
  rw [engineEvents_append, silent]
  rfl

@[simp] theorem device_mem_guarded {lock : Lock} {es : List Event} {d : DeviceEvent} :
    .device d ∈ guarded lock es ↔ .device d ∈ es := by
  simp [guarded]

@[simp] theorem device_mem_answered {call : DeviceCall} {outcome : Outcome call.Answer}
    {records : List Log.Record} {d : DeviceEvent} :
    .device d ∈ answered call outcome records ↔ d = ⟨call, outcome⟩ := by
  simp [answered]

end Event

namespace Session

variable {σ : Type}

theorem carry_state (s : Session σ) (es : List Event) :
    (s.carry es).1 = s.withBus (s.bus.sendAll (Event.engineEvents es)).1 := by
  induction es generalizing s with
  | nil => rfl
  | cons e es ih => cases e <;> exact ih _

theorem mem_carry {s : Session σ} {es : List Event} {e : Event} (mem : e ∈ (s.carry es).2) :
    e ∈ es ∨ ∃ r, e = .log r := by
  induction es generalizing s with
  | nil => exact .inl mem
  | cons e' es ih =>
    have split : ∀ {before : List Event} {t : Session σ}, e ∈ before ++ (t.carry es).2 →
        (e ∈ before → e = e' ∨ ∃ r, e = .log r) → e ∈ e' :: es ∨ ∃ r, e = .log r := by
      intro before t mem first
      obtain now | later := List.mem_append.1 mem
      · obtain rfl | log := first now
        · exact .inl (List.mem_cons_self ..)
        · exact .inr log
      · obtain inside | log := ih later
        · exact .inl (List.mem_cons_of_mem _ inside)
        · exact .inr log
    cases e' with
    | engine event =>
      refine split mem fun now => ?_
      obtain rfl | log := List.mem_cons.1 now
      · exact .inl rfl
      · obtain ⟨r, -, rfl⟩ := List.mem_map.1 log
        exact .inr ⟨r, rfl⟩
    | _ => exact split mem fun now => .inl (List.mem_singleton.1 now)

/-- Events that the engine is not told leave the bus alone. -/
theorem carry_of_silent {s : Session σ} {es : List Event} (silent : Event.engineEvents es = []) :
    s.carry es = (s, es) := by
  induction es generalizing s with
  | nil => rfl
  | cons e es ih =>
    cases e with
    | engine event => cases silent
    | _ =>
      have rest := ih (s := s) silent
      simp only [carry, rest, List.singleton_append]

section AfterMove

variable {s : Session σ} {next : Session σ → Option Reply → Session σ × List Event}
  {h : Handshake σ} {es : List Event}

theorem afterMove_returned {reply : Reply} (silent : Event.engineEvents es = []) :
    s.afterMove (some ⟨h, es, some (.returned reply)⟩) next =
      ⟨(next (s.withHandshake h) (some reply)).1,
        es ++ (next (s.withHandshake h) (some reply)).2, none⟩ := by
  simp only [afterMove, carry_of_silent silent, withHandshake]

theorem afterMove_pending (silent : Event.engineEvents es = []) :
    s.afterMove (some ⟨h, es, none⟩) next =
      ⟨(next (s.withHandshake h) none).1, es ++ (next (s.withHandshake h) none).2, none⟩ := by
  simp only [afterMove, carry_of_silent silent, withHandshake]

theorem afterMove_panicked {m : String} (silent : Event.engineEvents es = []) :
    s.afterMove (some ⟨h, es, some (.panicked m)⟩) next =
      ⟨(s.withHandshake h).halted .crashed, es, none⟩ := by
  simp only [afterMove, carry_of_silent silent, withHandshake]

end AfterMove

section Critical

variable {s : Session σ} {α : Type} {w : Work (Coordinator σ) Event α}
  {after : α → Handshake σ → Handshake σ × Option Reply}
  {next : Session σ → Option Reply → Session σ × List Event} {c : Coordinator σ}
  {es : List Event}

theorem afterCritical_returned {a : α} {h : Handshake σ} {reply : Reply}
    (run : w s.coordinator = ⟨.returned a, c, es⟩) (silent : Event.engineEvents es = [])
    (ended : after a (s.view.handshake.withCoordinator c) = (h, some reply)) :
    s.afterMove (some (s.view.handshake.critical renderThread w after)) next =
      ⟨(next (s.withHandshake h) (some reply)).1,
        Event.guarded .resize es ++ (next (s.withHandshake h) (some reply)).2, none⟩ := by
  rw [Handshake.critical_of_returned _ _ run, ended, Option.map_some,
    afterMove_returned (Event.engineEvents_guarded silent)]

theorem afterCritical_pending {a : α} {h : Handshake σ}
    (run : w s.coordinator = ⟨.returned a, c, es⟩) (silent : Event.engineEvents es = [])
    (ended : after a (s.view.handshake.withCoordinator c) = (h, none)) :
    s.afterMove (some (s.view.handshake.critical renderThread w after)) next =
      ⟨(next (s.withHandshake h) none).1,
        Event.guarded .resize es ++ (next (s.withHandshake h) none).2, none⟩ := by
  rw [Handshake.critical_of_returned _ _ run, ended, Option.map_none,
    afterMove_pending (Event.engineEvents_guarded silent)]

theorem afterCritical_panicked {m : String} (run : w s.coordinator = ⟨.panicked m, c, es⟩)
    (silent : Event.engineEvents es = []) :
    s.afterMove (some (s.view.handshake.critical renderThread w after)) next =
      ⟨((s.withCoordinator c).withStack renderThread []).halted .crashed,
        Event.guarded .resize es, none⟩ := by
  rw [Handshake.critical_of_panicked _ _ run,
    afterMove_panicked (Event.engineEvents_guarded silent)]
  rfl

end Critical

variable [SurfaceDevice σ]

/-! ### The render thread -/

/-- What a move of the render thread comes to. -/
inductive Rendered (s : Session σ) : SessionMoved σ → Prop
  | started {d : σ} {current : Bool} {logs r : List Log.Record}
      (stage : s.loop.stage = .starting)
      (answer : SurfaceDevice.perform .makeCurrent s.coordinator.surface.device =
        ⟨.returned current, d, logs⟩) :
      Rendered s ⟨(s.withDevice d).atStage .testing,
        Event.guarded .resize (Event.answered .makeCurrent (.returned current) logs) ++
          r.map .log, none⟩
  | tested (stage : s.loop.stage = .testing) :
      Rendered s ⟨s.atStage (if s.stopRequested then .clearing else .receiving), [], none⟩
  /-- Nothing has come in time. -/
  | idled (stage : s.loop.stage = .receiving) (empty : s.bus.queue = []) :
      Rendered s ⟨(s.left []).atStage .draining, [], none⟩
  | received {e : EngineEvent} {q : List EngineEvent} (stage : s.loop.stage = .receiving)
      (queue : s.bus.queue = e :: q) :
      Rendered s ⟨((s.left q).withLoop (s.loop.consume e)).atStage .draining,
        [.log e.receipt], none⟩
  | drained (stage : s.loop.stage = .draining) (empty : s.bus.queue = []) :
      Rendered s
        ⟨(s.left []).atStage (if s.loop.size.isEmpty then .testing else .acquiring), [], none⟩
  | took {e : EngineEvent} {q : List EngineEvent} (stage : s.loop.stage = .draining)
      (queue : s.bus.queue = e :: q) :
      Rendered s ⟨(s.left q).withLoop (s.loop.consume e), [.log e.receipt], none⟩
  /-- An acquire at a size that nobody waits for. -/
  | passed {records : List Log.Record} (stage : s.loop.stage = .acquiring)
      (other : s.coordinator.phase ≠ .requested s.loop.size) :
      Rendered s ⟨s.atStage .swapping, Event.guarded .resize (records.map .log), none⟩
  /-- The surface was not resized. -/
  | failed {d : σ} {error : SurfaceError} {logs : List Log.Record} {r : Log.Record}
      (stage : s.loop.stage = .acquiring)
      (asked : s.coordinator.phase = .requested s.loop.size)
      (answer : SurfaceDevice.perform
        (.resize s.coordinator.surface.target s.loop.size) s.coordinator.surface.device =
        ⟨.returned (.error error), d, logs⟩) :
      Rendered s ⟨(s.withDevice d).atStage .swapping,
        Event.guarded .resize (Event.answered (.resize s.coordinator.surface.target s.loop.size)
          (.returned (.error error)) logs ++ [.log r]), none⟩
  /-- The surface was resized. -/
  | readied {d d' : σ} {current : Bool} {logs logs' : List Log.Record} {r : Log.Record}
      (stage : s.loop.stage = .acquiring)
      (asked : s.coordinator.phase = .requested s.loop.size)
      (answer : SurfaceDevice.perform
        (.resize s.coordinator.surface.target s.loop.size) s.coordinator.surface.device =
        ⟨.returned (.ok ()), d, logs⟩)
      (answer' : SurfaceDevice.perform .makeCurrent d = ⟨.returned current, d', logs'⟩) :
      Rendered s ⟨(s.withCoordinator
          { s.coordinator with
            phase := .frameReady
            surface :=
              { s.coordinator.surface.withDevice d' with
                dimensions := s.loop.size } }).atStage .swapping,
        Event.guarded .resize (Event.answered (.resize s.coordinator.surface.target s.loop.size)
          (.returned (.ok ())) logs ++
          (Event.answered .makeCurrent (.returned current) logs' ++ [.log r])), none⟩
  /-- A swap while another size is asked for. -/
  | refused {target : Size} (stage : s.loop.stage = .swapping)
      (asked : s.coordinator.phase = .requested target) :
      Rendered s ⟨s.withLoop (s.loop.turned false), Event.guarded .resize [], none⟩
  | plain {d : σ} {succeeded : Bool} {logs : List Log.Record} (stage : s.loop.stage = .swapping)
      (idle : s.coordinator.phase = .idle)
      (answer : SurfaceDevice.perform .swap s.coordinator.surface.device =
        ⟨.returned succeeded, d, logs⟩) :
      Rendered s ⟨(s.withDevice d).withLoop (s.loop.turned succeeded),
        Event.guarded .resize (Event.answered .swap (.returned succeeded) logs), none⟩
  /-- A swap that ends an episode. -/
  | presented {d : σ} {succeeded : Bool} {logs : List Log.Record}
      (stage : s.loop.stage = .swapping) (ready : s.coordinator.phase = .frameReady)
      (answer : SurfaceDevice.perform .swap s.coordinator.surface.device =
        ⟨.returned succeeded, d, logs⟩) :
      Rendered s ⟨((s.withCoordinator
          { s.coordinator.withDevice d with
            phase := .idle, presented := s.coordinator.started }).withStack renderThread
          [.waking succeeded]).atStage .presenting,
        Event.guarded .resize (Event.answered .swap (.returned succeeded) logs), none⟩
  | woke {succeeded : Bool} (stage : s.loop.stage = .presenting)
      (top : s.stack renderThread = [.waking succeeded]) :
      Rendered s ⟨(s.withHandshake (s.view.handshake.setStack renderThread
          [.announcing succeeded]).wakeAll).atStage .presenting, [.notified], none⟩
  | announced {succeeded : Bool} {r : List Log.Record}
      (stage : s.loop.stage = .presenting)
      (top : s.stack renderThread = [.announcing succeeded]) :
      Rendered s ⟨(s.withStack renderThread []).withLoop (s.loop.turned succeeded),
        .window .resized :: r.map .log, none⟩
  | cleared {d : σ} {cleared : Bool} {logs : List Log.Record} {r : Log.Record}
      (stage : s.loop.stage = .clearing)
      (answer : SurfaceDevice.perform .clearContext s.coordinator.surface.device =
        ⟨.returned cleared, d, logs⟩) :
      Rendered s ⟨(s.withDevice d).halted .finished,
        Event.guarded .resize (Event.answered .clearContext (.returned cleared) logs) ++
          [.log r], none⟩
  | crashed {c : Coordinator σ} {call : DeviceCall} {m : String} {d : σ} {es : List Event}
      (stage : s.loop.stage = .starting ∨ s.loop.stage = .acquiring ∨
        s.loop.stage = .swapping ∨ s.loop.stage = .clearing)
      (alive : c.surface.live = s.coordinator.surface.live)
      (answer : (SurfaceDevice.perform call d).outcome = .panicked m)
      (seen : .device ⟨call, .panicked m⟩ ∈ es) (silent : Event.engineEvents es = [])
      (swaps : ∀ outcome, .device ⟨.swap, outcome⟩ ∈ es →
        s.loop.stage = .swapping ∧ ∀ target, s.coordinator.phase ≠ .requested target) :
      Rendered s
        ⟨((s.withCoordinator c).withStack renderThread []).halted .crashed, es, none⟩

/-- A thread that does nothing can make any call. -/
theorem step_call {s : Session σ} {t : ThreadId} (idle : s.stack t = []) (call : HandshakeCall) :
    s.view.handshake.step t (.call call) = some (s.view.handshake.call t call) := by
  have free : s.view.handshake.canCall t = true := by
    rw [Handshake.canCall, show s.view.handshake.stack t = [] from idle]
  rw [Handshake.step, if_pos free]

theorem rendered_starting {s : Session σ} (stage : s.loop.stage = .starting)
    (idle : s.stack renderThread = []) {moved : SessionMoved σ}
    (taken : s.render = some moved) : Rendered s moved := by
  simp only [render, stage, step_call idle, Handshake.call, Option.some.injEq] at taken
  subst taken
  rcases answer : SurfaceDevice.perform .makeCurrent s.coordinator.surface.device with
    ⟨current | m, d, logs⟩
  · have run : Handshake.surfaceWork .makeCurrent s.coordinator.surface =
        ⟨.returned (.flag current), _, _⟩ := Lifecycle.reply_of_returned answer
    rw [afterCritical_returned (Coordinator.onSurface_of_run run)
      (Event.engineEvents_answered ..) rfl]
    cases current with
    | true => exact .started (r := [_]) stage answer
    | false => exact .started (r := [_, _]) stage answer
  · have run : Handshake.surfaceWork .makeCurrent s.coordinator.surface =
        ⟨.panicked m, _, _⟩ := Lifecycle.reply_of_panicked answer
    rw [afterCritical_panicked (Coordinator.onSurface_of_run run)
      (Event.engineEvents_answered ..)]
    exact .crashed (by simp [stage]) rfl (congrArg Run.outcome answer) (by simp)
      (Event.engineEvents_guarded (Event.engineEvents_answered ..)) (by simp)

theorem rendered_clearing {s : Session σ} (stage : s.loop.stage = .clearing)
    (idle : s.stack renderThread = []) {moved : SessionMoved σ}
    (taken : s.render = some moved) : Rendered s moved := by
  simp only [render, stage, step_call idle, Handshake.call, Option.some.injEq] at taken
  subst taken
  rcases answer : SurfaceDevice.perform .clearContext s.coordinator.surface.device with
    ⟨cleared | m, d, logs⟩
  · have run : Handshake.surfaceWork .clearContext s.coordinator.surface =
        ⟨.returned (.flag cleared), _, _⟩ := Lifecycle.reply_of_returned answer
    rw [afterCritical_returned (Coordinator.onSurface_of_run run)
      (Event.engineEvents_answered ..) rfl]
    exact .cleared stage answer
  · have run : Handshake.surfaceWork .clearContext s.coordinator.surface =
        ⟨.panicked m, _, _⟩ := Lifecycle.reply_of_panicked answer
    rw [afterCritical_panicked (Coordinator.onSurface_of_run run)
      (Event.engineEvents_answered ..)]
    exact .crashed (by simp [stage]) rfl (congrArg Run.outcome answer) (by simp)
      (Event.engineEvents_guarded (Event.engineEvents_answered ..)) (by simp)

theorem rendered_acquiring {s : Session σ} (stage : s.loop.stage = .acquiring)
    (idle : s.stack renderThread = []) (alive : s.coordinator.surface.live = true)
    {moved : SessionMoved σ} (taken : s.render = some moved) : Rendered s moved := by
  simp only [render, stage, step_call idle, Handshake.call, Option.some.injEq] at taken
  subst taken
  have made := Coordinator.acquired s.coordinator s.loop.size
  generalize run : Coordinator.acquire s.loop.size s.coordinator = r at made
  cases made with
  | passed other =>
    rw [afterCritical_returned run (Event.engineEvents_logs _) rfl, List.append_nil]
    exact .passed stage other
  | missing asked dead => simp [alive] at dead
  | failed asked _ answer =>
    rw [afterCritical_returned run (by simp [Event.engineEvents_append]; rfl) rfl,
      List.append_nil]
    exact .failed stage asked answer
  | ready asked _ answer answer' =>
    rw [afterCritical_returned run (by simp [Event.engineEvents_append]; rfl) rfl,
      List.append_nil]
    exact .readied stage asked answer answer'
  | panicked asked _ answer =>
    rw [afterCritical_panicked run (Event.engineEvents_answered ..)]
    exact .crashed (by simp [stage]) rfl (congrArg Run.outcome answer) (by simp)
      (Event.engineEvents_guarded (Event.engineEvents_answered ..)) (by simp)
  | panickedLate asked _ answer answer' =>
    rw [afterCritical_panicked run (by simp [Event.engineEvents_append])]
    exact .crashed (by simp [stage]) rfl (congrArg Run.outcome answer') (by simp)
      (Event.engineEvents_guarded (by simp [Event.engineEvents_append])) (by simp)

theorem rendered_swapping {s : Session σ} (stage : s.loop.stage = .swapping)
    (idle : s.stack renderThread = []) {moved : SessionMoved σ}
    (taken : s.render = some moved) : Rendered s moved := by
  simp only [render, stage, step_call idle, Handshake.call, Option.some.injEq] at taken
  subst taken
  have made := Coordinator.swapMade s.coordinator
  generalize run : Coordinator.swap s.coordinator = r at made
  cases made with
  | refused asked =>
    rw [afterCritical_returned run rfl (if_neg (by simp))]
    exact .refused stage asked
  | plain unasked answer =>
    rw [afterCritical_returned run (Event.engineEvents_answered ..) (if_neg (by simp))]
    simp only [afterSwap, List.append_nil]
    exact .plain stage unasked answer
  | presented ready answer =>
    rw [afterCritical_pending run (Event.engineEvents_answered ..) (if_pos rfl)]
    simp only [afterSwap, List.append_nil, Handshake.withCoordinator_stack]
    rw [show s.view.handshake.stack renderThread = [] from idle]
    exact .presented stage ready answer
  | panicked unasked answer =>
    rw [afterCritical_panicked run (Event.engineEvents_answered ..)]
    exact .crashed (by simp [stage]) rfl (congrArg Run.outcome answer) (by simp)
      (Event.engineEvents_guarded (Event.engineEvents_answered ..)) fun _ _ => ⟨stage, unasked⟩

theorem rendered_presenting {s : Session σ} {succeeded : Bool} (stage : s.loop.stage = .presenting)
    (top : s.stack renderThread = [.waking succeeded] ∨
      s.stack renderThread = [.announcing succeeded])
    {moved : SessionMoved σ} (taken : s.render = some moved) : Rendered s moved := by
  have proceeds (h : Handshake σ) : h.step renderThread .proceed = h.proceed renderThread := rfl
  simp only [render, stage, proceeds, Option.some.injEq] at taken
  subst taken
  obtain waking | announcing := top
  · have made : s.view.handshake.stack renderThread = [.waking succeeded] := waking
    simp only [Handshake.proceed, made]
    rw [afterMove_pending rfl]
    exact .woke stage waking
  · have made : s.view.handshake.stack renderThread = [.announcing succeeded] := announcing
    simp only [Handshake.proceed, made, Handshake.finish]
    cases succeeded with
    | true =>
      rw [afterMove_returned rfl]
      exact .announced (r := []) stage announcing
    | false =>
      rw [afterMove_returned rfl]
      exact .announced (r := [_]) stage announcing

/-- Every move of the render thread is listed. -/
theorem rendered {p : ThreadId} {s : Session σ} {moved : SessionMoved σ} (wired : s.Wired p)
    (taken : s.render = some moved) : Rendered s moved := by
  have receive : s.takeEvent = some (s.bus.queue.head?, s.left s.bus.queue.tail) := by
    rw [takeEvent, Bus.receive_of_owner wired.consumer]
    rfl
  cases stage : s.loop.stage with
  | starting => exact rendered_starting stage (wired.elsewhere (by simp [stage])) taken
  | testing =>
    simp only [render, stage, Option.some.injEq] at taken
    subst taken
    exact .tested stage
  | receiving =>
    simp only [render, stage, receive] at taken
    cases queue : s.bus.queue with
    | nil =>
      simp only [queue, List.head?_nil, Option.some.injEq] at taken
      subst taken
      exact .idled stage queue
    | cons e q =>
      simp only [queue, List.head?_cons, Option.some.injEq] at taken
      subst taken
      exact .received stage queue
  | draining =>
    simp only [render, stage, receive] at taken
    cases queue : s.bus.queue with
    | nil =>
      simp only [queue, List.head?_nil, Option.some.injEq] at taken
      subst taken
      exact .drained stage queue
    | cons e q =>
      simp only [queue, List.head?_cons, Option.some.injEq] at taken
      subst taken
      exact .took stage queue
  | acquiring =>
    exact rendered_acquiring stage (wired.elsewhere (by simp [stage])) wired.alive taken
  | swapping => exact rendered_swapping stage (wired.elsewhere (by simp [stage])) taken
  | presenting =>
    obtain ⟨succeeded, top⟩ := wired.presenting stage
    exact rendered_presenting stage top taken
  | clearing => exact rendered_clearing stage (wired.elsewhere (by simp [stage])) taken
  | finished =>
    simp only [render, stage] at taken
    cases taken
  | crashed =>
    simp only [render, stage] at taken
    cases taken

/-! ### Either thread -/

/-- What a move of a session that one platform thread calls comes to. -/
inductive Driven (p : ThreadId) (s : Session σ) : DriveMove → SessionMoved σ → Prop
  | asked {size : Size} (free : s.stack p = []) (running : s.stopRequested = false) :
      Driven p s (.resize size) ⟨s.withStack p [.entering size], [], none⟩
  | used {request : ViewRequest} {next : Session σ} {es : List Event} (free : s.stack p = [])
      (running : s.stopRequested = false) (handshake : next.view.handshake = s.view.handshake)
      (loop : next.loop = s.loop) (stopRequested : next.stopRequested = s.stopRequested)
      (bus : next.bus = { s.bus with queue := next.bus.queue })
      (sizes : next.bus.sizes = s.bus.sizes) (aside : View.Aside es)
      (joined : next.joined = s.joined) : Driven p s (.use request) ⟨next, es, none⟩
  | registered {size : Size} {episode : Option Nat} {c : Coordinator σ} {es : List Event}
      (top : s.stack p = [.entering size])
      (made : Coordinator.Registered s.coordinator size (episode, c, es)) :
      Driven p s .proceed
        ⟨(s.withCoordinator c).withStack p [.telling size episode],
          Event.guarded .resize es, none⟩
  | told {size : Size} {episode : Option Nat} {records : List Log.Record}
      (top : s.stack p = [.telling size episode]) :
      Driven p s .proceed
        ⟨(s.withStack p [.told size episode]).withBus
            (s.bus.send (.metrics ⟨size, s.view.handshake.scale⟩)).1,
          .window .scale :: .engine (.metrics ⟨size, s.view.handshake.scale⟩) ::
            records.map .log, none⟩
  | done {size : Size} (top : s.stack p = [.told size none]) :
      Driven p s .proceed ⟨s.withStack p [], [], some (.returned .done)⟩
  | released {a : Activity} {episode : Nat} {records : List Log.Record} (top : s.stack p = [a])
      (waiting : (∃ size, a = .told size (some episode)) ∨ a = .woken episode)
      (past : episode ≤ s.coordinator.presented) :
      Driven p s .proceed
        ⟨s.withStack p [], Event.guarded .resize (records.map .log), some (.returned .done)⟩
  | slept {a : Activity} {episode : Nat} {records : List Log.Record} (top : s.stack p = [a])
      (waiting : (∃ size, a = .told size (some episode)) ∨ a = .woken episode)
      (outstanding : s.coordinator.presented < episode) :
      Driven p s .proceed
        ⟨s.withStack p [.asleep episode], Event.guarded .resize (records.map .log), none⟩
  | stopped (free : s.stack p = []) (running : s.stopRequested = false) :
      Driven p s .stop ⟨{ s with stopRequested := true }, [], none⟩
  | rendered {moved : SessionMoved σ} (made : Rendered s moved) : Driven p s .render moved

omit [SurfaceDevice σ] in
theorem sizes_of_aside {es : List Event} (aside : View.Aside es) :
    (Event.engineEvents es).filterMap EngineEvent.size = [] := by
  rw [List.filterMap_eq_nil_iff]
  intro e he
  obtain ⟨e', mem, told⟩ := List.mem_filterMap.1 he
  have away := aside e' mem
  cases e' with
  | engine event =>
    obtain rfl := Option.some.inj told
    cases event with
    | metrics m => cases away
    | pointer p => rfl
  | _ => cases told

theorem driven_use {p : ThreadId} {s : Session σ} (wired : s.Wired p) (free : s.stack p = [])
    (running : s.stopRequested = false) (request : ViewRequest) :
    Driven p s (.use request) ⟨(fulfil request s).state, (fulfil request s).events, none⟩ := by
  obtain ⟨same, aside⟩ := View.staysAside_fulfil request s.view
  generalize run : View.fulfil request s.view = r at same aside
  have state : (fulfil request s).state =
      { s with view := r.state }.withBus (s.bus.sendAll (Event.engineEvents r.events)).1 := by
    rw [fulfil, run]
    exact carry_state _ _
  have seen : View.Aside (fulfil request s).events := by
    intro e he
    rw [fulfil, run] at he
    obtain inside | ⟨r, rfl⟩ := mem_carry he
    · exact aside e inside
    · rfl
  rw [state]
  cases isOpen : s.bus.isOpen with
  | true =>
    rw [Bus.sendAll_of_open wired.unbounded isOpen]
    refine .used free running same rfl rfl rfl ?_ seen rfl
    rw [Bus.sizes, withBus_bus, List.filterMap_append, sizes_of_aside aside, List.append_nil]
    rfl
  | false =>
    rw [Bus.sendAll_of_closed isOpen]
    exact .used free running same rfl rfl rfl rfl seen rfl

omit [SurfaceDevice σ] in
/-- The only activity of the platform thread is a request. -/
theorem Wired.single {p : ThreadId} {s : Session σ} {a : Activity} {rest : List Activity}
    (wired : s.Wired p) (top : s.stack p = a :: rest) : rest = [] ∧ a.IsRequest := by
  obtain free | ⟨a', only, request⟩ := wired.request
  · rw [free] at top
    cases top
  · rw [only] at top
    obtain ⟨rfl, rfl⟩ := List.cons.inj top
    exact ⟨rfl, request⟩

theorem driven_proceed {p : ThreadId} {s : Session σ} {moved : SessionMoved σ}
    (other : p ≠ renderThread) (wired : s.Wired p) (taken : s.drive p .proceed = some moved) :
    Driven p s .proceed moved := by
  rw [drive, step, if_neg other] at taken
  obtain ⟨⟨h, es, reply⟩, inner, rfl⟩ := Option.map_eq_some_iff.1 taken
  have made : Handshake.Stepped s.view.handshake p .proceed ⟨h, es, reply⟩ :=
    Handshake.stepped inner
  cases made with
  | @registered size rest episode c es top run =>
    obtain ⟨rfl, -⟩ := wired.single top
    have entry := Coordinator.registered s.coordinator size
    rw [show s.coordinator.register size = _ from run] at entry
    have silent : Event.engineEvents es = [] := by cases entry <;> rfl
    simp only [carry_of_silent (Event.engineEvents_guarded silent)]
    exact .registered top entry
  | told top =>
    obtain ⟨rfl, -⟩ := wired.single top
    simp only [carry, List.append_nil]
    exact .told top
  | done top =>
    obtain ⟨rfl, -⟩ := wired.single top
    exact .done top
  | released top waiting past =>
    obtain ⟨rfl, -⟩ := wired.single top
    simp only [carry_of_silent (Event.engineEvents_guarded (Event.engineEvents_logs _))]
    exact .released top waiting past
  | slept top waiting outstanding =>
    obtain ⟨rfl, -⟩ := wired.single top
    simp only [carry_of_silent (Event.engineEvents_guarded (Event.engineEvents_logs _))]
    exact .slept top waiting outstanding
  | woke top => exact (wired.single top).2.elim
  | announced top => exact (wired.single top).2.elim

/-- Every move of a driven session is listed. -/
theorem driven {p : ThreadId} {s : Session σ} {m : DriveMove} {moved : SessionMoved σ}
    (other : p ≠ renderThread) (wired : s.Wired p) (taken : s.drive p m = some moved) :
    Driven p s m moved := by
  cases m with
  | resize size =>
    by_cases free : s.isFree p = true
    · rw [drive, if_pos free, step, if_neg other] at taken
      obtain ⟨free, running⟩ := isFree_iff.1 free
      rw [step_call free, Option.map_some] at taken
      obtain rfl := Option.some.inj taken
      simp only [Handshake.call, show s.view.handshake.stack p = [] from free]
      exact .asked free running
    · rw [drive, if_neg free] at taken
      cases taken
  | use request =>
    by_cases free : s.isFree p = true
    · rw [drive, if_pos free] at taken
      obtain rfl := Option.some.inj taken
      obtain ⟨free, running⟩ := isFree_iff.1 free
      exact driven_use wired free running request
    · rw [drive, if_neg free] at taken
      cases taken
  | proceed => exact driven_proceed other wired taken
  | stop =>
    by_cases free : s.isFree p = true
    · rw [drive, if_pos free] at taken
      obtain rfl := Option.some.inj taken
      obtain ⟨free, running⟩ := isFree_iff.1 free
      exact .stopped free running
    · rw [drive, if_neg free] at taken
      cases taken
  | render => exact .rendered (rendered wired taken)

/-- Only the render thread asks the device for anything. -/
theorem rendered_of_device {p : ThreadId} {s : Session σ} {m : DriveMove} {moved : SessionMoved σ}
    {d : DeviceEvent} (made : Driven p s m moved) (mem : .device d ∈ moved.events) :
    m = .render ∧ Rendered s moved := by
  cases made with
  | asked => simp at mem
  | used _ _ _ _ _ _ _ aside => cases aside _ mem
  | registered top entry => cases entry <;> simp at mem
  | told => simp at mem
  | done => simp at mem
  | released => simp at mem
  | slept => simp at mem
  | stopped => simp at mem
  | rendered made => exact ⟨rfl, made⟩

end Session

end HostView
