import HostView.Proofs.Observer
import HostView.Proofs.Render.Scene
import HostView.Proofs.Render.Wiring

/-!
# The course of a drag

What is seen of a run is read off its steps: the sizes that were asked for, those that the surface
was resized to, those that the engine was told, and those that the render loop took in.  As long
as the device does not panic, the scene of the session stands where these lists say it does
(`Session.Drives.live`).
-/

namespace HostView

/-! ### What is seen -/

/-- The size that a move asks for. -/
def DriveMove.size : DriveMove → Option Size
  | .resize size => some size
  | _ => none

namespace Session

variable {σ : Type}

/-- All that is seen in some steps. -/
def seen (steps : List (DriveStep σ)) : List Event := steps.flatMap (·.result.events)

/-- The sizes that the platform thread was told of. -/
def asked (steps : List (DriveStep σ)) : List Size := steps.filterMap (·.move.size)

/-- The sizes that the surface was resized to. -/
def resized (steps : List (DriveStep σ)) : List Size := (seen steps).filterMap Event.resizedTo

/-- What the engine was told about the size. -/
def told (steps : List (DriveStep σ)) : List Metrics := (seen steps).filterMap Event.metrics

section Snoc

variable (steps : List (DriveStep σ)) (x : DriveStep σ)

theorem asked_snoc : asked (steps ++ [x]) = asked steps ++ x.move.size.toList := by
  rw [asked, List.filterMap_append]
  cases size : x.move.size <;> simp [asked, size]

theorem seen_snoc : seen (steps ++ [x]) = seen steps ++ x.result.events := by
  simp [seen]

theorem resized_snoc :
    resized (steps ++ [x]) = resized steps ++ x.result.events.filterMap Event.resizedTo := by
  rw [resized, seen_snoc, List.filterMap_append, resized]

theorem told_snoc :
    told (steps ++ [x]) = told steps ++ x.result.events.filterMap Event.metrics := by
  rw [told, seen_snoc, List.filterMap_append, told]

end Snoc

/-- What matters of a session to the resizes of a platform thread. -/
def scene (s : Session σ) (p : ThreadId) : Scene where
  stack := s.stack p
  phase := s.coordinator.phase
  dims := s.coordinator.surface.dimensions
  started := s.coordinator.started
  presented := s.coordinator.presented
  pipe := s.pipe

variable [SurfaceDevice σ] {p : ThreadId} {s : Session σ} {b : Size} {zs rs : List Size}
  {moved : SessionMoved σ}

/-! ### The scene moves on -/

omit [SurfaceDevice σ] in
theorem scene_withStack (s : Session σ) (p : ThreadId) (stack : List Activity) :
    (s.withStack p stack).scene p = { s.scene p with stack } := by
  rw [scene, withStack_same]
  rfl

omit [SurfaceDevice σ] in
theorem scene_withStack_of_ne {t : ThreadId} (ne : p ≠ t) (s : Session σ)
    (stack : List Activity) : (s.withStack t stack).scene p = s.scene p := by
  rw [scene, withStack_of_ne _ _ ne]
  rfl

omit [SurfaceDevice σ] in
theorem standing_consume {e : EngineEvent} {q : List EngineEvent}
    (standing : Standing b zs rs (s.scene p)) (queue : s.bus.queue = e :: q) :
    Standing b zs rs (((s.left q).withLoop (s.loop.consume e)).scene p) := by
  have pipe : (s.scene p).pipe = s.loop.size :: (e :: q).filterMap EngineEvent.size := by
    rw [← queue]
    rfl
  cases e with
  | metrics m => exact standing.take pipe
  | pointer event =>
    have same : ((s.left q).withLoop (s.loop.consume (.pointer event))).scene p =
        { s.scene p with pipe := (s.scene p).pipe } := by
      rw [pipe]
      rfl
    rw [same]
    exact standing

/-- The render thread moves the scene on, unless it crashes. -/
theorem standing_render (other : p ≠ renderThread) (wired : s.Wired p)
    (standing : Standing b zs rs (s.scene p)) (made : Rendered s moved)
    (alive : moved.next.loop.stage ≠ .crashed) :
    Standing b zs (rs ++ moved.events.filterMap Event.resizedTo) (moved.next.scene p) := by
  have looks := Event.observer_resizedTo
  have unseen {es : List Event} {t : Session σ} (silent : es.filterMap Event.resizedTo = [])
      (standing : Standing b zs rs (t.scene p)) :
      Standing b zs (rs ++ es.filterMap Event.resizedTo) (t.scene p) := by
    rwa [silent, List.append_nil]
  cases made with
  | started =>
    refine unseen ?_ standing
    rw [List.filterMap_append, looks.guarded, looks.answered, looks.logs]
    rfl
  | tested => exact unseen rfl standing
  | idled _ empty =>
    refine unseen rfl ?_
    rwa [scene, pipe, Bus.sizes, empty] at standing
  | received _ queue =>
    have kept := standing_consume standing queue
    exact unseen rfl kept
  | drained _ empty =>
    refine unseen rfl ?_
    rwa [scene, pipe, Bus.sizes, empty] at standing
  | took _ queue =>
    have kept := standing_consume standing queue
    exact unseen rfl kept
  | passed =>
    refine unseen ?_ standing
    rw [looks.guarded, looks.logs]
  | failed =>
    refine unseen ?_ standing
    rw [looks.guarded, List.filterMap_append, looks.answered]
    rfl
  | readied _ asked =>
    rw [looks.guarded, List.filterMap_append, looks.answered, List.filterMap_append,
      looks.answered]
    exact standing.resize rfl asked
  | refused => exact unseen rfl standing
  | plain =>
    refine unseen ?_ standing
    rw [looks.guarded, looks.answered]
    rfl
  | presented _ ready =>
    refine unseen ?_ ?_
    · rw [looks.guarded, looks.answered]
      rfl
    · change Standing b zs rs (((s.withCoordinator _).withStack renderThread _).scene p)
      rw [scene_withStack_of_ne other]
      exact standing.present ready
  | @woke succeeded =>
    refine unseen rfl ?_
    have woken := standing.wake
    rw [← scene_withStack_of_ne other s [.announcing succeeded]] at woken
    exact woken
  | announced =>
    refine unseen ?_ ?_
    · rw [List.filterMap_cons_none rfl, looks.logs]
    · rwa [← scene_withStack_of_ne other s []] at standing
  | cleared stage =>
    refine unseen ?_ ?_
    · rw [List.filterMap_append, looks.guarded, looks.answered]
      rfl
    · exact standing.close (wired.stopped (wired.ending (.inl stage))) rfl
  | crashed => exact absurd rfl alive

omit [SurfaceDevice σ] in
theorem waiting_of_top {a : Activity} {episode : Nat} (top : s.stack p = [a])
    (waiting : (∃ size, a = .told size (some episode)) ∨ a = .woken episode) :
    ∃ size, Waiting size episode (s.scene p).stack := by
  change ∃ size, Waiting size episode (s.stack p)
  rw [top]
  obtain ⟨size, rfl⟩ | rfl := waiting
  · exact ⟨size, .told⟩
  · exact ⟨.zero, .woken⟩

omit [SurfaceDevice σ] in
/-- While the platform thread is in the middle of something, the bus is open. -/
theorem Wired.open_of_busy {a : Activity} (wired : s.Wired p) (top : s.stack p = [a])
    (alive : s.loop.stage ≠ .crashed) : s.bus.isOpen = true := by
  have unfinished : s.loop.stage ≠ .finished := by
    intro finished
    have stop := wired.ending (.inr finished)
    rw [wired.running top] at stop
    cases stop
  simp [wired.isOpen, RenderLoop.isOver, alive, unfinished]

omit [SurfaceDevice σ] in
/-- Registering moves the scene on. -/
theorem standing_register {size : Size} {episode : Option Nat} {c : Coordinator σ}
    {es : List Event} (standing : Standing b zs rs (s.scene p)) (top : s.stack p = [.entering size])
    (entry : Coordinator.Registered s.coordinator size (episode, c, es)) :
    Standing b zs rs (((s.withCoordinator c).withStack p [.telling size episode]).scene p) := by
  rw [scene_withStack]
  cases entry with
  | empty empty => exact standing.pass top (.inl empty)
  | current full idle same => exact standing.pass top (.inr same.symm)
  | started full idle other => exact standing.begin top full (Ne.symm other)
  | retargeted full busy =>
    obtain ⟨-, -, calm, -⟩ := standing.of_entering top
    exact absurd calm.idle busy

/-- Either thread moves the scene on, unless the render thread crashes. -/
theorem standing_step {m : DriveMove} (other : p ≠ renderThread) (wired : s.Wired p)
    (standing : Standing b zs rs (s.scene p)) (made : Driven p s m moved)
    (alive : moved.next.loop.stage ≠ .crashed) :
    Standing b (zs ++ m.size.toList) (rs ++ moved.events.filterMap Event.resizedTo)
      (moved.next.scene p) := by
  have looks := Event.observer_resizedTo
  have unseen {es : List Event} {t : Session σ} {zs : List Size}
      (silent : es.filterMap Event.resizedTo = []) (standing : Standing b zs rs (t.scene p)) :
      Standing b (zs ++ []) (rs ++ es.filterMap Event.resizedTo) (t.scene p) := by
    rwa [silent, List.append_nil, List.append_nil]
  cases made with
  | @asked size free =>
    rw [List.filterMap_nil, List.append_nil, scene_withStack]
    exact standing.ask free size
  | @used request next es free running handshake loop stopRequested bus sizes aside =>
    refine unseen ?_ ?_
    · rw [List.filterMap_eq_nil_iff]
      exact fun e mem => Event.resizedTo_of_aside (aside e mem)
    · have same : next.scene p = s.scene p := by
        simp only [scene, pipe, coordinator, stack, handshake, loop, sizes]
      exact same ▸ standing
  | @registered size episode c es top entry =>
    refine unseen ?_ (standing_register standing top entry)
    rw [looks.guarded]
    cases entry <;> rfl
  | @told size episode records top =>
    refine unseen ?_ ?_
    · rw [List.filterMap_cons_none rfl, List.filterMap_cons_none rfl, looks.logs]
    · rw [Bus.send_of_open _ wired.unbounded (wired.open_of_busy top alive)]
      have same : ((s.withStack p [.told size episode]).withBus
          { s.bus with
            queue := s.bus.queue ++ [.metrics ⟨size, s.view.handshake.scale⟩] }).scene p =
          { s.scene p with
            stack := [.told size episode], pipe := (s.scene p).pipe ++ [size] } := by
        simp only [scene, pipe, withBus_stack, withStack_same, withBus_bus, Bus.sizes,
          List.filterMap_append]
        rfl
      rw [same]
      exact standing.tell top
  | done top =>
    refine unseen rfl ?_
    rw [scene_withStack]
    exact standing.finish top
  | released top waiting past =>
    refine unseen ?_ ?_
    · rw [looks.guarded, looks.logs]
    · obtain ⟨size, waits⟩ := waiting_of_top top waiting
      rw [scene_withStack]
      exact standing.release waits past
  | slept top waiting outstanding =>
    refine unseen ?_ ?_
    · rw [looks.guarded, looks.logs]
    · obtain ⟨size, waits⟩ := waiting_of_top top waiting
      rw [scene_withStack]
      exact standing.sleep waits outstanding
  | stopped => exact unseen rfl standing
  | rendered made =>
    rw [show DriveMove.render.size = none from rfl, Option.toList_none, List.append_nil]
    exact standing_render other wired standing made alive

/-! ### The two threads fit together -/

/-- A frame is ready only while it is about to be swapped, and whoever still sleeps after the swap
is about to be woken. -/
structure Aligned (p : ThreadId) (s : Session σ) : Prop where
  swapping : s.coordinator.phase = .frameReady → s.loop.stage = .swapping
  waking : ∀ episode, s.stack p = [.asleep episode] → episode ≤ s.coordinator.presented →
    ∃ succeeded, s.stack renderThread = [.waking succeeded]

theorem aligned_render (other : p ≠ renderThread) (aligned : s.Aligned p)
    (made : Rendered s moved) (alive : moved.next.loop.stage ≠ .crashed) :
    moved.next.Aligned p := by
  have unready {stage : LoopStage} (at_stage : s.loop.stage = stage) (early : stage ≠ .swapping) :
      s.coordinator.phase ≠ .frameReady := by
    intro ready
    exact early (at_stage.symm.trans (aligned.swapping ready))
  have apart (t : Session σ) (stack : List Activity) :
      (t.withStack renderThread stack).stack p = t.stack p := withStack_of_ne _ _ other
  cases made with
  | started stage => exact ⟨fun ready => absurd ready (unready stage nofun), aligned.waking⟩
  | tested stage => exact ⟨fun ready => absurd ready (unready stage nofun), aligned.waking⟩
  | idled stage => exact ⟨fun ready => absurd ready (unready stage nofun), aligned.waking⟩
  | received stage => exact ⟨fun ready => absurd ready (unready stage nofun), aligned.waking⟩
  | drained stage => exact ⟨fun ready => absurd ready (unready stage nofun), aligned.waking⟩
  | took stage => exact ⟨fun ready => absurd ready (unready stage nofun), aligned.waking⟩
  | passed => exact ⟨fun _ => rfl, aligned.waking⟩
  | failed => exact ⟨fun _ => rfl, aligned.waking⟩
  | readied => exact ⟨fun _ => rfl, aligned.waking⟩
  | refused _ asked => exact ⟨by simp [asked], aligned.waking⟩
  | plain _ idle => exact ⟨by simp [idle], aligned.waking⟩
  | @presented d succeeded => exact ⟨by simp, fun _ _ _ => ⟨succeeded, by simp⟩⟩
  | @woke succeeded stage =>
    refine ⟨fun ready => absurd ready (unready stage nofun), fun episode asleep => ?_⟩
    have asleep' : (s.stack p).map Activity.wake = [.asleep episode] := by
      rw [← apart s [.announcing succeeded]]
      exact asleep
    obtain ⟨a, -, awake⟩ := List.map_eq_singleton_iff.1 asleep'
    cases a <;> cases awake
  | announced stage top =>
    refine ⟨fun ready => absurd ready (unready stage nofun), fun episode asleep past => ?_⟩
    rw [withLoop_stack, apart] at asleep
    obtain ⟨succeeded, waking⟩ := aligned.waking episode asleep past
    rw [top] at waking
    cases waking
  | cleared stage => exact ⟨fun ready => absurd ready (unready stage nofun), aligned.waking⟩
  | crashed => exact absurd rfl alive

theorem aligned_step {m : DriveMove} (other : p ≠ renderThread) (aligned : s.Aligned p)
    (made : Driven p s m moved) (alive : moved.next.loop.stage ≠ .crashed) :
    moved.next.Aligned p := by
  have awake {t : Session σ} {stack : List Activity} (top : t.stack p = stack)
      (up : ∀ episode, stack ≠ [.asleep episode]) :
      ∀ episode, t.stack p = [.asleep episode] → episode ≤ t.coordinator.presented →
        ∃ succeeded, t.stack renderThread = [.waking succeeded] := by
    intro episode asleep
    exact absurd (top.symm.trans asleep) (up episode)
  cases made with
  | asked => exact ⟨aligned.swapping, awake (withStack_same _ _ _) (by simp)⟩
  | used free running handshake loop =>
    refine ⟨?_, awake ((stack_of_handshake handshake p).trans free) (by simp)⟩
    rw [loop, coordinator, handshake]
    exact aligned.swapping
  | registered top entry =>
    refine ⟨?_, awake (withStack_same _ _ _) (by simp)⟩
    cases entry with
    | empty => exact aligned.swapping
    | current => exact aligned.swapping
    | started => nofun
    | retargeted => nofun
  | told => exact ⟨aligned.swapping, awake (withStack_same _ _ _) (by simp)⟩
  | done => exact ⟨aligned.swapping, awake (withStack_same _ _ _) (by simp)⟩
  | released => exact ⟨aligned.swapping, awake (withStack_same _ _ _) (by simp)⟩
  | slept top waiting outstanding =>
    refine ⟨aligned.swapping, fun episode asleep past => ?_⟩
    rw [withStack_same] at asleep
    cases asleep
    exact absurd past (Nat.not_le.2 outstanding)
  | stopped => exact ⟨aligned.swapping, aligned.waking⟩
  | rendered made => exact aligned_render other aligned made alive

/-! ### Runs -/

/-- The device has panicked in some step. -/
def Panicked (steps : List (DriveStep σ)) : Prop :=
  ∃ call m, .device ⟨call, .panicked m⟩ ∈ seen steps

omit [SurfaceDevice σ] in
theorem Panicked.snoc {steps : List (DriveStep σ)} (panicked : Panicked steps) (x : DriveStep σ) :
    Panicked (steps ++ [x]) := by
  obtain ⟨call, m, mem⟩ := panicked
  exact ⟨call, m, by rw [seen_snoc]; exact List.mem_append_left _ mem⟩

/-- A render thread that has crashed stays so. -/
theorem crashed_step {m : DriveMove} (crashed : s.loop.stage = .crashed)
    (made : Driven p s m moved) : moved.next.loop.stage = .crashed := by
  cases made with
  | used _ _ _ loop => rw [loop, crashed]
  | rendered made => cases made <;> simp_all
  | _ => exact crashed

/-- Nothing but a panic of the device makes the render thread crash. -/
theorem panicked_of_crash {m : DriveMove} (running : s.loop.stage ≠ .crashed)
    (made : Driven p s m moved) (crashed : moved.next.loop.stage = .crashed) :
    ∃ call m d, (SurfaceDevice.perform (σ := σ) call d).outcome = .panicked m ∧
      .device ⟨call, .panicked m⟩ ∈ moved.events := by
  cases made with
  | used _ _ _ loop => exact absurd (loop ▸ crashed) running
  | rendered made =>
    cases made with
    | crashed _ _ answer seen => exact ⟨_, _, _, answer, seen⟩
    | tested => cases stop : s.stopRequested <;> simp [stop] at crashed
    | drained => cases empty : s.loop.size.isEmpty <;> simp [empty] at crashed
    | @took e => cases e <;> exact absurd crashed running
    | _ => cases crashed
  | _ => exact absurd crashed running

omit [SurfaceDevice σ] in
theorem Fresh.standing (fresh : Fresh b s) : Standing b [] [] (s.scene p) := by
  refine .free (fresh.free p) ⟨fresh.idle, fresh.even, fun size mem => ?_⟩ ⟨fresh.sized, rfl⟩
  have pipe : (s.scene p).pipe = [b, b] := by simp [scene, Session.pipe, Bus.sizes, fresh.loop,
    fresh.bus, EngineEvent.size]
  rw [pipe] at mem
  refine .inr (Eq.trans ?_ fresh.sized.symm)
  simpa using mem

omit [SurfaceDevice σ] in
theorem Fresh.aligned (fresh : Fresh b s) : s.Aligned p :=
  ⟨by simp [fresh.idle], by simp [fresh.free]⟩

variable {start : Session σ} {steps : List (DriveStep σ)}

/-- A session whose render thread has not crashed: the platform thread stands where its requests
say. -/
structure Live (b : Size) (p : ThreadId) (steps : List (DriveStep σ)) (s : Session σ) : Prop where
  alive : s.loop.stage ≠ .crashed
  wired : s.Wired p
  standing : Standing b (asked steps) (resized steps) (s.scene p)
  aligned : s.Aligned p

omit [SurfaceDevice σ] in
theorem Fresh.live (fresh : Fresh b s) : Live b p [] s :=
  ⟨by simp [fresh.loop], fresh.wired p, fresh.standing, fresh.aligned⟩

theorem Live.step {m : DriveMove} (live : Live b p steps s) (other : p ≠ renderThread)
    (made : Driven p s m moved) (alive : moved.next.loop.stage ≠ .crashed) :
    Live b p (steps ++ [⟨s, m, moved⟩]) moved.next where
  alive := alive
  wired := live.wired.step other made
  standing := by
    rw [asked_snoc, resized_snoc]
    exact standing_step other live.wired live.standing made alive
  aligned := aligned_step other live.aligned made alive

/-- At every point of a run the session is live, or the device has panicked on the render
thread. -/
theorem Drives.live (drives : Drives p start steps s) (other : p ≠ renderThread)
    (fresh : Fresh b start) :
    s.loop.stage = .crashed ∧ Panicked steps ∨ Live b p steps s := by
  induction drives with
  | nil => exact .inr fresh.live
  | @snoc steps s m moved path taken ih =>
    have wired : s.Wired p := Drives.wired path other (fresh.wired p)
    have made := driven other wired taken
    obtain ⟨crashed, panicked⟩ | live := ih
    · exact .inl ⟨crashed_step crashed made, panicked.snoc _⟩
    · by_cases crashed : moved.next.loop.stage = .crashed
      · obtain ⟨call, message, -, -, mem⟩ := panicked_of_crash live.alive made crashed
        exact .inl ⟨crashed, call, message, by rw [seen_snoc]; exact List.mem_append_right _ mem⟩
      · exact .inr (live.step other made crashed)

/-! ### What the engine was told -/

/-- The size that a thread is about to tell the engine. -/
def unsent : List Activity → List Size
  | [.entering size] | [.telling size _] => [size]
  | _ => []

omit [SurfaceDevice σ] in
theorem unsent_wake (stack : List Activity) : unsent (stack.map Activity.wake) = unsent stack := by
  match stack with
  | [] => rfl
  | [a] => cases a <;> rfl
  | a :: _ :: _ => simp [unsent]

omit [SurfaceDevice σ] in
theorem metrics_of_silent {es : List Event} (silent : Event.engineEvents es = []) :
    es.filterMap Event.metrics = [] := by
  rw [List.filterMap_eq_nil_iff]
  intro e mem
  have untold := List.filterMap_eq_nil_iff.1 silent e mem
  cases e with
  | engine => cases untold
  | _ => rfl

/-- The render thread tells the engine nothing. -/
theorem silent_of_rendered (made : Rendered s moved) :
    Event.engineEvents moved.events = [] := by
  have logs := Event.engineEvents_logs
  have answered := Event.engineEvents_answered
  have quiet {es : List Event} (silent : Event.engineEvents es = []) :
      Event.engineEvents (Event.guarded .resize es) = [] := Event.engineEvents_guarded silent
  cases made with
  | started => rw [Event.engineEvents_append, quiet (answered ..), logs]; rfl
  | passed => exact quiet (logs _)
  | failed => exact quiet (by rw [Event.engineEvents_append, answered]; rfl)
  | readied =>
    exact quiet (by simp only [Event.engineEvents_append, answered, List.nil_append]; rfl)
  | plain => exact quiet (answered ..)
  | presented => exact quiet (answered ..)
  | @announced succeeded records =>
    change Event.engineEvents (records.map .log) = []
    exact logs _
  | cleared => rw [Event.engineEvents_append, quiet (answered ..)]; rfl
  | crashed _ _ _ _ silent => exact silent
  | _ => rfl

/-- The render thread at most wakes the platform thread. -/
theorem apart_of_rendered (other : p ≠ renderThread) (made : Rendered s moved) :
    moved.next.view.handshake.scale = s.view.handshake.scale ∧
      (moved.next.stack p = s.stack p ∨
        moved.next.stack p = (s.stack p).map Activity.wake) := by
  cases made with
  | presented => exact ⟨rfl, .inl (withStack_of_ne _ _ other)⟩
  | woke =>
    exact ⟨rfl, .inr (congrArg (List.map Activity.wake) (withStack_of_ne s _ other))⟩
  | announced => exact ⟨rfl, .inl (withStack_of_ne _ _ other)⟩
  | crashed => exact ⟨rfl, .inl (withStack_of_ne _ _ other)⟩
  | _ => exact ⟨rfl, .inl rfl⟩

/-- A size is told once, between the call that asks for it and the return of that call. -/
theorem told_step {m : DriveMove} (other : p ≠ renderThread) (made : Driven p s m moved) :
    moved.next.view.handshake.scale = s.view.handshake.scale ∧
      moved.events.filterMap Event.metrics ++
          (unsent (moved.next.stack p)).map (⟨·, s.view.handshake.scale⟩) =
        (unsent (s.stack p) ++ m.size.toList).map (⟨·, s.view.handshake.scale⟩) := by
  have looks := Event.observer_metrics
  cases made with
  | asked free =>
    rw [free, withStack_same]
    exact ⟨rfl, rfl⟩
  | @used request next es free running handshake loop stopRequested bus sizes aside =>
    have unseen : es.filterMap Event.metrics = [] :=
      List.filterMap_eq_nil_iff.2 fun e mem => Event.metrics_of_aside (aside e mem)
    have same : next.stack p = [] := (stack_of_handshake handshake p).trans free
    rw [unseen, same, free]
    exact ⟨congrArg Handshake.scale handshake, rfl⟩
  | @registered size episode c es top entry =>
    rw [looks.guarded, withStack_same, top]
    cases entry <;> exact ⟨rfl, rfl⟩
  | told top =>
    refine ⟨rfl, ?_⟩
    simp only [List.filterMap_cons, Event.metrics, looks.logs, withBus_stack, withStack_same, top]
    rfl
  | done top =>
    rw [withStack_same, top]
    exact ⟨rfl, rfl⟩
  | released top waiting =>
    rw [looks.guarded, looks.logs, withStack_same, top]
    obtain ⟨size, rfl⟩ | rfl := waiting <;> exact ⟨rfl, rfl⟩
  | slept top waiting =>
    rw [looks.guarded, looks.logs, withStack_same, top]
    obtain ⟨size, rfl⟩ | rfl := waiting <;> exact ⟨rfl, rfl⟩
  | stopped => exact ⟨rfl, by simp [DriveMove.size]; rfl⟩
  | rendered made =>
    obtain ⟨scale, stack⟩ := apart_of_rendered other made
    refine ⟨scale, ?_⟩
    rw [metrics_of_silent (silent_of_rendered made), List.nil_append,
      show DriveMove.render.size = none from rfl, Option.toList_none, List.append_nil]
    obtain same | woken := stack
    · rw [same]
    · rw [woken, unsent_wake]

/-- The engine is told every size that is asked for, in the order of the requests. -/
theorem Drives.told_asked (drives : Drives p start steps s) (other : p ≠ renderThread)
    (fresh : Fresh b start) :
    s.view.handshake.scale = start.view.handshake.scale ∧
      told steps ++ (unsent (s.stack p)).map (⟨·, start.view.handshake.scale⟩) =
        (asked steps).map (⟨·, start.view.handshake.scale⟩) := by
  induction drives with
  | nil =>
    refine ⟨rfl, ?_⟩
    rw [fresh.free p]
    rfl
  | @snoc steps s m moved path taken ih =>
    have wired : s.Wired p := Drives.wired path other (fresh.wired p)
    obtain ⟨scale, all⟩ := ih
    obtain ⟨scale', next⟩ := told_step other (driven other wired taken)
    refine ⟨scale'.trans scale, ?_⟩
    rw [scale] at next
    rw [told_snoc, asked_snoc, List.append_assoc, next, List.map_append, ← List.append_assoc, all,
      List.map_append]

end Session

end HostView
