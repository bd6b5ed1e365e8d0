import HostView.Proofs.Render.Moves

/-!
# The wiring of a driven session is kept

Every move of the platform thread and of the render thread keeps `Session.Wired`, so all that a
run does is listed by `Session.Driven`.
-/

namespace HostView

/-- Whether the render thread is about to begin something: it has not ended, and it is not in the
middle of a swap. -/
def LoopStage.calls : LoopStage → Bool
  | .presenting | .finished | .crashed => false
  | _ => true

namespace Session

variable {σ : Type} [SurfaceDevice σ]

/-! ### The render thread -/

omit [SurfaceDevice σ] in
/-- A move of the render thread that does not end it. -/
theorem Wired.onward {p : ThreadId} {s s' : Session σ} (wired : s.Wired p)
    (running : s.loop.isOver = false) (running' : s'.loop.isOver = false)
    (bus : s'.bus = s.bus ∨ ∃ q, s'.bus = (s.left q).bus)
    (alive : s'.coordinator.surface.live = s.coordinator.surface.live)
    (stopRequested : s'.stopRequested = s.stopRequested)
    (stack : s'.stack p = s.stack p ∨ s'.stack p = (s.stack p).map Activity.wake)
    (drawing : s'.loop.stage = .acquiring ∨ s'.loop.stage = .swapping →
      s'.loop.size.isEmpty = false)
    (presenting : s'.loop.stage = .presenting → ∃ succeeded,
      s'.stack renderThread = [.waking succeeded] ∨
        s'.stack renderThread = [.announcing succeeded])
    (elsewhere : s'.loop.stage ≠ .presenting → s'.stack renderThread = [])
    (ending : s'.loop.stage = .clearing → s.stopRequested = true) : s'.Wired p where
  unbounded := by
    obtain same | ⟨q, left⟩ := bus
    · rw [same, wired.unbounded]
    · rw [left]
      exact wired.unbounded
  consumer := by
    obtain same | ⟨q, left⟩ := bus
    · rw [same]
      exact wired.consumer
    · rw [left]
      exact .inr rfl
  isOpen := by
    have isOpen := wired.isOpen
    rw [running] at isOpen
    rw [running']
    obtain same | ⟨q, left⟩ := bus
    · rw [same, isOpen]
    · rw [left]
      exact isOpen
  drawing := drawing
  presenting := presenting
  elsewhere := elsewhere
  alive := alive.trans wired.alive
  request := by
    obtain same | woken := stack
    · rw [same]
      exact wired.request
    · rw [woken]
      obtain free | ⟨a, only, request⟩ := wired.request
      · exact .inl (by rw [free]; rfl)
      · exact .inr ⟨a.wake, by rw [only]; rfl, by cases a <;> exact request⟩
  stopped := by
    rw [stopRequested]
    intro stop
    obtain same | woken := stack
    · rw [same, wired.stopped stop]
    · rw [woken, wired.stopped stop]
      rfl
  ending := by
    rw [stopRequested]
    rintro (clearing | finished)
    · exact ending clearing
    · simp [RenderLoop.isOver, finished] at running'

omit [SurfaceDevice σ] in
/-- A move of the render thread from one call to the next. -/
theorem Wired.within {p : ThreadId} {s s' : Session σ} (wired : s.Wired p)
    (calls : s.loop.stage.calls = true) (calls' : s'.loop.stage.calls = true)
    (bus : s'.bus = s.bus ∨ ∃ q, s'.bus = (s.left q).bus)
    (alive : s'.coordinator.surface.live = s.coordinator.surface.live)
    (stopRequested : s'.stopRequested = s.stopRequested) (stack : s'.stack = s.stack)
    (drawing : s'.loop.stage = .acquiring ∨ s'.loop.stage = .swapping →
      s'.loop.size.isEmpty = false)
    (ending : s'.loop.stage = .clearing → s.stopRequested = true) : s'.Wired p := by
  have running {t : Session σ} (calls : t.loop.stage.calls = true) : t.loop.isOver = false := by
    rw [RenderLoop.isOver]
    cases stage : t.loop.stage <;> simp_all [LoopStage.calls]
  have idle {t : Session σ} (calls : t.loop.stage.calls = true) : t.loop.stage ≠ .presenting := by
    intro presenting
    rw [presenting] at calls
    cases calls
  refine wired.onward (running calls) (running calls') bus alive stopRequested
    (.inl (congrFun stack p)) drawing (fun presenting => absurd presenting (idle calls')) ?_ ending
  intro _
  rw [stack]
  exact wired.elsewhere (idle calls)

omit [SurfaceDevice σ] in
/-- The end of the render thread. -/
theorem Wired.ended {p : ThreadId} {s s' : Session σ} {stage : LoopStage} (wired : s.Wired p)
    (past : stage = .finished ∨ stage = .crashed) (next : s'.loop.stage = stage)
    (bus : s'.bus = s.bus.close)
    (alive : s'.coordinator.surface.live = s.coordinator.surface.live)
    (stopRequested : s'.stopRequested = s.stopRequested) (stack : s'.stack p = s.stack p)
    (elsewhere : s'.stack renderThread = [])
    (ending : stage = .finished → s.stopRequested = true) : s'.Wired p where
  unbounded := by rw [bus]; exact wired.unbounded
  consumer := by rw [bus]; exact wired.consumer
  isOpen := by obtain rfl | rfl := past <;> simp [bus, Bus.close, RenderLoop.isOver, next]
  drawing := by obtain rfl | rfl := past <;> simp [next]
  presenting := by obtain rfl | rfl := past <;> simp [next]
  elsewhere := fun _ => elsewhere
  alive := alive.trans wired.alive
  request := by rw [stack]; exact wired.request
  stopped := by rw [stopRequested, stack]; exact wired.stopped
  ending := by
    rw [stopRequested, next]
    rintro (clearing | finished)
    · obtain rfl | rfl := past <;> cases clearing
    · exact ending finished

theorem Wired.render {p : ThreadId} {s : Session σ} {moved : SessionMoved σ}
    (other : p ≠ renderThread) (wired : s.Wired p) (made : Rendered s moved) :
    moved.next.Wired p := by
  have calls {stage : LoopStage} (at_stage : s.loop.stage = stage) (calls : stage.calls = true) :
      s.loop.stage.calls = true := at_stage ▸ calls
  cases made with
  | started stage =>
    exact wired.within (calls stage rfl) rfl (.inl rfl) rfl rfl rfl (by simp) (by simp)
  | tested stage =>
    refine wired.within (calls stage rfl) ?_ (.inl rfl) rfl rfl rfl ?_ ?_
    · cases stop : s.stopRequested <;> rfl
    · cases stop : s.stopRequested <;> simp
    · cases stop : s.stopRequested <;> simp
  | idled stage =>
    exact wired.within (calls stage rfl) rfl (.inr ⟨_, rfl⟩) rfl rfl rfl (by simp) (by simp)
  | received stage =>
    exact wired.within (calls stage rfl) rfl (.inr ⟨_, rfl⟩) rfl rfl rfl (by simp) (by simp)
  | drained stage =>
    refine wired.within (calls stage rfl) ?_ (.inr ⟨_, rfl⟩) rfl rfl rfl ?_ ?_
    · cases empty : s.loop.size.isEmpty <;> rfl
    · cases empty : s.loop.size.isEmpty <;> simp [empty]
    · cases empty : s.loop.size.isEmpty <;> simp
  | @took e q stage =>
    have kept : (s.loop.consume e).stage = .draining := by cases e <;> exact stage
    refine wired.within (calls stage rfl) ?_ (.inr ⟨_, rfl⟩) rfl rfl rfl ?_ ?_
    · simp [kept, LoopStage.calls]
    · simp [kept]
    · simp [kept]
  | passed stage =>
    exact wired.within (calls stage rfl) rfl (.inl rfl) rfl rfl rfl
      (fun _ => wired.drawing (.inl stage)) (by simp)
  | failed stage =>
    exact wired.within (calls stage rfl) rfl (.inl rfl) rfl rfl rfl
      (fun _ => wired.drawing (.inl stage)) (by simp)
  | readied stage =>
    exact wired.within (calls stage rfl) rfl (.inl rfl) rfl rfl rfl
      (fun _ => wired.drawing (.inl stage)) (by simp)
  | refused stage =>
    exact wired.within (calls stage rfl) rfl (.inl rfl) rfl rfl rfl (by simp [RenderLoop.turned])
      (by simp [RenderLoop.turned])
  | plain stage =>
    exact wired.within (calls stage rfl) rfl (.inl rfl) rfl rfl rfl (by simp [RenderLoop.turned])
      (by simp [RenderLoop.turned])
  | @presented d succeeded logs stage =>
    exact wired.onward (by simp [RenderLoop.isOver, stage]) (by simp [RenderLoop.isOver])
      (.inl rfl) rfl rfl (.inl (withStack_of_ne _ _ other)) (by simp)
      (fun _ => ⟨succeeded, .inl (by simp)⟩) (by simp) (by simp)
  | @woke succeeded stage =>
    refine wired.onward (by simp [RenderLoop.isOver, stage]) (by simp [RenderLoop.isOver])
      (.inl rfl) rfl rfl (.inr ?_) (by simp) (fun _ => ⟨succeeded, .inr ?_⟩) (by simp) (by simp)
    · exact congrArg (List.map Activity.wake) (withStack_of_ne _ _ other)
    · simp [Activity.wake]
  | announced stage =>
    exact wired.onward (by simp [RenderLoop.isOver, stage])
      (by simp [RenderLoop.isOver, RenderLoop.turned]) (.inl rfl) rfl rfl
      (.inl (withStack_of_ne _ _ other)) (by simp [RenderLoop.turned]) (by simp [RenderLoop.turned])
      (by simp) (by simp [RenderLoop.turned])
  | cleared stage =>
    exact wired.ended (.inl rfl) rfl rfl rfl rfl rfl (wired.elsewhere (by simp [stage]))
      fun _ => wired.ending (.inl stage)
  | crashed running alive =>
    exact wired.ended (.inr rfl) rfl rfl alive rfl (withStack_of_ne _ _ other) (by simp) (by simp)

/-! ### The platform thread -/

omit [SurfaceDevice σ] in
/-- A move of the platform thread. -/
theorem Wired.beside {p : ThreadId} {s s' : Session σ} (wired : s.Wired p)
    (bus : s'.bus = { s.bus with queue := s'.bus.queue }) (loop : s'.loop = s.loop)
    (alive : s'.coordinator.surface.live = s.coordinator.surface.live)
    (render : s'.stack renderThread = s.stack renderThread)
    (request : s'.stack p = [] ∨ ∃ a : Activity, s'.stack p = [a] ∧ a.IsRequest)
    (stopped : s'.stopRequested = true → s'.stack p = [])
    (ending : s.stopRequested = true → s'.stopRequested = true) : s'.Wired p where
  unbounded := by rw [bus]; exact wired.unbounded
  consumer := by rw [bus]; exact wired.consumer
  isOpen := by rw [bus, loop]; exact wired.isOpen
  drawing := by rw [loop]; exact wired.drawing
  presenting := by rw [loop, render]; exact wired.presenting
  elsewhere := by rw [loop, render]; exact wired.elsewhere
  alive := alive.trans wired.alive
  request := request
  stopped := stopped
  ending := by rw [loop]; exact fun past => ending (wired.ending past)

omit [SurfaceDevice σ] in
theorem Wired.running {p : ThreadId} {s : Session σ} {a : Activity} (wired : s.Wired p)
    (top : s.stack p = [a]) : s.stopRequested = false := by
  rw [← Bool.not_eq_true]
  intro stop
  rw [wired.stopped stop] at top
  cases top

omit [SurfaceDevice σ] in
theorem send_keeps {s : Session σ} {p : ThreadId} (wired : s.Wired p) (e : EngineEvent) :
    (s.bus.send e).1 = { s.bus with queue := (s.bus.send e).1.queue } := by
  cases isOpen : s.bus.isOpen with
  | true => rw [Bus.send_of_open e wired.unbounded isOpen]
  | false => rw [Bus.send_of_closed e isOpen]

/-- Every move keeps the wiring. -/
theorem Wired.step {p : ThreadId} {s : Session σ} {m : DriveMove} {moved : SessionMoved σ}
    (other : p ≠ renderThread) (wired : s.Wired p) (made : Driven p s m moved) :
    moved.next.Wired p := by
  have aside : ∀ stack, (s.withStack p stack).stack renderThread = s.stack renderThread :=
    fun stack => withStack_of_ne _ _ other.symm
  cases made with
  | @asked size free running =>
    exact wired.beside rfl rfl rfl (aside _) (.inr ⟨.entering size, by simp, trivial⟩)
      (by simp [running]) id
  | used free running handshake loop stopRequested bus =>
    refine wired.beside bus loop ?_ (stack_of_handshake handshake _)
      (.inl ((stack_of_handshake handshake p).trans free)) (by simp [stopRequested, running])
      (by simp [running])
    rw [coordinator_of_handshake handshake]
  | @registered size episode c es top entry =>
    have alive : c.surface.live = s.coordinator.surface.live := by cases entry <;> rfl
    exact wired.beside rfl rfl alive (aside _) (.inr ⟨.telling size episode, by simp, trivial⟩)
      (by simp [wired.running top]) id
  | @told size episode records top =>
    exact wired.beside (send_keeps wired _) rfl rfl (aside _)
      (.inr ⟨.told size episode, by simp, trivial⟩) (by simp [wired.running top]) id
  | done top =>
    exact wired.beside rfl rfl rfl (aside _) (.inl (by simp)) (by simp) id
  | released top waiting past =>
    exact wired.beside rfl rfl rfl (aside _) (.inl (by simp)) (by simp) id
  | @slept a episode records top waiting outstanding =>
    exact wired.beside rfl rfl rfl (aside _) (.inr ⟨.asleep episode, by simp, trivial⟩)
      (by simp [wired.running top]) id
  | stopped free running =>
    exact wired.beside rfl rfl rfl rfl (.inl free) (fun _ => free) fun _ => rfl
  | rendered made => exact wired.render other made

theorem Drives.wired {p : ThreadId} {start s : Session σ} {steps : List (DriveStep σ)}
    (drives : Drives p start steps s) (other : p ≠ renderThread) (wired : start.Wired p) :
    s.Wired p :=
  Path.invariant drives wired fun wired taken => wired.step other (driven other wired taken)

end Session

end HostView
