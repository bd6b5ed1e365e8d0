import HostView.Proofs.Render.Headless

/-!
# A drag does not depend on the schedule

A drag over a headless surface leads to the same resizes, the same announcements to the window and
the same metrics for the engine however the two threads take turns, and every frame that the
render thread has counted was presented.
-/

namespace HostView

/-- How many resizes have been made for which no frame has been presented. -/
def ResizePhase.unpresented : ResizePhase → Nat
  | .frameReady => 1
  | _ => 0

theorem RenderLoop.turned_frames (l : RenderLoop) (succeeded : Bool) :
    (l.turned succeeded).frames = l.frames + succeeded.toNat := by
  cases succeeded <;> rfl

namespace Session

section AnyDevice

variable {σ : Type} {s : Session σ} {p : ThreadId} {b : Size} {steps : List (DriveStep σ)}
  {m : DriveMove} {moved : SessionMoved σ}

/-- How often the window was told that it has been resized. -/
def announcements (steps : List (DriveStep σ)) : Nat :=
  ((seen steps).filterMap Event.announcement).length

/-- How often the window is still to be told: of a frame that is ready, and of a swap that has not
returned. -/
def unannounced (s : Session σ) : Nat :=
  s.coordinator.phase.unpresented + (s.stack renderThread).length

/-- What a swap that has not returned yet will add to the frames of the render loop. -/
def uncounted (s : Session σ) : Nat :=
  match s.stack renderThread with
  | [.waking succeeded] | [.announcing succeeded] => succeeded.toNat
  | _ => 0

/-- A call of the platform thread returns. -/
structure Returns (x : DriveStep σ) : Prop where
  move : x.move = .proceed
  reply : x.result.reply = some (.returned .done)

theorem announcements_snoc (steps : List (DriveStep σ)) (x : DriveStep σ) :
    announcements (steps ++ [x]) =
      announcements steps + (x.result.events.filterMap Event.announcement).length := by
  rw [announcements, seen_snoc, List.filterMap_append, List.length_append, announcements]

variable [SurfaceDevice σ]

section Step

variable {t : Session σ} {es : List Event}

omit [SurfaceDevice σ] in
theorem announced_of_seen {a : List WindowCall} {l : List Size}
    (heard : es.filterMap Event.announcement = a) (saw : es.filterMap Event.resizedTo = l)
    (sum : a.length + unannounced t = unannounced s + l.length) :
    (es.filterMap Event.announcement).length + unannounced t =
      unannounced s + (es.filterMap Event.resizedTo).length := by
  rw [heard, saw, sum]

omit [SurfaceDevice σ] in
theorem announced_of_quiet (heard : es.filterMap Event.announcement = [])
    (saw : es.filterMap Event.resizedTo = []) (phase : t.coordinator.phase = s.coordinator.phase)
    (stack : t.stack renderThread = s.stack renderThread) :
    (es.filterMap Event.announcement).length + unannounced t =
      unannounced s + (es.filterMap Event.resizedTo).length := by
  refine announced_of_seen heard saw ?_
  rw [unannounced, unannounced, phase, stack]
  exact Nat.zero_add _

end Step

/-- A swap announces the resize that it presents. -/
theorem announced_render (wired : s.Wired p) (made : Rendered s moved)
    (alive : moved.next.loop.stage ≠ .crashed) :
    (moved.events.filterMap Event.announcement).length + unannounced moved.next =
      unannounced s + (moved.events.filterMap Event.resizedTo).length := by
  have looks := Event.observer_resizedTo
  have hears := Event.observer_announcement
  cases made with
  | started =>
    refine announced_of_quiet ?_ ?_ rfl rfl
    · rw [List.filterMap_append, hears.guarded, hears.answered, hears.logs]
      rfl
    · rw [List.filterMap_append, looks.guarded, looks.answered, looks.logs]
      rfl
  | passed =>
    refine announced_of_quiet ?_ ?_ rfl rfl
    · rw [hears.guarded, hears.logs]
    · rw [looks.guarded, looks.logs]
  | failed =>
    refine announced_of_quiet ?_ ?_ rfl rfl
    · rw [hears.guarded, List.filterMap_append, hears.answered]
      rfl
    · rw [looks.guarded, List.filterMap_append, looks.answered]
      rfl
  | readied _ asked =>
    refine announced_of_seen (a := []) (l := [s.loop.size]) ?_ ?_ ?_
    · rw [hears.guarded, List.filterMap_append, hears.answered, List.filterMap_append,
        hears.answered]
      rfl
    · rw [looks.guarded, List.filterMap_append, looks.answered, List.filterMap_append,
        looks.answered]
      rfl
    · rw [unannounced, unannounced, asked]
      simp only [ResizePhase.unpresented, atStage_coordinator, atStage_stack,
        withCoordinator_coordinator, withCoordinator_stack, List.length_nil, List.length_singleton]
      omega
  | plain =>
    refine announced_of_quiet ?_ ?_ rfl rfl
    · rw [hears.guarded, hears.answered]
      rfl
    · rw [looks.guarded, looks.answered]
      rfl
  | presented stage ready =>
    have before : s.stack renderThread = [] := wired.elsewhere (by simp [stage])
    refine announced_of_seen (a := []) (l := []) ?_ ?_ ?_
    · rw [hears.guarded, hears.answered]
      rfl
    · rw [looks.guarded, looks.answered]
      rfl
    · rw [unannounced, unannounced, ready, before, atStage_stack, withStack_same]
      rfl
  | woke stage top =>
    refine announced_of_seen (a := []) (l := []) rfl rfl ?_
    rw [unannounced, unannounced, top]
    exact Nat.zero_add _
  | announced stage top =>
    refine announced_of_seen (a := [.resized]) (l := []) ?_ ?_ ?_
    · rw [List.filterMap_cons_some (f := Event.announcement) rfl, hears.logs]
    · rw [List.filterMap_cons_none (f := Event.resizedTo) rfl, looks.logs]
    · rw [unannounced, unannounced, top, withLoop_stack, withStack_same]
      exact Nat.add_comm ..
  | cleared =>
    refine announced_of_quiet ?_ ?_ rfl rfl
    · rw [List.filterMap_append, hears.guarded, hears.answered]
      rfl
    · rw [List.filterMap_append, looks.guarded, looks.answered]
      rfl
  | crashed => exact absurd rfl alive
  | _ => exact announced_of_quiet rfl rfl rfl rfl

/-- Every resize of the surface is announced to the window once. -/
theorem announced_step (live : Live b p steps s) (other : p ≠ renderThread)
    (made : Driven p s m moved) (alive : moved.next.loop.stage ≠ .crashed) :
    (moved.events.filterMap Event.announcement).length + unannounced moved.next =
      unannounced s + (moved.events.filterMap Event.resizedTo).length := by
  have looks := Event.observer_resizedTo
  have hears := Event.observer_announcement
  have apart (t : Session σ) (stack : List Activity) :
      (t.withStack p stack).stack renderThread = t.stack renderThread :=
    withStack_of_ne _ _ other.symm
  cases made with
  | asked => exact announced_of_quiet rfl rfl rfl (apart ..)
  | used _ _ handshake _ _ _ _ aside =>
    refine announced_of_quiet (List.filterMap_eq_nil_iff.2 fun e mem => ?_)
      (List.filterMap_eq_nil_iff.2 fun e mem => ?_)
      (congrArg Coordinator.phase (coordinator_of_handshake handshake))
      (stack_of_handshake handshake _)
    · exact Event.announcement_of_aside (aside e mem)
    · exact Event.resizedTo_of_aside (aside e mem)
  | registered top entry =>
    obtain ⟨-, -, calm, -⟩ := live.standing.of_entering top
    have idle : s.coordinator.phase = .idle := calm.idle
    cases entry with
    | empty => exact announced_of_quiet rfl rfl rfl (apart ..)
    | current => exact announced_of_quiet rfl rfl rfl (apart ..)
    | started =>
      refine announced_of_seen (a := []) (l := []) rfl rfl ?_
      rw [unannounced, unannounced, apart, idle]
      exact Nat.zero_add _
    | retargeted _ busy => exact absurd idle busy
  | told =>
    refine announced_of_quiet ?_ ?_ rfl (apart ..)
    · rw [List.filterMap_cons_none rfl, List.filterMap_cons_none rfl, hears.logs]
    · rw [List.filterMap_cons_none rfl, List.filterMap_cons_none rfl, looks.logs]
  | done => exact announced_of_quiet rfl rfl rfl (apart ..)
  | released =>
    refine announced_of_quiet ?_ ?_ rfl (apart ..)
    · rw [hears.guarded, hears.logs]
    · rw [looks.guarded, looks.logs]
  | slept =>
    refine announced_of_quiet ?_ ?_ rfl (apart ..)
    · rw [hears.guarded, hears.logs]
    · rw [looks.guarded, looks.logs]
  | stopped => exact announced_of_quiet rfl rfl rfl rfl
  | rendered made => exact announced_render live.wired made alive

end AnyDevice

/-! ### Over a headless surface -/

section Headless

variable {p : ThreadId} {b : Size} {start s : Session Headless}
  {steps : List (DriveStep Headless)} {m : DriveMove} {moved : SessionMoved Headless}

/-- The frames that a headless surface has presented. -/
def framesPresented (s : Session Headless) : Nat :=
  s.coordinator.surface.device.stats.framesPresented

/-- Every frame that the render loop counts was presented, and every other was not. -/
theorem counted_render (wired : s.Wired p) (owned : s.Owned) (made : Rendered s moved)
    (counted : framesPresented s = s.loop.frames + uncounted s) :
    framesPresented moved.next = moved.next.loop.frames + uncounted moved.next := by
  have silent (stage : s.loop.stage ≠ .presenting) : uncounted s = 0 := by
    rw [uncounted, wired.elsewhere stage]
  cases made with
  | started _ answer => cases answer; exact counted
  | @took e => cases e <;> exact counted
  | @received e => cases e <;> exact counted
  | failed stage _ answer =>
    rw [Headless.resize_of_target owned (wired.drawing (.inl stage))] at answer
    cases answer
  | readied stage _ answer answer' =>
    rw [Headless.resize_of_target owned (wired.drawing (.inl stage))] at answer
    cases answer
    cases answer'
    exact counted
  | @plain d succeeded logs stage _ answer =>
    have swapped := (Headless.swap_spec answer).2
    have idle := silent (by simp [stage])
    change d.stats.framesPresented = (s.loop.turned succeeded).frames + uncounted s
    change s.coordinator.surface.device.stats.framesPresented = _ at counted
    rw [swapped, counted, RenderLoop.turned_frames]
    omega
  | @presented d succeeded logs stage _ answer =>
    have swapped := (Headless.swap_spec answer).2
    have idle := silent (by simp [stage])
    change s.coordinator.surface.device.stats.framesPresented = _ at counted
    change d.stats.framesPresented = s.loop.frames + succeeded.toNat
    omega
  | @woke succeeded _ top =>
    rw [uncounted, top] at counted
    exact counted
  | @announced succeeded r _ top =>
    rw [uncounted, top] at counted
    change framesPresented s = (s.loop.turned succeeded).frames + 0
    rw [RenderLoop.turned_frames]
    exact counted
  | cleared _ answer => cases answer; exact counted
  | crashed _ _ answer => exact absurd answer Headless.not_panicked
  | _ => exact counted

theorem counted_step (wired : s.Wired p) (owned : s.Owned) (other : p ≠ renderThread)
    (made : Driven p s m moved) (counted : framesPresented s = s.loop.frames + uncounted s) :
    framesPresented moved.next = moved.next.loop.frames + uncounted moved.next := by
  have kept {t : Session Headless} (presented : framesPresented t = framesPresented s)
      (loop : t.loop = s.loop) (stack : t.stack renderThread = s.stack renderThread) :
      framesPresented t = t.loop.frames + uncounted t := by
    rw [presented, loop, uncounted, stack, counted, uncounted]
  have apart (t : Session Headless) (stack : List Activity) :
      (t.withStack p stack).stack renderThread = t.stack renderThread :=
    withStack_of_ne _ _ other.symm
  cases made with
  | used _ _ handshake loop =>
    refine kept ?_ loop (stack_of_handshake handshake _)
    rw [framesPresented, framesPresented, coordinator_of_handshake handshake]
  | registered _ entry => cases entry <;> exact kept rfl rfl (apart ..)
  | stopped => exact kept rfl rfl rfl
  | rendered made => exact counted_render wired owned made counted
  | _ => exact kept rfl rfl (apart ..)

/-- What is announced and what is counted agrees with what the surface has done. -/
theorem Drives.tallied (drives : Drives p start steps s) (other : p ≠ renderThread)
    (opened : Opened b start) :
    announcements steps + unannounced s = (resized steps).length ∧
      framesPresented s = s.loop.frames + uncounted s := by
  induction drives with
  | nil =>
    refine ⟨?_, ?_⟩
    · rw [unannounced, opened.fresh.idle, opened.fresh.free]
      rfl
    · rw [framesPresented, opened.made, Headless.create, opened.full, opened.fresh.loop, uncounted,
        opened.fresh.free]
      rfl
  | @snoc steps s m moved path taken ih =>
    have live := Drives.live_of_opened path other opened
    have owned := (Drives.wentWell path other opened).1
    have made := driven other live.wired taken
    have alive := (Drives.live_of_opened (path.snoc taken) other opened).alive
    obtain ⟨announced, counted⟩ := ih
    refine ⟨?_, counted_step live.wired owned other made counted⟩
    have step := announced_step live other made alive
    rw [announcements_snoc, resized_snoc, List.length_append, ← announced, Nat.add_assoc, step,
      Nat.add_assoc]

/-- Nobody but the owner of the render thread waits for its end. -/
theorem Drives.joined (drives : Drives p start steps s) (other : p ≠ renderThread)
    (opened : Opened b start) : s.joined = false := by
  induction drives with
  | nil => exact opened.fresh.unjoined
  | @snoc steps s m moved path taken ih =>
    have made := driven other (Drives.live_of_opened path other opened).wired taken
    cases made with
    | used _ _ _ _ _ _ _ _ joined => exact joined.trans ih
    | rendered made => cases made <;> exact ih
    | _ => exact ih

/-- The platform thread is free when its call has returned. -/
theorem free_of_returns {x : DriveStep Headless} (made : Driven p x.before x.move x.result)
    (returns : Returns x) : x.result.next.stack p = [] := by
  obtain ⟨move, reply⟩ := returns
  obtain ⟨t, m, moved⟩ := x
  change Driven p t m moved at made
  change m = .proceed at move
  change moved.reply = _ at reply
  subst move
  cases made with
  | registered => cases reply
  | told => cases reply
  | done => exact withStack_same ..
  | released => exact withStack_same ..
  | slept => cases reply

/-- However the platform thread and the render loop take turns, every call returns at its size
unless that has no pixels; and when all calls have returned and the render thread has ended, the
surface was resized as if the calls had been made one by one (`Size.resizes`), every resize was
announced, the engine was told all sizes in their order, and whoever stops the render thread gets
the number of frames that were presented, and nothing when it is stopped again. -/
theorem drag_independent_of_schedule (other : p ≠ renderThread) (opened : Opened b start)
    (drives : Drives p start steps s) :
    (∀ {l l' : List (DriveStep Headless)} {x : DriveStep Headless} {size : Size},
      steps = l ++ x :: l' → Returns x → (asked l).getLast? = some size → size.isEmpty = false →
        x.result.next.coordinator.surface.dimensions = size) ∧
      (s.stack p = [] → s.loop.stage = .finished →
        resized steps = Size.resizes b (asked steps) ∧
        announcements steps = (Size.resizes b (asked steps)).length ∧
        told steps = (asked steps).map (⟨·, start.view.handshake.scale⟩) ∧
        ∃ ended, s.join = some (framesPresented s, ended) ∧ ended.join = some (0, ended)) := by
  refine ⟨?_, ?_⟩
  · rintro l l' x size rfl returns last full
    rw [List.append_cons] at drives
    obtain ⟨t, path, -⟩ := Path.of_append drives
    have live := Drives.live_of_opened path other opened
    obtain ⟨path', taken, rfl⟩ := Path.of_snoc path
    have made := driven other (Drives.live_of_opened path' other opened).wired taken
    have unasked : x.move.size = none := by rw [returns.move]; rfl
    obtain ⟨-, reached⟩ := live.standing.of_free (free_of_returns made returns)
    obtain ⟨before, all⟩ := List.getLast?_eq_some_iff.1 last
    have dims := reached.dims
    rw [asked_snoc, unasked, all, Option.toList_none, List.append_nil,
      Size.after_of_full before full] at dims
    exact dims
  · intro free finished
    have live := Drives.live_of_opened drives other opened
    obtain ⟨calm, reached⟩ := live.standing.of_free free
    obtain ⟨announced, counted⟩ := Drives.tallied drives other opened
    have done : s.stack renderThread = [] := live.wired.elsewhere (by simp [finished])
    have idle : s.coordinator.phase = .idle := calm.idle
    rw [unannounced, done, idle, reached.resized] at announced
    rw [uncounted, done] at counted
    obtain ⟨-, all⟩ := Drives.told_asked drives other opened.fresh
    rw [free] at all
    have first : s.join = some (framesPresented s, { s with joined := true }) := by
      rw [join, Drives.joined drives other opened, counted, frames, finished]
      simp [RenderLoop.isOver, finished]
    exact ⟨reached.resized, announced, (List.append_nil _).symm.trans all, _, first, rfl⟩

/-- The window grows, is hidden, and is shown again, before the render thread is stopped. -/
def dragMoves : List DriveMove :=
  [.render, .resize ⟨1024, 768⟩, .proceed, .proceed, .proceed] ++ List.replicate 8 .render ++
    [.proceed, .resize ⟨0, 0⟩, .proceed, .proceed, .proceed, .resize ⟨1024, 768⟩, .proceed,
      .proceed, .proceed, .stop, .render, .render]

/-- The steps of these moves. -/
def dragSteps : List (DriveStep Headless) :=
  Path.record (drive 1) SessionMoved.next desk dragMoves

/-- Only the first of the three sizes is drawn, once. -/
theorem growing_window_dragged :
    ∃ s ended : Session Headless, Drives 1 desk dragSteps s ∧
      (dragSteps.get ⟨13, by decide⟩).result.next.coordinator.surface.dimensions = ⟨1024, 768⟩ ∧
        resized dragSteps = [⟨1024, 768⟩] ∧ announcements dragSteps = 1 ∧
          told dragSteps = [⟨⟨1024, 768⟩, 1.0⟩, ⟨⟨0, 0⟩, 1.0⟩, ⟨⟨1024, 768⟩, 1.0⟩] ∧
            s.join = some (1, ended) ∧ ended.join = some (0, ended) := by
  have cut : dragSteps = dragSteps.take 13 ++ dragSteps.get ⟨13, by decide⟩ :: dragSteps.drop 14 :=
    rfl
  have last : dragSteps = dragSteps.take 24 ++ [dragSteps.get ⟨24, by decide⟩] := rfl
  obtain ⟨s, drives⟩ : ∃ s, Drives 1 desk dragSteps s := Path.recorded desk dragMoves
  obtain ⟨returned, ends⟩ := drag_independent_of_schedule (by decide) desk_opened drives
  rw [last] at drives
  obtain ⟨-, -, rfl⟩ := Path.of_snoc drives
  rw [← last] at drives
  obtain ⟨surface, announced, engine, ended, first, again⟩ := ends rfl rfl
  have dims := returned cut ⟨rfl, rfl⟩ rfl rfl
  exact ⟨_, ended, drives, dims, surface, announced, engine, first, again⟩

end Headless

end Session

end HostView
