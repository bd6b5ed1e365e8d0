import HostView.Proofs.Render.Headless

/-!
# The platform thread is released

A platform thread that waits keeps the render thread from being stopped, and its size is the last
one on its way to the render loop.  A turn that begins then ends the episode, two turns release the
thread, and a bounded number of moves of the render thread is enough for that (`Session.toGo`),
however the two threads take turns.  The view is idle at the end of such a turn, unless the thread
that it has released was quick enough to ask again (`Session.asked_again_within_turn`).
-/

namespace HostView

/-- Whether the render thread moves. -/
def DriveMove.isRender : DriveMove → Bool
  | .render => true
  | _ => false

namespace Session

section AnyDevice

variable {σ : Type} [SurfaceDevice σ] {p : ThreadId} {start s s' : Session σ} {b : Size}
  {steps l : List (DriveStep σ)} {m : DriveMove} {moved : SessionMoved σ} {e : Nat}

/-! ### What is on its way -/

/-- Only a call begins something. -/
theorem free_step (other : p ≠ renderThread) (free : s.stack p = []) (made : Driven p s m moved)
    (uncalled : m.size = none) : moved.next.stack p = [] := by
  cases made with
  | asked => cases uncalled
  | used _ _ handshake => exact (stack_of_handshake handshake p).trans free
  | registered top => simp [free] at top
  | told top => simp [free] at top
  | done top => simp [free] at top
  | released top => simp [free] at top
  | slept top => simp [free] at top
  | stopped => exact free
  | rendered made =>
    obtain ⟨-, same | woken⟩ := apart_of_rendered other made
    · rw [same, free]
    · rw [woken, free]
      rfl

theorem Drives.asked_of_busy (drives : Drives p start steps s) (other : p ≠ renderThread)
    (fresh : Fresh b start) (busy : s.stack p ≠ []) : asked steps ≠ [] := by
  induction drives with
  | nil => exact absurd (fresh.free p) busy
  | @snoc steps s m moved path taken ih =>
    have made := driven other (Drives.wired path other (fresh.wired p)) taken
    intro uncalled
    rw [asked_snoc, List.append_eq_nil_iff] at uncalled
    obtain ⟨unasked, called⟩ := uncalled
    have free : s.stack p = [] := by
      by_contra busy'
      exact ih busy' unasked
    exact busy (free_step other free made (by simpa using called))

/-- The size is the last one on its way to the render loop, or it has got there. -/
def OnItsWay (s : Session σ) (size : Size) : Prop :=
  s.bus.sizes.getLast? = some size ∨ s.bus.sizes = [] ∧ s.loop.size = size

/-- What was told last is the size that a waiting thread waits for. -/
theorem Drives.newest (drives : Drives p start steps s) (other : p ≠ renderThread)
    (fresh : Fresh b start) (waits : s.WaitsFor p e) :
    ∃ w, (asked steps).getLast? = some w ∧
      (told steps).getLast? = some ⟨w, start.view.handshake.scale⟩ ∧
        (s.loop.stage = .crashed ∧ Panicked steps ∨ s.OnItsWay w) := by
  obtain ⟨a, top, kind⟩ := waits.cases
  obtain ⟨-, all⟩ := Drives.told_asked drives other fresh
  have sent : unsent (s.stack p) = [] := by
    rw [top]
    obtain ⟨size, rfl⟩ | rfl | rfl := kind <;> rfl
  rw [sent, List.map_nil, List.append_nil] at all
  obtain ⟨w, last⟩ : ∃ w, (asked steps).getLast? = some w :=
    Option.ne_none_iff_exists'.1 fun none_asked =>
      Drives.asked_of_busy drives other fresh (by simp [top]) (by simpa using none_asked)
  refine ⟨w, last, by rw [all, List.getLast?_map, last]; rfl, ?_⟩
  obtain crashed | live := Drives.live drives other fresh
  · exact .inl crashed
  · obtain ⟨size, waiting⟩ := waits
    obtain ⟨-, w', last', -, pipe, -⟩ := live.standing.of_waiting waiting
    obtain rfl : w = w' := Option.some.inj (last.symm.trans last')
    change (s.loop.size :: s.bus.sizes).getLast? = some w at pipe
    right
    cases sizes : s.bus.sizes with
    | nil =>
      rw [sizes] at pipe
      exact .inr ⟨sizes, Option.some.inj pipe⟩
    | cons first rest =>
      rw [sizes, List.getLast?_cons_cons] at pipe
      exact .inl (by rwa [sizes])

/-! ### Turns -/

/-- A thread that makes no new call is still in its old one, or in none. -/
theorem waiting_or_free (live : Live b p steps s) (other : p ≠ renderThread)
    (waits : s.WaitsFor p e) (drives : Drives p s l s') (well : ∀ x ∈ l, WentWell x)
    (uncalled : ∀ x ∈ l, x.move.size = none) : s'.WaitsFor p e ∨ s'.stack p = [] := by
  refine (live.keeps (P := fun l t => (∀ x ∈ l, x.move.size = none) →
    t.WaitsFor p e ∨ t.stack p = []) other drives well (fun _ => .inl waits) ?_).2 uncalled
  intro l t m moved live' made well' alive before uncalled
  obtain waits' | free := before fun x mem => uncalled x (by simp [mem])
  · obtain still | ⟨free, -⟩ := waiting_step other waits' made
    · exact .inl still
    · exact .inr free
  · exact .inr (free_step other free made (uncalled ⟨t, m, moved⟩ (by simp)))

/-- A turn that begins while the thread waits ends with the episode presented, and with the view
idle if the thread has not asked for another size by then; it can only do so when the view is idle
and its episode is presented. -/
theorem turn_presents {x : DriveStep σ} (live : Live b p steps s) (other : p ≠ renderThread)
    (waits : s.WaitsFor p e) (begun : s.loop.stage = .testing ∨ s.loop.stage = .receiving)
    (drives : Drives p s (l ++ [x]) s') (well : ∀ y ∈ l ++ [x], WentWell y) (ends : EndsTurn x) :
    e ≤ s'.coordinator.presented ∧
      ((∀ y ∈ l ++ [x], y.move.size = none) → s'.coordinator.phase = .idle) ∧
        ∀ y ∈ l ++ [x], y.move.size ≠ none →
          y.before.coordinator.phase = .idle ∧ e ≤ y.before.coordinator.presented := by
  have past : e ≤ s'.coordinator.presented := by
    have onTrack : s.OnTrack := begun.elim .inl fun receiving => .inr (.inl receiving)
    obtain past | ⟨-, -, going⟩ := onTrack_course live other waits onTrack drives well
    · exact past
    · exact absurd ends (going x (by simp))
  refine ⟨past, fun uncalled => ?_, fun y mem size => ?_⟩
  · have live' := live.course other drives well
    obtain ⟨size, waiting⟩ | free := waiting_or_free live other waits drives well uncalled
    · obtain ⟨-, last, -, -, -, outlook⟩ := live'.standing.of_waiting waiting
      cases outlook with
      | asked _ outstanding => exact absurd past (Nat.not_le.2 outstanding)
      | ready _ outstanding => exact absurd past (Nat.not_le.2 outstanding)
      | past idle => exact idle
    · exact (live'.standing.of_free free).1.idle
  · obtain ⟨k, k', cut⟩ := List.append_of_mem mem
    have early : ∀ z ∈ k, WentWell z := fun z mem => well z (by rw [cut]; simp [mem])
    rw [cut] at drives
    obtain ⟨path, taken, -⟩ := Path.split drives
    have live' := live.course other path early
    have free : y.before.stack p = [] := by
      have made := driven other live'.wired taken
      generalize y.move = move at made size
      generalize y.result = result at made
      cases made with
      | asked free => exact free
      | _ => exact absurd rfl size
    obtain ⟨calm, -⟩ := live'.standing.of_free free
    refine ⟨calm.idle, ?_⟩
    obtain ⟨size', waiting⟩ | past' := waiting_course live other waits path early
    · rw [free] at waiting
      cases waiting
    · exact past'

omit [SurfaceDevice σ] in
/-- A thread is released once its episode has been presented and nobody is about to wake it. -/
theorem Live.released (live : Live b p steps s) (past : e ≤ s.coordinator.presented)
    (awake : s.loop.stage ≠ .presenting) : s.Released p e := by
  refine ⟨past, fun asleep => ?_⟩
  obtain ⟨succeeded, waking⟩ := live.aligned.waking e asleep past
  rw [live.wired.elsewhere awake] at waking
  cases waking

/-- Whoever has been released stays so. -/
theorem released_step (live : Live b p steps s) (other : p ≠ renderThread)
    (released : s.Released p e) (made : Driven p s m moved)
    (alive : moved.next.loop.stage ≠ .crashed) : moved.next.Released p e := by
  refine ⟨Nat.le_trans released.past (presented_step live.standing made alive), ?_⟩
  cases made with
  | asked => simp
  | used free _ handshake => simp [stack_of_handshake handshake, free]
  | registered => simp
  | told => simp
  | done => simp
  | released => simp
  | slept top waiting outstanding =>
    have past := released.past
    rw [withStack_same, ne_eq, List.cons.injEq, Activity.asleep.injEq]
    rintro ⟨rfl, -⟩
    omega
  | stopped => exact released.awake
  | rendered made =>
    obtain ⟨-, same | woken⟩ := apart_of_rendered other made
    · rw [same]
      exact released.awake
    · rw [woken]
      intro asleep
      obtain ⟨a, -, awake⟩ := List.map_eq_singleton_iff.1 asleep
      cases a <;> cases awake

/-- After the end of the turn that the render loop is in, and of the next one, the thread has been
released. -/
theorem two_turns_release {x y : DriveStep σ} {l' : List (DriveStep σ)} (live : Live b p steps s)
    (other : p ≠ renderThread) (waits : s.WaitsFor p e)
    (drives : Drives p s (l ++ x :: (l' ++ [y])) s')
    (well : ∀ z ∈ l ++ x :: (l' ++ [y]), WentWell z) (first : EndsTurn x)
    (second : EndsTurn y) : s'.Released p e := by
  have all := live.course other drives well
  rw [List.append_cons] at drives well
  obtain ⟨t, path, path'⟩ := Path.of_append drives
  have early : ∀ z ∈ l ++ [x], WentWell z := fun z mem => well z (List.mem_append_left _ mem)
  have late : ∀ z ∈ l' ++ [y], WentWell z := fun z mem => well z (List.mem_append_right _ mem)
  have live' := live.course other path early
  obtain ⟨-, -, rfl⟩ := Path.of_snoc path
  obtain ⟨-, -, rfl⟩ := Path.of_snoc path'
  refine all.released ?_ (by simp [second.ended])
  obtain waits' | past := waiting_course live other waits path early
  · exact (turn_presents live' other waits' (.inl first.ended) path' late second).1
  · exact Nat.le_trans past (presented_course live' other path' late)

/-! ### Moves -/

omit [SurfaceDevice σ] in
/-- How many moves the render thread still needs, at most, until it has presented an episode that
is outstanding and has woken the thread that waits for it. -/
def toGo (s : Session σ) : Nat :=
  match s.loop.stage with
  | .starting => s.bus.queue.length + 7
  | .testing => s.bus.queue.length + 6
  | .receiving => s.bus.queue.length + 5
  | .draining => s.bus.queue.length + 4
  | .acquiring => if s.bus.sizes = [] then 3 else s.bus.queue.length + 8
  | .swapping => if s.coordinator.phase = .frameReady then 2 else s.bus.queue.length + 7
  | .presenting =>
    match s.stack renderThread with
    | [.waking _] => s.bus.queue.length + 8
    | _ => s.bus.queue.length + 7
  | .clearing | .finished | .crashed => 1

omit [SurfaceDevice σ] in
theorem toGo_le (s : Session σ) : s.toGo ≤ s.bus.queue.length + 8 := by
  unfold toGo
  split
  all_goals try split
  all_goals omega

omit [SurfaceDevice σ] in
theorem toGo_pos (s : Session σ) : 0 < s.toGo := by
  unfold toGo
  split
  all_goals try split
  all_goals omega

omit [SurfaceDevice σ] in
theorem toGo_withStack (s : Session σ) (stack : List Activity) (other : p ≠ renderThread) :
    (s.withStack p stack).toGo = s.toGo := by
  have apart := withStack_of_ne s stack other.symm
  unfold toGo
  rw [apart]
  rfl

/-- While an episode is outstanding, every move of the render thread brings it nearer. -/
theorem toGo_render (live : Live b p steps s) (waits : s.WaitsFor p e)
    (outstanding : s.coordinator.presented < e) (made : Rendered s moved)
    (well : WentWell ⟨s, .render, moved⟩) :
    moved.next.toGo < s.toGo ∨ e ≤ moved.next.coordinator.presented ∧ 1 < s.toGo := by
  have running : s.stopRequested = false := by
    obtain ⟨a, top, -⟩ := waits.cases
    exact live.wired.running top
  obtain ⟨size, waiting⟩ := id waits
  obtain ⟨newest, last, -, -, -, outlook⟩ := live.standing.of_waiting waiting
  cases made with
  | started stage => exact .inl (by simp [toGo, stage])
  | tested stage => exact .inl (by simp [toGo, stage, running])
  | idled stage empty => exact .inl (by simp [toGo, stage, empty])
  | received stage queue =>
    left
    simp only [toGo, stage, queue, atStage_stage, atStage_bus, withLoop_bus, left_queue,
      List.length_cons]
    omega
  | drained stage empty =>
    have none_left : s.bus.sizes = [] := by rw [Bus.sizes, empty]; rfl
    obtain ⟨full, -⟩ := size_of_waiting live.standing waits none_left outstanding
    exact .inl (by simp [toGo, stage, full, Bus.sizes])
  | @took event q stage queue =>
    have still : (s.loop.consume event).stage = .draining := by cases event <;> exact stage
    left
    simp only [toGo, stage, still, queue, withLoop_loop, withLoop_bus, left_queue,
      List.length_cons]
    omega
  | passed stage other =>
    have unready : s.coordinator.phase ≠ .frameReady := by
      intro ready
      rw [live.aligned.swapping ready] at stage
      cases stage
    by_cases none_left : s.bus.sizes = []
    · obtain ⟨-, asked | ready⟩ := size_of_waiting live.standing waits none_left outstanding
      · exact absurd asked other
      · exact absurd ready unready
    · exact .inl (by simp [toGo, stage, none_left, unready])
  | @failed d error =>
    cases well
      ⟨.resize s.coordinator.surface.target s.loop.size, .returned (.error error)⟩ (by simp)
  | readied stage =>
    left
    simp only [toGo, stage, atStage_stage, atStage_coordinator, withCoordinator_coordinator,
      if_true]
    split <;> omega
  | refused stage asked => exact .inl (by simp [toGo, stage, asked, RenderLoop.turned])
  | plain stage idle =>
    cases outlook with
    | asked phase => cases idle.symm.trans phase
    | ready phase => cases idle.symm.trans phase
    | past _ past => exact absurd past (Nat.not_le.2 outstanding)
  | presented stage ready => exact .inr ⟨Nat.le_of_eq newest, by simp [toGo, stage, ready]⟩
  | woke stage top => exact .inl (by simp [toGo, stage, top, Activity.wake])
  | announced stage top => exact .inl (by simp [toGo, stage, top, RenderLoop.turned])
  | cleared stage =>
    rw [live.wired.ending (.inl stage)] at running
    cases running
  | crashed _ _ _ seen => simpa using well _ seen

/-- A thread that still sleeps when its episode has been presented is woken by the next move. -/
theorem released_of_over (live : Live b p steps s) (other : p ≠ renderThread)
    (waits : s.WaitsFor p e) (past : e ≤ s.coordinator.presented) (made : Driven p s m moved)
    (alive : moved.next.loop.stage ≠ .crashed) : moved.next.Released p e := by
  by_cases released : s.Released p e
  · exact released_step live other released made alive
  have asleep : s.stack p = [.asleep e] := by
    by_contra awake
    exact released ⟨past, awake⟩
  obtain ⟨succeeded, waking⟩ := live.aligned.waking e asleep past
  have stage : s.loop.stage = .presenting := by
    by_contra elsewhere
    rw [live.wired.elsewhere elsewhere] at waking
    cases waking
  refine ⟨Nat.le_trans past (presented_step live.standing made alive), ?_⟩
  obtain ⟨-, rendered⟩ | ⟨-, next, -⟩ | ⟨-, -, outstanding⟩ := driven_of_waiting waits made
  · cases rendered with
    | @woke succeeded =>
      have woken : (s.stack p).map Activity.wake ≠ [.asleep e] := by simp [asleep, Activity.wake]
      rw [← withStack_of_ne s [.announcing succeeded] other] at woken
      exact woken
    | announced _ top => rw [waking] at top; cases top
    | _ => simp_all
  · simp [next]
  · omega

/-- After so many moves of the render thread, however they are mixed with moves of the platform
thread, the thread has been released. -/
theorem moves_release (live : Live b p steps s) (other : p ≠ renderThread)
    (waits : s.WaitsFor p e) (drives : Drives p s l s') (well : ∀ x ∈ l, WentWell x)
    (enough : s.bus.queue.length + 8 ≤ l.countP (·.move.isRender)) : s'.Released p e := by
  have bound := toGo_le s
  generalize s.bus.queue.length + 8 = budget at enough bound
  -- until it is released, the moves made and the moves still to be made fit the budget
  have spent := (live.keeps (P := fun l t => t.Released p e ∨ t.WaitsFor p e ∧
    (t.coordinator.presented < e ∧ l.countP (·.move.isRender) + t.toGo ≤ budget ∨
      e ≤ t.coordinator.presented ∧ l.countP (·.move.isRender) < budget)) other drives well ?nil
    ?snoc).2
  case nil =>
    refine .inr ⟨waits, ?_⟩
    have pos := toGo_pos s
    obtain outstanding | past := Nat.lt_or_ge s.coordinator.presented e
    · exact .inl ⟨outstanding, by simpa using bound⟩
    · exact .inr ⟨past, by simp; omega⟩
  case snoc =>
    intro l t m moved live' made well' alive before
    have count : (l ++ [(⟨t, m, moved⟩ : DriveStep σ)]).countP (·.move.isRender) =
        l.countP (·.move.isRender) + m.isRender.toNat := by
      cases render : m.isRender <;> simp [render]
    obtain released | ⟨waits', ⟨outstanding, left⟩ | ⟨past, -⟩⟩ := before
    · exact .inl (released_step live' other released made alive)
    · obtain still | ⟨-, past⟩ := waiting_step other waits' made
      swap
      · omega
      refine .inr ⟨still, ?_⟩
      rw [count]
      obtain ⟨rfl, rendered⟩ | ⟨-, -, past, -⟩ | ⟨rfl, next, -⟩ := driven_of_waiting waits' made
      · have nearer := toGo_render live' waits' outstanding rendered well'
        have pos := toGo_pos moved.next
        have moves : DriveMove.render.isRender.toNat = 1 := rfl
        omega
      · omega
      · have same : moved.next.toGo = t.toGo := by rw [next, toGo_withStack t _ other]
        have presented : moved.next.coordinator.presented = t.coordinator.presented := by
          rw [next, withStack_coordinator]
        have moves : DriveMove.proceed.isRender.toNat = 0 := rfl
        omega
    · exact .inl (released_of_over live' other waits' past made alive)
  obtain released | ⟨-, ⟨-, left⟩ | ⟨-, left⟩⟩ := spent
  · exact released
  · have pos := toGo_pos s'
    omega
  · omega

/-! ### Both threads can move -/

/-- The next move of a thread that has been released ends its call. -/
theorem Released.returns (released : s.Released p e) (other : p ≠ renderThread)
    (wired : s.Wired p) (waits : s.WaitsFor p e) :
    ∃ moved, s.drive p .proceed = some moved ∧ moved.reply = some (.returned .done) ∧
      moved.next.stack p = [] := by
  obtain ⟨a, top, kind⟩ := waits.cases
  have awake : ∀ episode, a ≠ .asleep episode := by
    rintro episode rfl
    obtain ⟨_, told⟩ | same | woken := kind
    · cases told
    · exact released.awake (same ▸ top)
    · cases woken
  obtain ⟨moved, made⟩ := Option.isSome_iff_exists.1 (Handshake.proceed_isSome top awake)
  obtain ⟨moved, taken⟩ : ∃ moved, s.drive p .proceed = some moved := by
    rw [drive, step, if_neg other, Handshake.step, made]
    exact ⟨_, rfl⟩
  refine ⟨moved, taken, ?_⟩
  obtain ⟨call, -⟩ | ⟨-, next, -, reply⟩ | ⟨-, -, outstanding⟩ :=
    driven_of_waiting waits (driven other wired taken)
  · cases call
  · exact ⟨reply, by rw [next, withStack_same]⟩
  · exact absurd released.past (Nat.not_le.2 outstanding)

/-- The render thread can move until it has ended. -/
theorem render_isSome (wired : s.Wired p) (running : s.loop.isOver = false) :
    (s.drive p .render).isSome = true := by
  have receive : s.takeEvent = some (s.bus.queue.head?, s.left s.bus.queue.tail) := by
    rw [takeEvent, Bus.receive_of_owner wired.consumer]
    rfl
  change s.render.isSome = true
  cases stage : s.loop.stage with
  | receiving => cases queue : s.bus.queue <;> simp [render, stage, receive, queue]
  | draining => cases queue : s.bus.queue <;> simp [render, stage, receive, queue]
  | finished => simp [RenderLoop.isOver, stage] at running
  | crashed => simp [RenderLoop.isOver, stage] at running
  | _ => simp [render, stage]

end AnyDevice

/-! ### The platform thread does not hang -/

/-- The window grows before the first turn of the render loop; the platform thread waits when the
turn begins, and falls asleep in it. -/
def waitingMoves : List DriveMove := [.render, .resize ⟨1024, 768⟩, .proceed, .proceed]

/-- The steps of these moves. -/
def waitingSteps : List (DriveStep Headless) :=
  Path.record (drive 1) SessionMoved.next desk waitingMoves

/-- The window, with the platform thread waiting. -/
def waiting : Session Headless := (waitingSteps.get ⟨3, by decide⟩).result.next

theorem waitsFor_waiting : waiting.WaitsFor 1 1 := ⟨⟨1024, 768⟩, .told⟩

theorem drives_waiting : Drives 1 desk waitingSteps waiting := by
  have cut : waitingSteps = waitingSteps.take 3 ++ [waitingSteps.get ⟨3, by decide⟩] := rfl
  obtain ⟨s, drives⟩ : ∃ s, Drives 1 desk waitingSteps s := Path.recorded desk waitingMoves
  rw [cut] at drives ⊢
  obtain ⟨-, -, rfl⟩ := Path.of_snoc drives
  exact drives

/-- Over a headless surface, whatever happens then goes well. -/
theorem wentWell_of_waiting {l : List (DriveStep Headless)} {s : Session Headless}
    (drives : Drives 1 waiting l s) : ∀ x ∈ l, WentWell x := by
  obtain ⟨-, well⟩ := Drives.wentWell (Path.append drives_waiting drives) (by decide) desk_opened
  exact fun x mem => well x (List.mem_append_right _ mem)

/-- The first turn draws at the new size, and the next one has nothing to do. -/
def turnMoves : List DriveMove := .proceed :: List.replicate 13 .render

/-- The steps of these moves. -/
def turnSteps : List (DriveStep Headless) :=
  Path.record (drive 1) SessionMoved.next waiting turnMoves

/-- The thread that the turn wakes returns and asks for another size before the turn has told the
window. -/
def hastyMoves : List DriveMove :=
  .proceed :: List.replicate 7 .render ++ [.proceed, .resize ⟨640, 480⟩, .proceed, .render]

/-- The steps of these moves. -/
def hastySteps : List (DriveStep Headless) :=
  Path.record (drive 1) SessionMoved.next waiting hastyMoves

end Session

end HostView
