import HostView.Proofs.Resize.Announcement

/-!
# One presentation in each episode

An episode begins with the step that leaves the idle phase and ends with the next step that
returns to it.  However often it is retargeted, and whatever threads call meanwhile, exactly one
swap reaches the surface in it: the one that ends it (`Handshake.PresentedOnce`).  The thread that
made it then wakes the sleepers once and tells the window once (`Handshake.owed`), so that the
window has been told once for every episode as soon as no swap is under way.
-/

namespace HostView

/-- The device has panicked in a swap. -/
def Event.swapPanicked : Event → Bool
  | .device ⟨.swap, .panicked _⟩ => true
  | _ => false

namespace Handshake

variable {σ : Type}

/-! ### What a step does to an episode -/

/-- The calls to the surface device in some steps. -/
def surfaceCalls (steps : List (HandshakeStep σ)) : List DeviceCall :=
  (steps.flatMap (·.result.events)).filterMap Event.deviceCall

/-- The sizes that the surface was resized to in some steps. -/
def resizes (steps : List (HandshakeStep σ)) : List Size :=
  (steps.flatMap (·.result.events)).filterMap Event.resizedTo

/-- A step in which the device does not panic in a swap. -/
def SwapReturns (x : HandshakeStep σ) : Prop :=
  ∀ e ∈ x.result.events, e.swapPanicked = false

instance (x : HandshakeStep σ) : Decidable (SwapReturns x) :=
  inferInstanceAs (Decidable (∀ e ∈ x.result.events, e.swapPanicked = false))

theorem surfaceCalls_append (l l' : List (HandshakeStep σ)) :
    surfaceCalls (l ++ l') = surfaceCalls l ++ surfaceCalls l' := by
  rw [surfaceCalls, List.flatMap_append, List.filterMap_append, surfaceCalls, surfaceCalls]

theorem surfaceCalls_singleton (x : HandshakeStep σ) :
    surfaceCalls [x] = x.result.events.filterMap Event.deviceCall := by
  simp [surfaceCalls]

theorem resizes_singleton (x : HandshakeStep σ) :
    resizes [x] = x.result.events.filterMap Event.resizedTo := by
  simp [resizes]

/-- What a step can be in the course of an episode. -/
inductive Turned (x : HandshakeStep σ) : Prop
  | registered {r : Registration} (registers : registration x = some r)
      (phase : x.result.next.coordinator.phase = .requested r.size)
      (calls : surfaceCalls [x] = []) (resizes : resizes [x] = [])
  | readied {size : Size} (other : registration x = none)
      (asked : x.before.coordinator.phase = .requested size)
      (phase : x.result.next.coordinator.phase = .frameReady)
      (swaps : .swap ∉ surfaceCalls [x]) (resizes : resizes [x] = [size])
  | presented (presents : Presents x) (calls : surfaceCalls [x] = [.swap])
      (resizes : resizes [x] = [])
  | kept (other : registration x = none)
      (phase : x.result.next.coordinator.phase = x.before.coordinator.phase)
      (swaps : .swap ∈ surfaceCalls [x] → x.before.coordinator.phase = .idle)
      (resizes : ∀ size ∈ resizes [x], x.before.coordinator.phase = .requested size)

variable [SurfaceDevice σ] {h : Handshake σ} {t : ThreadId} {m : Move} {moved : Moved σ}
  {es : List Event}

theorem seen_of_task {task : SurfaceTask} {outcome : Outcome Reply} {l : Lifecycle σ}
    (run : surfaceWork task h.coordinator.surface = ⟨outcome, l, es⟩) :
    .swap ∉ es.filterMap Event.deviceCall ∧ es.filterMap Event.resizedTo = [] := by
  have asks : ∀ e ∈ es, ∀ call ∈ e.deviceCall, task.asks call = true := fun e mem =>
    (emits_surfaceWork task h.coordinator.surface e (by rwa [run])).2
  refine ⟨fun swaps => ?_, List.filterMap_eq_nil_iff.2 fun e mem => ?_⟩
  · obtain ⟨e, mem, call⟩ := List.mem_filterMap.1 swaps
    have asked := asks e mem .swap call
    cases task <;> cases asked
  · have asked := asks e mem
    unfold Event.resizedTo
    split
    next target size _ =>
      have resizes := asked (.resize target size) rfl
      cases task <;> cases resizes
    next => rfl

theorem SwapReturns.not_panicked {x : HandshakeStep σ} (returns : SwapReturns x)
    (events : x.result.events = Event.guarded .resize es) (message : String)
    (c : Coordinator σ) : Coordinator.swap h.coordinator ≠ ⟨.panicked message, c, es⟩ := by
  intro run
  have made := Coordinator.swapMade h.coordinator
  rw [run] at made
  cases made with
  | panicked =>
    have seen := returns (.device ⟨.swap, .panicked message⟩)
      (by rw [events]; simp [Event.guarded, Event.answered])
    cases seen

omit [SurfaceDevice σ] in
theorem resizedTo_of_no_call (none : es.filterMap Event.deviceCall = []) :
    es.filterMap Event.resizedTo = [] := by
  refine List.filterMap_eq_nil_iff.2 fun e mem => ?_
  have none := List.filterMap_eq_nil_iff.1 none e mem
  cases e with
  | device => cases none
  | _ => rfl

omit [SurfaceDevice σ] in
/-- A step that keeps the phase and does not call the device. -/
theorem Turned.still {x : HandshakeStep σ} (other : registration x = none)
    (phase : x.result.next.coordinator.phase = x.before.coordinator.phase)
    (calls : x.result.events.filterMap Event.deviceCall = []) : Turned x := by
  refine .kept other phase ?_ ?_
  · rw [surfaceCalls_singleton, calls]
    nofun
  · rw [resizes_singleton, resizedTo_of_no_call calls]
    nofun

theorem turned_acquire {size : Size} (taken : Stepped h t (.call (.acquire size)) moved) :
    Turned ⟨h, (t, .call (.acquire size)), moved⟩ := by
  have looks := Event.observer_resizedTo
  have counts := Event.observer_deviceCall
  have made := Coordinator.acquired h.coordinator size
  cases taken with
  | acquired free run =>
    rw [run] at made
    cases made with
    | passed => exact .still rfl rfl (by rw [counts.guarded, counts.logs])
    | missing => exact .still rfl rfl (by rw [counts.guarded]; rfl)
    | failed =>
      refine .kept rfl rfl ?_ ?_
      · rw [surfaceCalls_singleton, counts.guarded, List.filterMap_append, counts.answered]
        simp [Event.deviceCall]
      · rw [resizes_singleton, looks.guarded, List.filterMap_append, looks.answered]
        simp [Event.resizedTo]
    | ready asked =>
      refine .readied rfl asked rfl ?_ ?_
      · rw [surfaceCalls_singleton, counts.guarded, List.filterMap_append, counts.answered,
          List.filterMap_append, counts.answered]
        simp [Event.deviceCall]
      · rw [resizes_singleton, looks.guarded, List.filterMap_append, looks.answered,
          List.filterMap_append, looks.answered]
        rfl
  | acquirePanicked free run =>
    rw [run] at made
    cases made with
    | panicked =>
      refine .kept rfl rfl ?_ ?_
      · rw [surfaceCalls_singleton, counts.guarded, counts.answered]
        simp [Event.deviceCall]
      · rw [resizes_singleton, looks.guarded, looks.answered]
        simp [Event.resizedTo]
    | panickedLate asked =>
      refine .kept rfl rfl ?_ ?_
      · rw [surfaceCalls_singleton, counts.guarded, List.filterMap_append, counts.answered,
          counts.answered]
        simp [Event.deviceCall]
      · rw [resizes_singleton, looks.guarded, List.filterMap_append, looks.answered,
          looks.answered]
        simpa [Event.resizedTo] using asked

theorem turned_swap (taken : Stepped h t (.call .swap) moved)
    (returns : SwapReturns ⟨h, (t, .call .swap), moved⟩) :
    Turned ⟨h, (t, .call .swap), moved⟩ := by
  have looks := Event.observer_resizedTo
  have counts := Event.observer_deviceCall
  have made := Coordinator.swapMade h.coordinator
  cases taken with
  | swapped free run =>
    rw [run] at made
    cases made with
    | refused => exact .still rfl rfl rfl
    | plain idle =>
      refine .kept rfl rfl (fun _ => idle) ?_
      rw [resizes_singleton, looks.guarded, looks.answered]
      simp [Event.resizedTo]
  | presented free run =>
    rw [run] at made
    cases made with
    | presented ready =>
      refine .presented ⟨rfl, ready, rfl⟩ ?_ ?_
      · rw [surfaceCalls_singleton, counts.guarded, counts.answered]
        rfl
      · rw [resizes_singleton, looks.guarded, looks.answered]
        rfl
  | swapPanicked free run => exact absurd run (returns.not_panicked rfl _ _)

/-- A thread that goes on does not call the device; it may register. -/
theorem turned_proceed (taken : Stepped h t .proceed moved) :
    Turned ⟨h, (t, .proceed), moved⟩ := by
  have counts := Event.observer_deviceCall
  cases taken with
  | @registered size rest episode c es top run =>
    obtain ⟨records, rfl⟩ := Coordinator.register_logs run
    have calls : (Event.guarded .resize (records.map .log)).filterMap Event.deviceCall = [] := by
      rw [counts.guarded, counts.logs]
    cases episode with
    | none =>
      obtain ⟨rfl, -⟩ := Coordinator.register_none run
      exact .still (by simp [registration, top, run]) rfl calls
    | some episode =>
      have registers (moved : Moved σ) : registration ⟨h, (t, .proceed), moved⟩ =
          some ⟨t, rest.length, size, episode⟩ := by simp [registration, top, run]
      refine .registered (registers _) (Coordinator.register_phase run) ?_ ?_
      · rw [surfaceCalls_singleton, calls]
      · rw [resizes_singleton, resizedTo_of_no_call calls]
  | told top | done top | woke top => exact .still (by simp [registration, top]) rfl rfl
  | released top waiting | slept top waiting =>
    refine .still ?_ rfl (by rw [counts.guarded, counts.logs])
    obtain ⟨size, rfl⟩ | rfl := waiting <;> simp [registration, top]
  | announced top =>
    exact .still (by simp [registration, top]) rfl
      (by rw [List.filterMap_cons_none rfl, counts.logs])

theorem turned (taken : Stepped h t m moved) (returns : SwapReturns ⟨h, (t, m), moved⟩) :
    Turned ⟨h, (t, m), moved⟩ := by
  cases m with
  | proceed => exact turned_proceed taken
  | call call =>
    cases call with
    | acquire size => exact turned_acquire taken
    | swap => exact turned_swap taken returns
    | request | tell =>
      cases taken
      exact .still rfl rfl rfl
    | surface task =>
      cases taken with
      | surfaced free run | surfacePanicked free run =>
        obtain ⟨swaps, resizes⟩ := seen_of_task run
        refine .kept rfl rfl (fun swapped => absurd swapped ?_) ?_
        · rwa [surfaceCalls_singleton, Event.observer_deviceCall.guarded]
        · rw [resizes_singleton, Event.observer_resizedTo.guarded, resizes]
          nofun

/-! ### The course of an episode -/

/-- Steps from the one that leaves the idle phase to the next one that returns to it. -/
structure Episode (first : HandshakeStep σ) (during : List (HandshakeStep σ))
    (last : HandshakeStep σ) : Prop where
  rests : first.before.coordinator.phase = .idle
  busy : ∀ x ∈ first :: during, x.result.next.coordinator.phase ≠ .idle
  ends : last.result.next.coordinator.phase = .idle

/-- A step inside an episode: no swap gets through to the surface, and the surface is resized to
nothing but the size that is asked for at that moment. -/
structure Refuses (x : HandshakeStep σ) : Prop where
  swaps : .swap ∉ surfaceCalls [x]
  refused : x.move.2 = .call .swap →
    x.result.reply = some (.returned (.flag false)) ∧ surfaceCalls [x] = []
  aimed : ∀ size ∈ resizes [x], x.before.coordinator.phase = .requested size

/-- The phase that the steps of an episode have led to: the last registered size is asked for, or
the surface was last resized to it and nothing was registered since. -/
inductive Stands (steps : List (HandshakeStep σ)) : ResizePhase → Prop
  | asked : Stands steps (.requested (lastTarget .zero steps))
  | ready {m k : List (HandshakeStep σ)} {x : HandshakeStep σ} (split : steps = m ++ x :: k)
      (resized : resizes [x] = [lastTarget .zero steps])
      (since : ∀ y ∈ k, registration y = none ∧ resizes [y] = []) : Stands steps .frameReady

theorem refuses_of_turned (taken : Stepped h t m moved)
    (returns : SwapReturns ⟨h, (t, m), moved⟩)
    (swaps : .swap ∉ surfaceCalls [(⟨h, (t, m), moved⟩ : HandshakeStep σ)])
    (aimed : ∀ size ∈ resizes [(⟨h, (t, m), moved⟩ : HandshakeStep σ)],
      h.coordinator.phase = .requested size)
    (unpresented : ¬ Presents ⟨h, (t, m), moved⟩) : Refuses ⟨h, (t, m), moved⟩ := by
  refine ⟨swaps, ?_, aimed⟩
  rintro rfl
  have counts := Event.observer_deviceCall
  cases taken with
  | swapped free run =>
    have made := Coordinator.swapMade h.coordinator
    rw [run] at made
    cases made with
    | refused => exact ⟨rfl, rfl⟩
    | plain =>
      rw [surfaceCalls_singleton, counts.guarded, counts.answered] at swaps
      exact absurd (List.mem_singleton.2 rfl) swaps
  | presented free run =>
    obtain ⟨ready, d, rfl⟩ := Coordinator.swap_finished run
    exact absurd ⟨rfl, ready, rfl⟩ unpresented
  | @swapPanicked c es message free run =>
    exact absurd run (returns.not_panicked rfl message c)

omit [SurfaceDevice σ] in
theorem lastTarget_of_registers {l : List (HandshakeStep σ)} {x : HandshakeStep σ}
    {r : Registration} (registers : registration x = some r) :
    lastTarget .zero (l ++ [x]) = r.size := by
  rw [lastTarget_snoc, registers]
  rfl

omit [SurfaceDevice σ] in
theorem lastTarget_of_other {steps : List (HandshakeStep σ)} {x : HandshakeStep σ}
    (other : registration x = none) :
    lastTarget .zero (steps ++ [x]) = lastTarget .zero steps := by
  rw [lastTarget_snoc, other]
  rfl

omit [SurfaceDevice σ] in
theorem Stands.busy {steps : List (HandshakeStep σ)} {phase : ResizePhase}
    (stands : Stands steps phase) : phase ≠ .idle := by
  cases stands <;> nofun

omit [SurfaceDevice σ] in
/-- One more step inside an episode. -/
theorem Stands.step {steps : List (HandshakeStep σ)} {x : HandshakeStep σ}
    (stands : Stands steps x.before.coordinator.phase) (made : Turned x)
    (busy : x.result.next.coordinator.phase ≠ .idle) :
    Stands (steps ++ [x]) x.result.next.coordinator.phase ∧ .swap ∉ surfaceCalls [x] ∧
      ∀ size ∈ resizes [x], x.before.coordinator.phase = .requested size := by
  cases made with
  | @registered r registers phase calls resizes =>
    refine ⟨?_, by simp [calls], by simp [resizes]⟩
    rw [phase, ← lastTarget_of_registers registers]
    exact .asked
  | readied other asked phase swaps resizes =>
    refine ⟨?_, swaps, by simpa [resizes] using asked⟩
    have target : lastTarget .zero (steps ++ [x]) = lastTarget .zero steps :=
      lastTarget_of_other other
    rw [asked] at stands
    cases stands
    rw [phase]
    exact .ready (m := steps) (x := x) (k := []) rfl (by rw [resizes, target]) (by simp)
  | presented presents => exact absurd presents.idle busy
  | kept other phase swaps resizes =>
    -- nothing is registered, so the last size stays, and a swap would have found the phase idle
    have target : lastTarget .zero (steps ++ [x]) = lastTarget .zero steps :=
      lastTarget_of_other other
    refine ⟨?_, fun swapped => stands.busy (swaps swapped), resizes⟩
    rw [phase]
    generalize x.before.coordinator.phase = before at stands resizes
    cases stands with
    | asked =>
      rw [← target]
      exact .asked
    | @ready m k y split resized since =>
      refine .ready (m := m) (x := y) (k := k ++ [x]) (by rw [split]; simp)
        (by rw [resized, target]) ?_
      intro z mem
      rw [List.mem_append, List.mem_singleton] at mem
      obtain old | rfl := mem
      · exact since z old
      · exact ⟨other, List.eq_nil_iff_forall_not_mem.2 fun size mem => nomatch resizes size mem⟩

omit [SurfaceDevice σ] in
/-- The step that leaves the idle phase registers a size. -/
theorem Turned.first {x : HandshakeStep σ} (made : Turned x)
    (rests : x.before.coordinator.phase = .idle) (busy : x.result.next.coordinator.phase ≠ .idle) :
    Stands [x] x.result.next.coordinator.phase ∧ .swap ∉ surfaceCalls [x] ∧
      ∀ size ∈ resizes [x], x.before.coordinator.phase = .requested size := by
  cases made with
  | @registered r registers phase calls resizes =>
    refine ⟨?_, by simp [calls], by simp [resizes]⟩
    have target : lastTarget .zero [x] = r.size := lastTarget_of_registers (l := []) registers
    rw [phase, ← target]
    exact .asked
  | readied other asked =>
    rw [rests] at asked
    cases asked
  | presented presents => exact absurd presents.idle busy
  | kept other phase => exact absurd (phase.trans rests) busy

/-- Up to any step of an episode the phase stands where the steps have led to, and no step lets a
swap through. -/
theorem stands_of_busy {first : HandshakeStep σ} {during : List (HandshakeStep σ)}
    {s : Handshake σ} (course : Course first.before (first :: during) s)
    (rests : first.before.coordinator.phase = .idle)
    (busy : ∀ x ∈ first :: during, x.result.next.coordinator.phase ≠ .idle)
    (returns : ∀ x ∈ first :: during, SwapReturns x) :
    Stands (first :: during) s.coordinator.phase ∧ ∀ x ∈ first :: during, Refuses x := by
  induction during using List.reverseRecOn generalizing s with
  | nil =>
    obtain ⟨-, taken, rfl⟩ := Path.of_snoc (l := []) course
    have busy' := busy first (by simp)
    have returns' := returns first (by simp)
    obtain ⟨stands, swaps, aimed⟩ := (turned (stepped taken) returns').first rests busy'
    refine ⟨stands, List.forall_mem_singleton.2 ?_⟩
    exact refuses_of_turned (stepped taken) returns' swaps aimed fun presents =>
      busy' presents.idle
  | append_singleton during x ih =>
    rw [← List.cons_append] at course busy returns ⊢
    obtain ⟨path, taken, rfl⟩ := Path.of_snoc course
    obtain ⟨stands, refuse⟩ := ih path (fun y mem => busy y (List.mem_append_left _ mem))
      fun y mem => returns y (List.mem_append_left _ mem)
    have busy' := busy x (by simp)
    have returns' := returns x (by simp)
    obtain ⟨stands', swaps, aimed⟩ := stands.step (turned (stepped taken) returns') busy'
    refine ⟨stands', List.forall_mem_append.2 ⟨refuse, List.forall_mem_singleton.2 ?_⟩⟩
    exact refuses_of_turned (stepped taken) returns' swaps aimed fun presents =>
      busy' presents.idle

omit [SurfaceDevice σ] in
/-- The step that ends an episode presents. -/
theorem Stands.last {steps : List (HandshakeStep σ)} {x : HandshakeStep σ}
    (stands : Stands steps x.before.coordinator.phase) (made : Turned x)
    (ends : x.result.next.coordinator.phase = .idle) :
    Presents x ∧ surfaceCalls [x] = [.swap] := by
  cases made with
  | registered _ phase =>
    rw [ends] at phase
    cases phase
  | readied _ _ phase =>
    rw [ends] at phase
    cases phase
  | presented presents calls => exact ⟨presents, calls⟩
  | kept _ phase => exact absurd (phase.symm.trans ends) stands.busy

/-- What an episode comes to: one swap reaches the surface, after everything else that is asked of
it, and no other swap does; the surface is resized only to what is asked for, and in the end to the
size of the last registration. -/
structure PresentedOnce (first : HandshakeStep σ) (during : List (HandshakeStep σ))
    (last : HandshakeStep σ) : Prop where
  presents : Presents last
  once : ∃ calls, surfaceCalls (first :: during ++ [last]) = calls ++ [.swap] ∧ .swap ∉ calls
  refused : ∀ x ∈ first :: during, x.move.2 = .call .swap →
    x.result.reply = some (.returned (.flag false)) ∧ surfaceCalls [x] = []
  aimed : ∀ x ∈ first :: during, ∀ size ∈ resizes [x],
    x.before.coordinator.phase = .requested size
  newest : ∃ m x k, first :: during = m ++ x :: k ∧
    resizes [x] = [lastTarget .zero (first :: during)] ∧
      ∀ y ∈ k, registration y = none ∧ resizes [y] = []

theorem Episode.presentedOnce {first last : HandshakeStep σ} {during : List (HandshakeStep σ)}
    {s : Handshake σ} (episode : Episode first during last)
    (course : Course first.before (first :: during ++ [last]) s)
    (returns : ∀ x ∈ first :: during ++ [last], SwapReturns x) :
    PresentedOnce first during last := by
  obtain ⟨path, taken, -⟩ := Path.of_snoc course
  obtain ⟨stands, refuse⟩ := stands_of_busy path episode.rests episode.busy
    fun x mem => returns x (List.mem_append_left _ mem)
  have made : Turned last := turned (stepped taken) (returns last (by simp))
  obtain ⟨presents, swaps⟩ := stands.last made episode.ends
  refine ⟨presents, ⟨surfaceCalls (first :: during), ?_, ?_⟩, fun x mem => (refuse x mem).refused,
    fun x mem => (refuse x mem).aimed, ?_⟩
  · rw [surfaceCalls_append, swaps]
  · intro mem
    obtain ⟨e, seen, call⟩ := List.mem_filterMap.1 mem
    obtain ⟨x, inside, event⟩ := List.mem_flatMap.1 seen
    refine (refuse x inside).swaps ?_
    rw [surfaceCalls_singleton]
    exact List.mem_filterMap.2 ⟨e, event, call⟩
  · rw [presents.ready] at stands
    cases stands with
    | @ready m k x split resized since => exact ⟨m, x, k, split, resized, since⟩

/-- A thread that has presented an episode has yet to wake the sleepers and to tell the window. -/
theorem Presents.owed {x : HandshakeStep σ} (presents : Presents x) (counted : x.before.Counted)
    (taken : x.before.step x.move.1 x.move.2 = some x.result) :
    x.result.next.owed x.move.1 = [.notified, .announced] := by
  obtain same | ⟨-, succeeded, rest, top⟩ := presented_step counted (stepped taken)
  · have ahead := counted.counters.ahead (by simp [presents.ready])
    have moved := presents.presented taken
    omega
  · exact owed_of_top top

/-- Whatever any threads do, each episode is presented once (`PresentedOnce`), and then its thread
wakes the sleepers once and tells the window once.  No thread wakes or tells without having
presented: all that it has done, with what it still owes, are whole rounds.  The counter says how
many episodes have ended, and when nobody is in the middle of a swap, the window has been told as
often. -/
theorem one_presentation_per_episode {h₀ h : Handshake σ} {steps : List (HandshakeStep σ)}
    (quiet : h₀.Quiet) (course : Course h₀ steps h) (returns : ∀ x ∈ steps, SwapReturns x) :
    (∀ before first during last after, steps = before ++ first :: during ++ last :: after →
      Episode first during last → PresentedOnce first during last ∧
        ∃ n, marksOf last.move.1 after ++ h.owed last.move.1 =
          .notified :: .announced :: (List.replicate n Mark.round).flatten) ∧
      (∀ t, ∃ n, marksOf t steps ++ h.owed t = (List.replicate n Mark.round).flatten) ∧
      h.coordinator.presented = h₀.coordinator.presented + completed steps ∧
      (h.NoSwap → announcements steps = completed steps) := by
  refine ⟨?episode, fun t => ?rounds, course.presented_eq quiet.counted, course.told_once quiet⟩
  case rounds =>
    obtain ⟨n, whole⟩ := (course.rounds quiet.lone).2 t
    exact ⟨n, by rwa [quiet.owed, List.nil_append] at whole⟩
  case episode =>
    rintro before first during last after rfl episode
    obtain ⟨path, taken, later⟩ := Path.split course
    have upToLast := path.snoc taken
    rw [List.append_assoc, List.cons_append] at upToLast
    obtain ⟨-, taken', inside⟩ := Path.split upToLast
    have once := episode.presentedOnce (inside.cons taken') fun x mem => returns x (by
      rw [List.append_cons, List.append_assoc before]
      exact List.mem_append_left _ (List.mem_append_right _ mem))
    obtain ⟨lone, -⟩ := Course.rounds path quiet.lone
    obtain ⟨n, whole⟩ := (Course.rounds later (lone.step (stepped taken))).2 last.move.1
    rw [once.presents.owed (Course.counted path quiet.counted) taken] at whole
    exact ⟨once, n, whole⟩

/-- Thread 1 asks for 100 by 100, thread 0 swaps too early, thread 2 asks for 200 by 200, and
thread 0 draws a frame of each size and swaps. -/
def hastyMoves : List (ThreadId × Move) :=
  [(1, .call (.request ⟨100, 100⟩)), (1, .proceed), (0, .call .swap),
    (2, .call (.request ⟨200, 200⟩)), (2, .proceed), (0, .call (.acquire ⟨100, 100⟩)),
    (0, .call (.acquire ⟨200, 200⟩)), (0, .call .swap), (0, .proceed), (0, .proceed)]

/-- The steps of these moves. -/
def hastySteps : List (HandshakeStep Headless) :=
  Path.record (fun h (m : ThreadId × Move) => h.step m.1 m.2) Moved.next resting hastyMoves

/-- Both requests and both swaps belong to one episode, which is presented and told once. -/
theorem hasty_swap_refused :
    ∃ (first last : HandshakeStep Headless) (during after : List (HandshakeStep Headless)),
      hastySteps = hastySteps.take 1 ++ first :: during ++ last :: after ∧
        PresentedOnce first during last ∧ during.length = 5 ∧
        (∃ x ∈ during, x.move = (0, .call .swap) ∧
          x.result.reply = some (.returned (.flag false))) ∧
        announcements hastySteps = 1 ∧ completed hastySteps = 1 := by
  let first := hastySteps.get ⟨1, by decide⟩
  let during := (hastySteps.drop 2).take 5
  let last := hastySteps.get ⟨7, by decide⟩
  have cut : hastySteps = hastySteps.take 1 ++ first :: during ++ last :: hastySteps.drop 8 := rfl
  have returns : ∀ x ∈ hastySteps, SwapReturns x := by decide
  obtain ⟨h, course⟩ : ∃ h, Course resting hastySteps h := Path.recorded resting hastyMoves
  obtain ⟨episodes, -⟩ := one_presentation_per_episode ⟨rfl, rfl, fun _ => rfl⟩ course returns
  obtain ⟨once, -⟩ := episodes _ first during last _ cut ⟨rfl, by decide, rfl⟩
  have early : hastySteps.get ⟨2, by decide⟩ ∈ during := List.mem_cons_self
  obtain ⟨refused, -⟩ := once.refused _ (List.mem_cons_of_mem _ early) rfl
  exact ⟨first, last, during, _, cut, once, rfl, ⟨_, early, rfl, refused⟩, rfl, rfl⟩

end Handshake

end HostView
