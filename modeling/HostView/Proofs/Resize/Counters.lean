import HostView.Proofs.Resize.Release

/-!
# The counters of the episodes

A coordinator counts the episodes that were started and those that were presented.  Whatever any
threads call, and whatever they do to the surface while they hold the lock (`FreeMove`), the two
counters tell the phase: they agree while nothing is asked for, and otherwise one is a single
episode ahead.  So the episode that a thread waits for is outstanding if and only if it is the
newest one and has not come to its end (`Handshake.counters_track_phase`).
-/

namespace HostView

/-- A move of a thread that may also get hold of the surface, to do with it whatever it likes,
panics included. -/
inductive FreeMove (σ : Type)
  | move (m : Move)
  | work (w : Work (Lifecycle σ) Event Reply)

/-- A free move that was made by one thread. -/
abbrev FreeStep (σ : Type) := StepTaken (Handshake σ) (ThreadId × FreeMove σ) (Moved σ)

/-! ### The target of an episode -/

namespace Coordinator

variable {σ : Type} {c c' : Coordinator σ} {size target : Size} {es : List Event}

theorem register_asks {episode : Option Nat} (run : c.register size = (episode, c', es))
    (asked : c'.phase = .requested target) :
    c.phase = .requested target ∨ target.isEmpty = false := by
  have made := registered c size
  rw [run] at made
  cases made with
  | empty | current => exact .inl asked
  | started full | retargeted full =>
    obtain rfl := ResizePhase.requested.inj asked
    exact .inr full

variable [SurfaceDevice σ]

theorem acquire_asks {outcome : Outcome Unit} (run : acquire size c = ⟨outcome, c', es⟩)
    (asked : c'.phase = .requested target) : c.phase = .requested target := by
  have made := acquired c size
  rw [run] at made
  cases made with
  | ready => cases asked
  | _ => exact asked

theorem swap_asks {outcome : Outcome Swapped} (run : swap c = ⟨outcome, c', es⟩)
    (asked : c'.phase = .requested target) : c.phase = .requested target := by
  have made := swapMade c
  rw [run] at made
  cases made with
  | presented => cases asked
  | _ => exact asked

end Coordinator

namespace Handshake

variable {σ : Type} [SurfaceDevice σ] {h : Handshake σ} {t : ThreadId}

/-- One free move of one thread, if the thread can make it. -/
def freeStep (h : Handshake σ) (t : ThreadId) : FreeMove σ → Option (Moved σ)
  | .move m => h.step t m
  | .work w =>
    if h.canCall t then
      some (h.critical t (Coordinator.onSurface w) fun reply h => (h, some reply))
    else none

/-- An interleaving of the free moves of any threads. -/
abbrev FreeCourse (start : Handshake σ) (steps : List (FreeStep σ)) (h : Handshake σ) : Prop :=
  Path (fun h (m : ThreadId × FreeMove σ) => h.freeStep m.1 m.2) Moved.next start steps h

/-- How many episodes have begun. -/
def begun (steps : List (FreeStep σ)) : Nat :=
  steps.countP fun x =>
    x.before.coordinator.phase == .idle && x.result.next.coordinator.phase != .idle

/-! ### One free move -/

variable {moved : Moved σ}

/-- What a free move comes to: it is a move of the handshake, or it touches the surface alone, and
takes nobody else's episode away. -/
inductive FreelyMoved (h : Handshake σ) (t : ThreadId) (moved : Moved σ) : Prop
  | stepped {m : Move} (made : Stepped h t m moved)
  | worked {l : Lifecycle σ}
      (surface : moved.next.coordinator = { h.coordinator with surface := l })
      (waits : ∀ u depth episode, moved.next.Waits u depth episode → h.Waits u depth episode)

theorem freelyMoved {m : FreeMove σ} (taken : h.freeStep t m = some moved) :
    FreelyMoved h t moved := by
  cases m with
  | move m => exact .stepped (stepped taken)
  | work w =>
    simp only [freeStep, Option.ite_none_right_eq_some, Option.some.injEq] at taken
    obtain ⟨-, rfl⟩ := taken
    rcases run : w h.coordinator.surface with ⟨reply | m, l, es⟩
    · rw [critical_of_returned h t (Coordinator.onSurface_of_run run)]
      exact .worked rfl fun u depth episode waits => waits
    · rw [critical_of_panicked h t (Coordinator.onSurface_of_run run)]
      refine .worked rfl fun u depth episode waits => ?_
      by_cases own : u = t
      · subst own
        simp [Waits, episodes_setStack] at waits
      · rwa [Waits, episodes_setStack_of_ne _ own, episodes_withCoordinator] at waits

/-- A size that is asked for after a move was asked for before it, or has been found to be one
that a frame can have. -/
theorem FreelyMoved.asks (made : FreelyMoved h t moved) {target : Size}
    (asked : moved.next.coordinator.phase = .requested target) :
    h.coordinator.phase = .requested target ∨ target.isEmpty = false := by
  cases made with
  | stepped made =>
    cases made with
    | acquired _ run | acquirePanicked _ run => exact .inl (Coordinator.acquire_asks run asked)
    | swapped _ run | presented _ run | swapPanicked _ run =>
      exact .inl (Coordinator.swap_asks run asked)
    | registered top run => exact Coordinator.register_asks run asked
    | _ => exact .inl asked
  | worked surface => exact .inl (by rwa [surface] at asked)

theorem FreelyMoved.counted (made : FreelyMoved h t moved) (counted : h.Counted) :
    moved.next.Counted := by
  cases made with
  | stepped made => exact counted.step made
  | @worked l surface waits =>
    refine ⟨?_, fun u depth episode waiting => ?_⟩
    · rw [surface]
      exact (Coordinator.sameCount_surface h.coordinator l).counted counted.counters
    · rw [surface]
      exact counted.waiters u depth episode (waits u depth episode waiting)

theorem FreelyMoved.grows (made : FreelyMoved h t moved) (counted : h.Counted) :
    h.coordinator.started ≤ moved.next.coordinator.started ∧
      h.coordinator.presented ≤ moved.next.coordinator.presented := by
  cases made with
  | stepped made =>
    exact ⟨started_mono counted (count made), presented_mono counted (count made)⟩
  | worked surface => exact ⟨Nat.le_of_eq (by rw [surface]), Nat.le_of_eq (by rw [surface])⟩

/-- The counter of started episodes moves on with the moves that end the idle phase. -/
theorem FreelyMoved.started (made : FreelyMoved h t moved) :
    moved.next.coordinator.started = h.coordinator.started +
      if (h.coordinator.phase == .idle && moved.next.coordinator.phase != .idle) = true then 1
      else 0 := by
  have still (same : Coordinator.SameCount h.coordinator moved.next.coordinator) :
      (h.coordinator.phase == .idle && moved.next.coordinator.phase != .idle) = false := by
    by_cases idle : h.coordinator.phase = .idle
    · simp [same.idle.2 idle]
    · simp [idle]
  cases made with
  | stepped made =>
    cases count made with
    | same same => rw [still same, if_neg Bool.false_ne_true, same.started, Nat.add_zero]
    | @begun size rest episode top proceeds found eq =>
      have made := Coordinator.registered h.coordinator size
      rcases run : h.coordinator.register size with ⟨found', c, es⟩
      rw [run] at made found eq
      rw [eq]
      cases made with
      | empty | current => cases found
      | started full idle => simp [idle]
      | retargeted full busy => simp [busy]
    | ended swaps ready idle surface started => simp [ready, started]
  | @worked l surface waits =>
    have same := Coordinator.sameCount_surface h.coordinator l
    rw [← surface] at same
    rw [still same, if_neg Bool.false_ne_true, same.started, Nat.add_zero]

/-! ### Any course -/

/-- The counters fit the phase, every episode that is waited for has a number, and a frame can
have the size that is asked for. -/
structure Numbered (h : Handshake σ) : Prop where
  counted : h.Counted
  positive : ∀ t depth episode, h.Waits t depth episode → 1 ≤ episode
  target : ∀ size, h.coordinator.phase = .requested size → size.isEmpty = false

theorem Numbered.step (numbered : h.Numbered) (made : FreelyMoved h t moved) :
    moved.next.Numbered := by
  have counted := made.counted numbered.counted
  refine ⟨counted, fun u depth episode waits => ?_, fun size asked => ?_⟩
  · cases made with
    | stepped made =>
      obtain old | ⟨size, found, eq⟩ := waits_of_step made waits
      · exact numbered.positive u depth episode old
      · obtain ⟨phase, started, -⟩ :=
          Coordinator.register_some numbered.counted.counters (Prod.ext_iff.2 ⟨found, rfl⟩)
        have ahead := counted.counters.ahead (by rw [eq, phase]; nofun)
        rw [eq, started] at ahead
        omega
    | worked surface old => exact numbered.positive u depth episode (old u depth episode waits)
  · obtain old | full := made.asks asked
    · exact numbered.target size old
    · exact full

theorem FreeCourse.numbered {h₀ : Handshake σ} {steps : List (FreeStep σ)}
    (course : FreeCourse h₀ steps h) (numbered : h₀.Numbered) : h.Numbered :=
  Path.invariant course numbered fun numbered taken => numbered.step (freelyMoved taken)

theorem FreeCourse.started_eq {h₀ : Handshake σ} {steps : List (FreeStep σ)}
    (course : FreeCourse h₀ steps h) :
    h.coordinator.started = h₀.coordinator.started + begun steps := by
  induction course with
  | nil => rfl
  | @snoc steps s m moved path taken ih =>
    rw [begun, List.countP_append, List.countP_singleton, ← Nat.add_assoc]
    change _ = h₀.coordinator.started + begun steps + _
    rw [← ih]
    exact (freelyMoved taken).started

omit [SurfaceDevice σ] in
theorem Counted.idle_iff (counted : h.Counted) :
    h.coordinator.phase = .idle ↔ h.coordinator.presented = h.coordinator.started := by
  refine ⟨counted.counters.even, fun even => ?_⟩
  by_contra busy
  have ahead := counted.counters.ahead busy
  omega

omit [SurfaceDevice σ] in
/-- Only the newest episode can be outstanding. -/
theorem Counted.outstanding_iff (counted : h.Counted) {depth episode : Nat}
    (waits : h.Waits t depth episode) :
    h.coordinator.presented < episode ↔
      episode = h.coordinator.started ∧ h.coordinator.phase ≠ .idle := by
  have known := counted.waiters t depth episode waits
  by_cases idle : h.coordinator.phase = .idle
  · have even := counted.counters.even idle
    simp only [idle, ne_eq, not_true_eq_false, and_false, iff_false]
    omega
  · have ahead := counted.counters.ahead idle
    simp only [ne_eq, idle, not_false_eq_true, and_true]
    omega

/-- The counters of a coordinator tell its phase, in every state that any threads can bring it to
with requests, acquires, swaps and work on the surface of any kind, whatever fails or panics.  It
is idle if and only if all that was started has been presented, and otherwise one episode is
outstanding.  As many episodes are started as have begun, so that words of 64 bits are enough as
long as fewer than `2 ^ 64` have, and neither counter ever falls.  A size that is asked for is one
that a frame can have.  Whoever waits does so for one of the episodes that were started, and cannot
go on if and only if that is the newest one and not over. -/
theorem counters_track_phase {l : Lifecycle σ} {scale : Float} {steps : List (FreeStep σ)}
    (course : FreeCourse { coordinator := { surface := l }, scale } steps h) :
    (h.coordinator.phase = .idle ↔ h.coordinator.presented = h.coordinator.started) ∧
      (h.coordinator.phase ≠ .idle → h.coordinator.started = h.coordinator.presented + 1) ∧
      h.coordinator.started = begun steps ∧
      (∀ x ∈ steps, x.before.coordinator.started ≤ x.result.next.coordinator.started ∧
        x.before.coordinator.presented ≤ x.result.next.coordinator.presented) ∧
      (∀ target, h.coordinator.phase = .requested target →
        target.width ≠ 0 ∧ target.height ≠ 0) ∧
      ∀ t depth episode, h.Waits t depth episode →
        1 ≤ episode ∧ episode ≤ h.coordinator.started ∧
          (h.coordinator.presented < episode ↔
            episode = h.coordinator.started ∧ h.coordinator.phase ≠ .idle) := by
  have fresh : Numbered ({ coordinator := { surface := l }, scale } : Handshake σ) := by
    refine ⟨Quiet.counted ⟨rfl, rfl, fun _ => rfl⟩, fun t depth episode waits => ?_, nofun⟩
    simp [Waits, episodes] at waits
  have numbered := FreeCourse.numbered course fresh
  refine ⟨numbered.counted.idle_iff, numbered.counted.counters.ahead, ?started, ?grows, ?target,
    fun t depth episode waits => ?waiter⟩
  case started => simpa using FreeCourse.started_eq course
  case grows =>
    intro x mem
    obtain ⟨before, after, rfl⟩ := List.append_of_mem mem
    obtain ⟨path, taken, -⟩ := Path.split course
    exact (freelyMoved taken).grows (FreeCourse.numbered path fresh).counted
  case target =>
    intro target asked
    exact Size.isEmpty_eq_false_iff.1 (numbered.target target asked)
  case waiter =>
    exact ⟨numbered.positive t depth episode waits,
      numbered.counted.waiters t depth episode waits, numbered.counted.outstanding_iff waits⟩

/-- Thread 1 asks for 100 by 100; while it tells the engine, thread 0 loses the surface and panics,
and then draws without one.  Thread 1 goes to sleep. -/
def bereftMoves : List (ThreadId × FreeMove Headless) :=
  [(1, .move (.call (.request ⟨100, 100⟩))), (1, .move .proceed),
    (0, .work fun l =>
      ⟨.panicked "device lost", { l with dimensions := .zero, live := false }, []⟩),
    (1, .move .proceed), (0, .move (.call (.acquire ⟨100, 100⟩))), (0, .move (.call .swap)),
    (1, .move .proceed)]

/-- The steps of these moves. -/
def bereftSteps : List (FreeStep Headless) :=
  Path.record (fun h (m : ThreadId × FreeMove Headless) => h.freeStep m.1 m.2) Moved.next resting
    bereftMoves

/-- The first episode is begun and stays outstanding, and thread 1 waits for it. -/
theorem bereft_request_waits :
    ∃ h, FreeCourse resting bereftSteps h ∧ h.isAsleep 1 = true ∧ h.coordinator.started = 1 ∧
      ∀ depth episode, h.Waits 1 depth episode →
        episode = 1 ∧ (h.coordinator.presented < episode ↔ h.coordinator.phase ≠ .idle) := by
  obtain ⟨h, course⟩ : ∃ h, FreeCourse resting bereftSteps h := Path.recorded resting bereftMoves
  have cut : bereftSteps = bereftSteps.take 6 ++ [bereftSteps.get ⟨6, by decide⟩] := rfl
  have asleep : h.isAsleep 1 = true := by
    rw [cut] at course
    obtain ⟨-, -, rfl⟩ := Path.of_snoc course
    rfl
  obtain ⟨-, -, started, -, -, waiters⟩ := counters_track_phase course
  have one : h.coordinator.started = 1 := started.trans rfl
  refine ⟨h, course, asleep, one, fun depth episode waits => ?_⟩
  obtain ⟨positive, known, outstanding⟩ := waiters 1 depth episode waits
  obtain rfl : episode = 1 := by omega
  exact ⟨rfl, by simpa [one] using outstanding⟩

end Handshake

end HostView
