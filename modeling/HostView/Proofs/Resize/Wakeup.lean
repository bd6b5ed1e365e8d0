import HostView.Proofs.Resize.Release

/-!
# No wake-up is lost

The swap that presents an episode wakes the sleepers only after it has given up the lock, and a
request tells the engine its size with the lock released before it looks whether it has to sleep.
Neither gap loses a wake-up: who sleeps has an episode to come, or the swap that presented it has
yet to wake the sleepers (`OwesWake`), and a request whose episode was presented while it told
the engine (`Sends`) does not go to sleep.
-/

namespace HostView

/-- A request that has registered in the episode is telling the engine its size: it holds no
lock, and the engine may call back. -/
inductive Activity.Sends (episode : Nat) : Activity → Prop
  | telling {size : Size} : Sends episode (.telling size (some episode))
  | told {size : Size} : Sends episode (.told size (some episode))

theorem Activity.Sends.wake {a : Activity} {episode : Nat} (tells : a.Sends episode) :
    a.wake = a := by
  cases tells <;> rfl

theorem Activity.Sends.episode {a : Activity} {episode : Nat} (tells : a.Sends episode) :
    a.episode = some episode := by
  cases tells <;> rfl

namespace Handshake

variable {σ : Type}

/-- A request of the thread sleeps until the episode has been presented. -/
def SleepsFor (h : Handshake σ) (t : ThreadId) (episode : Nat) : Prop :=
  .asleep episode ∈ h.stack t

/-- The thread is in the middle of an activity, and of `depth` others around it. -/
def InMiddleOf (h : Handshake σ) (t : ThreadId) (depth : Nat) (a : Activity) : Prop :=
  (h.stack t).reverse[depth]? = some a

/-- At some depth of its stack a thread is telling the engine the size of a request. -/
def Sends (h : Handshake σ) (t : ThreadId) (depth episode : Nat) : Prop :=
  ∃ a : Activity, a.Sends episode ∧ h.InMiddleOf t depth a

/-- The next move of the thread wakes the sleepers. -/
def AboutToWake (h : Handshake σ) (t : ThreadId) : Prop :=
  ∃ succeeded rest, h.stack t = .waking succeeded :: rest

/-- With one of the steps the thread has presented an episode, and it has made no move since: it
has given up the lock and has yet to wake the sleepers. -/
structure OwesWake (steps : List (HandshakeStep σ)) (h : Handshake σ) (t : ThreadId) : Prop where
  swapped : ∃ m z k, steps = m ++ z :: k ∧ Presents z ∧ z.move.1 = t ∧ ∀ y ∈ k, y.move.1 ≠ t
  waking : h.AboutToWake t

/-! ### What a move does to the stacks -/

theorem wake_ne_asleep (a : Activity) (episode : Nat) : a.wake ≠ .asleep episode := by
  cases a <;> simp [Activity.wake]

theorem asleep_notMem_wake (l : List Activity) (episode : Nat) :
    .asleep episode ∉ l.map Activity.wake := by
  intro mem
  obtain ⟨a, -, eq⟩ := List.mem_map.1 mem
  exact wake_ne_asleep a episode eq

/-- What a move makes of the stack of its own thread. -/
inductive Restacked (h : Handshake σ) (t : ThreadId) (moved : Moved σ) : Prop
  /-- A call was made. -/
  | grown (inner : List Activity) (awake : ∀ episode, .asleep episode ∉ inner)
      (after : moved.next.stack t = inner ++ h.stack t)
  | registered {size : Size} {episode : Option Nat} {rest : List Activity}
      (top : h.stack t = .entering size :: rest)
      (after : moved.next.stack t = .telling size episode :: rest)
  | told {size : Size} {episode : Option Nat} {rest : List Activity}
      (top : h.stack t = .telling size episode :: rest)
      (after : moved.next.stack t = .told size episode :: rest)
  /-- Only an episode that is still to be presented puts a request to sleep. -/
  | slept {a : Activity} {episode : Nat} {rest : List Activity} (top : h.stack t = a :: rest)
      (waiting : (∃ size, a = .told size (some episode)) ∨ a = .woken episode)
      (outstanding : h.coordinator.presented < episode)
      (same : moved.next.coordinator = h.coordinator)
      (after : moved.next.stack t = .asleep episode :: rest)
  | woke {succeeded : Bool} {rest : List Activity} (top : h.stack t = .waking succeeded :: rest)
      (after : moved.next.stack t = (.announcing succeeded :: rest).map Activity.wake)
  | returned {a : Activity} {rest : List Activity} {reply : Reply} (top : h.stack t = a :: rest)
      (after : moved.next.stack t = rest) (reply : moved.reply = some (.returned reply))
  | unwound {m : String} (after : moved.next.stack t = [])
      (reply : moved.reply = some (.panicked m))

variable [SurfaceDevice σ] {h : Handshake σ} {t u : ThreadId} {m : Move} {moved : Moved σ}

theorem restacked (taken : Stepped h t m moved) : Restacked h t moved := by
  cases taken with
  | @requested size => exact .grown [.entering size] (by simp) (by simp)
  | @tells size => exact .grown [.telling size none] (by simp) (by simp)
  | acquired => exact .grown [] (by simp) rfl
  | acquirePanicked => exact .unwound (by simp) rfl
  | swapped => exact .grown [] (by simp) rfl
  | @presented succeeded => exact .grown [.waking succeeded] (by simp) (by simp)
  | swapPanicked => exact .unwound (by simp) rfl
  | surfaced => exact .grown [] (by simp) rfl
  | surfacePanicked => exact .unwound (by simp) rfl
  | registered top => exact .registered top (setStack_same _ _ _)
  | told top => exact .told top (by simp)
  | done top => exact .returned top (by simp) rfl
  | released top => exact .returned top (by simp) rfl
  | slept top waiting outstanding => exact .slept top waiting outstanding rfl (by simp)
  | woke top => exact .woke top (by simp)
  | announced top => exact .returned top (by simp) rfl

/-- Another thread is woken at most. -/
theorem stack_of_ne (taken : Stepped h t m moved) (ne : u ≠ t) :
    moved.next.stack u = h.stack u ∨ moved.next.stack u = (h.stack u).map Activity.wake := by
  cases taken <;> simp [setStack_of_ne _ _ ne]

/-- Who sleeps after a move did so before, or has just found its episode outstanding. -/
theorem SleepsFor.of_step {episode : Nat} (taken : Stepped h t m moved)
    (sleeps : moved.next.SleepsFor u episode) :
    h.SleepsFor u episode ∨ moved.next.coordinator.presented < episode := by
  unfold SleepsFor at sleeps ⊢
  by_cases own : u = t
  · subst own
    cases restacked taken with
    | grown inner awake after =>
      rw [after, List.mem_append] at sleeps
      exact .inl (sleeps.resolve_left (awake episode))
    | registered top after =>
      rw [after, List.mem_cons] at sleeps
      rw [top]
      exact .inl (List.mem_cons_of_mem _ (sleeps.resolve_left nofun))
    | told top after =>
      rw [after, List.mem_cons] at sleeps
      rw [top]
      exact .inl (List.mem_cons_of_mem _ (sleeps.resolve_left nofun))
    | slept top waiting outstanding same after =>
      rw [after, List.mem_cons] at sleeps
      obtain new | old := sleeps
      · cases new
        exact .inr (by rwa [same])
      · rw [top]
        exact .inl (List.mem_cons_of_mem _ old)
    | woke top after =>
      rw [after] at sleeps
      exact absurd sleeps (asleep_notMem_wake _ _)
    | returned top after =>
      rw [after] at sleeps
      rw [top]
      exact .inl (List.mem_cons_of_mem _ sleeps)
    | unwound after => simp [after] at sleeps
  · obtain same | woken := stack_of_ne taken own
    · rw [same] at sleeps
      exact .inl sleeps
    · rw [woken] at sleeps
      exact absurd sleeps (asleep_notMem_wake _ _)

/-! ### The swap that is about to wake the sleepers -/

/-- A thread that is about to wake the sleepers can do nothing else, and nobody sleeps then. -/
theorem AboutToWake.proceeds (waking : h.AboutToWake t) :
    ∃ moved, h.step t .proceed = some moved ∧ moved.events = [.notified] ∧
      ∀ t' episode, ¬ moved.next.SleepsFor t' episode := by
  obtain ⟨succeeded, rest, top⟩ := waking
  refine ⟨⟨(h.setStack t (.announcing succeeded :: rest)).wakeAll, [.notified], none⟩,
    by simp only [step, proceed, top], rfl, fun t' episode => ?_⟩
  exact asleep_notMem_wake _ _

theorem AboutToWake.only (waking : h.AboutToWake t) (taken : h.step t m = some moved) :
    m = .proceed := by
  obtain ⟨succeeded, rest, top⟩ := waking
  cases m with
  | call c => simp [step, canCall, top] at taken
  | proceed => rfl

theorem AboutToWake.of_ne (waking : h.AboutToWake u) (taken : Stepped h t m moved) (ne : u ≠ t) :
    moved.next.AboutToWake u := by
  obtain ⟨succeeded, rest, top⟩ := waking
  obtain same | woken := stack_of_ne taken ne
  · exact ⟨succeeded, rest, same.trans top⟩
  · exact ⟨succeeded, rest.map Activity.wake, by rw [woken, top]; rfl⟩

/-- Only a swap that presents an episode moves the counter on, and it goes on to wake the
sleepers. -/
theorem presented_step (counted : h.Counted) (taken : Stepped h t m moved) :
    moved.next.coordinator.presented = h.coordinator.presented ∨
      Presents ⟨h, (t, m), moved⟩ ∧ moved.next.AboutToWake t := by
  cases count taken with
  | same same => exact .inl same.presented
  | begun top proceeds found eq =>
    obtain ⟨-, -, presented, -⟩ :=
      Coordinator.register_some counted.counters (Prod.ext_iff.2 ⟨found, rfl⟩)
    exact .inl (by rw [eq, presented])
  | ended swaps ready idle =>
    refine .inr ⟨⟨swaps, ready, idle⟩, ?_⟩
    subst swaps
    cases taken with
    | swapped free run => exact absurd ready (Coordinator.swap_unfinished run).1
    | @presented succeeded => exact ⟨succeeded, h.stack t, setStack_same _ _ _⟩
    | swapPanicked free run =>
      obtain ⟨d, rfl⟩ := Coordinator.swap_panicked run
      rw [setStack_coordinator, withCoordinator_coordinator, Coordinator.withDevice_phase,
        ready] at idle
      cases idle

theorem OwesWake.snoc {steps : List (HandshakeStep σ)} (owes : OwesWake steps h u)
    (taken : Stepped h t m moved) (ne : u ≠ t) :
    OwesWake (steps ++ [⟨h, (t, m), moved⟩]) moved.next u := by
  obtain ⟨⟨l, z, k, rfl, presents, own, quiet⟩, waking⟩ := owes
  refine ⟨⟨l, z, k ++ [⟨h, (t, m), moved⟩], by simp, presents, own, ?_⟩, waking.of_ne taken ne⟩
  intro y hy
  obtain old | new := List.mem_append.1 hy
  · exact quiet y old
  · rw [List.mem_singleton.1 new]
    exact ne.symm

/-- Everybody who sleeps has an episode to come, or will be woken by the swap that presented it. -/
def Attended (steps : List (HandshakeStep σ)) (h : Handshake σ) : Prop :=
  ∀ t episode, h.SleepsFor t episode →
    h.coordinator.presented < episode ∨ ∃ u, OwesWake steps h u

theorem Attended.snoc {steps : List (HandshakeStep σ)} (attended : Attended steps h)
    (counted : h.Counted) (taken : h.step t m = some moved) :
    Attended (steps ++ [⟨h, (t, m), moved⟩]) moved.next := by
  intro u episode sleeps
  have made := stepped taken
  obtain same | ⟨presents, waking⟩ := presented_step counted made
  · obtain old | outstanding := sleeps.of_step made
    · obtain outstanding | ⟨v, owes⟩ := attended u episode old
      · exact .inl (by rwa [same])
      · by_cases own : v = t
        · -- the debt is paid with this move, and then nobody sleeps
          subst own
          obtain rfl := owes.waking.only taken
          obtain ⟨moved', taken', -, awake⟩ := owes.waking.proceeds
          rw [taken] at taken'
          obtain rfl := Option.some.inj taken'
          exact absurd sleeps (awake u episode)
        · exact .inr ⟨v, owes.snoc made own⟩
    · exact .inl outstanding
  · exact .inr ⟨t, ⟨steps, _, [], rfl, presents, rfl, by simp⟩, waking⟩

theorem Course.attended {h₀ : Handshake σ} {steps : List (HandshakeStep σ)} (quiet : h₀.Quiet)
    (course : Course h₀ steps h) : Attended steps h := by
  induction course with
  | nil =>
    intro t episode sleeps
    simp [SleepsFor, quiet.free] at sleeps
  | snoc path taken ih => exact ih.snoc (Course.counted path quiet.counted) taken

/-! ### A request whose episode is presented while it tells the engine -/

omit [SurfaceDevice σ] in
theorem InMiddleOf.of_append {g : Handshake σ} {outer : List Activity} {a : Activity}
    {depth : Nat} (inner : List Activity) (inside : outer.reverse[depth]? = some a)
    (after : g.stack u = inner ++ outer) : g.InMiddleOf u depth a := by
  obtain ⟨lt, -⟩ := List.getElem?_eq_some_iff.1 inside
  rw [InMiddleOf, after, List.reverse_append, List.getElem?_append_left lt, inside]

omit [SurfaceDevice σ] in
/-- An activity is the innermost one or is around it. -/
theorem InMiddleOf.of_cons {a b : Activity} {rest : List Activity} {depth : Nat}
    (inside : h.InMiddleOf t depth a) (top : h.stack t = b :: rest) :
    rest.reverse[depth]? = some a ∨ b = a ∧ rest.length = depth := by
  rw [InMiddleOf, top, List.reverse_cons] at inside
  by_cases lt : depth < rest.reverse.length
  · rw [List.getElem?_append_left lt] at inside
    exact .inl inside
  · rw [List.getElem?_append_right (Nat.le_of_not_lt lt)] at inside
    obtain ⟨atEnd, eq⟩ := List.getElem?_eq_some_iff.1 inside
    rw [List.length_singleton, Nat.lt_one_iff] at atEnd
    rw [List.length_reverse] at lt atEnd
    exact .inr ⟨by simpa [atEnd] using eq, by omega⟩

omit [SurfaceDevice σ] in
theorem InMiddleOf.of_wake {g : Handshake σ} {a : Activity} {depth : Nat}
    (inside : h.InMiddleOf t depth a) (woken : g.stack t = (h.stack t).map Activity.wake) :
    g.InMiddleOf t depth a.wake := by
  rw [InMiddleOf, woken, ← List.map_reverse, List.getElem?_map, inside]
  rfl

omit [SurfaceDevice σ] in
theorem InMiddleOf.lt_length {a : Activity} {depth : Nat} (inside : h.InMiddleOf t depth a) :
    depth < (h.stack t).length := by
  obtain ⟨lt, -⟩ := List.getElem?_eq_some_iff.1 inside
  rwa [List.length_reverse] at lt

omit [SurfaceDevice σ] in
theorem Sends.waits {depth episode : Nat} (sends : h.Sends t depth episode) :
    h.Waits t depth episode := by
  obtain ⟨a, tells, inside⟩ := sends
  rw [Waits, episodes, List.getElem?_map, inside, Option.map_some, tells.episode]

omit [SurfaceDevice σ] in
theorem Sends.not_asleep {depth episode : Nat} (sends : h.Sends t depth episode) (e : Nat) :
    ¬ h.InMiddleOf t depth (.asleep e) := by
  obtain ⟨a, tells, inside⟩ := sends
  intro asleep
  rw [InMiddleOf, inside] at asleep
  cases asleep
  cases tells

/-- The call at that depth is over: it has returned, or a panic has unwound the thread. -/
structure Over (moved : Moved σ) (t : ThreadId) (depth : Nat) : Prop where
  left : (moved.next.stack t).length ≤ depth
  reply : moved.reply ≠ none

/-- While it tells the engine, a request whose episode has been presented goes on to tell or
returns. -/
theorem Sends.step {depth episode : Nat} (sends : h.Sends u depth episode)
    (past : episode ≤ moved.next.coordinator.presented) (taken : Stepped h t m moved) :
    moved.next.Sends u depth episode ∨ Over moved u depth := by
  obtain ⟨a, tells, inside⟩ := sends
  by_cases own : u = t
  · subst own
    cases restacked taken with
    | grown inner awake after => exact .inl ⟨a, tells, .of_append inner inside after⟩
    | registered top after =>
      obtain around | ⟨rfl, -⟩ := inside.of_cons top
      · exact .inl ⟨a, tells, .of_append [_] around after⟩
      · cases tells
    | @told size _ rest top after =>
      obtain around | ⟨rfl, rfl⟩ := inside.of_cons top
      · exact .inl ⟨a, tells, .of_append [_] around after⟩
      · cases tells
        exact .inl ⟨.told size (some episode), .told, by simp [InMiddleOf, after]⟩
    | slept top waiting outstanding same after =>
      obtain around | ⟨rfl, -⟩ := inside.of_cons top
      · exact .inl ⟨a, tells, .of_append [_] around after⟩
      · -- the request itself would sleep, but its episode is past
        obtain ⟨size, rfl⟩ | rfl := waiting <;> cases tells
        exact absurd past (Nat.not_le.2 (by rwa [same]))
    | @woke succeeded rest top after =>
      obtain around | ⟨rfl, -⟩ := inside.of_cons top
      · have kept : (h.setStack u (.announcing succeeded :: rest)).InMiddleOf u depth a :=
          .of_append [_] around (setStack_same _ _ _)
        have woken := kept.of_wake (after.trans (by rw [setStack_same]))
        exact .inl ⟨a, tells, tells.wake ▸ woken⟩
      · cases tells
    | returned top after reply =>
      obtain around | ⟨rfl, rfl⟩ := inside.of_cons top
      · exact .inl ⟨a, tells, .of_append [] around after⟩
      · exact .inr ⟨Nat.le_of_eq (by rw [after]), by simp [reply]⟩
    | unwound after reply => exact .inr ⟨by simp [after], by simp [reply]⟩
  · obtain same | woken := stack_of_ne taken own
    · exact .inl ⟨a, tells, by rwa [InMiddleOf, same]⟩
    · exact .inl ⟨a, tells, tells.wake ▸ inside.of_wake woken⟩

theorem Sends.course {g : Handshake σ} {steps : List (HandshakeStep σ)} {depth episode : Nat}
    (sends : h.Sends t depth episode) (course : Course h steps g)
    (past : ∀ w ∈ steps, episode ≤ w.result.next.coordinator.presented)
    (inProgress : ∀ w ∈ steps, depth < (w.result.next.stack t).length) :
    g.Sends t depth episode := by
  induction course with
  | nil => exact sends
  | @snoc steps s m moved path taken ih =>
    have before := ih (fun w hw => past w (by simp [hw])) fun w hw => inProgress w (by simp [hw])
    obtain still | gone := before.step (past ⟨s, m, moved⟩ (by simp)) (stepped taken)
    · exact still
    · exact absurd gone.left (Nat.not_le.2 (inProgress ⟨s, m, moved⟩ (by simp)))

/-- In every state that is reached, who sleeps has an episode to come, or a swap has presented it
and has yet to wake the sleepers; it can do so at once, and then nobody sleeps.  A request whose
episode is presented while it tells the engine its size does not go to sleep: it tells the engine
until it is over. -/
theorem no_wakeup_lost {h₀ h : Handshake σ} {steps : List (HandshakeStep σ)} (quiet : h₀.Quiet)
    (course : Course h₀ steps h) :
    (∀ t episode, h.SleepsFor t episode → h.coordinator.presented < episode ∨
      ∃ u, OwesWake steps h u ∧ ∃ moved, h.step u .proceed = some moved ∧
        moved.events = [.notified] ∧ ∀ t' episode', ¬ moved.next.SleepsFor t' episode') ∧
    ∀ m z k, steps = m ++ z :: k → Presents z →
      ∀ t depth episode, z.before.Sends t depth episode →
        ∀ k₁ y k₂, z :: k = k₁ ++ y :: k₂ →
          (∀ w ∈ k₁, depth < (w.result.next.stack t).length) →
          (∀ e, ¬ y.result.next.InMiddleOf t depth (.asleep e)) ∧
            (y.result.next.Sends t depth episode ∨ Over y.result t depth) := by
  refine ⟨fun t episode sleeps => ?_, ?_⟩
  · obtain outstanding | ⟨u, owes⟩ := course.attended quiet t episode sleeps
    · exact .inl outstanding
    · exact .inr ⟨u, owes, owes.waking.proceeds⟩
  · rintro m z k rfl presents t depth episode sends k₁ y k₂ cut inProgress
    obtain ⟨path, taken, later⟩ := Path.split course
    have counted := Course.counted path quiet.counted
    have past : ∀ w ∈ z :: k, episode ≤ w.result.next.coordinator.presented := fun w hw =>
      Coordinator.hasPresented_iff.1
        (presents.releases counted taken later (counted.waiters _ _ _ sends.waits) hw)
    have fromSwap : Course z.before (z :: k) h := Path.cons taken later
    rw [cut] at fromSwap past
    obtain ⟨upTo, taken', -⟩ := Path.split fromSwap
    have before := sends.course upTo (fun w hw => past w (by simp [hw])) inProgress
    have after := before.step (past y (by simp)) (stepped taken')
    refine ⟨fun e asleep => ?_, after⟩
    obtain still | gone := after
    · exact still.not_asleep e asleep
    · exact absurd gone.left (Nat.not_le.2 asleep.lt_length)

/-- Thread 2 asks for 50 by 50 and goes to sleep; thread 1 asks for 100 by 100 in the same episode,
and the engine draws that frame while thread 1 tells it the size. -/
def inlineMoves : List (ThreadId × Move) :=
  [(2, .call (.request ⟨50, 50⟩)), (2, .proceed), (2, .proceed), (2, .proceed),
    (1, .call (.request ⟨100, 100⟩)), (1, .proceed), (1, .proceed),
    (1, .call (.acquire ⟨100, 100⟩)), (1, .call .swap), (1, .proceed), (1, .proceed),
    (1, .proceed)]

/-- The steps of the first `n` of these moves. -/
def inlineSteps (n : Nat) : List (HandshakeStep Headless) :=
  Path.record (fun h (m : ThreadId × Move) => h.step m.1 m.2) Moved.next resting
    (inlineMoves.take n)

/-- After the swap thread 2 sleeps although its episode is past, and thread 1 owes it the wake-up;
thread 1 itself returns with the last move and never sleeps. -/
theorem inline_frame_wakes_sleeper :
    (∃ h, Course resting (inlineSteps 9) h ∧ h.SleepsFor 2 1 ∧ h.coordinator.presented = 1 ∧
      ∃ u, OwesWake (inlineSteps 9) h u) ∧
    ∃ m z k y, inlineSteps 12 = m ++ z :: (k ++ [y]) ∧ Presents z ∧ z.before.Sends 1 0 1 ∧
      (∀ e, ¬ y.result.next.InMiddleOf 1 0 (.asleep e)) ∧ Over y.result 1 0 := by
  refine ⟨?owed, ?passed⟩
  case owed =>
    have cut : inlineSteps 9 = (inlineSteps 9).take 8 ++ [(inlineSteps 9).get ⟨8, by decide⟩] :=
      rfl
    obtain ⟨h, course⟩ : ∃ h, Course resting (inlineSteps 9) h :=
      Path.recorded resting (inlineMoves.take 9)
    have last := course
    rw [cut] at last
    obtain ⟨-, -, rfl⟩ := Path.of_snoc last
    have sleeps : ((inlineSteps 9).get ⟨8, by decide⟩).result.next.SleepsFor 2 1 :=
      List.mem_singleton.2 rfl
    obtain ⟨attended, -⟩ := no_wakeup_lost ⟨rfl, rfl, fun _ => rfl⟩ course
    obtain outstanding | ⟨u, owes, -⟩ := attended 2 1 sleeps
    · exact absurd outstanding (by decide)
    · exact ⟨_, course, sleeps, rfl, u, owes⟩
  case passed =>
    let z := (inlineSteps 12).get ⟨8, by decide⟩
    let k := ((inlineSteps 12).drop 9).take 2
    let y := (inlineSteps 12).get ⟨11, by decide⟩
    have cut : inlineSteps 12 = (inlineSteps 12).take 8 ++ z :: (k ++ [y]) := rfl
    have presents : Presents z := ⟨rfl, rfl, rfl⟩
    have sends : z.before.Sends 1 0 1 := ⟨.told ⟨100, 100⟩ (some 1), .told, rfl⟩
    have inProgress : ∀ w ∈ z :: k, 0 < (w.result.next.stack 1).length := by decide
    obtain ⟨h, course⟩ : ∃ h, Course resting (inlineSteps 12) h :=
      Path.recorded resting (inlineMoves.take 12)
    obtain ⟨-, passes⟩ := no_wakeup_lost ⟨rfl, rfl, fun _ => rfl⟩ course
    obtain ⟨awake, still | returned⟩ :=
      passes _ z _ cut presents 1 0 1 sends (z :: k) y [] rfl inProgress
    · obtain ⟨a, -, inside⟩ := still
      cases inside
    · exact ⟨_, z, k, y, cut, presents, sends, awake, returned⟩

end Handshake

end HostView
