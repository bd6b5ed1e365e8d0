import HostView.Proofs.Path
import HostView.Proofs.Resize.Handshake

/-!
# Episodes and the threads that wait for them

`Handshake.Counted` ties the phase of the coordinator to its two counters: while nothing is asked
for they agree, and otherwise exactly one episode is started and not yet presented.  It is kept by
every move of every thread.  What a thread waits for is read off its stack as a list of episodes
(`Handshake.episodes`), and `Shift` says how one move changes that list.
-/

namespace HostView

/-! ### The coordinator in a move -/

namespace Coordinator

variable {σ : Type}

/-- An idle coordinator has presented all that was started, a busy one all but one. -/
structure Counted (c : Coordinator σ) : Prop where
  even : c.phase = .idle → c.presented = c.started
  ahead : c.phase ≠ .idle → c.started = c.presented + 1

/-- The counters and whether an episode is under way are the same. -/
structure SameCount (c c' : Coordinator σ) : Prop where
  idle : c'.phase = .idle ↔ c.phase = .idle
  started : c'.started = c.started
  presented : c'.presented = c.presented

theorem SameCount.counted {c c' : Coordinator σ} (same : SameCount c c') (h : Counted c) :
    Counted c' := by
  refine ⟨fun idle => ?_, fun busy => ?_⟩
  · rw [same.presented, same.started, h.even (same.idle.1 idle)]
  · rw [same.presented, same.started, h.ahead fun idle => busy (same.idle.2 idle)]

theorem sameCount_withDevice (c : Coordinator σ) (d : σ) : SameCount c (c.withDevice d) :=
  ⟨Iff.rfl, rfl, rfl⟩

theorem sameCount_surface (c : Coordinator σ) (l : Lifecycle σ) :
    SameCount c { c with surface := l } :=
  ⟨Iff.rfl, rfl, rfl⟩

/-- A registration that has an episode to wait for. -/
theorem register_some {c c' : Coordinator σ} {size : Size} {episode : Nat} {es : List Event}
    (h : Counted c) (run : c.register size = (some episode, c', es)) :
    c'.phase = .requested size ∧ c'.started = episode ∧ c'.presented = c.presented ∧
      c.started ≤ episode ∧ (c.phase ≠ .idle → episode = c.started) ∧ c'.surface = c.surface ∧
      Counted c' := by
  have made := registered c size
  rw [run] at made
  cases made with
  | started full idle other =>
    refine ⟨rfl, rfl, rfl, Nat.le_succ _, fun busy => absurd idle busy, rfl, ⟨nofun, fun _ => ?_⟩⟩
    rw [h.even idle]
  | retargeted full busy =>
    exact ⟨rfl, rfl, rfl, Nat.le_refl _, fun _ => rfl, rfl, ⟨nofun, fun _ => h.ahead busy⟩⟩

/-- A registration that has nothing to wait for leaves everything as it is. -/
theorem register_none {c c' : Coordinator σ} {size : Size} {es : List Event}
    (run : c.register size = (none, c', es)) :
    c' = c ∧ (size.isEmpty = true ∨ c.phase = .idle ∧ c.surface.dimensions = size) := by
  have made := registered c size
  rw [run] at made
  cases made with
  | empty empty => exact ⟨rfl, .inl empty⟩
  | current full idle same => exact ⟨rfl, .inr ⟨idle, same⟩⟩

variable [SurfaceDevice σ]

theorem acquire_sameCount {c c' : Coordinator σ} {size : Size} {outcome : Outcome Unit}
    {es : List Event} (run : acquire size c = ⟨outcome, c', es⟩) : SameCount c c' := by
  have made := acquired c size
  rw [run] at made
  cases made with
  | passed => exact ⟨Iff.rfl, rfl, rfl⟩
  | missing => exact ⟨Iff.rfl, rfl, rfl⟩
  | failed => exact ⟨Iff.rfl, rfl, rfl⟩
  | ready asked => exact ⟨by simp [asked], rfl, rfl⟩
  | panicked => exact ⟨Iff.rfl, rfl, rfl⟩
  | panickedLate => exact ⟨Iff.rfl, rfl, rfl⟩

/-- A swap that ends no episode. -/
theorem swap_unfinished {c c' : Coordinator σ} {succeeded : Bool} {es : List Event}
    (run : swap c = ⟨.returned ⟨succeeded, false⟩, c', es⟩) :
    c.phase ≠ .frameReady ∧ ∃ d, c' = c.withDevice d := by
  have made := swapMade c
  rw [run] at made
  cases made with
  | refused asked => exact ⟨by simp [asked], c.surface.device, rfl⟩
  | @plain d _ _ idle => exact ⟨by simp [idle], d, rfl⟩

/-- A swap that ends an episode. -/
theorem swap_finished {c c' : Coordinator σ} {succeeded : Bool} {es : List Event}
    (run : swap c = ⟨.returned ⟨succeeded, true⟩, c', es⟩) :
    c.phase = .frameReady ∧
      ∃ d, c' = { c.withDevice d with phase := .idle, presented := c.started } := by
  have made := swapMade c
  rw [run] at made
  cases made with
  | @presented d _ _ ready => exact ⟨ready, d, rfl⟩

theorem swap_panicked {c c' : Coordinator σ} {m : String} {es : List Event}
    (run : swap c = ⟨.panicked m, c', es⟩) : ∃ d, c' = c.withDevice d := by
  have made := swapMade c
  rw [run] at made
  cases made with
  | @panicked d => exact ⟨d, rfl⟩

end Coordinator

/-! ### What a thread waits for -/

namespace Handshake

variable {σ : Type}

/-- The episodes that the activities of a thread wait for, the outermost activity first. -/
def episodes (h : Handshake σ) (t : ThreadId) : List (Option Nat) :=
  (h.stack t).reverse.map Activity.episode

/-- At some depth of its stack a thread waits for an episode. -/
def Waits (h : Handshake σ) (t : ThreadId) (depth episode : Nat) : Prop :=
  (h.episodes t)[depth]? = some (some episode)

@[simp] theorem length_episodes (h : Handshake σ) (t : ThreadId) :
    (h.episodes t).length = (h.stack t).length := by
  simp [episodes]

theorem episodes_of_cons {h : Handshake σ} {t : ThreadId} {a : Activity} {rest : List Activity}
    (top : h.stack t = a :: rest) :
    h.episodes t = rest.reverse.map Activity.episode ++ [a.episode] := by
  simp [episodes, top]

@[simp] theorem episodes_withCoordinator (h : Handshake σ) (c : Coordinator σ) :
    (h.withCoordinator c).episodes = h.episodes := rfl

theorem episodes_setStack (h : Handshake σ) (t : ThreadId) (stack : List Activity) :
    (h.setStack t stack).episodes t = stack.reverse.map Activity.episode := by
  simp [episodes]

theorem episodes_setStack_of_ne (h : Handshake σ) {t u : ThreadId} (ne : u ≠ t)
    (stack : List Activity) : (h.setStack t stack).episodes u = h.episodes u := by
  rw [episodes, setStack_of_ne _ _ ne, episodes]

@[simp] theorem episodes_wakeAll (h : Handshake σ) : h.wakeAll.episodes = h.episodes := by
  funext t
  simp [episodes, ← List.map_reverse, Function.comp_def]

theorem waits_append {l l' : List (Option Nat)} {depth episode : Nat}
    (h : l[depth]? = some (some episode)) : (l ++ l')[depth]? = some (some episode) := by
  obtain ⟨lt, -⟩ := List.getElem?_eq_some_iff.1 h
  rwa [List.getElem?_append_left lt]

theorem waits_append_singleton {l : List (Option Nat)} {last : Option Nat} {depth episode : Nat}
    (h : (l ++ [last])[depth]? = some (some episode)) :
    l[depth]? = some (some episode) ∨ depth = l.length ∧ last = some episode := by
  by_cases lt : depth < l.length
  · rw [List.getElem?_append_left lt] at h
    exact .inl h
  · rw [List.getElem?_append_right (Nat.le_of_not_lt lt)] at h
    obtain ⟨at_end, eq⟩ := List.getElem?_eq_some_iff.1 h
    simp only [List.length_singleton, Nat.lt_one_iff] at at_end
    simp only [at_end, List.getElem_cons_zero] at eq
    exact .inr ⟨by omega, eq⟩

/-- How the episodes that a thread waits for change in a move of its own. -/
inductive Shift (h : Handshake σ) (t : ThreadId) (moved : Moved σ) : Prop
  | kept (same : moved.next.episodes t = h.episodes t)
  | pushed (grown : moved.next.episodes t = h.episodes t ++ [none])
  /-- A request has found its episode. -/
  | joined {outer : List (Option Nat)} {size : Size} {episode : Nat} {rest : List Activity}
      (top : h.stack t = .entering size :: rest)
      (found : (h.coordinator.register size).1 = some episode)
      (eq : moved.next.coordinator = (h.coordinator.register size).2.1)
      (before : h.episodes t = outer ++ [none])
      (after : moved.next.episodes t = outer ++ [some episode])
  /-- A call has returned, and did not wait for an episode that is still outstanding. -/
  | popped {outer : List (Option Nat)} {last : Option Nat}
      (before : h.episodes t = outer ++ [last]) (after : moved.next.episodes t = outer)
      (past : ∀ episode, last = some episode → episode ≤ h.coordinator.presented)
  /-- A panic has unwound the thread. -/
  | unwound {m : String} (after : moved.next.episodes t = [])
      (reply : moved.reply = some (.panicked m))

variable [SurfaceDevice σ] {h : Handshake σ} {t : ThreadId} {m : Move} {moved : Moved σ}

theorem episodes_of_ne (taken : Stepped h t m moved) {u : ThreadId} (ne : u ≠ t) :
    moved.next.episodes u = h.episodes u := by
  cases taken <;> simp [episodes_setStack_of_ne _ ne]

theorem shift (taken : Stepped h t m moved) : Shift h t moved := by
  cases taken with
  | requested => exact .pushed (by simp [episodes, Activity.episode])
  | tells => exact .pushed (by simp [episodes, Activity.episode])
  | acquired => exact .kept (by simp)
  | acquirePanicked => exact .unwound (episodes_setStack _ _ _) rfl
  | swapped => exact .kept (by simp)
  | presented => exact .pushed (by simp [episodes, Activity.episode])
  | swapPanicked => exact .unwound (episodes_setStack _ _ _) rfl
  | surfaced => exact .kept (by simp)
  | surfacePanicked => exact .unwound (episodes_setStack _ _ _) rfl
  | @registered size rest episode c es top run =>
    cases episode with
    | none => exact .kept (by simp [episodes_of_cons top, episodes_setStack, Activity.episode])
    | some episode =>
      exact .joined top (by rw [run]) (by rw [run]; rfl) (episodes_of_cons top)
        (by simp [episodes_setStack, Activity.episode])
  | told top => exact .kept (by simp [episodes_of_cons top, episodes_setStack, Activity.episode])
  | done top => exact .popped (episodes_of_cons top) (episodes_setStack _ _ _) nofun
  | @released a rest episode records top waiting past =>
    refine .popped (episodes_of_cons top) (episodes_setStack _ _ _) fun e he => ?_
    obtain ⟨size, rfl⟩ | rfl := waiting <;> cases he <;> exact past
  | @slept a rest episode records top waiting =>
    refine .kept ?_
    rw [episodes_of_cons top, episodes_setStack, List.reverse_cons, List.map_append]
    obtain ⟨size, rfl⟩ | rfl := waiting <;> rfl
  | woke top => exact .kept (by simp [episodes_of_cons top, episodes_setStack, Activity.episode])
  | announced top => exact .popped (episodes_of_cons top) (episodes_setStack _ _ _) nofun

/-! ### The invariant of the counters -/

/-- The counters fit the phase, and nobody waits for an episode that was not started. -/
structure Counted (h : Handshake σ) : Prop where
  counters : h.coordinator.Counted
  waiters : ∀ t depth episode, h.Waits t depth episode → episode ≤ h.coordinator.started

/-- Nobody is in the middle of anything, and no episode is under way. -/
structure Quiet (h : Handshake σ) : Prop where
  idle : h.coordinator.phase = .idle
  even : h.coordinator.presented = h.coordinator.started
  free : ∀ t, h.stack t = []

omit [SurfaceDevice σ] in
theorem Quiet.counted (quiet : h.Quiet) : h.Counted := by
  refine ⟨⟨fun _ => quiet.even, fun busy => absurd quiet.idle busy⟩, ?_⟩
  intro t depth episode waits
  simp [Waits, episodes, quiet.free] at waits

/-- What a move does to the counters. -/
inductive Count (h : Handshake σ) (t : ThreadId) (m : Move) (moved : Moved σ) : Prop
  | same (same : Coordinator.SameCount h.coordinator moved.next.coordinator)
  | begun {size : Size} {rest : List Activity} {episode : Nat}
      (top : h.stack t = .entering size :: rest) (proceeds : m = .proceed)
      (found : (h.coordinator.register size).1 = some episode)
      (eq : moved.next.coordinator = (h.coordinator.register size).2.1)
  | ended (swaps : m = .call .swap) (ready : h.coordinator.phase = .frameReady)
      (idle : moved.next.coordinator.phase = .idle)
      (surface : ∃ d, moved.next.coordinator.surface = h.coordinator.surface.withDevice d)
      (started : moved.next.coordinator.started = h.coordinator.started)
      (presented : moved.next.coordinator.presented = h.coordinator.started)

theorem count (taken : Stepped h t m moved) : Count h t m moved := by
  have unchanged : Coordinator.SameCount h.coordinator h.coordinator := ⟨Iff.rfl, rfl, rfl⟩
  cases taken with
  | requested => exact .same unchanged
  | tells => exact .same unchanged
  | acquired free run => exact .same (Coordinator.acquire_sameCount run)
  | acquirePanicked free run => exact .same (Coordinator.acquire_sameCount run)
  | swapped free run =>
    obtain ⟨-, d, rfl⟩ := Coordinator.swap_unfinished run
    exact .same (Coordinator.sameCount_withDevice _ d)
  | presented free run =>
    obtain ⟨ready, d, rfl⟩ := Coordinator.swap_finished run
    exact .ended rfl ready rfl ⟨d, rfl⟩ rfl rfl
  | swapPanicked free run =>
    obtain ⟨d, rfl⟩ := Coordinator.swap_panicked run
    exact .same (Coordinator.sameCount_withDevice _ d)
  | surfaced => exact .same (Coordinator.sameCount_surface _ _)
  | surfacePanicked => exact .same (Coordinator.sameCount_surface _ _)
  | @registered size rest episode c es top run =>
    cases episode with
    | none =>
      obtain ⟨rfl, -⟩ := Coordinator.register_none run
      exact .same unchanged
    | some episode => exact .begun top rfl (by rw [run]) (by rw [run]; rfl)
  | told => exact .same unchanged
  | done => exact .same unchanged
  | released => exact .same unchanged
  | slept => exact .same unchanged
  | woke => exact .same unchanged
  | announced => exact .same unchanged

omit [SurfaceDevice σ] in
theorem started_mono (counted : h.Counted) (made : Count h t m moved) :
    h.coordinator.started ≤ moved.next.coordinator.started := by
  cases made with
  | same same => exact Nat.le_of_eq same.started.symm
  | @begun size rest episode top proceeds found eq =>
    obtain ⟨-, started, -, grown, -⟩ :=
      Coordinator.register_some counted.counters (Prod.ext_iff.2 ⟨found, rfl⟩)
    rw [eq, started]
    exact grown
  | ended _ _ _ _ started => exact Nat.le_of_eq started.symm

omit [SurfaceDevice σ] in
theorem presented_mono (counted : h.Counted) (made : Count h t m moved) :
    h.coordinator.presented ≤ moved.next.coordinator.presented := by
  cases made with
  | same same => exact Nat.le_of_eq same.presented.symm
  | @begun size rest episode top proceeds found eq =>
    obtain ⟨-, -, presented, -⟩ :=
      Coordinator.register_some counted.counters (Prod.ext_iff.2 ⟨found, rfl⟩)
    exact Nat.le_of_eq (by rw [eq, presented])
  | ended swaps ready idle surface started presented =>
    have ahead := counted.counters.ahead (by simp [ready])
    omega

omit [SurfaceDevice σ] in
theorem Count.counters (counted : h.Counted) (made : Count h t m moved) :
    moved.next.coordinator.Counted := by
  cases made with
  | same same => exact same.counted counted.counters
  | @begun size rest episode top proceeds found eq =>
    obtain ⟨-, -, -, -, -, -, kept⟩ :=
      Coordinator.register_some counted.counters (Prod.ext_iff.2 ⟨found, rfl⟩)
    rwa [eq]
  | ended swaps ready idle surface started presented =>
    exact ⟨fun _ => presented.trans started.symm, fun busy => absurd idle busy⟩

/-- Who waits after a move waited before it, or has just found the episode. -/
theorem waits_of_step (taken : Stepped h t m moved) {u : ThreadId} {depth episode : Nat}
    (waits : moved.next.Waits u depth episode) :
    h.Waits u depth episode ∨ ∃ size, (h.coordinator.register size).1 = some episode ∧
      moved.next.coordinator = (h.coordinator.register size).2.1 := by
  by_cases own : u = t
  · subst own
    cases shift taken with
    | kept same => exact .inl (by rwa [Waits, ← same])
    | pushed grown =>
      rw [Waits, grown] at waits
      obtain old | ⟨-, ⟨⟩⟩ := waits_append_singleton waits
      exact .inl old
    | @joined outer size e rest top found eq before after =>
      rw [Waits, after] at waits
      obtain old | ⟨-, new⟩ := waits_append_singleton waits
      · exact .inl (by rw [Waits, before]; exact waits_append old)
      · obtain rfl := Option.some.inj new
        exact .inr ⟨size, found, eq⟩
    | popped before after past =>
      rw [Waits, after] at waits
      exact .inl (by rw [Waits, before]; exact waits_append waits)
    | unwound after => simp [Waits, after] at waits
  · exact .inl (by rwa [Waits, ← episodes_of_ne taken own])

/-- Every move of every thread keeps the counters right. -/
theorem Counted.step (counted : h.Counted) (taken : Stepped h t m moved) : moved.next.Counted := by
  have made := count taken
  refine ⟨made.counters counted, fun u depth episode waits => ?_⟩
  obtain old | ⟨size, found, eq⟩ := waits_of_step taken waits
  · exact Nat.le_trans (counted.waiters u depth episode old) (started_mono counted made)
  · obtain ⟨-, started, -⟩ :=
      Coordinator.register_some counted.counters (Prod.ext_iff.2 ⟨found, rfl⟩)
    exact Nat.le_of_eq (by rw [eq, started])

end Handshake

end HostView
