import HostView.Proofs.Resize.Section
import HostView.Proofs.Resize.Wakeup

/-!
# Every presentation is told once

The thread that presents an episode gives up the lock, wakes the sleepers and tells the window.
Other threads may move in between, and may present further episodes, but the thread itself does
nothing else: what it still owes of the three is read off its stack (`Handshake.owed`), and all
that it has done and owes is a sequence of whole rounds (`Mark.round`).
-/

namespace HostView

/-- What can be seen of the end of an episode. -/
inductive Mark
  | presented | notified | announced
deriving DecidableEq

/-- All that a thread does about one episode. -/
def Mark.round : List Mark := [.presented, .notified, .announced]

def Event.mark : Event → Option Mark
  | .notified => some .notified
  | .window .resized => some .announced
  | _ => none

theorem Event.observer_mark : Observer mark := ⟨fun _ => rfl, fun _ => rfl, fun _ => rfl⟩

theorem Event.mark_guarded {es : List Event} (inner : ∀ e ∈ es, e.isInner = true) :
    (guarded .resize es).filterMap mark = [] := by
  rw [observer_mark.guarded, List.filterMap_eq_nil_iff]
  intro e mem
  have allowed := inner e mem
  cases e with
  | device | log => rfl
  | _ => cases allowed

/-- What a thread has still to do about an episode that it has presented. -/
def Activity.owes : Activity → List Mark
  | waking _ => [.notified, .announced]
  | announcing _ => [.announced]
  | entering _ | telling _ _ | told _ _ | asleep _ | woken _ => []

@[simp] theorem Activity.owes_wake (a : Activity) : a.wake.owes = a.owes := by
  cases a <;> rfl

namespace Handshake

variable {σ : Type}

/-- Whether a step ends an episode. -/
def ends (x : HandshakeStep σ) : Bool :=
  x.before.coordinator.phase != .idle && x.result.next.coordinator.phase == .idle

/-- How many episodes have ended. -/
def completed (steps : List (HandshakeStep σ)) : Nat := steps.countP ends

/-- How often the window has been told that it was resized. -/
def announcements (steps : List (HandshakeStep σ)) : Nat :=
  ((steps.flatMap (·.result.events)).filterMap Event.announcement).length

def marks (x : HandshakeStep σ) : List Mark :=
  (if ends x then [.presented] else []) ++ x.result.events.filterMap Event.mark

/-- The marks of some steps, each with its thread. -/
def marked (steps : List (HandshakeStep σ)) : List (ThreadId × Mark) :=
  steps.flatMap fun x => (marks x).map (x.move.1, ·)

def marksOf (t : ThreadId) (steps : List (HandshakeStep σ)) : List Mark :=
  ((marked steps).filter (·.1 = t)).map (·.2)

/-- What a thread still owes. -/
def owed (h : Handshake σ) (t : ThreadId) : List Mark :=
  ((h.stack t).head?.map Activity.owes).getD []

/-- Only the innermost activity of a thread can be a swap. -/
def Lone (h : Handshake σ) : Prop := ∀ t, ∀ a ∈ (h.stack t).tail, a.owes = []

theorem owed_of_top {h : Handshake σ} {t : ThreadId} {a : Activity} {rest : List Activity}
    (top : h.stack t = a :: rest) : h.owed t = a.owes := by
  simp [owed, top]

theorem owed_of_none {h : Handshake σ} {t : ThreadId} (none : ∀ a ∈ h.stack t, a.owes = []) :
    h.owed t = [] := by
  cases top : h.stack t with
  | nil => simp [owed, top]
  | cons a rest => rw [owed_of_top top, none a (by simp [top])]

theorem marksOf_snoc (t : ThreadId) (steps : List (HandshakeStep σ)) (x : HandshakeStep σ) :
    marksOf t (steps ++ [x]) = marksOf t steps ++ if x.move.1 = t then marks x else [] := by
  rw [marksOf, marked, List.flatMap_append, List.filter_append, List.map_append]
  congr 1
  split <;> simp [List.filter_map, Function.comp_def, *]

variable {h : Handshake σ} {t : ThreadId} {m : Move} {moved : Moved σ}

/-- A thread that can make a call is in no swap. -/
theorem Lone.none_of_free (lone : h.Lone) (free : h.canCall t = true) :
    ∀ a ∈ h.stack t, a.owes = [] := by
  have tail := lone t
  unfold canCall at free
  split at free
  next none => simp [none]
  next top =>
    rw [top] at tail ⊢
    exact List.forall_mem_cons.2 ⟨rfl, tail⟩
  next => cases free

theorem Lone.none_of_top (lone : h.Lone) {a : Activity} {rest : List Activity}
    (top : h.stack t = a :: rest) (owes : a.owes = []) : ∀ b ∈ h.stack t, b.owes = [] := by
  have tail := lone t
  rw [top] at tail ⊢
  exact List.forall_mem_cons.2 ⟨owes, tail⟩

variable [SurfaceDevice σ]

omit [SurfaceDevice σ] in
theorem ends_of_same {x : HandshakeStep σ}
    (same : x.result.next.coordinator.phase = .idle ↔ x.before.coordinator.phase = .idle) :
    ends x = false := by
  by_cases idle : x.before.coordinator.phase = .idle
  · simp [ends, idle]
  · have busy := mt same.1 idle
    simp [ends, busy]

theorem ends_of_other (taken : Stepped h t m moved) (other : m ≠ .call .swap) :
    ends ⟨h, (t, m), moved⟩ = false := by
  cases count taken with
  | same same => exact ends_of_same same.idle
  | begun top proceeds found eq =>
    have phase := Coordinator.register_phase (Prod.ext_iff.2 ⟨found, rfl⟩)
    rw [← eq] at phase
    simp [ends, phase]
  | ended swaps => exact absurd swaps other

theorem marks_of_other (taken : Stepped h t m moved) (other : m ≠ .call .swap)
    (events : moved.events.filterMap Event.mark = []) : marks ⟨h, (t, m), moved⟩ = [] := by
  rw [marks, ends_of_other taken other, events]
  rfl

/-- A call ends no wait and tells no window. -/
theorem mark_of_call {call : HandshakeCall} (taken : Stepped h t (.call call) moved) :
    moved.events.filterMap Event.mark = [] := by
  obtain none | ⟨es, events, inner⟩ := section_of_call taken
  · rw [none]
    rfl
  · rw [events]
    exact Event.mark_guarded inner

/-- What a move of a thread leaves of what the thread owes. -/
structure Pays (h : Handshake σ) (t : ThreadId) (m : Move) (moved : Moved σ) : Prop where
  lone : ∀ a ∈ (moved.next.stack t).tail, a.owes = []
  paid : marks ⟨h, (t, m), moved⟩ ++ moved.next.owed t = h.owed t ∨
    h.owed t = [] ∧ marks ⟨h, (t, m), moved⟩ ++ moved.next.owed t = Mark.round

omit [SurfaceDevice σ] in
/-- A thread that is in no swap before and after a move owes nothing. -/
theorem Pays.calm (before : ∀ a ∈ h.stack t, a.owes = [])
    (after : ∀ a ∈ moved.next.stack t, a.owes = []) (silent : marks ⟨h, (t, m), moved⟩ = []) :
    Pays h t m moved := by
  refine ⟨fun a mem => after a (List.mem_of_mem_tail mem), .inl ?_⟩
  rw [silent, owed_of_none before, owed_of_none after, List.append_nil]

theorem pays_swap (lone : h.Lone) (taken : Stepped h t (.call .swap) moved) :
    Pays h t (.call .swap) moved := by
  have unmarked := mark_of_call taken
  cases taken with
  | swapped free run =>
    have none := lone.none_of_free free
    obtain ⟨-, d, rfl⟩ := Coordinator.swap_unfinished run
    refine .calm none none ?_
    rw [marks, unmarked, ends_of_same Iff.rfl]
    rfl
  | swapPanicked free run =>
    obtain ⟨d, rfl⟩ := Coordinator.swap_panicked run
    refine .calm (lone.none_of_free free) (by simp) ?_
    rw [marks, unmarked, ends_of_same Iff.rfl]
    rfl
  | presented free run =>
    have none := lone.none_of_free free
    obtain ⟨ready, d, rfl⟩ := Coordinator.swap_finished run
    refine ⟨by simpa using none, .inr ⟨owed_of_none none, ?_⟩⟩
    rw [marks, unmarked, owed_of_top (setStack_same _ _ _)]
    simp [ends, ready, Activity.owes, Mark.round]

theorem pays_proceed (lone : h.Lone) (taken : Stepped h t .proceed moved) :
    Pays h t .proceed moved := by
  have silent := marks_of_other taken nofun
  have looks := Event.observer_mark
  cases taken with
  | registered top run =>
    obtain ⟨records, rfl⟩ := Coordinator.register_logs run
    have none := lone.none_of_top top rfl
    exact .calm none (by simpa [top, Activity.owes] using none)
      (silent (by rw [looks.guarded, looks.logs]))
  | told top =>
    have none := lone.none_of_top top rfl
    exact .calm none (by simpa [top, Activity.owes] using none) (silent rfl)
  | done top =>
    have none := lone.none_of_top top rfl
    refine .calm none (fun a mem => none a ?_) (silent rfl)
    rw [top]
    exact List.mem_cons_of_mem _ (by simpa using mem)
  | @released a rest episode records top waiting =>
    have owes : a.owes = [] := by obtain ⟨size, rfl⟩ | rfl := waiting <;> rfl
    have none := lone.none_of_top top owes
    refine .calm none (fun b mem => none b ?_) (silent (by rw [looks.guarded, looks.logs]))
    rw [top]
    exact List.mem_cons_of_mem _ (by simpa using mem)
  | @slept a rest episode records top waiting =>
    have owes : a.owes = [] := by obtain ⟨size, rfl⟩ | rfl := waiting <;> rfl
    have none := lone.none_of_top top owes
    refine .calm none ?_ (silent (by rw [looks.guarded, looks.logs]))
    rw [top, List.forall_mem_cons] at none
    simpa [Activity.owes] using none.2
  | woke top =>
    have tail := lone t
    rw [top] at tail
    refine ⟨by simpa using tail, .inl ?_⟩
    rw [marks, ends_of_other (.woke top) nofun, owed_of_top top, owed]
    simp [Activity.owes, Activity.wake, Event.mark]
  | @announced succeeded rest records top =>
    have tail := lone t
    rw [top] at tail
    have none : ∀ a ∈ (h.setStack t rest).stack t, a.owes = [] := by simpa using tail
    refine ⟨fun a mem => none a (List.mem_of_mem_tail mem), .inl ?_⟩
    rw [marks, ends_of_other (.announced top) nofun, owed_of_top top, owed_of_none none,
      List.filterMap_cons_some (f := Event.mark) rfl, looks.logs]
    rfl

theorem pays (lone : h.Lone) (taken : Stepped h t m moved) : Pays h t m moved := by
  cases m with
  | proceed => exact pays_proceed lone taken
  | call call =>
    have unmarked := mark_of_call taken
    have silent (other : call ≠ .swap) : marks ⟨h, (t, .call call), moved⟩ = [] :=
      marks_of_other taken (fun same => other (Move.call.inj same)) unmarked
    cases taken with
    | requested free | tells free =>
      have none := lone.none_of_free free
      exact .calm none (by simpa [Activity.owes] using none) (silent nofun)
    | acquired free | surfaced free =>
      have none := lone.none_of_free free
      exact .calm none none (silent nofun)
    | acquirePanicked free | surfacePanicked free =>
      exact .calm (lone.none_of_free free) (by simp) (silent nofun)
    | swapped free run => exact pays_swap lone (.swapped free run)
    | presented free run => exact pays_swap lone (.presented free run)
    | swapPanicked free run => exact pays_swap lone (.swapPanicked free run)

theorem owed_of_ne (taken : Stepped h t m moved) {u : ThreadId} (ne : u ≠ t) :
    moved.next.owed u = h.owed u := by
  obtain same | woken := stack_of_ne taken ne
  · rw [owed, same, owed]
  · rw [owed, woken, owed]
    cases h.stack u <;> simp

theorem Lone.step (lone : h.Lone) (taken : Stepped h t m moved) : moved.next.Lone := by
  intro u
  by_cases own : u = t
  · subst own
    exact (pays lone taken).lone
  · obtain same | woken := stack_of_ne taken own
    · rw [same]
      exact lone u
    · rw [woken, ← List.map_tail]
      intro a mem
      obtain ⟨b, inside, rfl⟩ := List.mem_map.1 mem
      rw [Activity.owes_wake]
      exact lone u b inside

/-- What a thread has done about episodes, and what it still owes, are whole rounds, but for what
it owed at the start. -/
theorem Course.rounds {a b : Handshake σ} {steps : List (HandshakeStep σ)}
    (course : Course a steps b) (lone : a.Lone) : b.Lone ∧ ∀ t, ∃ n,
      marksOf t steps ++ b.owed t = a.owed t ++ (List.replicate n Mark.round).flatten := by
  induction course with
  | nil => exact ⟨lone, fun t => ⟨0, by simp [marksOf, marked]⟩⟩
  | @snoc steps s m moved path taken ih =>
    obtain ⟨lone', rounds⟩ := ih
    refine ⟨lone'.step (stepped taken), fun t => ?_⟩
    obtain ⟨n, whole⟩ := rounds t
    rw [marksOf_snoc]
    by_cases own : m.1 = t
    · rw [if_pos own, List.append_assoc]
      subst own
      -- the move pays what the thread owed, or begins a round of which the thread owes the rest
      obtain paid | ⟨free, round⟩ := (pays lone' (stepped taken)).paid
      · exact ⟨n, by rw [paid, whole]⟩
      · refine ⟨n + 1, ?_⟩
        rw [free, List.append_nil] at whole
        rw [round, whole, List.append_assoc, List.replicate_succ', List.flatten_append,
          List.flatten_singleton]
    · rw [if_neg own, List.append_nil, owed_of_ne (stepped taken) (Ne.symm own)]
      exact ⟨n, whole⟩

/-! ### All threads together -/

omit [SurfaceDevice σ] in
theorem countP_marked (k : Mark) (steps : List (HandshakeStep σ)) :
    (marked steps).countP (·.2 = k) = (steps.flatMap marks).count k := by
  induction steps with
  | nil => rfl
  | cons x steps ih =>
    rw [marked, List.flatMap_cons, List.countP_append, List.flatMap_cons, List.count_append]
    congr 1
    rw [List.countP_map, List.count]
    exact List.countP_congr fun k' _ => by simp

omit [SurfaceDevice σ] in
theorem count_presented (steps : List (HandshakeStep σ)) :
    (steps.flatMap marks).count .presented = completed steps := by
  induction steps with
  | nil => rfl
  | cons x steps ih =>
    have seen : (x.result.events.filterMap Event.mark).count .presented = 0 := by
      rw [List.count_eq_zero, List.mem_filterMap]
      rintro ⟨e, -, mark⟩
      unfold Event.mark at mark
      split at mark <;> cases mark
    rw [List.flatMap_cons, List.count_append, ih, marks, List.count_append, seen, completed,
      completed, List.countP_cons]
    cases ends x <;> simp
    omega

theorem count_announced_seen (es : List Event) :
    (es.filterMap Event.mark).count .announced = (es.filterMap Event.announcement).length := by
  induction es with
  | nil => rfl
  | cons e es ih =>
    cases e with
    | window call => cases call <;> simp [List.filterMap_cons, Event.mark, Event.announcement, ih]
    | _ => simpa [List.filterMap_cons, Event.mark, Event.announcement] using ih

omit [SurfaceDevice σ] in
theorem count_announced (steps : List (HandshakeStep σ)) :
    (steps.flatMap marks).count .announced = announcements steps := by
  induction steps with
  | nil => rfl
  | cons x steps ih =>
    rw [List.flatMap_cons, List.count_append, ih, marks, List.count_append, count_announced_seen,
      announcements, announcements, List.flatMap_cons, List.filterMap_append, List.length_append]
    cases ends x <;> simp

/-- How often a thread has made a mark does not depend on which of the two is looked for first. -/
theorem count_threads (l : List (ThreadId × Mark)) (t : ThreadId) (k : Mark) :
    ((l.filter (·.2 = k)).map (·.1)).count t = ((l.filter (·.1 = t)).map (·.2)).count k := by
  rw [List.count, List.countP_map, List.countP_filter, List.count, List.countP_map,
    List.countP_filter]
  exact List.countP_congr fun p _ => by simp [and_comm]

/-- Two marks that every thread has made equally often have been made equally often. -/
theorem countP_eq_of_threads {l : List (ThreadId × Mark)} {k k' : Mark}
    (each : ∀ t, ((l.filter (·.1 = t)).map (·.2)).count k =
      ((l.filter (·.1 = t)).map (·.2)).count k') :
    l.countP (·.2 = k) = l.countP (·.2 = k') := by
  have threads : List.Perm ((l.filter (·.2 = k)).map (·.1)) ((l.filter (·.2 = k')).map (·.1)) :=
    List.perm_iff_count.2 fun t => by rw [count_threads, count_threads, each t]
  have lengths := threads.length_eq
  rwa [List.length_map, List.length_map, ← List.countP_eq_length_filter,
    ← List.countP_eq_length_filter] at lengths

/-- Nobody is in the middle of a swap. -/
def NoSwap (h : Handshake σ) : Prop :=
  ∀ t succeeded, .waking succeeded ∉ h.stack t ∧ .announcing succeeded ∉ h.stack t

omit [SurfaceDevice σ] in
theorem NoSwap.owed (none : h.NoSwap) (t : ThreadId) : h.owed t = [] := by
  refine owed_of_none fun a mem => ?_
  cases a with
  | waking succeeded => exact absurd mem (none t succeeded).1
  | announcing succeeded => exact absurd mem (none t succeeded).2
  | _ => rfl

theorem count_rounds (n : Nat) (k : Mark) : (List.replicate n Mark.round).flatten.count k = n := by
  induction n with
  | zero => rfl
  | succ n ih =>
    rw [List.replicate_succ, List.flatten_cons, List.count_append, ih]
    cases k <;> simp [Mark.round, Nat.add_comm]

omit [SurfaceDevice σ] in
theorem Quiet.lone (quiet : h.Quiet) : h.Lone := fun t a mem => by simp [quiet.free t] at mem

omit [SurfaceDevice σ] in
theorem Quiet.owed (quiet : h.Quiet) (t : ThreadId) : h.owed t = [] :=
  owed_of_none fun a mem => by simp [quiet.free t] at mem

/-- Whenever nobody is in the middle of a swap, the window has been told once for each episode
that has ended. -/
theorem Course.told_once {h₀ : Handshake σ} {steps : List (HandshakeStep σ)}
    (course : Course h₀ steps h) (quiet : h₀.Quiet) (none : h.NoSwap) :
    announcements steps = completed steps := by
  obtain ⟨-, rounds⟩ := course.rounds quiet.lone
  have each (t : ThreadId) : (marksOf t steps).count .announced =
      (marksOf t steps).count .presented := by
    obtain ⟨n, whole⟩ := rounds t
    rw [none.owed, quiet.owed, List.append_nil, List.nil_append] at whole
    rw [whole, count_rounds, count_rounds]
  rw [← count_announced, ← countP_marked, ← count_presented, ← countP_marked]
  exact countP_eq_of_threads each

/-- Every episode that ends moves the counter on by one. -/
theorem Course.presented_eq {h₀ : Handshake σ} {steps : List (HandshakeStep σ)}
    (course : Course h₀ steps h) (counted : h₀.Counted) :
    h.coordinator.presented = h₀.coordinator.presented + completed steps := by
  induction course with
  | nil => rfl
  | @snoc steps s m moved path taken ih =>
    have counted' := Course.counted path counted
    rw [completed, List.countP_append, List.countP_singleton, ← Nat.add_assoc]
    change _ = h₀.coordinator.presented + completed steps + _
    rw [← ih]
    cases count (stepped taken) with
    | same same =>
      rw [ends_of_same (x := ⟨s, m, moved⟩) same.idle]
      exact same.presented
    | begun top proceeds found eq =>
      obtain ⟨phase, -, presented, -⟩ :=
        Coordinator.register_some counted'.counters (Prod.ext_iff.2 ⟨found, rfl⟩)
      rw [← eq] at phase presented
      simp [ends, phase, presented]
    | ended swaps ready idle surface started presented =>
      have ahead := counted'.counters.ahead (by simp [ready])
      simp [ends, ready, idle, presented, ahead]

end Handshake

end HostView
