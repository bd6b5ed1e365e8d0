import HostView.Proofs.Resize.Replay
import HostView.Proofs.View.Discipline

/-!
# Steps that come to nothing

Most acquires and swaps are refused, or fail, or are no business of the handshake (`Ineffective`),
and a request that is empty or for the size that an idle view has anyway only passes its metrics on
(`Needless`).  Such a step leaves the phase, the counters, the surface and everybody who waits as
they were, and wakes nobody (`Invisible`).
-/

namespace HostView

variable {σ τ : Type}

/-- Whether a request sleeps, or has been woken and is about to take the lock again. -/
def Activity.waits : Activity → Bool
  | asleep _ | woken _ => true
  | _ => false

theorem Activity.Told.not_waits {a : Activity} (told : a.Told) : a.waits = false := by
  obtain ⟨size, episode, rfl⟩ := told
  rfl

theorem Activity.not_waits_of_episode {a : Activity} (none : a.episode = none) :
    a.waits = false := by
  cases a with
  | asleep | woken => cases none
  | _ => rfl

namespace Coordinator

/-- All of a coordinator but the device: the phase, the counters, and what is known of the
surface. -/
def bare (c : Coordinator σ) : Coordinator Unit := c.mount ()

variable [SurfaceDevice σ] {c c' : Coordinator σ} {es : List Event}

/-- An acquire that is not asked for, or that the surface does not follow. -/
theorem acquire_idle {size : Size} {outcome : Outcome Unit}
    (run : acquire size c = ⟨outcome, c', es⟩)
    (idle : c.phase ≠ .requested size ∨ c.surface.live = false ∨
      ∃ error, (SurfaceDevice.perform (.resize c.surface.target size) c.surface.device).outcome =
        .returned (.error error)) :
    outcome = .returned () ∧ ∃ d, c' = c.withDevice d := by
  have made := acquired c size
  rw [run] at made
  -- what the device would have to answer, if the surface followed
  have follows {outcome : Outcome (Except SurfaceError Unit)} {d : σ} {logs : List Log.Record}
      (asked : c.phase = .requested size) (alive : c.surface.live = true)
      (resized : SurfaceDevice.perform (.resize c.surface.target size) c.surface.device =
        ⟨outcome, d, logs⟩) : ∃ error, outcome = .returned (.error error) := by
    obtain other | dead | failed := idle
    · exact absurd asked other
    · rw [alive] at dead
      cases dead
    · rwa [resized] at failed
  cases made with
  | passed => exact ⟨rfl, c.surface.device, rfl⟩
  | missing => exact ⟨rfl, c.surface.device, rfl⟩
  | @failed d => exact ⟨rfl, d, rfl⟩
  | ready asked alive resized | panicked asked alive resized | panickedLate asked alive resized =>
    obtain ⟨error, eq⟩ := follows asked alive resized
    cases eq

/-- A swap that presents nothing of an episode. -/
theorem swap_idle {outcome : Outcome Swapped} (run : swap c = ⟨outcome, c', es⟩)
    (idle : c.phase ≠ .frameReady ∨
      ∃ m, (SurfaceDevice.perform .swap c.surface.device).outcome = .panicked m) :
    (∃ d, c' = c.withDevice d) ∧ ∀ succeeded, outcome ≠ .returned ⟨succeeded, true⟩ := by
  have made := swapMade c
  rw [run] at made
  cases made with
  | refused => exact ⟨⟨c.surface.device, rfl⟩, by simp⟩
  | @plain d => exact ⟨⟨d, rfl⟩, by simp⟩
  | presented ready answer =>
    obtain busy | ⟨m, panics⟩ := idle
    · exact absurd ready busy
    · rw [answer] at panics
      cases panics
  | @panicked d => exact ⟨⟨d, rfl⟩, by simp⟩

omit [SurfaceDevice σ] in
/-- A registration that finds nothing to wait for. -/
theorem register_idle {size : Size}
    (idle : size.isEmpty = true ∨ c.phase = .idle ∧ c.surface.dimensions = size) :
    ∃ es, c.register size = (none, c, es) := by
  have made := registered c size
  generalize c.register size = r at made
  cases made with
  | empty => exact ⟨_, rfl⟩
  | current => exact ⟨_, rfl⟩
  | started full _ other =>
    obtain empty | ⟨-, same⟩ := idle
    · rw [full] at empty
      cases empty
    · exact absurd same other
  | retargeted full busy =>
    obtain empty | ⟨idle, -⟩ := idle
    · rw [full] at empty
      cases empty
    · exact absurd idle busy

end Coordinator

namespace Handshake

/-- The requests of a thread that wait, the innermost first. -/
def waiting (h : Handshake σ) (t : ThreadId) : List Activity := (h.stack t).filter Activity.waits

/-- The two have the same phase, counters and surface, and the same requests wait and can be
released. -/
structure Agrees (h : Handshake σ) (k : Handshake τ) : Prop where
  coordinator : k.coordinator.bare = h.coordinator.bare
  waiting : ∀ t, k.waiting t = h.waiting t
  releases : ∀ episode, k.Releases episode ↔ h.Releases episode

theorem agrees_of {h : Handshake σ} {k : Handshake τ}
    (coordinator : k.coordinator.bare = h.coordinator.bare)
    (waiting : ∀ t, k.waiting t = h.waiting t) : Agrees h k := by
  refine ⟨coordinator, waiting, fun episode => ?_⟩
  have presented : k.coordinator.presented = h.coordinator.presented :=
    congrArg Coordinator.presented coordinator
  rw [Releases, Releases, Coordinator.hasPresented_iff, Coordinator.hasPresented_iff, presented]

variable [SurfaceDevice σ]

/-- An acquire or a swap that changes nothing. -/
inductive Ineffective (x : HandshakeStep σ) : Prop
  /-- No frame is asked for. -/
  | unasked {size : Size} (acquires : x.move.2 = .call (.acquire size))
      (settled : x.before.coordinator.phase = .idle ∨ x.before.coordinator.phase = .frameReady)
  /-- A frame of another size is asked for. -/
  | other {size target : Size} (acquires : x.move.2 = .call (.acquire size))
      (asked : x.before.coordinator.phase = .requested target) (ne : size ≠ target)
  /-- There is no surface to resize. -/
  | missing {size : Size} (acquires : x.move.2 = .call (.acquire size))
      (asked : x.before.coordinator.phase = .requested size)
      (dead : x.before.coordinator.surface.live = false)
  /-- The device does not resize the surface. -/
  | failed {size : Size} {error : SurfaceError} (acquires : x.move.2 = .call (.acquire size))
      (asked : x.before.coordinator.phase = .requested size)
      (answer : (SurfaceDevice.perform (.resize x.before.coordinator.surface.target size)
        x.before.coordinator.surface.device).outcome = .returned (.error error))
  /-- A frame of the size that is asked for is still to come. -/
  | refused {target : Size} (swaps : x.move.2 = .call .swap)
      (asked : x.before.coordinator.phase = .requested target)
  /-- A frame outside of any episode. -/
  | plain (swaps : x.move.2 = .call .swap) (idle : x.before.coordinator.phase = .idle)
  | panicked {m : String} (swaps : x.move.2 = .call .swap)
      (answer : (SurfaceDevice.perform .swap x.before.coordinator.surface.device).outcome =
        .panicked m)

omit [SurfaceDevice σ] in
/-- A move of a request that has nothing to wait for, as far as can be said at that move. -/
inductive Needless (x : HandshakeStep σ) : Prop
  | called {size : Size} (calls : x.move.2 = .call (.request size))
  /-- The size is empty, or an idle view has it already. -/
  | registered {size : Size} {rest : List Activity} (proceeds : x.move.2 = .proceed)
      (top : x.before.stack x.move.1 = .entering size :: rest)
      (nothing : size.isEmpty = true ∨ x.before.coordinator.phase = .idle ∧
        x.before.coordinator.surface.dimensions = size)
  | told {a : Activity} {size : Size} {rest : List Activity} (proceeds : x.move.2 = .proceed)
      (top : x.before.stack x.move.1 = a :: rest)
      (nothing : a = .telling size none ∨ a = .told size none)

/-- A step that nobody else can notice: it leaves the protocol as it was, and wakes nobody. -/
structure Invisible (x : HandshakeStep σ) : Prop where
  agrees : x.before.Agrees x.result.next
  others : ∀ t ≠ x.move.1, x.result.next.stack t = x.before.stack t
  quiet : .notified ∉ x.result.events

/-! ### The stacks of a reachable state -/

omit [SurfaceDevice σ] in
/-- Under its innermost activity a thread is in the middle of requests that the engine has got the
metrics of, and of nothing else. -/
def Nested (h : Handshake σ) : Prop := ∀ t, ∀ a ∈ (h.stack t).tail, a.Told

variable {h : Handshake σ} {t : ThreadId} {m : Move} {moved : Moved σ} {x : HandshakeStep σ}

omit [SurfaceDevice σ] in
theorem Nested.of_free (free : ∀ t, h.stack t = []) : h.Nested := fun t a mem => by
  simp [free t] at mem

omit [SurfaceDevice σ] in
theorem Nested.told (nested : h.Nested) (free : h.canCall t = true) : ∀ a ∈ h.stack t, a.Told := by
  have under := nested t
  unfold canCall at free
  split at free
  next none => simp [none]
  next size episode rest top =>
    rw [top] at under ⊢
    exact List.forall_mem_cons.2 ⟨⟨size, episode, rfl⟩, under⟩
  next => cases free

omit [SurfaceDevice σ] in
theorem OnTop.nested {under : List Activity} (onTop : OnTop under t moved)
    (told : ∀ a ∈ under, a.Told) : ∀ a ∈ (moved.next.stack t).tail, a.Told := by
  cases onTop with
  | returned stack => exact fun a mem => told a (List.mem_of_mem_tail (stack ▸ mem))
  | busy stack => exact fun a mem => told a (by rwa [stack] at mem)
  | unwound stack => exact fun a mem => by simp [stack] at mem

theorem canCall_of_call {call : HandshakeCall} (taken : h.step t (.call call) = some moved) :
    h.canCall t = true := (Option.ite_none_right_eq_some.1 taken).1

/-- Every move leaves the stacks nested. -/
theorem Nested.step (nested : h.Nested) (taken : h.step t m = some moved) : moved.next.Nested := by
  intro u
  by_cases own : u = t
  · subst own
    cases m with
    | call call =>
      exact (onTop_call (stepped taken)).nested (nested.told (canCall_of_call taken))
    | proceed =>
      rcases top : h.stack u with _ | ⟨a, under⟩
      · simp [Handshake.step, proceed, top] at taken
      · have told := nested u
        rw [top] at told
        exact (onTop_proceed top told (stepped taken)).nested told
  · obtain same | woken := stack_of_ne (stepped taken) own
    · rw [same]
      exact nested u
    · intro a mem
      rw [woken, ← List.map_tail] at mem
      obtain ⟨b, inside, rfl⟩ := List.mem_map.1 mem
      rw [(nested u b inside).wake]
      exact nested u b inside

theorem Course.nested {a b : Handshake σ} {steps : List (HandshakeStep σ)}
    (course : Course a steps b) (nested : a.Nested) : b.Nested :=
  Path.invariant course nested fun nested taken => nested.step taken

/-! ### What such a step leaves -/

theorem notified_notMem_call {call : HandshakeCall} (taken : Stepped h t (.call call) moved) :
    .notified ∉ moved.events := by
  obtain none | ⟨es, events, inner⟩ := section_of_call taken
  · simp [none]
  · rw [events]
    intro mem
    simp only [Event.guarded, List.cons_append, List.mem_cons, List.mem_append, List.not_mem_nil,
      or_false, reduceCtorEq, false_or] at mem
    cases inner _ mem

/-- What an ineffective step leaves: it is a call after which the thread is where it was, or is
unwound by a panic. -/
structure Left (x : HandshakeStep σ) (d : σ) (e : Edit) : Prop where
  free : x.before.canCall x.move.1 = true
  next : x.result.next = x.before.edit x.move.1 (x.before.coordinator.withDevice d) e
  edit : e = .keep ∨ e = .unwind
  quiet : .notified ∉ x.result.events

theorem left_acquire {size : Size} (acquires : x.move.2 = .call (.acquire size))
    (taken : x.before.step x.move.1 x.move.2 = some x.result)
    (idle : x.before.coordinator.phase ≠ .requested size ∨
      x.before.coordinator.surface.live = false ∨
      ∃ error, (SurfaceDevice.perform (.resize x.before.coordinator.surface.target size)
        x.before.coordinator.surface.device).outcome = .returned (.error error)) :
    ∃ d e, Left x d e := by
  obtain ⟨h, ⟨t, m⟩, moved⟩ := x
  obtain rfl : m = .call (.acquire size) := acquires
  have made : Stepped h t (.call (.acquire size)) moved := stepped taken
  have quiet := notified_notMem_call made
  cases made with
  | acquired free run =>
    obtain ⟨-, d, rfl⟩ := Coordinator.acquire_idle run idle
    exact ⟨d, .keep, free, (edit_keep ..).symm, .inl rfl, quiet⟩
  | acquirePanicked free run =>
    obtain ⟨returned, -⟩ := Coordinator.acquire_idle run idle
    cases returned

theorem left_swap (swaps : x.move.2 = .call .swap)
    (taken : x.before.step x.move.1 x.move.2 = some x.result)
    (idle : x.before.coordinator.phase ≠ .frameReady ∨
      ∃ m, (SurfaceDevice.perform .swap x.before.coordinator.surface.device).outcome =
        .panicked m) : ∃ d e, Left x d e := by
  obtain ⟨h, ⟨t, m⟩, moved⟩ := x
  obtain rfl : m = .call .swap := swaps
  have made : Stepped h t (.call .swap) moved := stepped taken
  have quiet := notified_notMem_call made
  cases made with
  | swapped free run =>
    obtain ⟨⟨d, rfl⟩, -⟩ := Coordinator.swap_idle run idle
    exact ⟨d, .keep, free, (edit_keep ..).symm, .inl rfl, quiet⟩
  | presented free run =>
    obtain ⟨-, unfinished⟩ := Coordinator.swap_idle run idle
    exact absurd rfl (unfinished _)
  | swapPanicked free run =>
    obtain ⟨⟨d, rfl⟩, -⟩ := Coordinator.swap_idle run idle
    exact ⟨d, .unwind, free, (edit_unwind ..).symm, .inr rfl, quiet⟩

theorem Ineffective.left (ineffective : Ineffective x)
    (taken : x.before.step x.move.1 x.move.2 = some x.result) : ∃ d e, Left x d e := by
  cases ineffective with
  | unasked acquires settled =>
    refine left_acquire acquires taken (.inl fun asked => ?_)
    simp [asked] at settled
  | other acquires asked ne => exact left_acquire acquires taken (.inl (by simp [asked, ne.symm]))
  | missing acquires asked dead => exact left_acquire acquires taken (.inr (.inl dead))
  | failed acquires asked answer => exact left_acquire acquires taken (.inr (.inr ⟨_, answer⟩))
  | refused swaps asked => exact left_swap swaps taken (.inl (by simp [asked]))
  | plain swaps idle => exact left_swap swaps taken (.inl (by simp [idle]))
  | panicked swaps answer => exact left_swap swaps taken (.inr ⟨_, answer⟩)

/-- How the activity of a needless request goes on. -/
inductive Passed (x : HandshakeStep σ) : Edit → Prop
  | called {size : Size} (calls : x.move.2 = .call (.request size)) :
      Passed x (.push (.entering size))
  | onward {a b : Activity} {rest : List Activity} (proceeds : x.move.2 = .proceed)
      (top : x.before.stack x.move.1 = a :: rest) (before : a.episode = none)
      (after : b.episode = none) : Passed x (.replace b)
  | returned {a : Activity} {rest : List Activity} (proceeds : x.move.2 = .proceed)
      (top : x.before.stack x.move.1 = a :: rest) (before : a.episode = none) : Passed x .pop

theorem Needless.passed (needless : Needless x)
    (taken : x.before.step x.move.1 x.move.2 = some x.result) :
    ∃ e, Passed x e ∧ x.result.next = x.before.edit x.move.1 x.before.coordinator e ∧
      .notified ∉ x.result.events := by
  cases needless with
  | @called size calls =>
    rw [calls, step] at taken
    obtain ⟨-, eq⟩ := Option.ite_none_right_eq_some.1 taken
    refine ⟨_, .called calls, ?_, ?_⟩ <;> rw [← Option.some.inj eq]
    · rfl
    · simp [call]
  | @registered size rest proceeds top nothing =>
    obtain ⟨es, run⟩ := Coordinator.register_idle nothing
    obtain ⟨records, rfl⟩ := Coordinator.register_logs run
    rw [proceeds, step_entering top, run] at taken
    refine ⟨_, .onward (b := .telling size none) proceeds top rfl rfl, ?_, ?_⟩ <;>
      rw [← Option.some.inj taken]
    · exact (edit_replace top).symm
    · simp [Event.guarded]
  | @told a size rest proceeds top nothing =>
    obtain rfl | rfl := nothing
    · rw [proceeds, step, proceed, top] at taken
      refine ⟨_, .onward (b := .told size none) proceeds top rfl rfl, ?_, ?_⟩ <;>
        rw [← Option.some.inj taken]
      · exact (edit_replace top).symm
      · simp
    · rw [proceeds, step, proceed, top] at taken
      refine ⟨_, .returned proceeds top rfl, ?_, ?_⟩ <;> rw [← Option.some.inj taken]
      · exact (edit_pop top).symm
      · simp [finish]

omit [SurfaceDevice σ] in
/-- A step that edits the stack of its thread, and nobody waits in what it edits. -/
theorem invisible_of_edit {c : Coordinator σ} {e : Edit}
    (next : x.result.next = x.before.edit x.move.1 c e)
    (same : c.bare = x.before.coordinator.bare) (apart : e.all = id)
    (own : (e.own (x.before.stack x.move.1)).filter Activity.waits =
      (x.before.stack x.move.1).filter Activity.waits)
    (quiet : .notified ∉ x.result.events) : Invisible x := by
  have others : ∀ t ≠ x.move.1, x.result.next.stack t = x.before.stack t := by
    intro t ne
    rw [next, edit_stack_of_ne _ _ _ _ ne, apart, id]
  refine ⟨agrees_of (by rw [next, edit_coordinator, same]) fun t => ?_, others, quiet⟩
  by_cases here : t = x.move.1
  · rw [here, waiting, waiting, next, edit_stack_same, apart, id, own]
  · rw [waiting, waiting, others t here]

theorem Ineffective.invisible (ineffective : Ineffective x) (nested : x.before.Nested)
    (taken : x.before.step x.move.1 x.move.2 = some x.result) : Invisible x := by
  obtain ⟨d, e, free, next, edit, quiet⟩ := ineffective.left taken
  obtain rfl | rfl := edit
  · exact invisible_of_edit next rfl rfl rfl quiet
  · refine invisible_of_edit next rfl rfl ?_ quiet
    -- a panic unwinds no request that waits
    rw [Edit.own, List.filter_nil, eq_comm, List.filter_eq_nil_iff]
    intro a mem
    simp [(nested.told free a mem).not_waits]

theorem Needless.invisible (needless : Needless x)
    (taken : x.before.step x.move.1 x.move.2 = some x.result) : Invisible x := by
  obtain ⟨e, passed, next, quiet⟩ := needless.passed taken
  cases passed with
  | called => exact invisible_of_edit next rfl rfl rfl quiet
  | onward proceeds top before after =>
    refine invisible_of_edit next rfl rfl ?_ quiet
    simp [top, Edit.own, Activity.not_waits_of_episode before, Activity.not_waits_of_episode after]
  | returned proceeds top before =>
    refine invisible_of_edit next rfl rfl ?_ quiet
    simp [top, Edit.own, Activity.not_waits_of_episode before]

end Handshake

end HostView
