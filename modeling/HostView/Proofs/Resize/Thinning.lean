import HostView.Proofs.Resize.Ineffective
import Mathlib.Data.List.Forall2

/-!
# Runs without the steps that come to nothing

Ineffective acquires and swaps can be left out of a run, and so can needless requests, each with
all of its moves (`Thinned`).  What is left is again a run, on the answers that the device gave to
the calls that are left, and each of its steps is the same transition as before (`SameStep`).  The
proof runs the steps that are left from a tape, next to the whole run: what the two have in common
is `Follows`, and each step keeps it.
-/

namespace HostView

variable {σ τ : Type}

namespace Coordinator

/-- The same coordinator after its surface has taken on the size that was asked for. -/
def readied (c : Coordinator σ) (size : Size) : Coordinator σ :=
  { c with phase := .frameReady, surface := { c.surface with dimensions := size } }

/-- The same coordinator after a frame has been presented. -/
def shown (c : Coordinator σ) : Coordinator σ :=
  { c with phase := .idle, presented := c.started }

variable [SurfaceDevice σ] {c c' : Coordinator σ} {es : List Event}

/-- The device is about to resize the surface and to make it current. -/
def Resizes (c : Coordinator σ) (size : Size) : Prop :=
  ∃ d logs current d' logs',
    SurfaceDevice.perform (.resize c.surface.target size) c.surface.device =
        ⟨.returned (.ok ()), d, logs⟩ ∧
      SurfaceDevice.perform .makeCurrent d = ⟨.returned current, d', logs'⟩

/-- The device is about to present a frame, whether or not it succeeds. -/
def Presents (c : Coordinator σ) : Prop :=
  ∃ succeeded d logs,
    SurfaceDevice.perform .swap c.surface.device = ⟨.returned succeeded, d, logs⟩

/-- An acquire that the surface follows returns, with a frame that is ready. -/
theorem acquire_follows {size : Size} (asked : c.phase = .requested size)
    (alive : c.surface.live = true) (resizes : c.Resizes size) :
    ∃ c' es, acquire size c = ⟨.returned (), c', es⟩ ∧ c'.bare = c.bare.readied size := by
  obtain ⟨d, logs, current, d', logs', answer, answer'⟩ := resizes
  have made := acquired c size
  generalize acquire size c = r at made
  cases made with
  | passed other => exact absurd asked other
  | missing _ dead =>
    rw [alive] at dead
    cases dead
  | ready => exact ⟨_, _, rfl, rfl⟩
  | failed _ _ resized | panicked _ _ resized => cases answer.symm.trans resized
  | panickedLate _ _ resized made =>
    cases answer.symm.trans resized
    cases answer'.symm.trans made

/-- A swap of a frame that is ready ends the episode. -/
theorem swap_shows (ready : c.phase = .frameReady) (presents : c.Presents) :
    ∃ succeeded c' es, swap c = ⟨.returned ⟨succeeded, true⟩, c', es⟩ ∧
      c'.bare = c.bare.shown := by
  obtain ⟨succeeded, d, logs, answer⟩ := presents
  have made := swapMade c
  generalize swap c = r at made
  cases made with
  | refused asked => cases ready.symm.trans asked
  | plain idle => cases ready.symm.trans idle
  | presented => exact ⟨_, _, _, rfl, rfl⟩
  | panicked _ panics => cases answer.symm.trans panics

end Coordinator

namespace Handshake

/-- For each thread and each depth of its stack, whether the activity that stands there belongs to
a request that is left out. -/
abbrev Omission := ThreadId → Nat → Bool

namespace Omission

/-- The step calls, and what it puts on its stack is left out, or is not. -/
def set (o : Omission) (x : HandshakeStep σ) (out : Bool) : Omission :=
  Function.update o x.move.1 (Function.update (o x.move.1) (x.before.stack x.move.1).length out)

/-- Whether the step belongs to a request that is left out. -/
def top (o : Omission) (x : HandshakeStep σ) : Bool :=
  o x.move.1 ((x.before.stack x.move.1).length - 1)

end Omission

section Runs

variable [SurfaceDevice σ]

/-- Of all steps some are kept.  Of the others each is ineffective, or it is a move of a needless
request of which no move is kept. -/
inductive Thinned : List (HandshakeStep σ) → List (HandshakeStep σ) → Omission → Prop
  | nil : Thinned [] [] fun _ _ => false
  | call {steps kept : List (HandshakeStep σ)} {x : HandshakeStep σ} {o : Omission}
      {call : HandshakeCall} (thinned : Thinned steps kept o) (calls : x.move.2 = .call call) :
      Thinned (steps ++ [x]) (kept ++ [x]) (o.set x false)
  | proceed {steps kept : List (HandshakeStep σ)} {x : HandshakeStep σ} {o : Omission}
      (thinned : Thinned steps kept o) (proceeds : x.move.2 = .proceed) (stays : o.top x = false) :
      Thinned (steps ++ [x]) (kept ++ [x]) o
  | ineffective {steps kept : List (HandshakeStep σ)} {x : HandshakeStep σ} {o : Omission}
      (thinned : Thinned steps kept o) (ineffective : Ineffective x) :
      Thinned (steps ++ [x]) kept o
  | request {steps kept : List (HandshakeStep σ)} {x : HandshakeStep σ} {o : Omission}
      {size : Size} (thinned : Thinned steps kept o)
      (calls : x.move.2 = .call (.request size)) : Thinned (steps ++ [x]) kept (o.set x true)
  | needless {steps kept : List (HandshakeStep σ)} {x : HandshakeStep σ} {o : Omission}
      (thinned : Thinned steps kept o) (proceeds : x.move.2 = .proceed) (out : o.top x = true)
      (needless : Needless x) : Thinned (steps ++ [x]) kept o

end Runs

/-- The same transition in two runs: the same move, from and to states that agree, with the same
reply, and all that is seen of it is the same but the log. -/
structure SameStep (x : HandshakeStep σ) (x' : HandshakeStep τ) : Prop where
  move : x'.move = x.move
  before : x.before.Agrees x'.before
  after : x.result.next.Agrees x'.result.next
  events : Event.unlogged x'.result.events = Event.unlogged x.result.events
  reply : x'.result.reply = x.result.reply

/-- The answers of the device in some steps. -/
def answers (steps : List (HandshakeStep σ)) : Tape :=
  steps.flatMap fun x => Event.deviceEvents x.result.events

theorem answers_snoc (steps : List (HandshakeStep σ)) (x : HandshakeStep σ) :
    answers (steps ++ [x]) = answers steps ++ Event.deviceEvents x.result.events := by
  simp [answers]

/-! ### Stacks without what is left out -/

/-- A stack without the activities at the depths that are left out. -/
def thin (out : Nat → Bool) : List Activity → List Activity
  | [] => []
  | a :: rest => if out rest.length then thin out rest else a :: thin out rest

/-- What is left out waits for no episode. -/
def Spare (out : Nat → Bool) : List Activity → Prop
  | [] => True
  | a :: rest => (out rest.length = true → a.episode = none) ∧ Spare out rest

section Thin

variable {out : Nat → Bool} {stack : List Activity} {a : Activity} {n : Nat} {b : Bool}

theorem mem_of_mem_thin (mem : a ∈ thin out stack) : a ∈ stack := by
  induction stack with
  | nil => exact mem
  | cons b rest ih =>
    unfold thin at mem
    split at mem
    · exact List.mem_cons_of_mem _ (ih mem)
    · exact (List.mem_cons.1 mem).elim (fun eq => eq ▸ List.mem_cons_self)
        fun later => List.mem_cons_of_mem _ (ih later)

/-- Nothing but the depths that a stack reaches counts. -/
theorem thin_update (le : stack.length ≤ n) :
    thin (Function.update out n b) stack = thin out stack := by
  induction stack with
  | nil => rfl
  | cons a rest ih =>
    have lt : rest.length < n := le
    rw [thin, thin, Function.update_of_ne (Nat.ne_of_lt lt), ih (Nat.le_of_lt lt)]

theorem spare_update (le : stack.length ≤ n) :
    Spare (Function.update out n b) stack ↔ Spare out stack := by
  induction stack with
  | nil => rfl
  | cons a rest ih =>
    have lt : rest.length < n := le
    rw [Spare, Spare, Function.update_of_ne (Nat.ne_of_lt lt), ih (Nat.le_of_lt lt)]

theorem thin_wake : thin out (stack.map Activity.wake) = (thin out stack).map Activity.wake := by
  induction stack with
  | nil => rfl
  | cons a rest ih =>
    rw [List.map_cons, thin, thin, List.length_map, ih]
    split <;> rfl

theorem spare_wake : Spare out (stack.map Activity.wake) ↔ Spare out stack := by
  induction stack with
  | nil => rfl
  | cons a rest ih => rw [List.map_cons, Spare, Spare, List.length_map, ih, Activity.episode_wake]

/-- Nobody who waits is left out. -/
theorem filter_thin (spare : Spare out stack) :
    (thin out stack).filter Activity.waits = stack.filter Activity.waits := by
  induction stack with
  | nil => rfl
  | cons a rest ih =>
    obtain ⟨top, rest'⟩ := spare
    unfold thin
    split
    next hidden =>
      rw [ih rest', List.filter_cons_of_neg (by simp [Activity.not_waits_of_episode (top hidden)])]
    next => rw [List.filter_cons, List.filter_cons, ih rest']

end Thin

/-! ### The two runs side by side -/

/-- The stacks of a thread in both runs: on `stack'` stand the activities of `stack` that are not
left out.  Under them may stand requests of which a panic in a step that is left out has taken the
thread of the whole run. -/
structure Beside (out : Nat → Bool) (stack under stack' : List Activity) : Prop where
  kept : stack' = thin out stack ++ under
  told : ∀ a ∈ under, a.Told
  spare : Spare out stack

section Beside

variable {out : Nat → Bool} {stack under stack' : List Activity} {n : Nat} {b : Bool}

theorem Beside.all (e : Edit) (beside : Beside out stack under stack') :
    Beside out (e.all stack) under (e.all stack') := by
  cases e with
  | wake =>
    have same : under.map Activity.wake = under :=
      (List.map_congr_left fun a mem => (beside.told a mem).wake).trans (List.map_id _)
    refine ⟨?_, beside.told, spare_wake.2 beside.spare⟩
    rw [Edit.all, beside.kept, List.map_append, thin_wake, same]
  | _ => exact beside

theorem Beside.update (beside : Beside out stack under stack') (le : stack.length ≤ n) :
    Beside (Function.update out n b) stack under stack' :=
  ⟨by rw [beside.kept, thin_update le], beside.told, (spare_update le).2 beside.spare⟩

theorem Beside.waiting (beside : Beside out stack under stack') :
    stack'.filter Activity.waits = stack.filter Activity.waits := by
  have told : under.filter Activity.waits = [] :=
    List.filter_eq_nil_iff.2 fun a mem => by simp [(beside.told a mem).not_waits]
  rw [beside.kept, List.filter_append, told, List.append_nil, filter_thin beside.spare]

/-- A thread of which everything may be called back. -/
theorem Beside.all_told (beside : Beside out stack under stack') (told : ∀ a ∈ stack, a.Told) :
    ∀ a ∈ stack', a.Told := by
  rw [beside.kept]
  exact List.forall_mem_append.2 ⟨fun a mem => told a (mem_of_mem_thin mem), beside.told⟩

end Beside

/-- A run `k` from a tape follows the run `h`: it has the same coordinator, and its stacks stand
beside those of `h`. -/
structure Follows (h : Handshake σ) (o : Omission) (under : ThreadId → List Activity)
    (k : Handshake Tape) (rest : Tape) : Prop where
  coordinator : k.coordinator = h.coordinator.mount rest
  scale : k.scale = h.scale
  beside : ∀ t, Beside (o t) (h.stack t) (under t) (k.stack t)

variable {h : Handshake σ} {o : Omission} {under : ThreadId → List Activity} {k : Handshake Tape}
  {rest : Tape} {x : HandshakeStep σ}

theorem Follows.agrees (follows : Follows h o under k rest) : h.Agrees k :=
  agrees_of (by rw [follows.coordinator]; rfl) fun t => (follows.beside t).waiting

section Thread

variable {o' : Omission} {under' : ThreadId → List Activity} {t : ThreadId} {c : Coordinator σ}
  {e : Edit}

/-- How one thread goes on in both runs; the others are woken at most. -/
theorem Follows.edit {rest' : Tape} (follows : Follows h o under k rest)
    (out : ∀ u ≠ t, o' u = o u) (left : ∀ u ≠ t, under' u = under u)
    (own : Beside (o' t) (e.own (h.stack t)) (under' t) (e.own (k.stack t))) :
    Follows (h.edit t c e) o' under' (k.edit t (c.mount rest') e) rest' := by
  refine ⟨rfl, follows.scale, fun u => ?_⟩
  by_cases here : u = t
  · rw [here, edit_stack_same, edit_stack_same]
    exact own.all e
  · rw [edit_stack_of_ne _ _ _ _ here, edit_stack_of_ne _ _ _ _ here, out u here, left u here]
    exact (follows.beside u).all e

/-- How one thread of the whole run goes on in a step that is left out and wakes nobody. -/
theorem Follows.leave (follows : Follows h o under k rest)
    (same : c.mount rest = h.coordinator.mount rest) (apart : e.all = id)
    (out : ∀ u ≠ t, o' u = o u) (left : ∀ u ≠ t, under' u = under u)
    (own : Beside (o' t) (e.own (h.stack t)) (under' t) (k.stack t)) :
    Follows (h.edit t c e) o' under' k rest := by
  refine ⟨follows.coordinator.trans same.symm, follows.scale, fun u => ?_⟩
  by_cases here : u = t
  · rw [here, edit_stack_same, apart]
    exact own
  · rw [edit_stack_of_ne _ _ _ _ here, apart, out u here, left u here]
    exact follows.beside u

end Thread

theorem Omission.top_eq (o : Omission) {a : Activity} {below : List Activity}
    (top : x.before.stack x.move.1 = a :: below) : o.top x = o x.move.1 below.length := by
  rw [Omission.top, top]
  rfl

theorem Omission.set_same (o : Omission) (x : HandshakeStep σ) (b : Bool) :
    o.set x b x.move.1 =
      Function.update (o x.move.1) (x.before.stack x.move.1).length b :=
  Function.update_self ..

theorem Omission.set_of_ne (o : Omission) (x : HandshakeStep σ) (b : Bool) {u : ThreadId}
    (ne : u ≠ x.move.1) : o.set x b u = o u :=
  Function.update_of_ne ne ..

/-- What follows a run can make each call that the run makes. -/
theorem Follows.free (follows : Follows h o under k rest) (nested : h.Nested) {t : ThreadId}
    (free : h.canCall t = true) : k.canCall t = true :=
  canCall_of_told ((follows.beside t).all_told (nested.told free))

variable [SurfaceDevice σ]

/-- A call that is kept. -/
theorem Follows.call {call : HandshakeCall}
    (follows : Follows x.before o under k (Event.deviceEvents x.result.events ++ rest))
    (nested : x.before.Nested) (taken : x.before.step x.move.1 x.move.2 = some x.result)
    (calls : x.move.2 = .call call) :
    ∃ moved under', k.step x.move.1 x.move.2 = some moved ∧
      Event.unlogged moved.events = Event.unlogged x.result.events ∧
      moved.reply = x.result.reply ∧
      Follows x.result.next (o.set x false) under' moved.next rest := by
  obtain ⟨e, of, next, again⟩ := replayed taken
  obtain ⟨es, step, same⟩ := again k rest ⟨follows.coordinator, follows.scale,
    fun c eq => follows.free nested (canCall_of_call (by rwa [eq] at taken)), by simp [calls]⟩
  have out (u : ThreadId) (ne : u ≠ x.move.1) := o.set_of_ne x false ne
  have beside := follows.beside x.move.1
  have later : Beside (o.set x false x.move.1) (x.before.stack x.move.1) (under x.move.1)
      (k.stack x.move.1) := by
    rw [o.set_same]
    exact beside.update (Nat.le_refl _)
  rw [calls] at of
  rw [next]
  cases of with
  | kept => exact ⟨_, under, step, same, rfl, follows.edit out (fun _ _ => rfl) later⟩
  | pushed a =>
    refine ⟨_, under, step, same, rfl, follows.edit out (fun _ _ => rfl) ⟨?_, beside.told, ?_⟩⟩
    · rw [Edit.own, Edit.own, later.kept, o.set_same, thin, Function.update_self]
      rfl
    · rw [o.set_same] at later ⊢
      exact ⟨by simp, later.spare⟩
  | unwound =>
    refine ⟨_, Function.update under x.move.1 [], step, same, rfl,
      follows.edit out (fun u ne => Function.update_of_ne ne ..) ⟨?_, ?_, trivial⟩⟩
    · rw [Function.update_self]
      rfl
    · simp

/-- A step that is kept, in which a thread goes on. -/
theorem Follows.proceed
    (follows : Follows x.before o under k (Event.deviceEvents x.result.events ++ rest))
    (taken : x.before.step x.move.1 x.move.2 = some x.result) (proceeds : x.move.2 = .proceed)
    (stays : o.top x = false) :
    ∃ moved, k.step x.move.1 x.move.2 = some moved ∧
      Event.unlogged moved.events = Event.unlogged x.result.events ∧
      moved.reply = x.result.reply ∧ Follows x.result.next o under moved.next rest := by
  obtain ⟨a, below, top⟩ : ∃ a below, x.before.stack x.move.1 = a :: below := by
    rcases top : x.before.stack x.move.1 with _ | ⟨a, below⟩
    · simp [proceeds, step, Handshake.proceed, top] at taken
    · exact ⟨a, below, rfl⟩
  rw [o.top_eq top] at stays
  obtain ⟨kept, told, spare⟩ := top ▸ follows.beside x.move.1
  have top' : k.stack x.move.1 = a :: (thin (o x.move.1) below ++ under x.move.1) := by
    rw [kept, thin, if_neg (by simpa using stays)]
    rfl
  obtain ⟨e, of, next, again⟩ := replayed taken
  obtain ⟨es, step, same⟩ := again k rest ⟨follows.coordinator, follows.scale,
    by simp [proceeds], fun _ => by rw [top, top']; rfl⟩
  refine ⟨_, step, same, rfl, ?_⟩
  rw [next]
  refine follows.edit (fun _ _ => rfl) (fun _ _ => rfl) ?_
  rw [proceeds] at of
  rw [top, top']
  cases of with
  | popped => exact ⟨rfl, told, spare.2⟩
  | replaced b | woke b =>
    refine ⟨?_, told, by simp [stays], spare.2⟩
    rw [Edit.own, Edit.own, thin, List.tail_cons, if_neg (by simpa using stays)]
    rfl

/-- A step that is left out and changes nothing. -/
theorem Follows.ineffective (follows : Follows x.before o under k rest) (nested : x.before.Nested)
    (taken : x.before.step x.move.1 x.move.2 = some x.result) (ineffective : Ineffective x) :
    ∃ under', Follows x.result.next o under' k rest := by
  obtain ⟨d, e, free, next, edit, -⟩ := ineffective.left taken
  have beside := follows.beside x.move.1
  rw [next]
  obtain rfl | rfl := edit
  · exact ⟨under, follows.leave rfl rfl (fun _ _ => rfl) (fun _ _ => rfl) beside⟩
  · -- the requests that the panic unwinds are still there in the other run
    refine ⟨Function.update under x.move.1 (k.stack x.move.1), follows.leave rfl rfl
      (fun _ _ => rfl) (fun u ne => Function.update_of_ne ne ..) ?_⟩
    rw [Function.update_self]
    exact ⟨rfl, beside.all_told (nested.told free), trivial⟩

/-- A request that is left out. -/
theorem Follows.request {size : Size} (follows : Follows x.before o under k rest)
    (taken : x.before.step x.move.1 x.move.2 = some x.result)
    (calls : x.move.2 = .call (.request size)) :
    Follows x.result.next (o.set x true) under k rest := by
  obtain ⟨e, passed, next, -⟩ := (Needless.called calls).passed taken
  rw [next]
  cases passed with
  | called =>
    have later := (follows.beside x.move.1).update (b := true) (Nat.le_refl _)
    refine follows.leave rfl rfl (fun u ne => o.set_of_ne x true ne) (fun _ _ => rfl) ?_
    rw [o.set_same]
    refine ⟨?_, later.told, fun _ => rfl, later.spare⟩
    rw [Edit.own, thin, Function.update_self, if_pos rfl, later.kept]
  | onward proceeds | returned proceeds =>
    rw [calls] at proceeds
    cases proceeds

/-- A request that is left out goes on. -/
theorem Follows.needless (follows : Follows x.before o under k rest)
    (taken : x.before.step x.move.1 x.move.2 = some x.result) (proceeds : x.move.2 = .proceed)
    (out : o.top x = true) (needless : Needless x) : Follows x.result.next o under k rest := by
  obtain ⟨e, passed, next, -⟩ := needless.passed taken
  rw [next]
  cases passed with
  | called calls =>
    rw [proceeds] at calls
    cases calls
  | onward _ top before after =>
    rw [o.top_eq top] at out
    obtain ⟨kept, told, spare⟩ := top ▸ follows.beside x.move.1
    refine follows.leave rfl rfl (fun _ _ => rfl) (fun _ _ => rfl) ?_
    rw [top]
    refine ⟨?_, told, fun _ => after, spare.2⟩
    rw [kept, Edit.own, List.tail_cons, thin, thin, if_pos out, if_pos out]
  | returned _ top before =>
    rw [o.top_eq top] at out
    obtain ⟨kept, told, spare⟩ := top ▸ follows.beside x.move.1
    refine follows.leave rfl rfl (fun _ _ => rfl) (fun _ _ => rfl) ?_
    rw [top]
    refine ⟨?_, told, spare.2⟩
    rw [kept, thin, if_pos out]
    rfl

omit [SurfaceDevice σ] in
/-- One more step in the run from the tape. -/
theorem Course.again {start : Handshake σ} {kept : List (HandshakeStep σ)}
    {steps' : List (HandshakeStep Tape)} {moved : Moved Tape}
    (course : Course (start.mount (answers kept ++ (Event.deviceEvents x.result.events ++ rest)))
      steps' k)
    (same : List.Forall₂ SameStep kept steps')
    (taken : k.step x.move.1 x.move.2 = some moved) (step : SameStep x ⟨k, x.move, moved⟩) :
    Course (start.mount (answers (kept ++ [x]) ++ rest)) (steps' ++ [⟨k, x.move, moved⟩])
        moved.next ∧
      List.Forall₂ SameStep (kept ++ [x]) (steps' ++ [⟨k, x.move, moved⟩]) := by
  rw [answers_snoc, List.append_assoc]
  exact ⟨course.snoc taken, List.rel_append same (.cons step .nil)⟩

/-- The steps that are kept of a run, made again from a tape of the answers to them. -/
theorem Thinned.run {start : Handshake σ} {steps kept : List (HandshakeStep σ)}
    (thinned : Thinned steps kept o) (free : ∀ t, start.stack t = [])
    (course : Course start steps h) (rest : Tape) :
    ∃ steps' k under, Course (start.mount (answers kept ++ rest)) steps' k ∧
      List.Forall₂ SameStep kept steps' ∧ Follows h o under k rest := by
  induction thinned generalizing h rest with
  | nil =>
    obtain rfl := Path.eq_of_nil course
    refine ⟨[], _, fun _ => [], .nil, .nil, rfl, rfl, fun t => ?_⟩
    rw [mount, free t]
    exact ⟨rfl, by simp, trivial⟩
  | call thinned calls ih =>
    obtain ⟨path, taken, rfl⟩ := Path.of_snoc course
    obtain ⟨steps', k, under, path', same, follows⟩ := ih path _
    obtain ⟨moved, under', taken', events, reply, follows'⟩ :=
      follows.call (Course.nested path (.of_free free)) taken calls
    obtain ⟨longer, same'⟩ :=
      Course.again path' same taken' ⟨rfl, follows.agrees, follows'.agrees, events, reply⟩
    exact ⟨_, _, under', longer, same', follows'⟩
  | proceed thinned proceeds stays ih =>
    obtain ⟨path, taken, rfl⟩ := Path.of_snoc course
    obtain ⟨steps', k, under, path', same, follows⟩ := ih path _
    obtain ⟨moved, taken', events, reply, follows'⟩ := follows.proceed taken proceeds stays
    obtain ⟨longer, same'⟩ :=
      Course.again path' same taken' ⟨rfl, follows.agrees, follows'.agrees, events, reply⟩
    exact ⟨_, _, under, longer, same', follows'⟩
  | ineffective thinned ineffective ih =>
    obtain ⟨path, taken, rfl⟩ := Path.of_snoc course
    obtain ⟨steps', k, under, path', same, follows⟩ := ih path rest
    obtain ⟨under', follows'⟩ :=
      follows.ineffective (Course.nested path (.of_free free)) taken ineffective
    exact ⟨steps', k, under', path', same, follows'⟩
  | request thinned calls ih =>
    obtain ⟨path, taken, rfl⟩ := Path.of_snoc course
    obtain ⟨steps', k, under, path', same, follows⟩ := ih path rest
    exact ⟨steps', k, under, path', same, follows.request taken calls⟩
  | needless thinned proceeds out needless ih =>
    obtain ⟨path, taken, rfl⟩ := Path.of_snoc course
    obtain ⟨steps', k, under, path', same, follows⟩ := ih path rest
    exact ⟨steps', k, under, path', same, follows.needless taken proceeds out needless⟩

/-! ### An episode that is completed after failures -/

/-- Steps that come to nothing, one after another, leave the protocol as it was. -/
theorem Course.idle {b : Handshake σ} {idle : List (HandshakeStep σ)} (course : Course h idle b)
    (nested : h.Nested) (nothing : ∀ y ∈ idle, Ineffective y ∨ Needless y) : h.Agrees b := by
  induction course with
  | nil => exact agrees_of rfl fun _ => rfl
  | @snoc l s m r path taken ih =>
    have before := ih fun y mem => nothing y (List.mem_append_left _ mem)
    have last : Invisible ⟨s, m, r⟩ := by
      obtain ineffective | needless := nothing ⟨s, m, r⟩ (by simp)
      · exact ineffective.invisible (Course.nested path nested) taken
      · exact needless.invisible taken
    exact agrees_of (last.agrees.coordinator.trans before.coordinator)
      fun t => (last.agrees.waiting t).trans (before.waiting t)

/-- In `b`, which `h` has come to, the next frame of the size still ends the episode: if the device
resizes the surface the acquire returns and a frame is ready, and if it then presents, everybody who
waited is released and about to be woken. -/
def Completes (h b : Handshake σ) (size : Size) : Prop :=
  ∀ t, b.canCall t = true → b.coordinator.Resizes size →
    ∃ ready, b.step t (.call (.acquire size)) = some ready ∧
      ready.reply = some (.returned .done) ∧
      ready.next.coordinator.bare = h.coordinator.bare.readied size ∧
      ∀ u, ready.next.canCall u = true → ready.next.coordinator.Presents →
        ∃ shown, ready.next.step u (.call .swap) = some shown ∧
          shown.next.coordinator.bare = (h.coordinator.bare.readied size).shown ∧
          (∀ v depth episode, h.Waits v depth episode → shown.next.Releases episode) ∧
          ∃ woken, shown.next.step u .proceed = some woken ∧ .notified ∈ woken.events

/-- An acquire that the surface follows. -/
theorem acquire_readies {t : ThreadId} {size : Size} (free : h.canCall t = true)
    (asked : h.coordinator.phase = .requested size) (alive : h.coordinator.surface.live = true)
    (resizes : h.coordinator.Resizes size) :
    ∃ ready, h.step t (.call (.acquire size)) = some ready ∧
      ready.reply = some (.returned .done) ∧
      ready.next.coordinator.bare = h.coordinator.bare.readied size := by
  obtain ⟨c, es, run, bare⟩ := Coordinator.acquire_follows asked alive resizes
  exact ⟨_, by rw [step, if_pos free, call, critical_of_returned h t run], rfl, bare⟩

theorem step_waking {u : ThreadId} {succeeded : Bool} {rest : List Activity}
    (top : h.stack u = .waking succeeded :: rest) :
    h.step u .proceed =
      some ⟨(h.setStack u (.announcing succeeded :: rest)).wakeAll, [.notified], none⟩ := by
  simp only [step, proceed, top]

/-- A swap of a frame that is ready, and the wake-up that comes after it. -/
theorem swap_shows {u : ThreadId} (free : h.canCall u = true)
    (ready : h.coordinator.phase = .frameReady) (presents : h.coordinator.Presents) :
    ∃ shown, h.step u (.call .swap) = some shown ∧
      shown.next.coordinator.bare = h.coordinator.bare.shown ∧
      ∃ woken, shown.next.step u .proceed = some woken ∧ .notified ∈ woken.events := by
  obtain ⟨succeeded, c, es, run, bare⟩ := Coordinator.swap_shows ready presents
  refine ⟨⟨(h.withCoordinator c).setStack u (.waking succeeded :: h.stack u),
    Event.guarded .resize es, none⟩, ?_, bare, _, step_waking (setStack_same ..), by simp⟩
  rw [step, if_pos free, call, critical_of_returned h u run]
  rfl

theorem Course.completes {b : Handshake σ} {idle : List (HandshakeStep σ)} {size : Size}
    (course : Course h idle b) (nested : h.Nested) (counted : h.Counted)
    (asked : h.coordinator.phase = .requested size) (alive : h.coordinator.surface.live = true)
    (nothing : ∀ y ∈ idle, Ineffective y ∨ Needless y) : Completes h b size := by
  have same := (Course.idle course nested nothing).coordinator
  have phase : b.coordinator.phase = .requested size :=
    (congrArg Coordinator.phase same).trans asked
  have live : b.coordinator.surface.live = true :=
    (congrArg (fun c => c.surface.live) same).trans alive
  intro t free resizes
  obtain ⟨ready, acquires, returned, readied⟩ := acquire_readies free phase live resizes
  rw [same] at readied
  refine ⟨ready, acquires, returned, readied, fun u free' presents => ?_⟩
  have frame : ready.next.coordinator.phase = .frameReady :=
    congrArg (fun c : Coordinator Unit => c.phase) readied
  obtain ⟨shown, swaps, shows, wakes⟩ := swap_shows free' frame presents
  rw [readied] at shows
  refine ⟨shown, swaps, shows, fun v depth episode waits => ?_, wakes⟩
  have presented : shown.next.coordinator.presented = h.coordinator.started :=
    congrArg (fun c : Coordinator Unit => c.presented) shows
  rw [Releases, Coordinator.hasPresented_iff, presented]
  exact counted.waiters v depth episode waits

/-- Ineffective acquires and swaps and needless requests change nothing that the protocol knows,
let nobody go and wake nobody.  Left out of a run, they leave a run of the same transitions, on the
answers that the device gave to the other calls.  And however many resizes have failed, the next
acquire and swap of the size end the episode as they would have done at first. -/
theorem ineffective_steps_invisible {start : Handshake σ} {steps : List (HandshakeStep σ)}
    (quiet : start.Quiet) (course : Course start steps h) :
    (∀ x ∈ steps, Ineffective x ∨ Needless x → Invisible x) ∧
    (∀ kept o, Thinned steps kept o → ∃ steps' k,
      Course (start.mount (answers kept)) steps' k ∧ List.Forall₂ SameStep kept steps' ∧
        h.Agrees k) ∧
    ∀ size idle b, h.coordinator.phase = .requested size → h.coordinator.surface.live = true →
      Course h idle b → (∀ y ∈ idle, Ineffective y ∨ Needless y) → Completes h b size := by
  refine ⟨fun x mem nothing => ?invisible, fun kept o thinned => ?thinned, ?completes⟩
  case invisible =>
    obtain ⟨l, l', rfl⟩ := List.append_of_mem mem
    obtain ⟨path, taken, -⟩ := Path.split course
    obtain ineffective | needless := nothing
    · exact ineffective.invisible (Course.nested path (.of_free quiet.free)) taken
    · exact needless.invisible taken
  case thinned =>
    obtain ⟨steps', k, under, again, same, follows⟩ := thinned.run quiet.free course []
    rw [List.append_nil] at again
    exact ⟨steps', k, again, same, follows.agrees⟩
  case completes =>
    intro size idle b asked alive later nothing
    exact Course.completes later (Course.nested course (.of_free quiet.free))
      (Course.counted course quiet.counted) asked alive nothing

/-- A device that fails to resize once, then resizes and presents. -/
def retriedAnswers : Tape :=
  [⟨.resize ⟨1⟩ ⟨640, 480⟩, .returned (.error (.resizeFailed ⟨640, 480⟩ "device lost"))⟩,
    ⟨.resize ⟨1⟩ ⟨640, 480⟩, .returned (.ok ())⟩, ⟨.makeCurrent, .returned true⟩,
    ⟨.swap, .returned true⟩]

/-- Thread 1 asks for 640 by 480, and thread 0 draws a frame of that size twice and presents it. -/
def retriedMoves : List (ThreadId × Move) :=
  [(1, .call (.request ⟨640, 480⟩)), (1, .proceed), (0, .call (.acquire ⟨640, 480⟩)),
    (0, .call (.acquire ⟨640, 480⟩)), (0, .call .swap)]

/-- The steps of these moves. -/
def retriedSteps : List (HandshakeStep Tape) :=
  Path.record (fun h (m : ThreadId × Move) => h.step m.1 m.2) Moved.next
    (resting.mount retriedAnswers) retriedMoves

/-- The first frame comes to nothing, and without it the others present the same episode. -/
theorem failed_resize_left_out :
    Invisible (retriedSteps.get ⟨2, by decide⟩) ∧
      ∃ steps' k, Course (resting.mount retriedAnswers.tail) steps' k ∧
        List.Forall₂ SameStep (retriedSteps.take 2 ++ retriedSteps.drop 3) steps' ∧
        k.coordinator.bare.phase = .idle ∧
        k.coordinator.bare.surface.dimensions = ⟨640, 480⟩ := by
  obtain ⟨h, course⟩ : ∃ h, Course (resting.mount retriedAnswers) retriedSteps h :=
    Path.recorded _ retriedMoves
  obtain ⟨invisible, thinned, -⟩ := ineffective_steps_invisible ⟨rfl, rfl, fun _ => rfl⟩ course
  have failed : Ineffective (retriedSteps.get ⟨2, by decide⟩) := .failed rfl rfl rfl
  have kept : Thinned retriedSteps (retriedSteps.take 2 ++ retriedSteps.drop 3) _ :=
    ((((Thinned.nil.call (x := retriedSteps.get ⟨0, by decide⟩) rfl).proceed
      (x := retriedSteps.get ⟨1, by decide⟩) rfl rfl).ineffective failed).call
      (x := retriedSteps.get ⟨3, by decide⟩) rfl).call (x := retriedSteps.get ⟨4, by decide⟩) rfl
  obtain ⟨steps', k, again, same, agrees⟩ := thinned _ _ kept
  obtain ⟨-, -, rfl⟩ := Path.of_snoc (l := retriedSteps.take 4) course
  refine ⟨invisible _ (List.get_mem ..) (.inl failed), steps', k, again, same, ?_, ?_⟩
  all_goals
    rw [agrees.coordinator]
    rfl

end Handshake

end HostView
