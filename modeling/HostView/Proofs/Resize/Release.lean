import HostView.Proofs.Resize.Episode
import HostView.Surface.Headless

/-!
# A blocked request is released by its own episode

A `Course` is any interleaving of any number of threads, re-entrant calls included.  A request
that has registered in an episode cannot go on before a swap presents that episode
(`Presents`), the surface then has the size of the last registration (`lastTarget`), and from
that swap on everybody who waited can go on.
-/

namespace HostView

/-- A step of the handshake is a move of one thread. -/
abbrev HandshakeStep (σ : Type) := StepTaken (Handshake σ) (ThreadId × Move) (Moved σ)

/-- A request that has found an episode to wait for, and where it stands on the stack of its
thread. -/
structure Registration where
  thread : ThreadId
  depth : Nat
  size : Size
  episode : Nat

namespace Handshake

variable {σ : Type}

/-- The registration that a step makes, if it makes one that has to wait. -/
def registration (x : HandshakeStep σ) : Option Registration :=
  match x.move.2, x.before.stack x.move.1 with
  | .proceed, .entering size :: rest =>
    (x.before.coordinator.register size).1.map fun episode =>
      ⟨x.move.1, rest.length, size, episode⟩
  | _, _ => none

/-- The size of the last registration, which a frame must have to end the episode. -/
def lastTarget (size : Size) (steps : List (HandshakeStep σ)) : Size :=
  ((steps.filterMap registration).getLast?.map Registration.size).getD size

/-- A swap that finds a frame ready and presents it. -/
structure Presents (x : HandshakeStep σ) : Prop where
  swaps : x.move.2 = .call .swap
  ready : x.before.coordinator.phase = .frameReady
  idle : x.result.next.coordinator.phase = .idle

/-- A step in which the surface is neither made nor destroyed. -/
structure KeepsSurface (x : HandshakeStep σ) : Prop where
  create : ∀ size, x.move.2 ≠ .call (.surface (.create size))
  destroy : x.move.2 ≠ .call (.surface .destroy)

/-- After the steps `m`, in which it was always in progress, a registered request returns. -/
structure ReturnsAt (r : Registration) (m : List (HandshakeStep σ)) (x : HandshakeStep σ) :
    Prop where
  inProgress : ∀ z ∈ m, r.depth < (z.result.next.stack r.thread).length
  own : x.move.1 = r.thread
  left : (x.result.next.stack r.thread).length = r.depth
  returned : ∃ reply, x.result.reply = some (.returned reply)

/-- Whoever waits for the episode goes on when it has the lock. -/
def Releases (h : Handshake σ) (episode : Nat) : Prop :=
  h.coordinator.hasPresented episode = true

variable [SurfaceDevice σ]

/-- An interleaving of the moves of any threads. -/
abbrev Course (start : Handshake σ) (steps : List (HandshakeStep σ)) (h : Handshake σ) : Prop :=
  Path (fun h (m : ThreadId × Move) => h.step m.1 m.2) Moved.next start steps h

/-! ### Registrations -/

omit [SurfaceDevice σ] in
theorem registration_some {x : HandshakeStep σ} {r : Registration}
    (registers : registration x = some r) :
    x.move = (r.thread, .proceed) ∧
      ∃ rest, x.before.stack r.thread = .entering r.size :: rest ∧ rest.length = r.depth ∧
        (x.before.coordinator.register r.size).1 = some r.episode := by
  unfold registration at registers
  split at registers
  next size rest proceeds top =>
    obtain ⟨episode, found, rfl⟩ := Option.map_eq_some_iff.1 registers
    exact ⟨Prod.ext rfl proceeds, rest, top, rfl, found⟩
  next => cases registers

omit [SurfaceDevice σ] in
theorem lastTarget_snoc (size : Size) (m : List (HandshakeStep σ)) (x : HandshakeStep σ) :
    lastTarget size (m ++ [x]) =
      ((registration x).map Registration.size).getD (lastTarget size m) := by
  unfold lastTarget
  cases hx : registration x <;> simp [hx]

/-- What a registration leaves: its own episode is the newest one, and it is outstanding. -/
theorem registered_episode {x : HandshakeStep σ} {r : Registration}
    (counted : x.before.Counted) (taken : x.before.step x.move.1 x.move.2 = some x.result)
    (registers : registration x = some r) :
    x.result.next.coordinator.phase = .requested r.size ∧
      x.result.next.coordinator.started = r.episode ∧
      (x.before.coordinator.phase ≠ .idle → r.episode = x.before.coordinator.started) ∧
      x.result.next.Waits r.thread r.depth r.episode := by
  obtain ⟨move, rest, top, depth, found⟩ := registration_some registers
  rw [move, step_entering top] at taken
  rw [← Option.some.inj taken]
  obtain ⟨phase, started, -, -, busy, -⟩ :=
    Coordinator.register_some counted.counters (Prod.ext_iff.2 ⟨found, rfl⟩)
  refine ⟨phase, started, busy, ?_⟩
  rw [Waits, episodes_setStack, found]
  simp [← depth, Activity.episode]

/-! ### The size of the frame that ends an episode -/

/-- The episode ends with a frame of this size. -/
def Aims (c : Coordinator σ) (size : Size) : Prop :=
  c.phase = .requested size ∨ c.phase = .frameReady ∧ c.surface.dimensions = size

omit [SurfaceDevice σ] in
theorem Aims.busy {c : Coordinator σ} {size : Size} (aims : Aims c size) : c.phase ≠ .idle := by
  obtain asked | ⟨ready, -⟩ := aims
  · simp [asked]
  · simp [ready]

omit [SurfaceDevice σ] in
theorem Aims.withDevice {c : Coordinator σ} {size : Size} (aims : Aims c size) (d : σ) :
    Aims (c.withDevice d) size := aims

theorem Aims.acquire {c c' : Coordinator σ} {size target : Size} {outcome : Outcome Unit}
    {es : List Event} (aims : Aims c target)
    (run : Coordinator.acquire size c = ⟨outcome, c', es⟩) : Aims c' target := by
  have made := Coordinator.acquired c size
  rw [run] at made
  -- an acquire does something only while its own size is asked for
  have hit : c.phase = .requested size → size = target := by
    intro asked
    obtain same | ⟨ready, -⟩ := aims
    · rw [asked] at same
      exact ResizePhase.requested.inj same
    · rw [asked] at ready
      cases ready
  cases made with
  | passed => exact aims
  | missing => exact aims
  | failed => exact aims.withDevice _
  | ready asked => exact .inr ⟨rfl, hit asked⟩
  | panicked => exact aims.withDevice _
  | panickedLate asked =>
    rw [hit asked] at asked
    exact .inl asked

theorem surfaceWork_kept {task : SurfaceTask} {l l' : Lifecycle σ} {outcome : Outcome Reply}
    {es : List Event} (run : surfaceWork task l = ⟨outcome, l', es⟩)
    (create : ∀ size, task ≠ .create size) (destroy : task ≠ .destroy) :
    ∃ d, l' = l.withDevice d := by
  -- the three tasks that are left ask the device once, and only that
  have asked : ∀ {call : DeviceCall} {f : call.Answer → Reply},
      (Lifecycle.ask call >>= fun a => pure (f a) : Work (Lifecycle σ) Event Reply) l =
        ⟨outcome, l', es⟩ → ∃ d, l' = l.withDevice d := by
    intro call f run
    rcases answer : SurfaceDevice.perform call l.device with ⟨a | m, d, logs⟩
    · rw [Lifecycle.reply_of_returned answer] at run
      exact ⟨d, (congrArg Run.state run).symm⟩
    · rw [Lifecycle.reply_of_panicked answer] at run
      exact ⟨d, (congrArg Run.state run).symm⟩
  cases task with
  | create size => exact absurd rfl (create size)
  | destroy => exact absurd rfl destroy
  | makeCurrent => exact asked run
  | makeResourceCurrent => exact asked run
  | clearContext => exact asked run

/-- What a step that presents nothing leaves of an episode: it goes on, and it aims at the size
of the last registration. -/
theorem Aims.step {x : HandshakeStep σ} {size : Size} (aims : Aims x.before.coordinator size)
    (counted : x.before.Counted) (taken : x.before.step x.move.1 x.move.2 = some x.result)
    (kept : KeepsSurface x) (unpresented : ¬ Presents x) :
    Aims x.result.next.coordinator (((registration x).map Registration.size).getD size) := by
  cases registers : registration x with
  | some r => exact .inl (registered_episode counted taken registers).1
  | none =>
    obtain ⟨h, ⟨t, m⟩, moved⟩ := x
    change Aims moved.next.coordinator size
    have made : Stepped h t m moved := stepped taken
    cases made with
    | requested => exact aims
    | tells => exact aims
    | acquired free run => exact aims.acquire run
    | acquirePanicked free run => exact aims.acquire run
    | swapped free run =>
      obtain ⟨-, d, rfl⟩ := Coordinator.swap_unfinished run
      exact aims.withDevice d
    | presented free run =>
      obtain ⟨ready, d, rfl⟩ := Coordinator.swap_finished run
      exact absurd ⟨rfl, ready, rfl⟩ unpresented
    | swapPanicked free run =>
      obtain ⟨d, rfl⟩ := Coordinator.swap_panicked run
      exact aims.withDevice d
    | surfaced free run =>
      obtain ⟨d, rfl⟩ := surfaceWork_kept run
        (fun size eq => kept.create size (by rw [eq])) fun eq => kept.destroy (by rw [eq])
      exact aims.withDevice d
    | surfacePanicked free run =>
      obtain ⟨d, rfl⟩ := surfaceWork_kept run
        (fun size eq => kept.create size (by rw [eq])) fun eq => kept.destroy (by rw [eq])
      exact aims.withDevice d
    | @registered size' rest episode c es top run =>
      cases episode with
      | none =>
        obtain ⟨rfl, -⟩ := Coordinator.register_none run
        exact aims
      | some episode => simp [registration, top, run] at registers
    | told => exact aims
    | done => exact aims
    | released => exact aims
    | slept => exact aims
    | woke => exact aims
    | announced => exact aims

/-! ### The course of an episode -/

/-- Until something is presented, an episode keeps its number and its aim. -/
theorem Aims.course {a b : Handshake σ} {steps : List (HandshakeStep σ)} {size : Size}
    (aims : Aims a.coordinator size) (counted : a.Counted) (course : Course a steps b)
    (kept : ∀ x ∈ steps, KeepsSurface x) (unpresented : ∀ x ∈ steps, ¬ Presents x) :
    Aims b.coordinator (lastTarget size steps) ∧ b.Counted ∧
      b.coordinator.started = a.coordinator.started := by
  induction course with
  | nil => exact ⟨aims, counted, rfl⟩
  | @snoc steps s m moved path taken ih =>
    obtain ⟨aims', counted', started⟩ :=
      ih (fun x hx => kept x (by simp [hx])) fun x hx => unpresented x (by simp [hx])
    have unpresented' := unpresented ⟨s, m, moved⟩ (by simp)
    rw [lastTarget_snoc]
    refine ⟨aims'.step (x := ⟨s, m, moved⟩) counted' taken (kept _ (by simp)) unpresented',
      counted'.step (stepped taken), ?_⟩
    rw [← started]
    cases count (stepped taken) with
    | same same => exact same.started
    | begun top proceeds found eq =>
      obtain ⟨-, new, -, -, old, -⟩ :=
        Coordinator.register_some counted'.counters (Prod.ext_iff.2 ⟨found, rfl⟩)
      rw [eq, new, old aims'.busy]
    | ended swaps ready idle => exact absurd ⟨swaps, ready, idle⟩ unpresented'

/-- Who waits for an outstanding episode goes on waiting, unless a panic takes it away. -/
theorem Waits.step {h : Handshake σ} {t u : ThreadId} {m : Move} {moved : Moved σ}
    {depth episode : Nat} (waits : h.Waits u depth episode) (taken : Stepped h t m moved)
    (outstanding : h.coordinator.presented < episode) :
    moved.next.Waits u depth episode ∨
      (moved.next.stack u).length ≤ depth ∧ ∃ m, moved.reply = some (.panicked m) := by
  by_cases own : u = t
  · subst own
    cases shift taken with
    | kept same => exact .inl (by rwa [Waits, same])
    | pushed grown => exact .inl (by rw [Waits, grown]; exact waits_append waits)
    | joined top found eq before after =>
      rw [Waits, before] at waits
      obtain old | ⟨-, ⟨⟩⟩ := waits_append_singleton waits
      exact .inl (by rw [Waits, after]; exact waits_append old)
    | popped before after past =>
      rw [Waits, before] at waits
      obtain old | ⟨-, last⟩ := waits_append_singleton waits
      · exact .inl (by rwa [Waits, after])
      · exact absurd (past episode last) (Nat.not_le.2 outstanding)
    | unwound after reply =>
      refine .inr ⟨?_, _, reply⟩
      rw [← length_episodes, after]
      exact Nat.zero_le _
  · exact .inl (by rwa [Waits, episodes_of_ne taken own])

omit [SurfaceDevice σ] in
theorem Waits.lt_length {h : Handshake σ} {t : ThreadId} {depth episode : Nat}
    (waits : h.Waits t depth episode) : depth < (h.stack t).length := by
  rw [← length_episodes]
  exact (List.getElem?_eq_some_iff.1 waits).1

/-- A request that is in progress all the time still waits. -/
theorem Waits.course {a b : Handshake σ} {steps : List (HandshakeStep σ)} {t : ThreadId}
    {depth episode : Nat} (waits : a.Waits t depth episode) (course : Course a steps b)
    (outstanding : ∀ x ∈ steps, x.before.coordinator.presented < episode)
    (inProgress : ∀ x ∈ steps, depth < (x.result.next.stack t).length) :
    b.Waits t depth episode := by
  induction course with
  | nil => exact waits
  | @snoc steps s m moved path taken ih =>
    have waits' := ih (fun x hx => outstanding x (by simp [hx]))
      fun x hx => inProgress x (by simp [hx])
    obtain still | ⟨gone, -⟩ := waits'.step (stepped taken) (outstanding ⟨s, m, moved⟩ (by simp))
    · exact still
    · exact absurd gone (Nat.not_le.2 (inProgress ⟨s, m, moved⟩ (by simp)))

theorem Course.counted {a b : Handshake σ} {steps : List (HandshakeStep σ)}
    (course : Course a steps b) (counted : a.Counted) : b.Counted :=
  Path.invariant course counted fun counted taken => counted.step (stepped taken)

theorem Course.presented_mono {a b : Handshake σ} {steps : List (HandshakeStep σ)}
    (course : Course a steps b) (counted : a.Counted) :
    a.coordinator.presented ≤ b.coordinator.presented := by
  induction course with
  | nil => exact Nat.le_refl _
  | snoc path taken ih =>
    exact Nat.le_trans ih
      (Handshake.presented_mono (Course.counted path counted) (count (stepped taken)))

/-- A swap that presents ends the newest episode that was started. -/
theorem Presents.presented {x : HandshakeStep σ} (presents : Presents x)
    (taken : x.before.step x.move.1 x.move.2 = some x.result) :
    x.result.next.coordinator.presented = x.before.coordinator.started := by
  cases count (stepped taken) with
  | same same =>
    have idle := same.idle.1 presents.idle
    rw [presents.ready] at idle
    cases idle
  | begun top proceeds =>
    rw [presents.swaps] at proceeds
    cases proceeds
  | ended swaps ready idle surface started presented => exact presented

/-! ### From a registration on -/

/-- What holds from a registration on, as long as nothing is presented: its episode is the newest
one and outstanding, and the frame that ends it has the size of the last registration. -/
structure Pending (h : Handshake σ) (episode : Nat) (size : Size) : Prop where
  aims : Aims h.coordinator size
  counted : h.Counted
  newest : h.coordinator.started = episode

omit [SurfaceDevice σ] in
theorem Pending.outstanding {h : Handshake σ} {episode : Nat} {size : Size}
    (pending : Pending h episode size) : h.coordinator.presented < episode := by
  have ahead := pending.counted.counters.ahead pending.aims.busy
  have newest := pending.newest
  omega

theorem Pending.of_registration {x : HandshakeStep σ} {r : Registration}
    (counted : x.before.Counted) (taken : x.before.step x.move.1 x.move.2 = some x.result)
    (registers : registration x = some r) : Pending x.result.next r.episode r.size := by
  obtain ⟨phase, newest, -⟩ := registered_episode counted taken registers
  exact ⟨.inl phase, counted.step (stepped taken), newest⟩

theorem Pending.course {a b : Handshake σ} {steps : List (HandshakeStep σ)} {episode : Nat}
    {size : Size} (pending : Pending a episode size) (course : Course a steps b)
    (kept : ∀ x ∈ steps, KeepsSurface x) (unpresented : ∀ x ∈ steps, ¬ Presents x) :
    Pending b episode (lastTarget size steps) := by
  obtain ⟨aims, counted, started⟩ := pending.aims.course pending.counted course kept unpresented
  exact ⟨aims, counted, started.trans pending.newest⟩

/-- Up to any step before the first presented frame, the registration is pending. -/
theorem Pending.before_of_mem {a b : Handshake σ} {steps : List (HandshakeStep σ)} {episode : Nat}
    {size : Size} {z : HandshakeStep σ} (pending : Pending a episode size)
    (course : Course a steps b) (kept : ∀ x ∈ steps, KeepsSurface x)
    (unpresented : ∀ x ∈ steps, ¬ Presents x) (mem : z ∈ steps) :
    (∃ target, Pending z.before episode target) ∧
      ∃ target, Pending z.result.next episode target := by
  obtain ⟨m, k, rfl⟩ := List.append_of_mem mem
  obtain ⟨path, taken, -⟩ := Path.split course
  have until' := pending.course path (fun x hx => kept x (by simp [hx]))
    fun x hx => unpresented x (by simp [hx])
  refine ⟨⟨_, until'⟩, _, pending.course (path.snoc taken) (fun x hx => kept x ?_)
    fun x hx => unpresented x ?_⟩
  all_goals
    rw [List.mem_append, List.mem_singleton] at hx
    obtain old | rfl := hx
    · simp [old]
    · simp

/-- A request that has registered does not return while nothing is presented. -/
theorem Pending.not_returnsAt {a b : Handshake σ} {m : List (HandshakeStep σ)} {r : Registration}
    {y : HandshakeStep σ} (pending : Pending a r.episode r.size)
    (waits : a.Waits r.thread r.depth r.episode) (course : Course a (m ++ [y]) b)
    (kept : ∀ x ∈ m, KeepsSurface x) (unpresented : ∀ x ∈ m, ¬ Presents x) :
    ¬ ReturnsAt r m y := by
  intro returns
  obtain ⟨path, taken, -⟩ := Path.of_snoc course
  have outstanding : ∀ z ∈ m, z.before.coordinator.presented < r.episode := by
    intro z hz
    obtain ⟨⟨_, earlier⟩, -⟩ := pending.before_of_mem path kept unpresented hz
    exact earlier.outstanding
  have last := pending.course path kept unpresented
  have waiting := waits.course path outstanding returns.inProgress
  obtain still | ⟨-, m', reply⟩ := waiting.step (stepped taken) last.outstanding
  · exact absurd still.lt_length (by rw [returns.left]; exact Nat.lt_irrefl _)
  · obtain ⟨reply', returned⟩ := returns.returned
    rw [reply] at returned
    cases returned

/-- From a presented frame on, everybody who waited for an episode then can go on. -/
theorem Presents.releases {y : HandshakeStep σ} {k : List (HandshakeStep σ)} {b : Handshake σ}
    (presents : Presents y) (counted : y.before.Counted)
    (taken : y.before.step y.move.1 y.move.2 = some y.result)
    (course : Course y.result.next k b) {e : Nat} (known : e ≤ y.before.coordinator.started)
    {z : HandshakeStep σ} (mem : z ∈ y :: k) : z.result.next.Releases e := by
  have atSwap := presents.presented taken
  have counted' := counted.step (stepped taken)
  have later : y.result.next.coordinator.presented ≤ z.result.next.coordinator.presented := by
    obtain rfl | inside := List.mem_cons.1 mem
    · exact Nat.le_refl _
    · obtain ⟨k₁, k₂, rfl⟩ := List.append_of_mem inside
      obtain ⟨path, taken', -⟩ := Path.split course
      exact Course.presented_mono (path.snoc taken') counted'
  rw [Releases, Coordinator.hasPresented_iff]
  omega

omit [SurfaceDevice σ] in
/-- A request that is neither empty nor for the size that an idle view has already finds an
episode. -/
theorem registration_of_entering {x : HandshakeStep σ} {t : ThreadId} {size : Size}
    {rest : List Activity} (move : x.move = (t, .proceed))
    (top : x.before.stack t = .entering size :: rest) (full : size.isEmpty = false)
    (needed : ¬ (x.before.coordinator.phase = .idle ∧
      x.before.coordinator.surface.dimensions = size)) :
    ∃ episode, registration x = some ⟨t, rest.length, size, episode⟩ := by
  rcases found : x.before.coordinator.register size with ⟨_ | episode, c, es⟩
  · obtain ⟨-, empty | current⟩ := Coordinator.register_none found
    · rw [full] at empty
      cases empty
    · exact absurd current needed
  · exact ⟨episode, by simp [registration, move, top, found]⟩

/-- A request that registers in an episode returns only after a swap that presents a ready frame.
Until that swap the episode stays outstanding and takes in every further registration.  At the
swap the surface has the size of the last registration, and from then on all who waited for the
episode can go on, whatever is requested later. -/
theorem released_by_own_episode {h₀ h : Handshake σ} {before after : List (HandshakeStep σ)}
    {x : HandshakeStep σ} {t : ThreadId} {size : Size} {rest : List Activity}
    (quiet : h₀.Quiet) (course : Course h₀ (before ++ x :: after) h)
    (move : x.move = (t, .proceed)) (top : x.before.stack t = .entering size :: rest)
    (full : size.isEmpty = false)
    (needed : ¬ (x.before.coordinator.phase = .idle ∧
      x.before.coordinator.surface.dimensions = size))
    (kept : ∀ y ∈ after, KeepsSurface y) :
    ∃ r : Registration, registration x = some r ∧
      r.thread = t ∧ r.depth = rest.length ∧ r.size = size ∧
      (∀ m y k, after = m ++ y :: k → ReturnsAt r m y → ∃ z ∈ m, Presents z) ∧
      (∀ m k, after = m ++ k → (∀ z ∈ m, ¬ Presents z) →
        ∀ z ∈ x :: m, ¬ z.result.next.Releases r.episode ∧
          ∀ r', registration z = some r' → r'.episode = r.episode) ∧
      ∀ m y k, after = m ++ y :: k → (∀ z ∈ m, ¬ Presents z) → Presents y →
        y.before.coordinator.surface.dimensions = lastTarget size m ∧
        ∀ z ∈ y :: k, z.result.next.Releases r.episode ∧
          ∀ t' depth e, y.before.Waits t' depth e → z.result.next.Releases e := by
  obtain ⟨episode, registers⟩ := registration_of_entering move top full needed
  obtain ⟨path, taken, later⟩ := Path.split course
  have counted := Course.counted path quiet.counted
  have pending := Pending.of_registration counted taken registers
  obtain ⟨-, -, -, waits⟩ := registered_episode counted taken registers
  refine ⟨_, registers, rfl, rfl, rfl, ?returns, ?outstanding, ?released⟩
  case returns =>
    rintro m y k rfl returns
    by_contra unpresented
    rw [List.append_cons] at later
    obtain ⟨_, upTo, -⟩ := Path.of_append later
    exact pending.not_returnsAt waits upTo (fun z hz => kept z (by simp [hz]))
      (fun z hz presents => unpresented ⟨z, hz, presents⟩) returns
  case outstanding =>
    rintro m k rfl unpresented z hz
    obtain ⟨_, upTo, -⟩ := Path.of_append later
    obtain rfl | inside := List.mem_cons.1 hz
    · refine ⟨?_, fun r' same => ?_⟩
      · rw [Releases, Coordinator.hasPresented_iff]
        exact Nat.not_le.2 pending.outstanding
      · rw [registers] at same
        rw [← Option.some.inj same]
    · obtain ⟨⟨_, earlier⟩, _, still⟩ := pending.before_of_mem upTo
        (fun z hz => kept z (by simp [hz])) unpresented inside
      refine ⟨?_, fun r' joins => ?_⟩
      · rw [Releases, Coordinator.hasPresented_iff]
        exact Nat.not_le.2 still.outstanding
      · obtain ⟨-, -, same, -⟩ :=
          registered_episode earlier.counted (Path.taken_of_mem upTo inside) joins
        rw [same earlier.aims.busy, earlier.newest]
  case released =>
    rintro m y k rfl unpresented presents
    obtain ⟨upTo, taken', rest'⟩ := Path.split later
    have atSwap := pending.course upTo (fun z hz => kept z (by simp [hz])) unpresented
    refine ⟨?_, fun z hz => ⟨?_, fun t' depth e waits' => ?_⟩⟩
    · obtain asked | ⟨-, size⟩ := atSwap.aims
      · rw [presents.ready] at asked
        cases asked
      · exact size
    · exact presents.releases atSwap.counted taken' rest' (Nat.le_of_eq atSwap.newest.symm) hz
    · exact presents.releases atSwap.counted taken' rest'
        (atSwap.counted.waiters t' depth e waits') hz

/-- A view of 800 by 600 pixels that nobody calls. -/
def resting : Handshake Headless where
  coordinator :=
    { surface :=
      { device := { target := some ⟨1⟩, current := true }
        target := ⟨1⟩
        dimensions := ⟨800, 600⟩
        live := true } }
  scale := 1.0

/-- Thread 1 asks for 100 by 100, thread 2 for 200 by 200 before anything is drawn, and thread 0
draws. -/
def supersededMoves : List (ThreadId × Move) :=
  [(1, .call (.request ⟨100, 100⟩)), (1, .proceed), (2, .call (.request ⟨200, 200⟩)),
    (2, .proceed), (1, .proceed), (1, .proceed), (0, .call (.acquire ⟨100, 100⟩)),
    (0, .call (.acquire ⟨200, 200⟩)), (0, .call .swap), (0, .proceed), (1, .proceed)]

/-- The steps of these moves. -/
def supersededSteps : List (HandshakeStep Headless) :=
  Path.record (fun h (m : ThreadId × Move) => h.step m.1 m.2) Moved.next resting supersededMoves

/-- The request of thread 1 returns with the last move, and its episode ended at 200 by 200. -/
theorem superseded_request_released :
    ∃ (r : Registration) (m : List (HandshakeStep Headless)) (y : HandshakeStep Headless)
      (k : List (HandshakeStep Headless)),
      r.thread = 1 ∧ r.size = ⟨100, 100⟩ ∧ supersededSteps.drop 2 = m ++ y :: k ∧
        y.move = (0, .call .swap) ∧ y.before.coordinator.surface.dimensions = ⟨200, 200⟩ ∧
        ∀ z ∈ y :: k, z.result.next.Releases r.episode := by
  have cut : supersededSteps =
      supersededSteps.take 1 ++ supersededSteps.get ⟨1, by decide⟩ :: supersededSteps.drop 2 := rfl
  have cut' : supersededSteps.drop 2 = (supersededSteps.drop 2).take 6 ++
      supersededSteps.get ⟨8, by decide⟩ :: supersededSteps.drop 9 := rfl
  have surfaces : ∀ m ∈ supersededMoves.drop 2, ∀ task, m.2 ≠ .call (.surface task) := by
    simp [supersededMoves]
  have swaps : ∀ m ∈ (supersededMoves.drop 2).take 6, m.2 ≠ .call .swap := by
    simp [supersededMoves]
  have kept : ∀ z ∈ supersededSteps.drop 2, KeepsSurface z := by
    intro z hz
    have move := surfaces z.move (List.mem_map_of_mem (f := StepTaken.move) hz)
    exact ⟨fun _ => move _, move _⟩
  have unpresented : ∀ z ∈ (supersededSteps.drop 2).take 6, ¬ Presents z := by
    intro z hz presents
    exact swaps z.move (List.mem_map_of_mem (f := StepTaken.move) hz) presents.swaps
  obtain ⟨h, course⟩ : ∃ h, Course resting supersededSteps h :=
    Path.recorded resting supersededMoves
  rw [cut] at course
  obtain ⟨r, -, thread, -, size, -, -, released⟩ :=
    released_by_own_episode ⟨rfl, rfl, fun _ => rfl⟩ course rfl rfl rfl (by decide) kept
  obtain ⟨-, releases⟩ := released _ _ _ cut' unpresented ⟨rfl, rfl, rfl⟩
  exact ⟨r, _, _, _, thread, size, cut', rfl, rfl, fun z hz => (releases z hz).1⟩

end Handshake

end HostView
