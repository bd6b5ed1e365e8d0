import HostView.Proofs.Resize.Wakeup
import HostView.Proofs.View.Threads

/-!
# No callback under a lock, no device without it

In every interleaving of any threads (`Threads.Course`) each thread holds one lock at most, and what
is still to be seen of it keeps to the rule of `Event.hold` (`Threads.Keeping`).  Its calls fit its
stack of activities (`Frame.Fits`), so that a callback can call the view again.  And whatever
sections write on their way, the threads go through what the moves of the handshake come to when
each of them is made in one go (`Threads.Course.settled`).
-/

namespace HostView

/-! ### How one move changes a stack -/

/-- An activity in which the engine may call back. -/
def Activity.Told (a : Activity) : Prop := ∃ size episode, a = .told size episode

theorem Activity.Told.wake {a : Activity} (told : a.Told) : a.wake = a := by
  obtain ⟨size, episode, rfl⟩ := told
  rfl

namespace Handshake

variable {σ : Type}

/-- A move of the call that was made on top of the activities `under` leaves none of its own, or
one; a panic takes the thread out of everything. -/
inductive OnTop (under : List Activity) (t : ThreadId) (moved : Moved σ) : Prop
  | returned (stack : moved.next.stack t = under)
      (calm : ∀ m, moved.reply ≠ some (.panicked m))
  | busy {a : Activity} (stack : moved.next.stack t = a :: under)
      (told : (∃ e ∈ moved.events, e.isCallback = true) → a.Told)
      (calm : ∀ m, moved.reply ≠ some (.panicked m))
  | unwound {m : String} (stack : moved.next.stack t = [])
      (reply : moved.reply = some (.panicked m))

/-- There is no callback in a critical section. -/
theorem no_callback_of_inner {es : List Event} (inner : ∀ e ∈ es, e.isInner = true) :
    ¬ ∃ e ∈ Event.guarded .resize es, e.isCallback = true := by
  rintro ⟨e, mem, callback⟩
  simp only [Event.guarded, List.cons_append, List.mem_cons, List.mem_append, List.not_mem_nil,
    or_false] at mem
  obtain rfl | inside | rfl := mem
  · cases callback
  · have inside := inner e inside
    cases e with
    | engine | window | hook => cases inside
    | _ => cases callback
  · cases callback

theorem no_callback_of_logs (records : List Log.Record) :
    ¬ ∃ e ∈ Event.guarded .resize (records.map .log), e.isCallback = true := by
  refine no_callback_of_inner fun e mem => ?_
  obtain ⟨r, -, rfl⟩ := List.mem_map.1 mem
  rfl

theorem canCall_of_told {h : Handshake σ} {t : ThreadId} (told : ∀ a ∈ h.stack t, a.Told) :
    h.canCall t = true := by
  rcases top : h.stack t with _ | ⟨a, rest⟩
  · rw [canCall, top]
  · obtain ⟨size, episode, rfl⟩ := told a (by simp [top])
    rw [canCall, top]

variable [SurfaceDevice σ] {h : Handshake σ} {t : ThreadId} {m : Move} {moved : Moved σ}

theorem onTop_call {call : HandshakeCall} (taken : Stepped h t (.call call) moved) :
    OnTop (h.stack t) t moved := by
  have quiet : ¬ ∃ e ∈ moved.events, e.isCallback = true := by
    obtain none | ⟨es, events, inner⟩ := section_of_call taken
    · simp [none]
    · rw [events]
      exact no_callback_of_inner inner
  cases taken with
  | requested | tells | presented =>
    exact .busy (setStack_same _ _ _) (fun callback => absurd callback quiet) nofun
  | acquired | swapped | surfaced => exact .returned rfl nofun
  | acquirePanicked | swapPanicked | surfacePanicked => exact .unwound (setStack_same _ _ _) rfl

theorem onTop_proceed {a : Activity} {under : List Activity} (top : h.stack t = a :: under)
    (told : ∀ a ∈ under, a.Told) (taken : Stepped h t .proceed moved) :
    OnTop under t moved := by
  have logs (records : List Log.Record) (a : Activity) :
      (∃ e ∈ Event.guarded .resize (records.map .log), e.isCallback = true) → a.Told :=
    fun callback => absurd callback (no_callback_of_logs records)
  cases taken with
  | registered top' run =>
    obtain ⟨records, rfl⟩ := Coordinator.register_logs run
    obtain ⟨-, rfl⟩ := List.cons.inj (top.symm.trans top')
    exact .busy (setStack_same _ _ _) (logs records _) nofun
  | told top' =>
    obtain ⟨-, rfl⟩ := List.cons.inj (top.symm.trans top')
    exact .busy (setStack_same _ _ _) (fun _ => ⟨_, _, rfl⟩) nofun
  | done top' | released top' | announced top' =>
    obtain ⟨-, rfl⟩ := List.cons.inj (top.symm.trans top')
    exact .returned (setStack_same _ _ _) nofun
  | slept top' =>
    obtain ⟨-, rfl⟩ := List.cons.inj (top.symm.trans top')
    exact .busy (setStack_same _ _ _) (logs _ _) nofun
  | @woke succeeded rest top' =>
    obtain ⟨-, rfl⟩ := List.cons.inj (top.symm.trans top')
    -- whoever wakes the others does not sleep itself, nor does anything that it was called from
    have still : under.map Activity.wake = under :=
      (List.map_congr_left fun a mem => (told a mem).wake).trans (List.map_id _)
    refine .busy (a := .announcing succeeded) (by simp [still, Activity.wake]) ?_ nofun
    rintro ⟨e, mem, callback⟩
    obtain rfl := List.mem_singleton.1 mem
    cases callback

/-- A move that takes no lock neither reads nor writes what the lock guards. -/
theorem step_apart (taken : h.step t m = some moved)
    (apart : ∀ es, moved.events ≠ .locked .resize :: es) (c : Coordinator σ) :
    (h.withCoordinator c).step t m =
        some ⟨moved.next.withCoordinator c, moved.events, moved.reply⟩ ∧
      moved.next.coordinator = h.coordinator := by
  cases m with
  | call call =>
    obtain ⟨free, eq⟩ := Option.ite_none_right_eq_some.1 taken
    obtain rfl := Option.some.inj eq
    have free' : (h.withCoordinator c).canCall t = true := free
    cases call with
    | request | tell => exact ⟨if_pos free', rfl⟩
    | acquire | swap | surface => exact absurd (critical_events ..) (apart _)
  | proceed =>
    have unlocked {es : List Event} : moved.events ≠ Event.guarded .resize es := apart _
    rcases top : h.stack t with _ | ⟨a, rest⟩
    · simp [step, proceed, top] at taken
    have top' : (h.withCoordinator c).stack t = a :: rest := top
    cases a with
    | entering =>
      simp only [step, proceed, top, Option.some.injEq] at taken
      exact absurd (congrArg Moved.events taken.symm) unlocked
    | told size episode =>
      cases episode with
      | none =>
        simp only [step, proceed, top, top', Option.some.injEq] at taken ⊢
        subst taken
        exact ⟨rfl, rfl⟩
      | some episode =>
        simp only [step, proceed, top, Option.some.injEq] at taken
        exact absurd (congrArg Moved.events taken.symm) (by rw [await]; split <;> exact unlocked)
    | asleep => simp [step, proceed, top] at taken
    | woken =>
      simp only [step, proceed, top, Option.some.injEq] at taken
      exact absurd (congrArg Moved.events taken.symm) (by rw [await]; split <;> exact unlocked)
    | telling | waking | announcing =>
      simp only [step, proceed, top, top', Option.some.injEq] at taken ⊢
      subst taken
      exact ⟨rfl, rfl⟩

end Handshake

/-! ### The calls of a thread and its activities -/

namespace Frame

/-- The calls of a thread fit its activities: each call has one activity at most, each call but the
innermost is in a callback, and a call is in a callback only while the engine has got the metrics
of its request, or when it has no activity. -/
inductive Fits : List Frame → List Activity → Prop
  | outside : Fits [] []
  | quiet {depth : Nat} {events : List Event} {outer : List Frame} {under : List Activity}
      (below : Fits outer under) (inside : isOpen outer = true) (same : depth = under.length) :
      Fits (⟨depth, events⟩ :: outer) under
  | busy {depth : Nat} {events : List Event} {outer : List Frame} {under : List Activity}
      {a : Activity} (below : Fits outer under) (inside : isOpen outer = true)
      (same : depth = under.length) (told : (∃ e ∈ events, e.isCallback = true) → a.Told) :
      Fits (⟨depth, events⟩ :: outer) (a :: under)

variable {frames outer : List Frame} {stack under : List Activity} {depth : Nat}
  {events rest : List Event}

/-- A thread that can call is in no activity but requests that the engine has got the metrics of. -/
theorem Fits.told (fits : Fits frames stack) (can : isOpen frames = true) :
    ∀ a ∈ stack, a.Told := by
  induction fits with
  | outside => exact nofun
  | quiet below inside same ih => exact ih inside
  | @busy depth events outer under a below inside same told ih =>
    cases events with
    | nil => cases can
    | cons e events =>
      exact List.forall_mem_cons.2 ⟨told ⟨e, List.mem_cons_self, can⟩, ih inside⟩

/-- Being woken changes nothing about where a thread is. -/
theorem Fits.wake (fits : Fits frames stack) : Fits frames (stack.map Activity.wake) := by
  induction fits with
  | outside => exact .outside
  | quiet below inside same ih => exact .quiet ih inside (by rw [List.length_map, same])
  | busy below inside same told ih =>
    refine .busy ih inside (by rw [List.length_map, same]) fun callback => ?_
    have told := told callback
    rwa [told.wake]

/-- What is still to be seen of the innermost call gets less. -/
theorem Fits.less (fits : Fits (⟨depth, events⟩ :: outer) stack) (less : rest ⊆ events) :
    Fits (⟨depth, rest⟩ :: outer) stack := by
  cases fits with
  | quiet below inside same => exact .quiet below inside same
  | busy below inside same told =>
    exact .busy below inside same fun ⟨e, mem, callback⟩ => told ⟨e, less mem, callback⟩

/-- A call that has returned. -/
theorem Fits.left (fits : Fits (⟨stack.length, []⟩ :: outer) stack) : Fits outer stack := by
  cases fits with
  | quiet below => exact below
  | busy below inside same => simp at same

end Frame

namespace Threads

open HostView.Frame

variable {σ : Type}

/-! ### The lock of a thread -/

/-- The one lock that a thread holds, if it holds any. -/
def Owns (holder : Lock → Option ThreadId) (t : ThreadId) (held : Option Lock) : Prop :=
  ∀ lock, holder lock = some t ↔ held = some lock

section Owns

variable {holder : Lock → Option ThreadId} {t u : ThreadId} {lock : Lock} {x : Option ThreadId}

theorem Owns.take (owns : Owns holder t none) :
    Owns (Function.update holder lock (some t)) t (some lock) := by
  intro other
  by_cases same : other = lock
  · simp [same]
  · rw [Function.update_of_ne same, owns other]
    simp [Ne.symm same]

theorem Owns.free (owns : Owns holder t (some lock)) :
    Owns (Function.update holder lock none) t none := by
  intro other
  by_cases same : other = lock
  · simp [same]
  · rw [Function.update_of_ne same, owns other]
    simp [Ne.symm same]

/-- What a thread does with a lock that is free or its own is nothing to the other threads. -/
theorem holder_of_ne (ne : u ≠ t) (before : holder lock = none ∨ holder lock = some t)
    (after : x = none ∨ x = some t) (other : Lock) :
    Function.update holder lock x other = some u ↔ holder other = some u := by
  by_cases same : other = lock
  · subst same
    obtain before | before := before <;> obtain rfl | rfl := after <;> simp [before, ne.symm]
  · rw [Function.update_of_ne same]

/-- From here on a thread keeps to the rule. -/
def Keeping (holder : Lock → Option ThreadId) (t : ThreadId) (frames : List Frame) : Prop :=
  ∃ held, Owns holder t held ∧ Event.Keeps held none (script frames)

variable {frames outer : List Frame} {depth : Nat} {e : Event} {rest : List Event}

theorem Keeping.of_iff {holder' : Lock → Option ThreadId} (keeping : Keeping holder t frames)
    (same : ∀ lock, holder' lock = some t ↔ holder lock = some t) : Keeping holder' t frames := by
  obtain ⟨held, owns, keeps⟩ := keeping
  exact ⟨held, fun lock => (same lock).trans (owns lock), keeps⟩

/-- What a thread does next, it may do with the lock that it holds. -/
theorem Keeping.next (keeping : Keeping holder t (⟨depth, e :: rest⟩ :: outer)) :
    ∃ held after, Owns holder t held ∧ Event.hold held e = some after ∧
      Event.Keeps after none (script (⟨depth, rest⟩ :: outer)) := by
  obtain ⟨held, owns, keeps⟩ := keeping
  obtain ⟨after, holds, later⟩ := Event.keeps_cons.1 keeps
  exact ⟨held, after, owns, holds, later⟩

/-- A call of which nothing is to be seen now does not count. -/
theorem Keeping.below (keeping : Keeping holder t (⟨depth, []⟩ :: outer)) :
    Keeping holder t outer := keeping

/-- Whoever can call the view holds no lock. -/
theorem Keeping.free (keeping : Keeping holder t frames) (inside : isOpen frames = true) :
    Owns holder t none ∧ Event.Keeps none none (script frames) := by
  obtain ⟨held, owns, keeps⟩ := keeping
  have nothing : held = none := by
    rcases frames with _ | ⟨⟨depth, _ | ⟨e, events⟩⟩, outer⟩
    · exact Option.some.inj keeps
    · cases inside
    · obtain ⟨after, holds, -⟩ := Event.keeps_cons.1 keeps
      exact (Event.hold_callback holds inside).1
  subst nothing
  exact ⟨owns, keeps⟩

end Owns

/-- Every thread keeps to the rule, its calls fit its activities, and nothing is pending unless
somebody is in a section of the resize lock. -/
structure Sound (s : Threads σ) : Prop where
  keeping : ∀ t, Keeping s.holder t (s.frames t)
  fits : ∀ t, Fits (s.frames t) (s.memory.stack t)
  written : s.holder .resize = none → s.pending = none

theorem Sound.of_thread {s s' : Threads σ} {t : ThreadId} (sound : Sound s)
    (keeping : Keeping s'.holder t (s'.frames t))
    (fits : Fits (s'.frames t) (s'.memory.stack t))
    (frames : ∀ u ≠ t, s'.frames u = s.frames u)
    (holder : ∀ u ≠ t, ∀ lock, s'.holder lock = some u ↔ s.holder lock = some u)
    (stack : ∀ u ≠ t, s'.memory.stack u = s.memory.stack u ∨
      s'.memory.stack u = (s.memory.stack u).map Activity.wake)
    (written : s'.holder .resize = none → s'.pending = none) : Sound s' := by
  refine ⟨fun u => ?_, fun u => ?_, written⟩
  · by_cases own : u = t
    · exact own ▸ keeping
    · rw [frames u own]
      exact (sound.keeping u).of_iff (holder u own)
  · by_cases own : u = t
    · exact own ▸ fits
    · rw [frames u own]
      obtain same | woken := stack u own
      · rw [same]
        exact sound.fits u
      · rw [woken]
        exact (sound.fits u).wake

theorem Sound.setFrames {s : Threads σ} {t : ThreadId} {frames : List Frame} (sound : Sound s)
    (keeping : Keeping s.holder t frames) (fits : Fits frames (s.memory.stack t)) :
    Sound (s.setFrames t frames) :=
  sound.of_thread (t := t) (by simpa using keeping) (by simpa using fits)
    (fun u ne => s.setFrames_of_ne frames ne) (fun u ne lock => Iff.rfl) (fun u ne => .inl rfl)
    sound.written

section After

variable {t : ThreadId} {depth : Nat} {outer : List Frame} {moved : Moved σ} {events : List Event}

theorem fits_framesAfter {under : List Activity} (below : Fits outer under)
    (inside : isOpen outer = true) (same : depth = under.length)
    (left : Handshake.OnTop under t moved) (sub : events ⊆ moved.events) :
    Fits (framesAfter moved depth outer events) (moved.next.stack t) := by
  have calm_frames (calm : ∀ m, moved.reply ≠ some (.panicked m)) :
      framesAfter moved depth outer events = ⟨depth, events⟩ :: outer := by
    unfold framesAfter
    split
    next m reply => exact absurd reply (calm m)
    next => rfl
  cases left with
  | returned stack calm =>
    rw [calm_frames calm, stack]
    exact .quiet below inside same
  | busy stack told calm =>
    rw [calm_frames calm, stack]
    exact .busy below inside same fun ⟨e, mem, callback⟩ => told ⟨e, sub mem, callback⟩
  | unwound stack reply =>
    rw [framesAfter, reply, stack]
    exact .quiet .outside rfl rfl

theorem keeps_framesAfter {held : Option Lock} (keeps : Event.Keeps held none events)
    (outside : Event.Keeps none none (script outer)) :
    Event.Keeps held none (script (framesAfter moved depth outer events)) := by
  unfold framesAfter
  split
  next => exact keeps.append Event.keeps_nil
  next => exact keeps.append outside

end After

variable [SurfaceDevice σ] {s s' : Threads σ} {t : ThreadId} {move : ThreadMove σ} {m : Move}
  {depth : Nat} {outer : List Frame} {moved : Moved σ}

/-- A thread that can make a move of the handshake holds no lock, and the move leaves its calls
and its activities fitting. -/
theorem Ready.spec (ready : Ready s t move m depth outer) (sound : Sound s)
    (taken : s.memory.step t m = some moved) :
    Owns s.holder t none ∧ Event.Keeps none none (script outer) ∧
      ∀ events ⊆ moved.events,
        Fits (framesAfter moved depth outer events) (moved.next.stack t) := by
  have fits := sound.fits t
  have keeping := sound.keeping t
  cases ready with
  | call inside =>
    obtain ⟨owns, keeps⟩ := keeping.free inside
    exact ⟨owns, keeps, fun events => fits_framesAfter fits inside rfl
      (Handshake.onTop_call (Handshake.stepped taken))⟩
  | proceed top deeper =>
    rw [top] at fits keeping
    generalize stack : s.memory.stack t = activities at fits deeper
    cases fits with
    | quiet below inside same => exact absurd same (Nat.ne_of_lt deeper)
    | busy below inside same told =>
      -- the call has been seen to its end so far, and the one outside of it is in a callback
      obtain ⟨owns, keeps⟩ := keeping.below.free inside
      exact ⟨owns, keeps, fun events => fits_framesAfter below inside same
        (Handshake.onTop_proceed stack (below.told inside) (Handshake.stepped taken))⟩

section Act

variable {lock : Lock} {events : List Event}

omit [SurfaceDevice σ] in
theorem Sound.take (sound : Sound s) (top : s.frames t = ⟨depth, .locked lock :: events⟩ :: outer)
    (free : s.holder lock = none) :
    Sound ((s.take t lock).setFrames t (⟨depth, events⟩ :: outer)) := by
  have fits := sound.fits t
  have keeping := sound.keeping t
  rw [top] at fits keeping
  obtain ⟨held, after, owns, holds, rest⟩ := keeping.next
  obtain ⟨rfl, rfl⟩ := Event.hold_locked holds
  refine sound.of_thread (t := t) ⟨some lock, owns.take, ?_⟩ ?_ (fun u ne => setFrames_of_ne _ _ ne)
    (fun u ne other => holder_of_ne ne (.inl free) (.inr rfl) other) (fun u ne => .inl rfl)
    fun free' => sound.written ?_
  · rw [setFrames_same]
    exact rest
  · rw [setFrames_same]
    exact fits.less (List.subset_cons_self ..)
  · by_cases same : Lock.resize = lock
    · exact same ▸ free
    · simpa [Function.update_of_ne same] using free'

omit [SurfaceDevice σ] in
theorem Sound.release (sound : Sound s)
    (top : s.frames t = ⟨depth, .unlocked lock :: events⟩ :: outer)
    (held : s.holder lock = some t) :
    Sound ((s.release lock).setFrames t (⟨depth, events⟩ :: outer)) := by
  have fits := sound.fits t
  have keeping := sound.keeping t
  rw [top] at fits keeping
  obtain ⟨before, after, owns, holds, rest⟩ := keeping.next
  obtain ⟨rfl, rfl⟩ := Event.hold_unlocked holds
  refine sound.of_thread (t := t) ⟨none, ?_, ?_⟩ ?_ (fun u ne => ?_) (fun u ne other => ?_)
    (fun u ne => .inl (by simp)) ?_
  · simpa using owns.free
  · rw [setFrames_same]
    exact rest
  · rw [setFrames_same, setFrames_memory, release_stack]
    exact fits.less (List.subset_cons_self ..)
  · rw [setFrames_of_ne _ _ ne, release_frames]
  · rw [setFrames_holder, release_holder]
    exact holder_of_ne ne (.inr held) (.inl rfl) other
  · cases lock with
    | resize => exact fun _ => rfl
    | pointer => exact sound.written
    | hooks => exact sound.written

end Act

theorem Sound.make (sound : Sound s) (ready : Ready s t move m depth outer)
    (taken : s.memory.step t m = some moved) :
    Sound ({ s with memory := moved.next }.setFrames t
      (framesAfter moved depth outer moved.events)) := by
  obtain ⟨owns, outside, fitting⟩ := ready.spec sound taken
  have keeps := Handshake.keeps_step (Handshake.stepped taken)
  refine sound.of_thread (t := t) ⟨none, owns, ?_⟩ ?_ (fun u ne => setFrames_of_ne _ _ ne)
    (fun u ne lock => Iff.rfl) (fun u ne => Handshake.stack_of_ne (Handshake.stepped taken) ne)
    sound.written
  · rw [setFrames_same]
    exact keeps_framesAfter keeps outside
  · rw [setFrames_same]
    exact fitting _ (List.Subset.refl _)

theorem Sound.begun {events : List Event} (sound : Sound s) (ready : Ready s t move m depth outer)
    (taken : s.memory.step t m = some moved) (locks : moved.events = .locked .resize :: events)
    (free : s.holder .resize = none) :
    Sound (({ s with
        memory := moved.next.withCoordinator s.memory.coordinator,
        pending := some moved.next.coordinator }.take t .resize).setFrames t
      (framesAfter moved depth outer events)) := by
  obtain ⟨owns, outside, fitting⟩ := ready.spec sound taken
  have keeps := Handshake.keeps_step (Handshake.stepped taken)
  rw [locks] at keeps fitting
  obtain ⟨after, holds, rest⟩ := Event.keeps_cons.1 keeps
  obtain ⟨-, rfl⟩ := Event.hold_locked holds
  refine sound.of_thread (t := t) ⟨some .resize, owns.take, ?_⟩ ?_
    (fun u ne => setFrames_of_ne _ _ ne)
    (fun u ne lock => holder_of_ne ne (.inl free) (.inr rfl) lock)
    (fun u ne => Handshake.stack_of_ne (Handshake.stepped taken) ne) (by simp)
  · rw [setFrames_same]
    exact keeps_framesAfter rest outside
  · rw [setFrames_same]
    exact fitting _ (List.subset_cons_self ..)

/-- Every move of every thread keeps to the rule. -/
theorem Sound.step (sound : Sound s) (taken : Stepped s t move s') : Sound s' := by
  have fits := sound.fits t
  have keeping := sound.keeping t
  cases taken with
  | @entered call found inside =>
    obtain ⟨owns, keeps⟩ := keeping.free inside
    exact sound.setFrames ⟨none, owns, (call.keeps_events found).append keeps⟩
      (.quiet fits inside rfl)
  | moved ready taken => exact sound.make ready taken
  | begun ready taken locks free => exact sound.begun ready taken locks free
  | locked top free => exact sound.take top free
  | unlocked top held => exact sound.release top held
  | acted top notTaken notGiven =>
    rw [top] at fits keeping
    obtain ⟨held, after, owns, holds, rest⟩ := keeping.next
    obtain rfl := Event.hold_still holds notTaken notGiven
    exact sound.setFrames ⟨_, owns, rest⟩ (fits.less (List.subset_cons_self ..))
  | wrote => exact ⟨sound.keeping, sound.fits, sound.written⟩
  | left top =>
    rw [top] at fits keeping
    exact sound.setFrames keeping fits.left

theorem Course.sound {start : Threads σ} {steps : List (Step σ)} (course : Course start steps s)
    (sound : Sound start) : Sound s :=
  Path.invariant course sound fun sound taken => sound.step (stepped taken)

/-! ### Sections in one go -/

/-- The move of the handshake that a move of a thread is. -/
def handshakeMove (x : Step σ) : Option (ThreadId × Move) :=
  match x.move with
  | (t, .call call) => some (t, .call call)
  | (t, .proceed) => some (t, .proceed)
  | _ => none

omit [SurfaceDevice σ] in
theorem Ready.handshakeMove (ready : Ready s t move m depth outer) :
    handshakeMove ⟨s, (t, move), s'⟩ = some (t, m) := by
  cases ready <;> rfl

/-- Where the threads settle changes by moves of the handshake alone, each of them in one go. -/
theorem settled_step (sound : Sound s) (taken : Stepped s t move s') :
    (handshakeMove ⟨s, (t, move), s'⟩ = none ∧ s'.settled = s.settled) ∨
      ∃ m moved, handshakeMove ⟨s, (t, move), s'⟩ = some (t, m) ∧
        s.settled.step t m = some moved ∧ moved.next = s'.settled := by
  cases taken with
  | entered | locked | acted | left => exact .inl ⟨rfl, rfl⟩
  | unlocked => exact .inl ⟨rfl, settled_release _ _⟩
  | wrote held writes =>
    obtain ⟨c, pending⟩ := Option.isSome_iff_exists.1 writes
    exact .inl ⟨rfl, by simp [settled, pending, Handshake.withCoordinator]⟩
  | @moved move m depth outer moved ready taken apart =>
    -- another thread may be in a section now, but the move does not look at what it writes
    obtain ⟨again, same⟩ :=
      Handshake.step_apart taken apart (s.pending.getD s.memory.coordinator)
    refine .inr ⟨m, _, ready.handshakeMove, again, ?_⟩
    rw [← same]
    rfl
  | @begun move m depth outer moved events ready taken locks free =>
    refine .inr ⟨m, moved, ready.handshakeMove, ?_, rfl⟩
    rw [settled, sound.written free]
    exact taken

/-- Whatever sections write on their way, the threads get where the same moves of the handshake
lead when each of them is made in one go. -/
theorem Course.settled {start : Threads σ} {steps : List (Step σ)} (course : Course start steps s)
    (sound : Sound start) :
    ∃ moves : List (HandshakeStep σ), Handshake.Course start.settled moves s.settled ∧
      moves.map StepTaken.move = steps.filterMap handshakeMove := by
  induction course with
  | nil => exact ⟨[], .nil, rfl⟩
  | @snoc steps s m s' path taken ih =>
    obtain ⟨moves, settles, same⟩ := ih
    obtain ⟨nothing, stays⟩ | ⟨m', moved, made, goes, next⟩ :=
      settled_step (Course.sound path sound) (stepped taken)
    · exact ⟨moves, stays ▸ settles, by rw [same, List.filterMap_append]; simp [nothing]⟩
    · refine ⟨moves ++ [⟨s.settled, (m.1, m'), moved⟩], ?_, ?_⟩
      · exact next ▸ settles.snoc (m := (m.1, m')) goes
      · rw [List.map_append, same, List.filterMap_append]
        simp [made]

/-! ### What holds of all threads -/

/-- Another thread holds the lock. -/
def HeldByOther (s : Threads σ) (t : ThreadId) (lock : Lock) : Prop :=
  ∃ u, u ≠ t ∧ s.holder lock = some u

/-- Threads that have not begun. -/
structure Fresh (s : Threads σ) : Prop where
  frames : ∀ t, s.frames t = []
  stack : ∀ t, s.memory.stack t = []
  holder : ∀ lock, s.holder lock = none
  pending : s.pending = none

/-- The discipline of the locks, in one state of all threads. -/
structure Disciplined (s : Threads σ) : Prop where
  /-- No lock is held while the engine, the window or a hook is called. -/
  callback : ∀ t e, s.doing t = some e → e.isCallback = true → ∀ lock, s.holder lock ≠ some t
  /-- From a callback, or from outside, a thread can make every call; it may have to wait for the
  resize lock, which another thread has then. -/
  reentry : ∀ t, isOpen (s.frames t) = true →
    (∀ call found, (s.step t (.enter call found)).isSome = true) ∧
      ∀ call, (s.step t (.call call)).isSome = true ∨ s.HeldByOther t .resize
  /-- Nobody waits for a lock that it holds itself. -/
  waits : ∀ t lock, s.doing t = some (.locked lock) →
    (s.step t .act).isSome = true ∨ s.HeldByOther t lock
  /-- A call of which nothing is to be seen now returns, or goes on, with a lock that it may have to
  wait for in the same way, or sleeps. -/
  goesOn : ∀ t depth outer, s.frames t = ⟨depth, []⟩ :: outer →
    (s.step t .leave).isSome = true ∨ (s.step t .proceed).isSome = true ∨
      s.HeldByOther t .resize ∨ s.memory.isAsleep t = true
  /-- Whoever holds a lock does not wait. -/
  holder : ∀ t lock, s.holder lock = some t → (s.step t .act).isSome = true
  /-- The surface is asked under the resize lock. -/
  device : ∀ t e, s.doing t = some (.device e) → s.holder .resize = some t
  /-- No two calls to the surface overlap. -/
  alone : ∀ t u d e, s.doing t = some (.device d) → s.doing u = some (.device e) → t = u

omit [SurfaceDevice σ] in
theorem Fresh.sound (fresh : Fresh s) : Sound s := by
  refine ⟨fun t => ⟨none, fun lock => ?_, ?_⟩, fun t => ?_, fun _ => fresh.pending⟩
  · simp [fresh.holder]
  · rw [fresh.frames]
    exact Event.keeps_nil
  · rw [fresh.frames, fresh.stack]
    exact .outside

omit [SurfaceDevice σ] in
theorem top_of_doing {e : Event} (doing : s.doing t = some e) :
    ∃ depth rest outer, s.frames t = ⟨depth, e :: rest⟩ :: outer := by
  obtain ⟨⟨depth, events⟩, top, first⟩ := Option.bind_eq_some_iff.1 doing
  obtain ⟨outer, frames⟩ := List.head?_eq_some_iff.1 top
  obtain ⟨rest, rfl⟩ := List.head?_eq_some_iff.1 first
  exact ⟨depth, rest, outer, frames⟩

omit [SurfaceDevice σ] in
theorem Sound.holds (sound : Sound s) {e : Event} {rest : List Event}
    (top : s.frames t = ⟨depth, e :: rest⟩ :: outer) :
    ∃ held after, Owns s.holder t held ∧ Event.hold held e = some after := by
  have keeping := sound.keeping t
  rw [top] at keeping
  obtain ⟨held, after, owns, holds, -⟩ := keeping.next
  exact ⟨held, after, owns, holds⟩

omit [SurfaceDevice σ] in
/-- A lock that a thread does not get is held by another one, if it holds none itself. -/
theorem heldByOther {lock : Lock} (owns : Owns s.holder t none) (taken : s.holder lock ≠ none) :
    s.HeldByOther t lock := by
  obtain ⟨u, held⟩ := Option.ne_none_iff_exists'.1 taken
  refine ⟨u, ?_, held⟩
  rintro rfl
  cases (owns lock).1 held

omit [SurfaceDevice σ] in
theorem make_or_wait (moved : Moved σ) (owns : Owns s.holder t none) :
    (s.make t depth outer moved).isSome = true ∨ s.HeldByOther t .resize := by
  unfold make
  split
  · split
    next => exact .inl rfl
    next taken => exact .inr (heldByOther owns taken)
  · exact .inl rfl

omit [SurfaceDevice σ] in
/-- Only to take a lock may a thread have to wait. -/
theorem Sound.act_or_wait (sound : Sound s) {e : Event} {rest : List Event}
    (top : s.frames t = ⟨depth, e :: rest⟩ :: outer) :
    (s.act t).isSome = true ∨ ∃ lock, e = .locked lock ∧ s.HeldByOther t lock := by
  obtain ⟨held, after, owns, holds⟩ := sound.holds top
  cases e with
  | locked lock =>
    obtain ⟨rfl, -⟩ := Event.hold_locked holds
    by_cases free : s.holder lock = none
    · exact .inl (by simp [act, top, free])
    · exact .inr ⟨lock, rfl, heldByOther owns free⟩
  | unlocked lock =>
    obtain ⟨rfl, -⟩ := Event.hold_unlocked holds
    exact .inl (by simp [act, top, (owns lock).2 rfl])
  | _ => exact .inl (by simp [act, top])

omit [SurfaceDevice σ] in
theorem Sound.holder_of_device (sound : Sound s) {d : DeviceEvent}
    (doing : s.doing t = some (.device d)) : s.holder .resize = some t := by
  obtain ⟨depth, rest, outer, top⟩ := top_of_doing doing
  obtain ⟨held, after, owns, holds⟩ := sound.holds top
  obtain rfl := Event.hold_device holds
  exact (owns _).2 rfl

omit [SurfaceDevice σ] in
/-- Whoever holds a lock is inside a call, and something is still to be seen of it. -/
theorem Sound.top_of_holder (sound : Sound s) {lock : Lock} (held : s.holder lock = some t) :
    ∃ depth e rest outer, s.frames t = ⟨depth, e :: rest⟩ :: outer := by
  have locked {frames : List Frame} (keeping : Keeping s.holder t frames) :
      isOpen frames ≠ true := by
    intro inside
    obtain ⟨owns, -⟩ := keeping.free inside
    cases (owns lock).1 held
  have keeping := sound.keeping t
  have fits := sound.fits t
  rcases top : s.frames t with _ | ⟨⟨depth, _ | ⟨e, rest⟩⟩, outer⟩ <;> rw [top] at keeping fits
  · exact absurd rfl (locked keeping)
  · generalize s.memory.stack t = activities at fits
    cases fits with
    | quiet below inside => exact absurd inside (locked keeping.below)
    | busy below inside => exact absurd inside (locked keeping.below)
  · exact ⟨depth, e, rest, outer, rfl⟩

theorem Sound.disciplined (sound : Sound s) : s.Disciplined where
  callback t e doing callback lock held := by
    obtain ⟨depth, rest, outer, top⟩ := top_of_doing doing
    obtain ⟨before, after, owns, holds⟩ := sound.holds top
    obtain ⟨rfl, -⟩ := Event.hold_callback holds callback
    cases (owns lock).1 held
  reentry t inside := by
    obtain ⟨owns, -⟩ := (sound.keeping t).free inside
    have free := Handshake.canCall_of_told ((sound.fits t).told inside)
    refine ⟨fun call found => by rw [Threads.step, if_pos inside]; rfl, fun call => ?_⟩
    rw [Threads.step, if_pos inside, Handshake.step, if_pos free]
    exact make_or_wait _ owns
  waits t lock doing := by
    obtain ⟨depth, rest, outer, top⟩ := top_of_doing doing
    obtain acts | ⟨other, same, held⟩ := sound.act_or_wait top
    · exact .inl acts
    · cases same
      exact .inr held
  goesOn t depth outer top := by
    have fits := sound.fits t
    have keeping := sound.keeping t
    rw [top] at fits keeping
    generalize stack : s.memory.stack t = activities at fits
    cases fits with
    | quiet below inside same => exact .inl (by simp [Threads.step, top, stack, same])
    | @busy _ _ _ under a below inside same told =>
      obtain ⟨owns, -⟩ := keeping.below.free inside
      by_cases asleep : ∃ episode, a = .asleep episode
      · obtain ⟨episode, rfl⟩ := asleep
        exact .inr (.inr (.inr (by rw [Handshake.isAsleep, stack])))
      · obtain ⟨moved, goes⟩ := Option.isSome_iff_exists.1
          (Handshake.proceed_isSome stack fun episode eq => asleep ⟨episode, eq⟩)
        have made : s.step t .proceed = s.make t depth outer moved := by
          have deeper : depth < (s.memory.stack t).length := by simp [stack, same]
          simp [Threads.step, Handshake.step, top, deeper, goes]
        rw [made]
        obtain made | held := make_or_wait moved owns
        · exact .inr (.inl made)
        · exact .inr (.inr (.inl held))
  holder t lock held := by
    obtain ⟨depth, e, rest, outer, top⟩ := sound.top_of_holder held
    obtain acts | ⟨wanted, rfl, -⟩ := sound.act_or_wait top
    · exact acts
    · obtain ⟨before, after, owns, holds⟩ := sound.holds top
      obtain ⟨rfl, -⟩ := Event.hold_locked holds
      cases (owns lock).1 held
  device t e doing := sound.holder_of_device doing
  alone t u d e mine other :=
    Option.some.inj ((sound.holder_of_device mine).symm.trans (sound.holder_of_device other))

/-- Whatever any threads do, and wherever they stand, the locks are disciplined: the engine, the
window and the hooks are called without a lock, and can call the view again; the surface is asked
under the resize lock, by one thread at a time.  Whoever takes that lock to look reads the phase and
the size as they are between whole moves of the handshake, those made so far. -/
theorem locks_respected {start s : Threads σ} {steps : List (Step σ)} (fresh : start.Fresh)
    (course : Course start steps s) :
    s.Disciplined ∧
      (∀ t s', s.doing t = some (.locked .resize) → s.step t .act = some s' →
        (s'.observed t).isSome = true) ∧
      ∀ t seen, s.observed t = some seen →
        ∃ moves : List (HandshakeStep σ), Handshake.Course start.memory moves s.memory ∧
          moves.map StepTaken.move = steps.filterMap handshakeMove ∧
          seen = (s.memory.coordinator.phase, s.memory.coordinator.surface.dimensions) := by
  have sound := Course.sound course fresh.sound
  refine ⟨sound.disciplined, fun t s' doing acts => ?looks, fun t seen reads => ?whole⟩
  case looks =>
    obtain ⟨depth, rest, outer, top⟩ := top_of_doing doing
    simp only [Threads.step, act, top] at acts
    obtain ⟨free, eq⟩ := Option.ite_none_right_eq_some.1 acts
    obtain rfl := Option.some.inj eq
    simp [observed, sound.written free]
  case whole =>
    obtain ⟨⟨-, nothing⟩, eq⟩ := Option.ite_none_right_eq_some.1 reads
    obtain ⟨moves, settles, same⟩ := Course.settled course fresh.sound
    refine ⟨moves, ?_, same, (Option.some.inj eq).symm⟩
    rw [Option.isNone_iff_eq_none] at nothing
    rw [settled, settled, fresh.pending, nothing] at settles
    exact settles

/-- Thread 1 asks for 100 by 100 and is in the engine, which gets the metrics.  Thread 0 draws a
frame of that size: it has the surface, and has written a phase that is not the last one.  Thread 2
wants to look. -/
def drawingMoves : List (ThreadId × ThreadMove Headless) :=
  [(1, .call (.request ⟨100, 100⟩)), (1, .proceed), (1, .act), (1, .proceed), (1, .act),
    (0, .call (.acquire ⟨100, 100⟩)),
    (0, .write { Handshake.resting.coordinator with phase := .frameReady }),
    (2, .enter .phase ⟨Handshake.resting, {}, []⟩)]

/-- The steps of these moves. -/
def drawingSteps : List (Step Headless) :=
  Path.record (fun s (m : ThreadId × ThreadMove Headless) => s.step m.1 m.2) id
    { memory := Handshake.resting } drawingMoves

/-- In the end the engine is called without a lock, and the surface is asked under the lock that
thread 2 waits for. -/
theorem drawing_respects_locks :
    ∃ s : Threads Headless, Course { memory := Handshake.resting } drawingSteps s ∧
      (∃ m, s.doing 1 = some (.engine (.metrics m))) ∧ (∀ lock, s.holder lock ≠ some 1) ∧
      (∃ d, s.doing 0 = some (.device d)) ∧ s.holder .resize = some 0 ∧
      s.doing 2 = some (.locked .resize) ∧ s.HeldByOther 2 .resize := by
  obtain ⟨s, course⟩ : ∃ s, Course { memory := Handshake.resting } drawingSteps s :=
    Path.recorded _ drawingMoves
  have cut : drawingSteps = drawingSteps.take 7 ++ [drawingSteps.get ⟨7, by decide⟩] := rfl
  have last : s = (drawingSteps.get ⟨7, by decide⟩).result := by
    rw [cut] at course
    exact (Path.of_snoc course).2.2
  obtain ⟨disciplined, -⟩ :=
    locks_respected ⟨fun _ => rfl, fun _ => rfl, fun _ => rfl, rfl⟩ course
  have inEngine : s.doing 1 = some (.engine (.metrics ⟨⟨100, 100⟩, 1.0⟩)) := by rw [last]; rfl
  have drawing : ∃ d, s.doing 0 = some (.device d) := ⟨_, by rw [last]; rfl⟩
  have looking : s.doing 2 = some (.locked .resize) := by rw [last]; rfl
  obtain ⟨d, doing⟩ := drawing
  refine ⟨s, course, ⟨_, inEngine⟩, disciplined.callback 1 _ inEngine rfl, ⟨d, doing⟩,
    disciplined.device 0 d doing, looking, ?_⟩
  obtain acts | held := disciplined.waits 2 .resize looking
  · rw [last] at acts
    cases acts
  · exact held

end Threads

end HostView
