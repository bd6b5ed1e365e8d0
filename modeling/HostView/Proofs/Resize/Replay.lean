import HostView.Proofs.Resize.Handshake
import HostView.Proofs.Surface.Replay

/-!
# Moves that are made again from a tape

A move looks at the coordinator, at the scale of the window, and at the innermost activity of its
thread.  Made again on a tape of the answers that the device gave, by a thread in the same innermost
activity, it comes to the same, whatever else the threads are in the middle of
(`Handshake.replayed`): it changes the stacks by the same `Edit`, tells the same and gives
the same reply.
-/

namespace HostView

variable {σ τ : Type}

/-! ### Critical sections -/

namespace Coordinator

open Work

/-- The same coordinator around the surface with another device, of any type. -/
def mount (c : Coordinator σ) (device : τ) : Coordinator τ :=
  { c with surface := c.surface.mount device }

section Mounted

variable (c : Coordinator σ) (device : τ)

@[simp] theorem mount_phase : (c.mount device).phase = c.phase := rfl

/-- A registration does not ask the device. -/
theorem register_mount (size : Size) :
    (c.mount device).register size =
      ((c.register size).1, (c.register size).2.1.mount device, (c.register size).2.2) := by
  unfold register
  split
  · rfl
  · rw [mount_phase]
    split
    · change (if c.surface.dimensions = size then _ else _) = _
      split <;> rfl
    · rfl

end Mounted

theorem replays_onSurface {α : Type} {w : Work (Lifecycle σ) Event α}
    {w' : Work (Lifecycle Tape) Event α} (replays : Replays Lifecycle.mount w w') :
    Replays mount (onSurface w) (onSurface w') := by
  intro c rest
  rcases run : w c.surface with ⟨outcome, l, es⟩
  obtain ⟨es', run', same⟩ := replays.of_run run rest
  rw [onSurface_of_run run, onSurface_of_run (c := c.mount (Event.deviceEvents es ++ rest)) run']
  exact ⟨es', rfl, same⟩

variable [SurfaceDevice σ]

theorem replays_acquire (size : Size) :
    Replays mount (acquire size : Work (Coordinator σ) Event Unit) (acquire size) := by
  refine .state fun c tape => ?_
  rw [mount_phase]
  cases c.phase with
  | idle => exact .pure _
  | frameReady => exact .pure _
  | requested target =>
    refine .ite ?_ (.log _)
    refine (replays_onSurface (Lifecycle.replays_resize size)).bind fun result => ?_
    cases result with
    | error e => exact .log _
    | ok _ =>
      refine (replays_onSurface (Lifecycle.replays_ask .makeCurrent)).bind fun _ => ?_
      exact .bind (.change fun _ _ => rfl) fun _ => .log _

theorem replays_swap :
    Replays mount (swap : Work (Coordinator σ) Event Swapped) swap := by
  have asks := replays_onSurface (Lifecycle.replays_ask (σ := σ) .swap)
  refine .state fun c tape => ?_
  rw [mount_phase]
  cases c.phase with
  | requested target => exact .pure _
  | idle => exact asks.bind fun _ => .pure _
  | frameReady => exact asks.bind fun _ => .bind (.change fun _ _ => rfl) fun _ => .pure _

end Coordinator

/-! ### Moves -/

/-- What a move does to the stack of its thread. -/
inductive Edit
  | keep
  /-- The thread is in the middle of something more. -/
  | push (a : Activity)
  /-- The innermost activity goes on. -/
  | replace (a : Activity)
  /-- The innermost activity goes on, and everybody is woken. -/
  | wake (a : Activity)
  | pop
  | unwind

/-- The edited stack of the thread that moves. -/
def Edit.own : Edit → List Activity → List Activity
  | keep, stack => stack
  | push a, stack => a :: stack
  | replace a, stack | wake a, stack => a :: stack.tail
  | pop, stack => stack.tail
  | unwind, _ => []

/-- What becomes of the stacks of all threads. -/
def Edit.all : Edit → List Activity → List Activity
  | wake _ => List.map Activity.wake
  | _ => id

/-- Whether a move can do this. -/
inductive Edit.Of : Move → Edit → Prop
  | kept (call : HandshakeCall) : Of (.call call) .keep
  | pushed (call : HandshakeCall) (a : Activity) : Of (.call call) (.push a)
  | unwound (call : HandshakeCall) : Of (.call call) .unwind
  | replaced (a : Activity) : Of .proceed (.replace a)
  | woke (a : Activity) : Of .proceed (.wake a)
  | popped : Of .proceed .pop

namespace Handshake

/-- The same threads around the coordinator with another device. -/
def mount (h : Handshake σ) (device : τ) : Handshake τ :=
  { coordinator := h.coordinator.mount device, scale := h.scale, stack := h.stack }

/-- A move of thread `t` leaves the coordinator `c` and edits the stacks. -/
def edit (h : Handshake σ) (t : ThreadId) (c : Coordinator σ) (e : Edit) : Handshake σ where
  coordinator := c
  scale := h.scale
  stack := fun u => e.all (if u = t then e.own (h.stack t) else h.stack u)

section Edited

variable (h : Handshake σ) (t : ThreadId) (c : Coordinator σ) (e : Edit)

@[simp] theorem edit_coordinator : (h.edit t c e).coordinator = c := rfl

@[simp] theorem edit_scale : (h.edit t c e).scale = h.scale := rfl

theorem edit_stack_same : (h.edit t c e).stack t = e.all (e.own (h.stack t)) :=
  congrArg e.all (if_pos rfl)

theorem edit_stack_of_ne {u : ThreadId} (ne : u ≠ t) :
    (h.edit t c e).stack u = e.all (h.stack u) :=
  congrArg e.all (if_neg ne)

theorem edit_keep : h.edit t c .keep = h.withCoordinator c := by
  refine congrArg (Handshake.mk c h.scale) (funext fun u => ?_)
  by_cases own : u = t
  · rw [own]
    exact if_pos rfl
  · exact if_neg own

theorem edit_push (a : Activity) :
    h.edit t c (.push a) = (h.withCoordinator c).setStack t (a :: h.stack t) := rfl

theorem edit_unwind : h.edit t c .unwind = (h.withCoordinator c).setStack t [] := rfl

variable {h t c} {a b : Activity} {under : List Activity}

theorem edit_replace (top : h.stack t = a :: under) :
    h.edit t c (.replace b) = (h.withCoordinator c).setStack t (b :: under) := by
  rw [edit, top]
  rfl

theorem edit_wake (top : h.stack t = a :: under) :
    h.edit t c (.wake b) = ((h.withCoordinator c).setStack t (b :: under)).wakeAll := by
  rw [edit, top]
  rfl

theorem edit_pop (top : h.stack t = a :: under) :
    h.edit t c .pop = (h.withCoordinator c).setStack t under := by
  rw [edit, top]
  rfl

end Edited

open Work

variable [SurfaceDevice σ]

theorem replays_surfaceWork (task : SurfaceTask) :
    Replays Lifecycle.mount (surfaceWork task : Work (Lifecycle σ) Event Reply)
      (surfaceWork task) := by
  cases task with
  | create size => exact (Lifecycle.replays_create size).bind fun _ => .pure _
  | destroy => exact Lifecycle.replays_destroy.bind fun _ => .pure _
  | makeCurrent | makeResourceCurrent | clearContext =>
    exact (Lifecycle.replays_ask _).bind fun _ => .pure _

/-- A thread of `k`, which runs from a tape, can make the move that a thread of `h` makes. -/
structure Ready (h : Handshake σ) (t : ThreadId) (m : Move) (moved : Moved σ)
    (k : Handshake Tape) (rest : Tape) : Prop where
  coordinator : k.coordinator = h.coordinator.mount (Event.deviceEvents moved.events ++ rest)
  scale : k.scale = h.scale
  free : ∀ call, m = .call call → k.canCall t = true
  top : m = .proceed → (k.stack t).head? = (h.stack t).head?

/-- What the move of `k` comes to. -/
def Redone (t : ThreadId) (m : Move) (moved : Moved σ) (edit : Edit) (k : Handshake Tape)
    (rest : Tape) : Prop :=
  ∃ es, k.step t m = some ⟨k.edit t (moved.next.coordinator.mount rest) edit, es, moved.reply⟩ ∧
    Event.unlogged es = Event.unlogged moved.events

/-- A move edits the stacks, and edits them in the same way when it is made again. -/
structure Replayed (h : Handshake σ) (t : ThreadId) (m : Move) (moved : Moved σ) (edit : Edit) :
    Prop where
  of : Edit.Of m edit
  next : moved.next = h.edit t moved.next.coordinator edit
  again : ∀ k rest, Ready h t m moved k rest → Redone t m moved edit k rest

variable {h : Handshake σ} {t : ThreadId} {m : Move} {moved : Moved σ}

omit [SurfaceDevice σ] in
theorem withCoordinator_self {c : Coordinator σ} (same : h.coordinator = c) :
    h.withCoordinator c = h := by
  rw [← same]
  rfl

/-- What is left to do after a critical section, when that is to edit the stacks and to reply. -/
def closing {α : Type} (t : ThreadId) (edit : α → Edit) (reply : α → Option Reply) (a : α)
    (h : Handshake σ) : Handshake σ × Option Reply :=
  (h.edit t h.coordinator (edit a), reply a)

omit [SurfaceDevice σ] in
theorem closing_of_keep {α : Type} {edit : α → Edit} {reply : α → Option Reply} {a : α}
    (keeps : edit a = .keep) : closing t edit reply a h = (h, reply a) := by
  rw [closing, keeps, edit_keep]
  rfl

/-- A call is made again if that edits the stacks in the same way. -/
theorem replayed_of_made {call : HandshakeCall} {e : Edit} {c : Coordinator σ} {es : List Event}
    {reply : Option (Outcome Reply)} (of : Edit.Of (.call call) e)
    (made : h.call t call = ⟨h.edit t c e, es, reply⟩)
    (again : ∀ (k : Handshake Tape) (rest : Tape),
      k.coordinator = h.coordinator.mount (Event.deviceEvents es ++ rest) →
      ∃ es', k.call t call = ⟨k.edit t (c.mount rest) e, es', reply⟩ ∧
        Event.unlogged es' = Event.unlogged es) :
    Replayed h t (.call call) (h.call t call) e := by
  rw [made]
  refine ⟨of, rfl, fun k rest ready => ?_⟩
  obtain ⟨es', made', same⟩ := again k rest ready.coordinator
  exact ⟨es', by rw [step, if_pos (ready.free call rfl), made', edit_coordinator], same⟩

/-- A critical section is made again if its work is replayed and it ends in an edit. -/
theorem replayed_critical {α : Type} {call : HandshakeCall} {w : Work (Coordinator σ) Event α}
    {w' : Work (Coordinator Tape) Event α} {edit : α → Edit} {reply : α → Option Reply}
    (replays : Replays Coordinator.mount w w') (of : ∀ a, Edit.Of (.call call) (edit a))
    (made : h.call t call = h.critical t w (closing t edit reply))
    (made' : ∀ k : Handshake Tape, k.call t call = k.critical t w' (closing t edit reply)) :
    ∃ e, Replayed h t (.call call) (h.call t call) e := by
  rcases run : w h.coordinator with ⟨a | message, c, es⟩
  · refine ⟨edit a, replayed_of_made (c := c) (of a) (made.trans (critical_of_returned h t run))
      fun k rest coordinator => ?_⟩
    obtain ⟨es', run', same⟩ := replays.of_run run rest
    rw [Event.deviceEvents_guarded] at coordinator
    rw [← coordinator] at run'
    exact ⟨_, (made' k).trans (critical_of_returned k t run'), by simp [same]⟩
  · refine ⟨.unwind, replayed_of_made (c := c) (.unwound _)
      (made.trans (critical_of_panicked h t run)) fun k rest coordinator => ?_⟩
    obtain ⟨es', run', same⟩ := replays.of_run run rest
    rw [Event.deviceEvents_guarded] at coordinator
    rw [← coordinator] at run'
    exact ⟨_, (made' k).trans (critical_of_panicked k t run'), by simp [same]⟩

/-- A call that only puts an activity on the stack. -/
theorem replayed_push {call : HandshakeCall} {a : Activity}
    (made : h.call t call = ⟨h.setStack t (a :: h.stack t), [], none⟩)
    (made' : ∀ k : Handshake Tape, k.call t call = ⟨k.setStack t (a :: k.stack t), [], none⟩) :
    Replayed h t (.call call) (h.call t call) (.push a) := by
  refine replayed_of_made (.pushed _ _) made fun k rest coordinator => ⟨[], ?_, rfl⟩
  have same : k.coordinator = h.coordinator.mount rest := coordinator
  rw [made', edit_push, withCoordinator_self same]

theorem call_acquire (h : Handshake σ) (t : ThreadId) (size : Size) :
    h.call t (.acquire size) = h.critical t (Coordinator.acquire size)
      (closing t (fun _ => .keep) fun _ => some .done) := by
  rw [call]
  congr
  funext _ h
  rw [closing_of_keep rfl]

theorem call_swap (h : Handshake σ) (t : ThreadId) :
    h.call t .swap = h.critical t Coordinator.swap
      (closing t
        (fun swapped => if swapped.finished then .push (.waking swapped.succeeded) else .keep)
        fun swapped => if swapped.finished then none else some (.flag swapped.succeeded)) := by
  rw [call]
  congr
  funext swapped h
  obtain ⟨succeeded, finished⟩ := swapped
  cases finished with
  | false =>
    rw [closing_of_keep rfl]
    rfl
  | true => rfl

theorem call_surface (h : Handshake σ) (t : ThreadId) (task : SurfaceTask) :
    h.call t (.surface task) = h.critical t (Coordinator.onSurface (surfaceWork task))
      (closing t (fun _ => .keep) some) := by
  rw [call]
  congr
  funext _ h
  rw [closing_of_keep rfl]

theorem replayed_call (h : Handshake σ) (t : ThreadId) (call : HandshakeCall) :
    ∃ edit, Replayed h t (.call call) (h.call t call) edit := by
  cases call with
  | request size => exact ⟨_, replayed_push rfl fun _ => rfl⟩
  | tell size => exact ⟨_, replayed_push rfl fun _ => rfl⟩
  | acquire size =>
    exact replayed_critical (Coordinator.replays_acquire size) (fun _ => .kept _)
      (h.call_acquire t size) fun k => k.call_acquire t size
  | swap =>
    refine replayed_critical Coordinator.replays_swap ?_ (h.call_swap t) fun k => k.call_swap t
    rintro ⟨succeeded, _ | _⟩
    · exact .kept _
    · exact .pushed _ _
  | surface task =>
    exact replayed_critical (Coordinator.replays_onSurface (replays_surfaceWork task))
      (fun _ => .kept _) (h.call_surface t task) fun k => k.call_surface t task

omit [SurfaceDevice σ] in
/-- The thread is in the same innermost activity. -/
theorem Ready.top_eq {k : Handshake Tape} {rest : Tape} {a : Activity} {under : List Activity}
    (ready : Ready h t .proceed moved k rest) (top : h.stack t = a :: under) :
    ∃ under', k.stack t = a :: under' := by
  have same := ready.top rfl
  rw [top, List.head?_cons] at same
  exact List.head?_eq_some_iff.1 same

omit [SurfaceDevice σ] in
/-- A move that asks no device, made again by a thread in the same innermost activity. -/
theorem replayed_top {a : Activity} {under : List Activity} {edit : Edit}
    (top : h.stack t = a :: under) (of : Edit.Of .proceed edit)
    (next : moved.next = h.edit t moved.next.coordinator edit)
    (quiet : Event.deviceEvents moved.events = [])
    (again : ∀ (k : Handshake Tape) (under' : List Activity) (rest : Tape),
      k.stack t = a :: under' → k.coordinator = h.coordinator.mount rest → k.scale = h.scale →
      Redone t .proceed moved edit k rest) : Replayed h t .proceed moved edit := by
  refine ⟨of, next, fun k rest ready => ?_⟩
  obtain ⟨under', top'⟩ := ready.top_eq top
  have coordinator := ready.coordinator
  rw [quiet, List.nil_append] at coordinator
  exact again k under' rest top' coordinator ready.scale

section Waiting

variable {a : Activity} {under : List Activity} {episode : Nat}

omit [SurfaceDevice σ] in
theorem proceed_of_waiting (top : h.stack t = a :: under)
    (waiting : (∃ size, a = .told size (some episode)) ∨ a = .woken episode) :
    ∃ records : List Log.Record,
      h.proceed t = some (h.await t under episode (records.map .log)) := by
  obtain ⟨size, rfl⟩ | rfl := waiting
  · exact ⟨[_], by simp only [proceed, top]; rfl⟩
  · exact ⟨[], by simp only [proceed, top]; rfl⟩

omit [SurfaceDevice σ] in
theorem proceed_of_past (top : h.stack t = a :: under)
    (waiting : (∃ size, a = .told size (some episode)) ∨ a = .woken episode)
    (past : episode ≤ h.coordinator.presented) :
    ∃ records : List Log.Record, h.proceed t =
      some ⟨h.setStack t under, Event.guarded .resize (records.map .log),
        some (.returned .done)⟩ := by
  obtain ⟨records, proceeds⟩ := proceed_of_waiting top waiting
  rw [await, if_pos (Coordinator.hasPresented_iff.2 past)] at proceeds
  exact ⟨records ++ [_], by rw [proceeds, List.map_append]; rfl⟩

omit [SurfaceDevice σ] in
theorem proceed_of_outstanding (top : h.stack t = a :: under)
    (waiting : (∃ size, a = .told size (some episode)) ∨ a = .woken episode)
    (outstanding : h.coordinator.presented < episode) :
    ∃ records : List Log.Record, h.proceed t =
      some ⟨h.setStack t (.asleep episode :: under), Event.guarded .resize (records.map .log),
        none⟩ := by
  obtain ⟨records, proceeds⟩ := proceed_of_waiting top waiting
  rw [await, if_neg (by simpa using outstanding)] at proceeds
  exact ⟨records, proceeds⟩

end Waiting

omit [SurfaceDevice σ] in
theorem proceed_of_announcing {succeeded : Bool} {under : List Activity}
    (top : h.stack t = .announcing succeeded :: under) :
    ∃ records : List Log.Record, h.proceed t =
      some ⟨h.setStack t under, .window .resized :: records.map .log,
        some (.returned (.flag succeeded))⟩ := by
  cases succeeded with
  | true => exact ⟨[], by simp only [proceed, top]; rfl⟩
  | false => exact ⟨[_], by simp only [proceed, top]; rfl⟩

theorem replayed_proceed (taken : Stepped h t .proceed moved) :
    ∃ edit, Replayed h t .proceed moved edit := by
  cases taken with
  | @registered size under episode c es top run =>
    obtain ⟨records, rfl⟩ := Coordinator.register_logs run
    refine ⟨_, replayed_top top (.replaced (.telling size episode)) (edit_replace top).symm (by simp)
      fun k under' rest top' coordinator _ => ⟨_, ?_, rfl⟩⟩
    rw [step_entering top', coordinator, Coordinator.register_mount, run, edit_replace top',
      setStack_coordinator, withCoordinator_coordinator]
  | @told size under episode top =>
    refine ⟨_, replayed_top top (.replaced (.told size episode)) (edit_replace top).symm rfl
      fun k under' rest top' coordinator scale => ⟨_, ?_, rfl⟩⟩
    rw [step, proceed, top', setStack_coordinator, edit_replace top',
      withCoordinator_self coordinator, scale]
  | @done size under top =>
    refine ⟨_, replayed_top top .popped (edit_pop top).symm rfl
      fun k under' rest top' coordinator _ => ⟨_, ?_, rfl⟩⟩
    rw [step, proceed, top', setStack_coordinator, edit_pop top', withCoordinator_self coordinator]
    rfl
  | @released a under episode records top waiting past =>
    refine ⟨_, replayed_top top .popped (edit_pop top).symm (by simp)
      fun k under' rest top' coordinator _ => ?_⟩
    obtain ⟨records', proceeds⟩ := proceed_of_past top' waiting (by rwa [coordinator])
    refine ⟨Event.guarded .resize (records'.map .log), ?_, by simp⟩
    rw [step, proceeds, setStack_coordinator, edit_pop top', withCoordinator_self coordinator]
  | @slept a under episode records top waiting outstanding =>
    refine ⟨_, replayed_top top (.replaced (.asleep episode)) (edit_replace top).symm (by simp)
      fun k under' rest top' coordinator _ => ?_⟩
    obtain ⟨records', proceeds⟩ := proceed_of_outstanding top' waiting (by rwa [coordinator])
    refine ⟨Event.guarded .resize (records'.map .log), ?_, by simp⟩
    rw [step, proceeds, setStack_coordinator, edit_replace top', withCoordinator_self coordinator]
  | @woke succeeded under top =>
    refine ⟨_, replayed_top top (.woke (.announcing succeeded)) (edit_wake top).symm rfl
      fun k under' rest top' coordinator _ => ⟨_, ?_, rfl⟩⟩
    rw [step, proceed, top', wakeAll_coordinator, setStack_coordinator, edit_wake top',
      withCoordinator_self coordinator]
  | @announced succeeded under r top =>
    refine ⟨_, replayed_top top .popped (edit_pop top).symm (by simp [Event.deviceEvents])
      fun k under' rest top' coordinator _ => ?_⟩
    obtain ⟨records', proceeds⟩ := proceed_of_announcing top'
    refine ⟨.window .resized :: records'.map .log, ?_, by simp⟩
    rw [step, proceeds, setStack_coordinator, edit_pop top', withCoordinator_self coordinator]

/-- Every move that a thread can make is made again in the same way from a tape. -/
theorem replayed (taken : h.step t m = some moved) : ∃ edit, Replayed h t m moved edit := by
  cases m with
  | call call =>
    obtain ⟨free, eq⟩ := Option.ite_none_right_eq_some.1 taken
    rw [← Option.some.inj eq]
    exact replayed_call h t call
  | proceed => exact replayed_proceed (stepped taken)

end Handshake

end HostView
