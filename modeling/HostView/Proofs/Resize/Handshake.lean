import HostView.Proofs.Resize.Coordinator
import HostView.Resize.Handshake

/-!
# What a move of a thread comes to

`Handshake.Stepped` lists every move that a thread can make in the resize handshake, with the
state it leaves and the reply it gives.
-/

namespace HostView

/-- The episode that an activity waits for, once it has registered. -/
def Activity.episode : Activity → Option Nat
  | telling _ episode | told _ episode => episode
  | asleep episode | woken episode => some episode
  | entering _ | waking _ | announcing _ => none

@[simp] theorem Activity.episode_wake (a : Activity) : a.wake.episode = a.episode := by
  cases a <;> rfl

namespace Handshake

variable {σ : Type}

/-- The same threads around another coordinator. -/
def withCoordinator (h : Handshake σ) (coordinator : Coordinator σ) : Handshake σ :=
  { h with coordinator }

section Projections

variable (h : Handshake σ) (c : Coordinator σ) (t u : ThreadId) (stack : List Activity)

@[simp] theorem withCoordinator_coordinator : (h.withCoordinator c).coordinator = c := rfl

@[simp] theorem withCoordinator_stack : (h.withCoordinator c).stack = h.stack := rfl

@[simp] theorem withCoordinator_scale : (h.withCoordinator c).scale = h.scale := rfl

@[simp] theorem setStack_coordinator : (h.setStack t stack).coordinator = h.coordinator := rfl

@[simp] theorem setStack_scale : (h.setStack t stack).scale = h.scale := rfl

@[simp] theorem setStack_same : (h.setStack t stack).stack t = stack := if_pos rfl

theorem setStack_of_ne {t u : ThreadId} (ne : u ≠ t) :
    (h.setStack t stack).stack u = h.stack u := if_neg ne

@[simp] theorem wakeAll_coordinator : h.wakeAll.coordinator = h.coordinator := rfl

@[simp] theorem wakeAll_scale : h.wakeAll.scale = h.scale := rfl

@[simp] theorem wakeAll_stack : h.wakeAll.stack t = (h.stack t).map Activity.wake := rfl

end Projections

section Critical

variable (h : Handshake σ) (t : ThreadId)

theorem critical_of_returned {α : Type} {w : Work (Coordinator σ) Event α}
    {after : α → Handshake σ → Handshake σ × Option Reply} {a : α} {c : Coordinator σ}
    {es : List Event} (run : w h.coordinator = ⟨.returned a, c, es⟩) :
    h.critical t w after =
      ⟨(after a (h.withCoordinator c)).1, Event.guarded .resize es,
        (after a (h.withCoordinator c)).2.map .returned⟩ := by
  simp only [critical, run, withCoordinator]

theorem critical_of_panicked {α : Type} {w : Work (Coordinator σ) Event α}
    {after : α → Handshake σ → Handshake σ × Option Reply} {m : String} {c : Coordinator σ}
    {es : List Event} (run : w h.coordinator = ⟨.panicked m, c, es⟩) :
    h.critical t w after =
      ⟨(h.withCoordinator c).setStack t [], Event.guarded .resize es, some (.panicked m)⟩ := by
  simp only [critical, run, withCoordinator]

/-- What is seen of a critical section, whether it panics or not. -/
theorem critical_events {α : Type} (w : Work (Coordinator σ) Event α)
    (after : α → Handshake σ → Handshake σ × Option Reply) :
    (h.critical t w after).events = Event.guarded .resize (w h.coordinator).events := by
  rcases run : w h.coordinator with ⟨a | m, c, es⟩
  · rw [critical_of_returned h t run]
  · rw [critical_of_panicked h t run]

end Critical

variable [SurfaceDevice σ]

/-- What a move of thread `t` comes to. -/
inductive Stepped (h : Handshake σ) (t : ThreadId) : Move → Moved σ → Prop
  | requested {size : Size} (free : h.canCall t = true) :
      Stepped h t (.call (.request size)) ⟨h.setStack t (.entering size :: h.stack t), [], none⟩
  | tells {size : Size} (free : h.canCall t = true) :
      Stepped h t (.call (.tell size)) ⟨h.setStack t (.telling size none :: h.stack t), [], none⟩
  | acquired {size : Size} {c : Coordinator σ} {es : List Event}
      (free : h.canCall t = true)
      (run : Coordinator.acquire size h.coordinator = ⟨.returned (), c, es⟩) :
      Stepped h t (.call (.acquire size))
        ⟨h.withCoordinator c, Event.guarded .resize es, some (.returned .done)⟩
  | acquirePanicked {size : Size} {c : Coordinator σ} {es : List Event} {m : String}
      (free : h.canCall t = true)
      (run : Coordinator.acquire size h.coordinator = ⟨.panicked m, c, es⟩) :
      Stepped h t (.call (.acquire size))
        ⟨(h.withCoordinator c).setStack t [], Event.guarded .resize es, some (.panicked m)⟩
  | swapped {succeeded : Bool} {c : Coordinator σ} {es : List Event}
      (free : h.canCall t = true)
      (run : Coordinator.swap h.coordinator = ⟨.returned ⟨succeeded, false⟩, c, es⟩) :
      Stepped h t (.call .swap)
        ⟨h.withCoordinator c, Event.guarded .resize es, some (.returned (.flag succeeded))⟩
  | presented {succeeded : Bool} {c : Coordinator σ} {es : List Event}
      (free : h.canCall t = true)
      (run : Coordinator.swap h.coordinator = ⟨.returned ⟨succeeded, true⟩, c, es⟩) :
      Stepped h t (.call .swap)
        ⟨(h.withCoordinator c).setStack t (.waking succeeded :: h.stack t),
          Event.guarded .resize es, none⟩
  | swapPanicked {c : Coordinator σ} {es : List Event} {m : String}
      (free : h.canCall t = true)
      (run : Coordinator.swap h.coordinator = ⟨.panicked m, c, es⟩) :
      Stepped h t (.call .swap)
        ⟨(h.withCoordinator c).setStack t [], Event.guarded .resize es, some (.panicked m)⟩
  | surfaced {task : SurfaceTask} {reply : Reply} {l : Lifecycle σ} {es : List Event}
      (free : h.canCall t = true)
      (run : surfaceWork task h.coordinator.surface = ⟨.returned reply, l, es⟩) :
      Stepped h t (.call (.surface task))
        ⟨h.withCoordinator { h.coordinator with surface := l }, Event.guarded .resize es,
          some (.returned reply)⟩
  | surfacePanicked {task : SurfaceTask} {l : Lifecycle σ} {es : List Event} {m : String}
      (free : h.canCall t = true)
      (run : surfaceWork task h.coordinator.surface = ⟨.panicked m, l, es⟩) :
      Stepped h t (.call (.surface task))
        ⟨(h.withCoordinator { h.coordinator with surface := l }).setStack t [],
          Event.guarded .resize es, some (.panicked m)⟩
  | registered {size : Size} {rest : List Activity} {episode : Option Nat} {c : Coordinator σ}
      {es : List Event} (top : h.stack t = .entering size :: rest)
      (run : h.coordinator.register size = (episode, c, es)) :
      Stepped h t .proceed
        ⟨(h.withCoordinator c).setStack t (.telling size episode :: rest),
          Event.guarded .resize es, none⟩
  | told {size : Size} {rest : List Activity} {episode : Option Nat}
      (top : h.stack t = .telling size episode :: rest) :
      Stepped h t .proceed
        ⟨h.setStack t (.told size episode :: rest),
          [.window .scale, .engine (.metrics ⟨size, h.scale⟩)], none⟩
  | done {size : Size} {rest : List Activity} (top : h.stack t = .told size none :: rest) :
      Stepped h t .proceed ⟨h.setStack t rest, [], some (.returned .done)⟩
  | released {a : Activity} {rest : List Activity} {episode : Nat} {records : List Log.Record}
      (top : h.stack t = a :: rest)
      (waiting : (∃ size, a = .told size (some episode)) ∨ a = .woken episode)
      (past : episode ≤ h.coordinator.presented) :
      Stepped h t .proceed
        ⟨h.setStack t rest, Event.guarded .resize (records.map .log), some (.returned .done)⟩
  | slept {a : Activity} {rest : List Activity} {episode : Nat} {records : List Log.Record}
      (top : h.stack t = a :: rest)
      (waiting : (∃ size, a = .told size (some episode)) ∨ a = .woken episode)
      (outstanding : h.coordinator.presented < episode) :
      Stepped h t .proceed
        ⟨h.setStack t (.asleep episode :: rest), Event.guarded .resize (records.map .log), none⟩
  | woke {succeeded : Bool} {rest : List Activity} (top : h.stack t = .waking succeeded :: rest) :
      Stepped h t .proceed
        ⟨(h.setStack t (.announcing succeeded :: rest)).wakeAll, [.notified], none⟩
  | announced {succeeded : Bool} {rest : List Activity} {r : List Log.Record}
      (top : h.stack t = .announcing succeeded :: rest) :
      Stepped h t .proceed
        ⟨h.setStack t rest, .window .resized :: r.map .log,
          some (.returned (.flag succeeded))⟩

theorem step_entering {h : Handshake σ} {t : ThreadId} {size : Size} {rest : List Activity}
    (top : h.stack t = .entering size :: rest) :
    h.step t .proceed =
      some ⟨(h.withCoordinator (h.coordinator.register size).2.1).setStack t
        (.telling size (h.coordinator.register size).1 :: rest),
        Event.guarded .resize (h.coordinator.register size).2.2, none⟩ := by
  simp only [step, proceed, top, withCoordinator]

omit [SurfaceDevice σ] in
/-- Whoever does not sleep can go on. -/
theorem proceed_isSome {h : Handshake σ} {t : ThreadId} {a : Activity} {rest : List Activity}
    (top : h.stack t = a :: rest) (awake : ∀ episode, a ≠ .asleep episode) :
    (h.proceed t).isSome = true := by
  cases a with
  | asleep episode => exact absurd rfl (awake episode)
  | told size episode => cases episode <;> simp [proceed, top]
  | _ => simp [proceed, top]

theorem stepped_call {h : Handshake σ} {t : ThreadId} (free : h.canCall t = true)
    (call : HandshakeCall) : Stepped h t (.call call) (h.call t call) := by
  cases call with
  | request size => exact .requested free
  | tell size => exact .tells free
  | acquire size =>
    rcases run : Coordinator.acquire size h.coordinator with ⟨⟨⟩ | m, c, es⟩
    · rw [call, critical_of_returned h t run]
      exact .acquired free run
    · rw [call, critical_of_panicked h t run]
      exact .acquirePanicked free run
  | swap =>
    rcases run : Coordinator.swap h.coordinator with ⟨⟨succeeded, _ | _⟩ | m, c, es⟩
    · rw [call, critical_of_returned h t run]
      exact .swapped free run
    · rw [call, critical_of_returned h t run]
      exact .presented free run
    · rw [call, critical_of_panicked h t run]
      exact .swapPanicked free run
  | surface task =>
    rcases run : surfaceWork task h.coordinator.surface with ⟨reply | m, l, es⟩
    · rw [call, critical_of_returned h t (Coordinator.onSurface_of_run run)]
      exact .surfaced free run
    · rw [call, critical_of_panicked h t (Coordinator.onSurface_of_run run)]
      exact .surfacePanicked free run

theorem stepped_await {h : Handshake σ} {t : ThreadId} {a : Activity} {rest : List Activity}
    {episode : Nat} (top : h.stack t = a :: rest)
    (waiting : (∃ size, a = .told size (some episode)) ∨ a = .woken episode)
    (records : List Log.Record) :
    Stepped h t .proceed (h.await t rest episode (records.map .log)) := by
  unfold await
  by_cases past : h.coordinator.hasPresented episode = true
  · rw [if_pos past, presentedNote, Coordinator.note, ← List.map_singleton, ← List.map_append]
    exact .released top waiting (Coordinator.hasPresented_iff.1 past)
  · rw [if_neg past]
    exact .slept top waiting (by simpa using past)

/-- Every move that can be made is listed. -/
theorem stepped {h : Handshake σ} {t : ThreadId} {m : Move} {moved : Moved σ}
    (taken : h.step t m = some moved) : Stepped h t m moved := by
  cases m with
  | call call =>
    by_cases free : h.canCall t = true
    · rw [step, if_pos free] at taken
      obtain rfl := Option.some.inj taken
      exact stepped_call free call
    · rw [step, if_neg free] at taken
      cases taken
  | proceed =>
    change h.proceed t = some moved at taken
    unfold proceed at taken
    split at taken
    next => cases taken
    next size rest top =>
      obtain rfl := Option.some.inj taken
      exact .registered top rfl
    next size episode rest top =>
      obtain rfl := Option.some.inj taken
      exact .told top
    next size rest top =>
      obtain rfl := Option.some.inj taken
      exact .done top
    next size episode rest top =>
      obtain rfl := Option.some.inj taken
      exact stepped_await top (.inl ⟨size, rfl⟩) [_]
    next => cases taken
    next episode rest top =>
      obtain rfl := Option.some.inj taken
      exact stepped_await top (.inr rfl) []
    next succeeded rest top =>
      obtain rfl := Option.some.inj taken
      exact .woke top
    next succeeded rest top =>
      obtain rfl := Option.some.inj taken
      cases succeeded with
      | false => exact .announced (r := [_]) top
      | true => exact .announced (r := []) top

end Handshake

end HostView
