import HostView.Proofs.Observer
import HostView.Proofs.Resize.Handshake

/-!
# What is seen of a critical section

While the resize lock is held, the device of the surface is asked and something is logged, and
nothing else happens (`Event.isInner`): neither the engine nor the window is called, and no lock is
taken.  A task on the surface asks the device only what the task is about (`SurfaceTask.asks`).
-/

namespace HostView

/-- Whether a task asks the device this. -/
def SurfaceTask.asks : SurfaceTask → DeviceCall → Bool
  | create size, .create _ wanted => wanted == size
  | create _, .dimensions => true
  | destroy, .destroy => true
  | makeCurrent, .makeCurrent => true
  | makeResourceCurrent, .makeResourceCurrent => true
  | clearContext, .clearContext => true
  | _, _ => false

variable {σ : Type} [SurfaceDevice σ]

namespace Lifecycle

theorem emits_ask_inner (call : DeviceCall) :
    (ask call : Work (Lifecycle σ) Event call.Answer).Emits fun e => e.isInner = true :=
  emits_ask (fun _ => rfl) fun _ => rfl

theorem emits_resize (size : Size) :
    (resize size : Work (Lifecycle σ) Event _).Emits fun e => e.isInner = true := by
  refine .bind .state fun l => ?_
  split
  · refine (emits_ask_inner _).bind fun result => ?_
    cases result with
    | error e => exact .pure _
    | ok _ => exact (Work.Emits.change _).bind fun _ => .pure _
  · exact .pure _

end Lifecycle

namespace Coordinator

omit [SurfaceDevice σ] in
theorem emits_onSurface {α : Type} {P : Event → Prop} {w : Work (Lifecycle σ) Event α}
    (emits : w.Emits P) : (onSurface w).Emits P :=
  emits.within

theorem emits_acquire (size : Size) :
    (acquire size : Work (Coordinator σ) Event Unit).Emits fun e => e.isInner = true := by
  refine .bind .state fun c => ?_
  split
  · exact .pure _
  · exact .pure _
  · split
    · refine (emits_onSurface (Lifecycle.emits_resize size)).bind fun result => ?_
      cases result with
      | error e => exact .emit rfl
      | ok _ =>
        refine (emits_onSurface (Lifecycle.emits_ask_inner .makeCurrent)).bind fun _ => ?_
        exact (Work.Emits.change _).bind fun _ => .emit rfl
    · exact .emit rfl

theorem emits_swap :
    (swap : Work (Coordinator σ) Event Swapped).Emits fun e => e.isInner = true := by
  have asks := emits_onSurface (Lifecycle.emits_ask_inner (σ := σ) .swap)
  refine .bind .state fun c => ?_
  split
  · exact .pure _
  · exact asks.bind fun _ => .pure _
  · exact asks.bind fun _ => (Work.Emits.change _).bind fun _ => .pure _

end Coordinator

namespace Handshake

theorem emits_surfaceWork (task : SurfaceTask) :
    (surfaceWork task : Work (Lifecycle σ) Event Reply).Emits
      fun e => e.isInner = true ∧ ∀ call ∈ e.deviceCall, task.asks call = true := by
  have ask {call : DeviceCall} {task : SurfaceTask} (asks : task.asks call = true) :
      (Lifecycle.ask call : Work (Lifecycle σ) Event call.Answer).Emits
        fun e => e.isInner = true ∧ ∀ call ∈ e.deviceCall, task.asks call = true :=
    Lifecycle.emits_ask (fun _ => ⟨rfl, nofun⟩)
      fun outcome => ⟨rfl, fun call mem => by cases mem; exact asks⟩
  have log {task : SurfaceTask} (r : Log.Record) : (Event.log r).isInner = true ∧
      ∀ call ∈ (Event.log r).deviceCall, task.asks call = true := ⟨rfl, nofun⟩
  cases task with
  | create size =>
    refine .bind (.bind .state fun l => ?_) fun _ => .pure _
    refine .bind (ask (beq_self_eq_true size)) fun result => ?_
    cases result with
    | error e => exact .pure _
    | ok _ =>
      exact (ask rfl).bind fun _ => .bind (.change _) fun _ =>
        .bind (.emit (log _)) fun _ => .pure _
  | destroy =>
    refine .bind (.bind .state fun l => ?_) fun _ => .pure _
    split
    · exact .pure _
    · exact (ask rfl).bind fun _ => .bind (.change _) fun _ => .emit (log _)
  | makeCurrent => exact (ask rfl).bind fun _ => .pure _
  | makeResourceCurrent => exact (ask rfl).bind fun _ => .pure _
  | clearContext => exact (ask rfl).bind fun _ => .pure _

/-- A call that is seen at once is one critical section. -/
theorem section_of_call {h : Handshake σ} {t : ThreadId} {call : HandshakeCall} {moved : Moved σ}
    (taken : Stepped h t (.call call) moved) :
    moved.events = [] ∨
      ∃ es, moved.events = Event.guarded .resize es ∧ ∀ e ∈ es, e.isInner = true := by
  cases taken with
  | requested => exact .inl rfl
  | tells => exact .inl rfl
  | acquired _ run | acquirePanicked _ run =>
    exact .inr ⟨_, rfl, fun e mem => Coordinator.emits_acquire _ h.coordinator e (by rwa [run])⟩
  | swapped _ run | presented _ run | swapPanicked _ run =>
    exact .inr ⟨_, rfl, fun e mem => Coordinator.emits_swap h.coordinator e (by rwa [run])⟩
  | surfaced _ run | surfacePanicked _ run =>
    exact .inr ⟨_, rfl,
      fun e mem => (emits_surfaceWork _ h.coordinator.surface e (by rwa [run])).1⟩

end Handshake

end HostView
