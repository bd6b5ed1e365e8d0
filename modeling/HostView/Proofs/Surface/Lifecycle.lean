import HostView.Proofs.Work
import HostView.Surface.Lifecycle

/-!
# What a call to a surface comes to

`Event.answered` is what is seen of one call to a device.  A swap, and every other call that only
asks the device, changes nothing else; `Lifecycle.Created`, `Resized` and `Ended` list what a
creation, a resize and a destruction can come to.
-/

namespace HostView

/-- What is seen of a call to a device: its log, and then the answer. -/
def Event.answered (call : DeviceCall) (outcome : Outcome call.Answer)
    (logs : List Log.Record) : List Event :=
  logs.map .log ++ [.device ⟨call, outcome⟩]

namespace Lifecycle

variable {σ : Type}

/-- The same surface after its device was asked something. -/
def withDevice (l : Lifecycle σ) (device : σ) : Lifecycle σ := { l with device }

section Projections

variable (l : Lifecycle σ) (d : σ)

@[simp] theorem withDevice_device : (l.withDevice d).device = d := rfl

@[simp] theorem withDevice_target : (l.withDevice d).target = l.target := rfl

@[simp] theorem withDevice_dimensions : (l.withDevice d).dimensions = l.dimensions := rfl

@[simp] theorem withDevice_live : (l.withDevice d).live = l.live := rfl

@[simp] theorem withDevice_destroyed : (l.withDevice d).destroyed = l.destroyed := rfl

end Projections

variable [SurfaceDevice σ] {l : Lifecycle σ}

theorem ask_of_perform {call : DeviceCall} {outcome : Outcome call.Answer} {d : σ}
    {logs : List Log.Record}
    (h : SurfaceDevice.perform call l.device = ⟨outcome, d, logs⟩) :
    ask call l = ⟨outcome, l.withDevice d, Event.answered call outcome logs⟩ := by
  simp only [ask, h, withDevice, Event.answered]

theorem emits_ask {P : Event → Prop} {call : DeviceCall} (log : ∀ r, P (.log r))
    (answer : ∀ outcome, P (.device ⟨call, outcome⟩)) :
    (ask call : Work (Lifecycle σ) Event call.Answer).Emits P := by
  intro l e mem
  obtain logged | answered := List.mem_append.1 mem
  · obtain ⟨r, -, rfl⟩ := List.mem_map.1 logged
    exact log r
  · rw [List.mem_singleton.1 answered]
    exact answer _

theorem makeCurrent_of_perform {outcome : Outcome Bool} {d : σ} {logs : List Log.Record}
    (h : SurfaceDevice.perform .makeCurrent l.device = ⟨outcome, d, logs⟩) :
    makeCurrent l = ⟨outcome, l.withDevice d, Event.answered .makeCurrent outcome logs⟩ :=
  ask_of_perform h

theorem swap_of_perform {outcome : Outcome Bool} {d : σ} {logs : List Log.Record}
    (h : SurfaceDevice.perform .swap l.device = ⟨outcome, d, logs⟩) :
    swap l = ⟨outcome, l.withDevice d, Event.answered .swap outcome logs⟩ :=
  ask_of_perform h

/-- Work that asks the device once and passes the answer on. -/
theorem reply_of_returned {α : Type} {call : DeviceCall} {f : call.Answer → α} {a : call.Answer}
    {d : σ} {logs : List Log.Record}
    (h : SurfaceDevice.perform call l.device = ⟨.returned a, d, logs⟩) :
    (ask call >>= fun a => pure (f a) : Work (Lifecycle σ) Event α) l =
      ⟨.returned (f a), l.withDevice d, Event.answered call (.returned a) logs⟩ := by
  rw [Work.bind_of_returned (ask_of_perform h)]
  simp

theorem reply_of_panicked {α : Type} {call : DeviceCall} {f : call.Answer → α} {m : String}
    {d : σ} {logs : List Log.Record}
    (h : SurfaceDevice.perform call l.device = ⟨.panicked m, d, logs⟩) :
    (ask call >>= fun a => pure (f a) : Work (Lifecycle σ) Event α) l =
      ⟨.panicked m, l.withDevice d, Event.answered call (.panicked m) logs⟩ := by
  rw [Work.bind_of_panicked (ask_of_perform h)]

/-- What a resize of the surface comes to. -/
inductive Resized (l : Lifecycle σ) (size : Size) :
    Run (Lifecycle σ) Event (Except SurfaceError Unit) → Prop
  | missing (dead : l.live = false) : Resized l size ⟨.returned (.error .missing), l, []⟩
  | failed {error : SurfaceError} {d : σ} {logs : List Log.Record} (alive : l.live = true)
      (answer : SurfaceDevice.perform (.resize l.target size) l.device =
        ⟨.returned (.error error), d, logs⟩) :
      Resized l size ⟨.returned (.error error), l.withDevice d,
        Event.answered (.resize l.target size) (.returned (.error error)) logs⟩
  | done {d : σ} {logs : List Log.Record} (alive : l.live = true)
      (answer : SurfaceDevice.perform (.resize l.target size) l.device =
        ⟨.returned (.ok ()), d, logs⟩) :
      Resized l size ⟨.returned (.ok ()), { l.withDevice d with dimensions := size },
        Event.answered (.resize l.target size) (.returned (.ok ())) logs⟩
  | panicked {m : String} {d : σ} {logs : List Log.Record} (alive : l.live = true)
      (answer : SurfaceDevice.perform (.resize l.target size) l.device = ⟨.panicked m, d, logs⟩) :
      Resized l size ⟨.panicked m, l.withDevice d,
        Event.answered (.resize l.target size) (.panicked m) logs⟩

theorem resized (l : Lifecycle σ) (size : Size) : Resized l size (resize size l) := by
  unfold resize
  rw [Work.state_bind]
  cases alive : l.live with
  | false => exact .missing alive
  | true =>
    rcases answer : SurfaceDevice.perform (.resize l.target size) l.device with
      ⟨⟨error | ⟨⟨⟩⟩⟩ | m, d, logs⟩
    · rw [if_pos rfl, Work.bind_of_returned (ask_of_perform answer)]
      simpa using .failed alive answer
    · rw [if_pos rfl, Work.bind_of_returned (ask_of_perform answer)]
      simpa using .done alive answer
    · rw [if_pos rfl, Work.bind_of_panicked (ask_of_perform answer)]
      exact .panicked alive answer

/-- What asking for a surface comes to. -/
inductive Created (l : Lifecycle σ) (wanted : Size) :
    Run (Lifecycle σ) Event (Except SurfaceError Unit) → Prop
  | refused {error : SurfaceError} {d : σ} {logs : List Log.Record}
      (answer : SurfaceDevice.perform (.create l.target wanted) l.device =
        ⟨.returned (.error error), d, logs⟩) :
      Created l wanted ⟨.returned (.error error), l.withDevice d,
        Event.answered (.create l.target wanted) (.returned (.error error)) logs⟩
  | made {size : Size} {d d' : σ} {logs logs' : List Log.Record} {r : Log.Record}
      (answer : SurfaceDevice.perform (.create l.target wanted) l.device =
        ⟨.returned (.ok ()), d, logs⟩)
      (measured : SurfaceDevice.perform .dimensions d = ⟨.returned size, d', logs'⟩) :
      Created l wanted ⟨.returned (.ok ()),
        { l.withDevice d' with dimensions := size, live := true, destroyed := false },
        Event.answered (.create l.target wanted) (.returned (.ok ())) logs ++
          (Event.answered .dimensions (.returned size) logs' ++ [.log r])⟩
  | panicked {m : String} {d : σ} {logs : List Log.Record}
      (answer : SurfaceDevice.perform (.create l.target wanted) l.device = ⟨.panicked m, d, logs⟩) :
      Created l wanted ⟨.panicked m, l.withDevice d,
        Event.answered (.create l.target wanted) (.panicked m) logs⟩
  /-- The surface was made, and the device panicked when it was asked for the size. -/
  | panickedLate {m : String} {d d' : σ} {logs logs' : List Log.Record}
      (answer : SurfaceDevice.perform (.create l.target wanted) l.device =
        ⟨.returned (.ok ()), d, logs⟩)
      (measured : SurfaceDevice.perform .dimensions d = ⟨.panicked m, d', logs'⟩) :
      Created l wanted ⟨.panicked m, l.withDevice d',
        Event.answered (.create l.target wanted) (.returned (.ok ())) logs ++
          Event.answered .dimensions (.panicked m) logs'⟩

theorem created (l : Lifecycle σ) (wanted : Size) : Created l wanted (create wanted l) := by
  unfold create
  rw [Work.state_bind]
  rcases answer : SurfaceDevice.perform (.create l.target wanted) l.device with
    ⟨⟨error | ⟨⟨⟩⟩⟩ | m, d, logs⟩
  · rw [Work.bind_of_returned (ask_of_perform answer)]
    simpa using .refused answer
  · rw [Work.bind_of_returned (ask_of_perform answer)]
    rcases measured : SurfaceDevice.perform .dimensions d with ⟨size | m, d', logs'⟩
    · dsimp only
      rw [Work.bind_of_returned (ask_of_perform (l := l.withDevice d) measured)]
      exact .made answer measured
    · dsimp only
      rw [Work.bind_of_panicked (ask_of_perform (l := l.withDevice d) measured)]
      exact .panickedLate answer measured
  · rw [Work.bind_of_panicked (ask_of_perform answer)]
    exact .panicked answer

/-- What the end of the surface comes to. -/
inductive Ended (l : Lifecycle σ) : Run (Lifecycle σ) Event Unit → Prop
  | already (gone : l.destroyed = true) : Ended l ⟨.returned (), l, []⟩
  | done {d : σ} {logs : List Log.Record} {r : Log.Record} (present : l.destroyed = false)
      (answer : SurfaceDevice.perform .destroy l.device = ⟨.returned (), d, logs⟩) :
      Ended l ⟨.returned (),
        { l.withDevice d with dimensions := .zero, live := false, destroyed := true },
        Event.answered .destroy (.returned ()) logs ++ [.log r]⟩
  | panicked {m : String} {d : σ} {logs : List Log.Record} (present : l.destroyed = false)
      (answer : SurfaceDevice.perform .destroy l.device = ⟨.panicked m, d, logs⟩) :
      Ended l ⟨.panicked m, l.withDevice d, Event.answered .destroy (.panicked m) logs⟩

theorem ended (l : Lifecycle σ) : Ended l (destroy l) := by
  unfold destroy
  rw [Work.state_bind]
  cases gone : l.destroyed with
  | true => exact .already gone
  | false =>
    rw [if_neg (by simp)]
    rcases answer : SurfaceDevice.perform .destroy l.device with ⟨⟨⟩ | m, d, logs⟩
    · rw [Work.bind_of_returned (ask_of_perform answer)]
      exact .done gone answer
    · rw [Work.bind_of_panicked (ask_of_perform answer)]
      exact .panicked gone answer

end Lifecycle

end HostView
