import HostView.Proofs.Surface.Lifecycle
import HostView.Resize.Coordinator

/-!
# What a critical section of the resize lock comes to

`Coordinator.Registered`, `Acquired` and `SwapMade` list what a registration, an acquire and a
swap can come to, each case with the state it leaves, what is seen of it, and the answers of the
device that led to it.  Nothing below this file unfolds the three functions again.
-/

namespace HostView.Coordinator

variable {σ : Type}

/-- The same coordinator after the device of its surface was asked something. -/
def withDevice (c : Coordinator σ) (device : σ) : Coordinator σ :=
  { c with surface := c.surface.withDevice device }

section Projections

variable (c : Coordinator σ) (d : σ)

@[simp] theorem withDevice_phase : (c.withDevice d).phase = c.phase := rfl

@[simp] theorem withDevice_started : (c.withDevice d).started = c.started := rfl

@[simp] theorem withDevice_presented : (c.withDevice d).presented = c.presented := rfl

@[simp] theorem withDevice_surface : (c.withDevice d).surface = c.surface.withDevice d := rfl

end Projections

@[simp] theorem hasPresented_iff {c : Coordinator σ} {episode : Nat} :
    c.hasPresented episode = true ↔ episode ≤ c.presented := by
  simp [hasPresented]

/-! ### Registering -/

/-- What a registration comes to. -/
inductive Registered (c : Coordinator σ) (size : Size) :
    Option Nat × Coordinator σ × List Event → Prop
  | empty {r : Log.Record} (empty : size.isEmpty = true) : Registered c size (none, c, [.log r])
  | current (full : size.isEmpty = false) (idle : c.phase = .idle)
      (same : c.surface.dimensions = size) : Registered c size (none, c, [])
  | started (full : size.isEmpty = false) (idle : c.phase = .idle)
      (other : c.surface.dimensions ≠ size) :
      Registered c size
        (some (c.started + 1), { c with phase := .requested size, started := c.started + 1 }, [])
  | retargeted {r : Log.Record} (full : size.isEmpty = false) (busy : c.phase ≠ .idle) :
      Registered c size (some c.started, { c with phase := .requested size }, [.log r])

theorem registered (c : Coordinator σ) (size : Size) : Registered c size (c.register size) := by
  unfold register
  cases empty : size.isEmpty with
  | true => exact .empty empty
  | false =>
    by_cases idle : c.phase = .idle
    · by_cases same : c.surface.dimensions = size
      · simpa [idle, same] using .current empty idle same
      · simpa [idle, same] using .started empty idle same
    · simpa [idle] using .retargeted empty idle

/-- A registration only logs. -/
theorem register_logs {c c' : Coordinator σ} {size : Size}
    {episode : Option Nat} {es : List Event} (run : c.register size = (episode, c', es)) :
    ∃ records : List Log.Record, es = records.map .log := by
  have made := registered c size
  rw [run] at made
  cases made with
  | @empty r => exact ⟨[r], rfl⟩
  | current => exact ⟨[], rfl⟩
  | started => exact ⟨[], rfl⟩
  | @retargeted r => exact ⟨[r], rfl⟩

theorem register_phase {c c' : Coordinator σ} {size : Size}
    {episode : Nat} {es : List Event} (run : c.register size = (some episode, c', es)) :
    c'.phase = .requested size := by
  have made := registered c size
  rw [run] at made
  cases made <;> rfl

theorem onSurface_of_run {α : Type} {w : Work (Lifecycle σ) Event α} {c : Coordinator σ}
    {outcome : Outcome α} {l : Lifecycle σ} {es : List Event}
    (h : w c.surface = ⟨outcome, l, es⟩) :
    onSurface w c = ⟨outcome, { c with surface := l }, es⟩ := by
  simp only [onSurface, Work.within, h, List.map_id]

variable [SurfaceDevice σ]

/-! ### Acquiring -/

/-- What an acquire comes to. -/
inductive Acquired (c : Coordinator σ) (size : Size) : Run (Coordinator σ) Event Unit → Prop
  /-- No frame of this size is asked for. -/
  | passed {r : List Log.Record} (other : c.phase ≠ .requested size) :
      Acquired c size ⟨.returned (), c, r.map .log⟩
  /-- There is no surface to resize. -/
  | missing {r : Log.Record} (asked : c.phase = .requested size) (dead : c.surface.live = false) :
      Acquired c size ⟨.returned (), c, [.log r]⟩
  /-- The surface was not resized, and the request stands. -/
  | failed {d : σ} {error : SurfaceError} {logs : List Log.Record} {r : Log.Record}
      (asked : c.phase = .requested size) (alive : c.surface.live = true)
      (resized : SurfaceDevice.perform (.resize c.surface.target size) c.surface.device =
        ⟨.returned (.error error), d, logs⟩) :
      Acquired c size ⟨.returned (), c.withDevice d,
        Event.answered (.resize c.surface.target size) (.returned (.error error)) logs ++
          [.log r]⟩
  /-- The surface has the size that was asked for. -/
  | ready {d d' : σ} {current : Bool} {logs logs' : List Log.Record} {r : Log.Record}
      (asked : c.phase = .requested size) (alive : c.surface.live = true)
      (resized : SurfaceDevice.perform (.resize c.surface.target size) c.surface.device =
        ⟨.returned (.ok ()), d, logs⟩)
      (made : SurfaceDevice.perform .makeCurrent d = ⟨.returned current, d', logs'⟩) :
      Acquired c size ⟨.returned (),
        { c with
          phase := .frameReady
          surface := { c.surface.withDevice d' with dimensions := size } },
        Event.answered (.resize c.surface.target size) (.returned (.ok ())) logs ++
          (Event.answered .makeCurrent (.returned current) logs' ++ [.log r])⟩
  /-- The device panicked before the surface was resized. -/
  | panicked {m : String} {d : σ} {logs : List Log.Record}
      (asked : c.phase = .requested size) (alive : c.surface.live = true)
      (resized : SurfaceDevice.perform (.resize c.surface.target size) c.surface.device =
        ⟨.panicked m, d, logs⟩) :
      Acquired c size ⟨.panicked m, c.withDevice d,
        Event.answered (.resize c.surface.target size) (.panicked m) logs⟩
  /-- The device panicked after the surface was resized. -/
  | panickedLate {m : String} {d d' : σ} {logs logs' : List Log.Record}
      (asked : c.phase = .requested size) (alive : c.surface.live = true)
      (resized : SurfaceDevice.perform (.resize c.surface.target size) c.surface.device =
        ⟨.returned (.ok ()), d, logs⟩)
      (made : SurfaceDevice.perform .makeCurrent d = ⟨.panicked m, d', logs'⟩) :
      Acquired c size ⟨.panicked m,
        { c with surface := { c.surface.withDevice d' with dimensions := size } },
        Event.answered (.resize c.surface.target size) (.returned (.ok ())) logs ++
          Event.answered .makeCurrent (.panicked m) logs'⟩

theorem acquired (c : Coordinator σ) (size : Size) : Acquired c size (acquire size c) := by
  unfold acquire
  rw [Work.state_bind]
  cases hp : c.phase with
  | idle => exact .passed (r := []) (by simp [hp])
  | frameReady => exact .passed (r := []) (by simp [hp])
  | requested target =>
    by_cases same : size = target
    · subst same
      simp only [if_true]
      generalize hr : Lifecycle.resize size c.surface = run
      have resized := Lifecycle.resized c.surface size
      rw [hr] at resized
      cases resized with
      | missing dead =>
        rw [Work.bind_of_returned (onSurface_of_run hr)]
        exact .missing hp dead
      | failed alive answer =>
        rw [Work.bind_of_returned (onSurface_of_run hr)]
        exact .failed hp alive answer
      | panicked alive answer =>
        rw [Work.bind_of_panicked (onSurface_of_run hr)]
        exact .panicked hp alive answer
      | @done d logs alive answer =>
        rw [Work.bind_of_returned (onSurface_of_run hr)]
        let resizedSurface : Lifecycle σ := { c.surface.withDevice d with dimensions := size }
        rcases made : SurfaceDevice.perform .makeCurrent d with ⟨current | m, d', logs'⟩
        · have hm := onSurface_of_run (c := { c with surface := resizedSurface })
            (Lifecycle.makeCurrent_of_perform made)
          dsimp only
          rw [Work.bind_of_returned hm]
          exact .ready hp alive answer made
        · have hm := onSurface_of_run (c := { c with surface := resizedSurface })
            (Lifecycle.makeCurrent_of_perform made)
          dsimp only
          rw [Work.bind_of_panicked hm]
          exact .panickedLate hp alive answer made
    · simp only [if_neg same]
      exact .passed (r := [_]) (by simp [hp, Ne.symm same])

/-! ### Swapping -/

/-- What a swap comes to. -/
inductive SwapMade (c : Coordinator σ) : Run (Coordinator σ) Event Swapped → Prop
  | refused {target : Size} (asked : c.phase = .requested target) :
      SwapMade c ⟨.returned ⟨false, false⟩, c, []⟩
  | plain {d : σ} {succeeded : Bool} {logs : List Log.Record} (idle : c.phase = .idle)
      (answer : SurfaceDevice.perform .swap c.surface.device =
        ⟨.returned succeeded, d, logs⟩) :
      SwapMade c ⟨.returned ⟨succeeded, false⟩, c.withDevice d,
        Event.answered .swap (.returned succeeded) logs⟩
  /-- The episode is over. -/
  | presented {d : σ} {succeeded : Bool} {logs : List Log.Record} (ready : c.phase = .frameReady)
      (answer : SurfaceDevice.perform .swap c.surface.device =
        ⟨.returned succeeded, d, logs⟩) :
      SwapMade c ⟨.returned ⟨succeeded, true⟩,
        { c.withDevice d with phase := .idle, presented := c.started },
        Event.answered .swap (.returned succeeded) logs⟩
  | panicked {d : σ} {m : String} {logs : List Log.Record}
      (unasked : ∀ target, c.phase ≠ .requested target)
      (answer : SurfaceDevice.perform .swap c.surface.device = ⟨.panicked m, d, logs⟩) :
      SwapMade c ⟨.panicked m, c.withDevice d, Event.answered .swap (.panicked m) logs⟩

theorem swapMade (c : Coordinator σ) : SwapMade c (swap c) := by
  unfold swap
  rw [Work.state_bind]
  cases hp : c.phase with
  | requested target => exact .refused hp
  | idle =>
    dsimp only
    rcases answer : SurfaceDevice.perform .swap c.surface.device with ⟨succeeded | m, d, logs⟩
    · rw [Work.bind_of_returned (onSurface_of_run (Lifecycle.swap_of_perform answer))]
      simpa using .plain hp answer
    · rw [Work.bind_of_panicked (onSurface_of_run (Lifecycle.swap_of_perform answer))]
      exact .panicked (by simp [hp]) answer
  | frameReady =>
    dsimp only
    rcases answer : SurfaceDevice.perform .swap c.surface.device with ⟨succeeded | m, d, logs⟩
    · rw [Work.bind_of_returned (onSurface_of_run (Lifecycle.swap_of_perform answer))]
      simpa using .presented hp answer
    · rw [Work.bind_of_panicked (onSurface_of_run (Lifecycle.swap_of_perform answer))]
      exact .panicked (by simp [hp]) answer

end HostView.Coordinator
