import HostView.Proofs.Render.Waiting
import HostView.Proofs.Surface.Headless

/-!
# A session over a headless surface

A headless surface that was made for the window it belongs to goes along with everything that a
driven session asks of it (`Session.Owned.wentWell`), so a session that was opened over one never
crashes (`Session.Drives.live_of_opened`).
-/

namespace HostView.Session

/-- The headless surface was made for the window that it belongs to. -/
def Owned (s : Session Headless) : Prop :=
  s.coordinator.surface.device.target = some s.coordinator.surface.target

/-- A view right after its start, over a headless surface that was created at the size of the
window. -/
structure Opened (size : Size) (s : Session Headless) : Prop where
  fresh : Fresh size s
  full : size.isEmpty = false
  made : s.coordinator.surface.device =
    (Headless.create {} s.coordinator.surface.target size).2

theorem Opened.owned {size : Size} {s : Session Headless} (opened : Opened size s) : s.Owned := by
  rw [Owned, opened.made, Headless.create, opened.full]
  rfl

/-- A view that has just been started for a window of some size. -/
def opened (target : RenderTarget) (scale : Float) (size : Size) : Session Headless where
  view.handshake :=
    { coordinator :=
      { surface :=
        { device := (Headless.create {} target size).2
          target
          dimensions := size
          live := true } }
      scale }
  bus := { capacity := none, queue := [.metrics ⟨size, scale⟩] }
  loop := { size }

theorem opened_opened (target : RenderTarget) (scale : Float) {size : Size}
    (full : size.isEmpty = false) : Opened size (opened target scale size) :=
  ⟨⟨rfl, rfl, rfl, rfl, fun _ => rfl, rfl, rfl, rfl, rfl⟩, full, rfl⟩

/-- A window of 800 by 600 pixels that has just been opened. -/
def desk : Session Headless := opened ⟨1⟩ 1.0 ⟨800, 600⟩

theorem desk_opened : Opened ⟨800, 600⟩ desk := opened_opened _ _ rfl

variable {p : ThreadId} {start s : Session Headless} {b : Size}
  {steps : List (DriveStep Headless)} {m : DriveMove} {moved : SessionMoved Headless}

theorem Owned.wentWell (owned : s.Owned) (wired : s.Wired p) (made : Driven p s m moved) :
    WentWell ⟨s, m, moved⟩ := by
  intro d mem
  obtain ⟨-, rendered⟩ := rendered_of_device made mem
  change .device d ∈ moved.events at mem
  cases rendered with
  | crashed _ _ answer => exact absurd answer Headless.not_panicked
  | failed stage asked answer =>
    rw [Headless.resize_of_target owned (wired.drawing (.inl stage))] at answer
    cases answer
  | readied =>
    simp only [Event.device_mem_guarded, List.mem_append, Event.device_mem_answered,
      List.mem_singleton, reduceCtorEq, or_false] at mem
    obtain rfl | rfl := mem <;> rfl
  | started =>
    obtain rfl : d = _ := by simpa using mem
    rfl
  | plain =>
    obtain rfl : d = _ := by simpa using mem
    rfl
  | presented =>
    obtain rfl : d = _ := by simpa using mem
    rfl
  | cleared =>
    obtain rfl : d = _ := by simpa using mem
    rfl
  | _ => simp at mem

theorem Owned.step (owned : s.Owned) (wired : s.Wired p) (made : Driven p s m moved) :
    moved.next.Owned := by
  cases made with
  | used _ _ handshake => rwa [Owned, coordinator_of_handshake handshake]
  | registered top entry => cases entry <;> exact owned
  | rendered made =>
    cases made with
    | started _ answer => cases answer; exact owned
    | failed stage _ answer =>
      rw [Headless.resize_of_target owned (wired.drawing (.inl stage))] at answer
      cases answer
    | readied stage _ answer answer' =>
      rw [Headless.resize_of_target owned (wired.drawing (.inl stage))] at answer
      cases answer
      cases answer'
      exact owned
    | plain _ _ answer => exact (Headless.swap_spec answer).1.trans owned
    | presented _ _ answer => exact (Headless.swap_spec answer).1.trans owned
    | cleared _ answer => cases answer; exact owned
    | crashed _ _ answer => exact absurd answer Headless.not_panicked
    | _ => exact owned
  | _ => exact owned

/-- In a run over a headless surface the device always goes along. -/
theorem Drives.wentWell (drives : Drives p start steps s) (other : p ≠ renderThread)
    (opened : Opened b start) : s.Owned ∧ ∀ x ∈ steps, WentWell x := by
  induction drives with
  | nil => exact ⟨opened.owned, by simp⟩
  | @snoc steps s m moved path taken ih =>
    have wired : s.Wired p := Drives.wired path other (opened.fresh.wired p)
    have made := driven other wired taken
    obtain ⟨owned, well⟩ := ih
    refine ⟨owned.step wired made, fun x mem => ?_⟩
    obtain old | rfl := List.mem_append.1 mem |>.imp_right List.mem_singleton.1
    · exact well x old
    · exact owned.wentWell wired made

/-- A session over a headless surface is always live. -/
theorem Drives.live_of_opened (drives : Drives p start steps s) (other : p ≠ renderThread)
    (opened : Opened b start) : Live b p steps s := by
  have well := (Drives.wentWell drives other opened).2
  simpa using Live.course opened.fresh.live other drives well

end HostView.Session
