import HostView.Proofs.Surface.Lifecycle
import HostView.Surface.Headless

/-!
# A headless surface goes along

A headless surface never panics, and it can be resized to any size that has pixels for as long as
it exists.
-/

namespace HostView.Headless

/-- A headless surface answers every call. -/
theorem returns (call : DeviceCall) (h : Headless) :
    ∃ a, (SurfaceDevice.perform call h).outcome = .returned a := by
  cases call <;> exact ⟨_, rfl⟩

theorem not_panicked {call : DeviceCall} {h : Headless} {m : String} :
    (SurfaceDevice.perform call h).outcome ≠ .panicked m := by
  obtain ⟨a, returned⟩ := returns call h
  rw [returned]
  nofun

theorem create_of_full {h : Headless} {target : RenderTarget} {size : Size}
    (full : size.isEmpty = false) :
    SurfaceDevice.perform (.create target size) h =
      ⟨.returned (.ok ()), { target := some target, stats := { h.stats with size } }, []⟩ := by
  simp [SurfaceDevice.perform, create, full]

/-- A surface without pixels is not created, and the surface there was is kept. -/
theorem create_of_empty (h : Headless) (target : RenderTarget) {size : Size}
    (empty : size.isEmpty = true) :
    ∃ e, SurfaceDevice.perform (.create target size) h = ⟨.returned (.error e), h, []⟩ := by
  simp [SurfaceDevice.perform, create, empty]

theorem resize_of_target {h : Headless} {target : RenderTarget} {size : Size}
    (made : h.target = some target) (full : size.isEmpty = false) :
    SurfaceDevice.perform (.resize target size) h =
      ⟨.returned (.ok ()),
        { h with stats := { h.stats with size, resizes := h.stats.resizes + 1 } }, []⟩ := by
  simp [SurfaceDevice.perform, resize, made, full]

/-- A surface that is not there, and a size without pixels, are refused, and nothing changes. -/
theorem resize_of_refused {h : Headless} {target : RenderTarget} {size : Size}
    (refused : h.target = some target → size.isEmpty = true) :
    ∃ e, SurfaceDevice.perform (.resize target size) h = ⟨.returned (.error e), h, []⟩ := by
  by_cases held : h.target = some target
  · simp [SurfaceDevice.perform, resize, held, refused held]
  · simp [SurfaceDevice.perform, resize, held]

theorem create_ok {h d : Headless} {target : RenderTarget} {size : Size}
    {logs : List Log.Record}
    (answer : SurfaceDevice.perform (.create target size) h = ⟨.returned (.ok ()), d, logs⟩) :
    size.isEmpty = false ∧ d = { target := some target, stats := { h.stats with size } } := by
  cases empty : size.isEmpty with
  | true =>
    obtain ⟨e, refused⟩ := create_of_empty h target empty
    rw [refused] at answer
    cases answer
  | false =>
    rw [create_of_full empty] at answer
    cases answer
    exact ⟨rfl, rfl⟩

theorem create_error {h d : Headless} {target : RenderTarget} {size : Size} {e : SurfaceError}
    {logs : List Log.Record}
    (answer : SurfaceDevice.perform (.create target size) h = ⟨.returned (.error e), d, logs⟩) :
    d = h := by
  cases empty : size.isEmpty with
  | true =>
    obtain ⟨e, refused⟩ := create_of_empty h target empty
    rw [refused] at answer
    cases answer
    rfl
  | false =>
    rw [create_of_full empty] at answer
    cases answer

theorem resize_ok {h d : Headless} {target : RenderTarget} {size : Size}
    {logs : List Log.Record}
    (answer : SurfaceDevice.perform (.resize target size) h = ⟨.returned (.ok ()), d, logs⟩) :
    h.target = some target ∧ size.isEmpty = false ∧
      d = { h with stats := { h.stats with size, resizes := h.stats.resizes + 1 } } := by
  by_cases refused : h.target = some target → size.isEmpty = true
  · obtain ⟨e, same⟩ := resize_of_refused refused
    rw [same] at answer
    cases answer
  · obtain ⟨held, full⟩ := Classical.not_imp.1 refused
    rw [Bool.not_eq_true] at full
    rw [resize_of_target held full] at answer
    cases answer
    exact ⟨held, full, rfl⟩

theorem resize_error {h d : Headless} {target : RenderTarget} {size : Size} {e : SurfaceError}
    {logs : List Log.Record}
    (answer : SurfaceDevice.perform (.resize target size) h = ⟨.returned (.error e), d, logs⟩) :
    d = h := by
  by_cases refused : h.target = some target → size.isEmpty = true
  · obtain ⟨e, same⟩ := resize_of_refused refused
    rw [same] at answer
    cases answer
    rfl
  · obtain ⟨held, full⟩ := Classical.not_imp.1 refused
    rw [resize_of_target held (by simpa using full)] at answer
    cases answer

/-- A swap that succeeds is a frame that is presented, and no other is. -/
theorem swap_spec {h d : Headless} {succeeded : Bool} {logs : List Log.Record}
    (answer : SurfaceDevice.perform .swap h = ⟨.returned succeeded, d, logs⟩) :
    d.target = h.target ∧
      d.stats.framesPresented = h.stats.framesPresented + succeeded.toNat := by
  cases current : h.current with
  | true =>
    simp only [SurfaceDevice.perform, swap, current, if_true, Run.mk.injEq,
      Outcome.returned.injEq] at answer
    obtain ⟨rfl, rfl, -⟩ := answer
    exact ⟨rfl, rfl⟩
  | false =>
    simp only [SurfaceDevice.perform, swap, current, Bool.false_eq_true, if_false, Run.mk.injEq,
      Outcome.returned.injEq] at answer
    obtain ⟨rfl, rfl, -⟩ := answer
    exact ⟨rfl, rfl⟩

end HostView.Headless
