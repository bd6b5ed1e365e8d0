import HostView.Proofs.Resize.Release
import HostView.Proofs.Surface.Headless

/-!
# What is known of a headless surface is so

The owner of a surface and the device behind it each keep their own notion of whether there is a
surface and how large it is, and different calls change the two.  Over a headless surface they
agree (`Lifecycle.Mirrors`): every move of every thread in the resize handshake keeps that, and what
fails changes neither of them.  So a request for a size is compared with the surface that really
exists (`Handshake.surface_mirrored`).
-/

namespace HostView

/-- The calls that draw: they neither make the surface nor change its size nor destroy it. -/
def DeviceCall.draws : DeviceCall → Bool
  | makeCurrent | makeResourceCurrent | clearContext | swap => true
  | _ => false

/-- Drawing keeps the target and the size, and a context becomes current only if there is a
target. -/
theorem Headless.perform_of_draws {call : DeviceCall} (draws : call.draws = true) (h : Headless) :
    (SurfaceDevice.perform call h).state.target = h.target ∧
      (SurfaceDevice.perform call h).state.stats.size = h.stats.size ∧
      ((SurfaceDevice.perform call h).state.current = true →
        h.current = true ∨ h.target.isSome = true) := by
  cases call with
  | makeCurrent => exact ⟨rfl, rfl, .inr⟩
  | makeResourceCurrent => exact ⟨rfl, rfl, .inl⟩
  | clearContext => exact ⟨rfl, rfl, nofun⟩
  | swap =>
    cases current : h.current with
    | true => simp [SurfaceDevice.perform, Headless.swap, current]
    | false => simp [SurfaceDevice.perform, Headless.swap, current]
  | _ => cases draws

namespace Lifecycle

/-- What the owner of a headless surface knows of it is so. -/
structure Mirrors (l : Lifecycle Headless) : Prop where
  held : l.live = true ↔ l.device.target = some l.target
  size : l.live = true → l.dimensions = l.device.stats.size
  full : l.live = true → l.dimensions.isEmpty = false
  gone : l.live = false → l.dimensions = .zero ∧ l.device.target = none
  backed : l.device.current = true → l.device.target.isSome = true

variable {l : Lifecycle Headless} {d : Headless} {size : Size} {logs : List Log.Record}

theorem Mirrors.draw (mirrors : l.Mirrors) (call : DeviceCall) {outcome : Outcome call.Answer}
    (draws : call.draws = true)
    (answer : SurfaceDevice.perform call l.device = ⟨outcome, d, logs⟩) :
    (l.withDevice d).Mirrors := by
  obtain ⟨target, size, current⟩ := Headless.perform_of_draws draws l.device
  rw [answer] at target size current
  dsimp only at target size current
  exact
    { held := by simpa [target] using mirrors.held
      size := fun live => (mirrors.size live).trans size.symm
      full := mirrors.full
      gone := fun dead => (mirrors.gone dead).imp_right target.trans
      backed := fun now => by
        change d.target.isSome = true
        rw [target]
        exact (current now).elim mirrors.backed id }

/-- The surface takes on another size. -/
theorem Mirrors.grown (mirrors : l.Mirrors)
    (answer : SurfaceDevice.perform (.resize l.target size) l.device =
      ⟨.returned (.ok ()), d, logs⟩) :
    ({ l.withDevice d with dimensions := size } : Lifecycle Headless).Mirrors := by
  obtain ⟨held, full, rfl⟩ := Headless.resize_ok answer
  exact
    { held := mirrors.held
      size := fun _ => rfl
      full := fun _ => full
      gone := fun dead => absurd (mirrors.held.2 held) (by simp_all)
      backed := mirrors.backed }

/-- A creation that fails changes nothing. -/
theorem create_failed {error : SurfaceError}
    (failed : (create size l).outcome = .returned (.error error)) : (create size l).state = l := by
  have came := created l size
  generalize create size l = r at came failed ⊢
  cases came with
  | refused answer =>
    obtain rfl := Headless.create_error answer
    rfl
  | made => cases failed
  | panicked => cases failed
  | panickedLate => cases failed

/-- A resize that fails changes nothing. -/
theorem resize_failed {error : SurfaceError}
    (failed : (resize size l).outcome = .returned (.error error)) : (resize size l).state = l := by
  have came := resized l size
  generalize resize size l = r at came failed ⊢
  cases came with
  | missing => rfl
  | failed alive answer =>
    obtain rfl := Headless.resize_error answer
    rfl
  | done => cases failed
  | panicked => cases failed

theorem Mirrors.create (mirrors : l.Mirrors) (wanted : Size) :
    (Lifecycle.create wanted l).state.Mirrors := by
  have came := created l wanted
  generalize Lifecycle.create wanted l = r at came ⊢
  cases came with
  | refused answer =>
    obtain rfl := Headless.create_error answer
    exact mirrors
  | made answer measured =>
    obtain ⟨full, rfl⟩ := Headless.create_ok answer
    cases measured
    exact ⟨iff_of_true rfl rfl, fun _ => rfl, fun _ => full, nofun, nofun⟩
  | panicked answer => exact absurd (congrArg Run.outcome answer) Headless.not_panicked
  | panickedLate _ measured => exact absurd (congrArg Run.outcome measured) Headless.not_panicked

theorem Mirrors.destroy (mirrors : l.Mirrors) : (Lifecycle.destroy l).state.Mirrors := by
  have came := ended l
  generalize Lifecycle.destroy l = r at came ⊢
  cases came with
  | already => exact mirrors
  | done present answer =>
    cases answer
    exact ⟨iff_of_false nofun nofun, nofun, nofun, fun _ => ⟨rfl, rfl⟩, nofun⟩
  | panicked _ answer => exact absurd (congrArg Run.outcome answer) Headless.not_panicked

theorem Mirrors.task {l' : Lifecycle Headless} {task : SurfaceTask} {outcome : Outcome Reply}
    {es : List Event} (mirrors : l.Mirrors)
    (run : Handshake.surfaceWork task l = ⟨outcome, l', es⟩) : l'.Mirrors := by
  change (⟨outcome, l', es⟩ : Run _ _ _).state.Mirrors
  rw [← run]
  cases task <;> rw [Handshake.surfaceWork, Work.map_state]
  case create wanted => exact mirrors.create wanted
  case destroy => exact mirrors.destroy
  case makeCurrent => exact mirrors.draw .makeCurrent rfl rfl
  case makeResourceCurrent => exact mirrors.draw .makeResourceCurrent rfl rfl
  case clearContext => exact mirrors.draw .clearContext rfl rfl

/-- A swap presents nothing if there is no surface. -/
theorem Mirrors.swap_dead (mirrors : l.Mirrors) (dead : l.live = false) :
    (SurfaceDevice.perform .swap l.device).outcome = .returned false := by
  have idle : l.device.current = false := by
    cases current : l.device.current with
    | false => rfl
    | true => exact absurd (mirrors.backed current) (by simp [(mirrors.gone dead).2])
  simp [SurfaceDevice.perform, Headless.swap, idle]

end Lifecycle

namespace Coordinator

variable {c : Coordinator Headless} {size : Size}

theorem acquire_mirrors {c' : Coordinator Headless} {outcome : Outcome Unit} {es : List Event}
    (mirrors : c.surface.Mirrors) (run : acquire size c = ⟨outcome, c', es⟩) :
    c'.surface.Mirrors := by
  have came := acquired c size
  rw [run] at came
  cases came with
  | passed => exact mirrors
  | missing => exact mirrors
  | failed _ _ answer =>
    obtain rfl := Headless.resize_error answer
    exact mirrors
  | ready _ _ answer made => exact (mirrors.grown answer).draw .makeCurrent rfl made
  | panicked _ _ answer => exact absurd (congrArg Run.outcome answer) Headless.not_panicked
  | panickedLate _ _ _ made => exact absurd (congrArg Run.outcome made) Headless.not_panicked

theorem swap_mirrors {c' : Coordinator Headless} {outcome : Outcome Swapped} {es : List Event}
    (mirrors : c.surface.Mirrors) (run : swap c = ⟨outcome, c', es⟩) : c'.surface.Mirrors := by
  have came := swapMade c
  rw [run] at came
  cases came with
  | refused => exact mirrors
  | plain _ answer => exact mirrors.draw .swap rfl answer
  | presented _ answer => exact mirrors.draw .swap rfl answer
  | panicked _ answer => exact mirrors.draw .swap rfl answer

theorem swap_dead (mirrors : c.surface.Mirrors) (dead : c.surface.live = false) :
    ∃ finished, (swap c).outcome = .returned ⟨false, finished⟩ := by
  have nothing := mirrors.swap_dead dead
  have came := swapMade c
  generalize swap c = r at came ⊢
  cases came with
  | refused => exact ⟨_, rfl⟩
  | plain _ answer | presented _ answer =>
    rw [answer] at nothing
    cases nothing
    exact ⟨_, rfl⟩
  | panicked _ answer => exact absurd (congrArg Run.outcome answer) Headless.not_panicked

/-- An acquire whose resize fails changes nothing. -/
theorem acquire_failed {error : SurfaceError}
    (failed : (Lifecycle.resize size c.surface).outcome = .returned (.error error)) :
    (acquire size c).state = c := by
  have came := acquired c size
  generalize acquire size c = r at came ⊢
  have notResized {d : Headless} {logs : List Log.Record} (alive : c.surface.live = true)
      (answer : SurfaceDevice.perform (.resize c.surface.target size) c.surface.device =
        ⟨.returned (.ok ()), d, logs⟩) : False := by
    have came := Lifecycle.resized c.surface size
    generalize Lifecycle.resize size c.surface = r at came failed
    cases came with
    | missing dead => simp [alive] at dead
    | failed _ refused =>
      rw [answer] at refused
      cases refused
    | done => cases failed
    | panicked => cases failed
  cases came with
  | passed => rfl
  | missing => rfl
  | failed _ _ answer =>
    obtain rfl := Headless.resize_error answer
    rfl
  | ready _ alive answer => exact (notResized alive answer).elim
  | panicked _ _ answer => exact absurd (congrArg Run.outcome answer) Headless.not_panicked
  | panickedLate _ alive answer => exact (notResized alive answer).elim

/-- A request has nothing to wait for if the surface that exists has the size already. -/
theorem register_none_iff (mirrors : c.surface.Mirrors) (full : size.isEmpty = false)
    (idle : c.phase = .idle) :
    (c.register size).1 = none ↔
      c.surface.device.target = some c.surface.target ∧ c.surface.device.stats.size = size := by
  have known : (c.register size).1 = none ↔ c.surface.dimensions = size := by
    by_cases same : c.surface.dimensions = size <;> simp [register, full, idle, same]
  rw [known, ← mirrors.held]
  cases live : c.surface.live with
  | true => simp [mirrors.size live]
  | false =>
    have empty : c.surface.dimensions ≠ size := by
      rw [(mirrors.gone live).1]
      rintro rfl
      cases full
    simp [empty]

end Coordinator

namespace Handshake

/-- No move of any thread makes the owner of the surface forget what is so. -/
theorem Stepped.mirrors {h : Handshake Headless} {t : ThreadId} {m : Move}
    {moved : Moved Headless} (taken : Stepped h t m moved)
    (mirrors : h.coordinator.surface.Mirrors) : moved.next.coordinator.surface.Mirrors := by
  cases taken with
  | acquired _ run => exact Coordinator.acquire_mirrors mirrors run
  | acquirePanicked _ run => exact Coordinator.acquire_mirrors mirrors run
  | swapped _ run => exact Coordinator.swap_mirrors mirrors run
  | presented _ run => exact Coordinator.swap_mirrors mirrors run
  | swapPanicked _ run => exact Coordinator.swap_mirrors mirrors run
  | surfaced _ run => exact mirrors.task run
  | surfacePanicked _ run => exact mirrors.task run
  | @registered size _ _ _ _ top run =>
    have came := Coordinator.registered h.coordinator size
    rw [run] at came
    cases came <;> exact mirrors
  | _ => exact mirrors

/-- The owner of a new surface, behind which is a headless device without one.  After any moves of
any threads the surface lives if and only if the device holds its target.  While it lives, its
dimensions are those of the device and have no zero side; while it does not, they are zero and no
swap succeeds.  A creation or a resize that fails leaves everything as it was, also in an acquire.
And a request for a size with pixels, made while no other is under way, has nothing to wait for if
and only if the surface that the device holds has that size. -/
theorem surface_mirrored {start h : Handshake Headless} {steps : List (HandshakeStep Headless)}
    {stats : HeadlessStats} {target : RenderTarget}
    (fresh : start.coordinator.surface = { device := { stats }, target })
    (course : Course start steps h) :
    let c := h.coordinator
    let l := c.surface
    (l.live = true ↔ l.device.target = some l.target) ∧
      (l.live = true →
        (SurfaceDevice.perform .dimensions l.device).outcome = .returned l.dimensions ∧
          l.dimensions.width ≠ 0 ∧ l.dimensions.height ≠ 0) ∧
      (l.live = false → l.dimensions = .zero ∧ (Lifecycle.swap l).outcome = .returned false ∧
        ∃ finished, (Coordinator.swap c).outcome = .returned ⟨false, finished⟩) ∧
      (∀ size error, (Lifecycle.create size l).outcome = .returned (.error error) →
        (Lifecycle.create size l).state = l) ∧
      (∀ size error, (Lifecycle.resize size l).outcome = .returned (.error error) →
        (Lifecycle.resize size l).state = l ∧ (Coordinator.acquire size c).state = c) ∧
      ∀ size : Size, size.isEmpty = false → c.phase = .idle →
        ((c.register size).1 = none ↔ l.device.target = some l.target ∧
          (SurfaceDevice.perform .dimensions l.device).outcome = .returned size) := by
  intro c l
  have mirrors : l.Mirrors := by
    refine Path.invariant (P := fun h : Handshake Headless => h.coordinator.surface.Mirrors)
      course ?_ fun mirrors taken => (stepped taken).mirrors mirrors
    rw [fresh]
    exact ⟨iff_of_false nofun nofun, nofun, nofun, fun _ => ⟨rfl, rfl⟩, nofun⟩
  refine ⟨mirrors.held, fun live => ⟨?_, Size.isEmpty_eq_false_iff.1 (mirrors.full live)⟩,
    fun dead =>
      ⟨(mirrors.gone dead).1, mirrors.swap_dead dead, Coordinator.swap_dead mirrors dead⟩,
    fun size error => Lifecycle.create_failed,
    fun size error failed => ⟨Lifecycle.resize_failed failed, Coordinator.acquire_failed failed⟩,
    fun size full idle => ?_⟩
  · rw [mirrors.size live]
    rfl
  · rw [Coordinator.register_none_iff mirrors full idle]
    simp [SurfaceDevice.perform, l, c]

/-- A window whose surface was not yet asked for. -/
def bare : Handshake Headless where
  coordinator := { surface := { device := {}, target := ⟨7⟩ } }
  scale := 1.0

/-- Thread 0 creates the surface and thread 1 asks for another size.  Thread 0 draws a frame of it
and swaps, and then fails to create a surface without pixels. -/
def regrownMoves : List (ThreadId × Move) :=
  [(0, .call (.surface (.create ⟨800, 600⟩))), (1, .call (.request ⟨1024, 768⟩)), (1, .proceed),
    (0, .call (.acquire ⟨1024, 768⟩)), (0, .call .swap), (0, .proceed), (0, .proceed),
    (0, .call (.surface (.create .zero)))]

/-- The steps of these moves. -/
def regrownSteps : List (HandshakeStep Headless) :=
  Path.record (fun h (m : ThreadId × Move) => h.step m.1 m.2) Moved.next bare regrownMoves

/-- A request for the new size has nothing to wait for after them, and one for the old size has. -/
theorem regrown_surface_compared :
    bare.coordinator.surface = { device := { stats := {} }, target := ⟨7⟩ } ∧
      ∃ h, Course bare regrownSteps h ∧ h.coordinator.surface.live = true ∧
        h.coordinator.phase = .idle ∧
        (h.coordinator.register ⟨1024, 768⟩).1 = none ∧
        (h.coordinator.register ⟨800, 600⟩).1 ≠ none := by
  obtain ⟨h, course⟩ : ∃ h, Course bare regrownSteps h := Path.recorded bare regrownMoves
  let last := regrownSteps.get ⟨7, by decide⟩
  have cut : regrownSteps = regrownSteps.take 7 ++ [last] := rfl
  obtain ⟨-, -, rfl⟩ := Path.of_snoc (cut ▸ course)
  obtain ⟨-, -, -, -, -, compared⟩ := surface_mirrored rfl course
  refine ⟨rfl, _, course, rfl, rfl, (compared ⟨1024, 768⟩ rfl rfl).2 ⟨rfl, rfl⟩, fun none => ?_⟩
  obtain ⟨-, size⟩ := (compared ⟨800, 600⟩ rfl rfl).1 none
  cases size

end Handshake

end HostView
