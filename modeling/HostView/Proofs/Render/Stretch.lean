import HostView.Proofs.Render.Headless

/-!
# No stretched frame

A frame is swapped onto the surface only if the engine was given a frame buffer of the very size
that the surface has, and nothing is drawn while the size that the render loop was last told has
no pixels.
-/

namespace HostView.Session

variable {σ : Type}

/-- The size that a step takes off the bus. -/
def consumed (x : DriveStep σ) : Option Size :=
  match x.move, x.before.loop.stage, x.before.bus.queue with
  | .render, .receiving, e :: _ | .render, .draining, e :: _ => e.size
  | _, _, _ => none

/-- The size that the render loop was last told, `start` being the one that it began with. -/
def lastConsumed (start : Size) (steps : List (DriveStep σ)) : Size :=
  (steps.filterMap consumed).getLast?.getD start

/-- The render loop acquires a frame buffer. -/
structure Acquires (x : DriveStep σ) : Prop where
  move : x.move = .render
  stage : x.before.loop.stage = .acquiring

/-- The render loop asks for its frame to be swapped. -/
structure AsksSwap (x : DriveStep σ) : Prop where
  move : x.move = .render
  stage : x.before.loop.stage = .swapping

/-- A swap reaches the surface. -/
def Swaps (x : DriveStep σ) : Prop := ∃ outcome, .device ⟨.swap, outcome⟩ ∈ x.result.events

theorem lastConsumed_snoc (start : Size) (steps : List (DriveStep σ)) (x : DriveStep σ) :
    lastConsumed start (steps ++ [x]) = (consumed x).getD (lastConsumed start steps) := by
  unfold lastConsumed
  cases took : consumed x <;> simp [took]

variable [SurfaceDevice σ] {p : ThreadId} {start s : Session σ} {b : Size}
  {steps : List (DriveStep σ)}

/-- The render loop draws at the size that it was last told. -/
theorem Drives.size (drives : Drives p start steps s) (other : p ≠ renderThread)
    (fresh : Fresh b start) : s.loop.size = lastConsumed b steps := by
  induction drives with
  | nil => simp [lastConsumed, fresh.loop]
  | @snoc steps s m moved path taken ih =>
    have made := driven other (Drives.wired path other (fresh.wired p)) taken
    have kept {moved : SessionMoved σ} {m : DriveMove}
        (same : moved.next.loop.size = s.loop.size) (took : consumed ⟨s, m, moved⟩ = none) :
        moved.next.loop.size = lastConsumed b (steps ++ [⟨s, m, moved⟩]) := by
      rw [lastConsumed_snoc, took, same, ih, Option.getD_none]
    have told {moved : SessionMoved σ} {e : EngineEvent} (taken : moved.next.loop.size =
        (s.loop.consume e).size) (took : consumed ⟨s, .render, moved⟩ = e.size) :
        moved.next.loop.size = lastConsumed b (steps ++ [⟨s, .render, moved⟩]) := by
      rw [lastConsumed_snoc, took, taken, ← ih]
      cases e <;> rfl
    cases made with
    | used _ _ _ loop => exact kept (congrArg RenderLoop.size loop) rfl
    | rendered made =>
      cases made with
      | received stage queue => exact told rfl (by simp [consumed, stage, queue])
      | took stage queue => exact told rfl (by simp [consumed, stage, queue])
      | idled stage empty => exact kept rfl (by simp [consumed, stage, empty])
      | drained stage empty => exact kept rfl (by simp [consumed, stage, empty])
      | started stage => exact kept rfl (by simp [consumed, stage])
      | tested stage => exact kept rfl (by simp [consumed, stage])
      | passed stage => exact kept rfl (by simp [consumed, stage])
      | failed stage => exact kept rfl (by simp [consumed, stage])
      | readied stage => exact kept rfl (by simp [consumed, stage])
      | refused stage => exact kept rfl (by simp [consumed, stage])
      | plain stage => exact kept rfl (by simp [consumed, stage])
      | presented stage => exact kept rfl (by simp [consumed, stage])
      | woke stage => exact kept rfl (by simp [consumed, stage])
      | announced stage => exact kept rfl (by simp [consumed, stage])
      | cleared stage => exact kept rfl (by simp [consumed, stage])
      | crashed stage =>
        obtain stage | stage | stage | stage := stage <;>
          exact kept rfl (by simp [consumed, stage])
    | _ => exact kept rfl rfl

/-- A swap is asked for in the turn that has acquired at the size of the render loop. -/
theorem Drives.acquired (drives : Drives p start steps s) (other : p ≠ renderThread)
    (fresh : Fresh b start) (stage : s.loop.stage = .swapping) :
    ∃ k a k', steps = k ++ a :: k' ∧ Acquires a ∧ a.before.loop.size = s.loop.size ∧
      ∀ y ∈ k', y.move ≠ .render := by
  induction drives with
  | nil => simp [fresh.loop] at stage
  | @snoc steps s m moved path taken ih =>
    have made := driven other (Drives.wired path other (fresh.wired p)) taken
    have beside {m : DriveMove} {moved : SessionMoved σ} (same : moved.next.loop = s.loop)
        (stage : moved.next.loop.stage = .swapping) (aside : m ≠ .render) :
        ∃ k a k', steps ++ [⟨s, m, moved⟩] = k ++ a :: k' ∧ Acquires a ∧
          a.before.loop.size = moved.next.loop.size ∧ ∀ y ∈ k', y.move ≠ .render := by
      rw [same] at stage ⊢
      obtain ⟨k, a, k', rfl, acquires, size, quiet⟩ := ih stage
      refine ⟨k, a, k' ++ [⟨s, m, moved⟩], by simp, acquires, size, fun y mem => ?_⟩
      obtain old | rfl := List.mem_append.1 mem |>.imp_right List.mem_singleton.1
      · exact quiet y old
      · exact aside
    cases made with
    | used _ _ _ loop => exact beside loop stage nofun
    | rendered made =>
      cases made with
      | passed at_acquire => exact ⟨steps, _, [], rfl, ⟨rfl, at_acquire⟩, rfl, by simp⟩
      | failed at_acquire => exact ⟨steps, _, [], rfl, ⟨rfl, at_acquire⟩, rfl, by simp⟩
      | readied at_acquire => exact ⟨steps, _, [], rfl, ⟨rfl, at_acquire⟩, rfl, by simp⟩
      | tested => cases stop : s.stopRequested <;> simp [stop] at stage
      | drained => cases empty : s.loop.size.isEmpty <;> simp [empty] at stage
      | @took e q draining =>
        have still : s.loop.stage = .swapping := by cases e <;> exact stage
        rw [draining] at still
        cases still
      | _ => cases stage
    | _ => exact beside rfl stage nofun

/-- Only the swap of the render loop reaches the surface, and never while a size is asked for. -/
theorem swaps_of_driven {x : DriveStep σ} (made : Driven p x.before x.move x.result)
    (swaps : Swaps x) :
    AsksSwap x ∧ ∀ target, x.before.coordinator.phase ≠ .requested target := by
  obtain ⟨outcome, mem⟩ := swaps
  obtain ⟨render, rendered⟩ := rendered_of_device made mem
  obtain ⟨s, m, moved⟩ := x
  change Rendered s moved at rendered
  change .device ⟨.swap, outcome⟩ ∈ moved.events at mem
  change AsksSwap ⟨s, m, moved⟩ ∧ ∀ target, s.coordinator.phase ≠ .requested target
  cases rendered with
  | plain stage idle => exact ⟨⟨render, stage⟩, by simp [idle]⟩
  | presented stage ready => exact ⟨⟨render, stage⟩, by simp [ready]⟩
  | crashed _ _ _ _ _ swaps =>
    obtain ⟨stage, unasked⟩ := swaps outcome mem
    exact ⟨⟨render, stage⟩, unasked⟩
  | _ => simp at mem

/-- Whenever a swap reaches the surface, the acquire of the same turn had the size that the
surface has; and the render loop neither acquires nor swaps while the last size that it took off
the bus has no pixels. -/
theorem no_stretched_frame {before after : List (DriveStep σ)} {x : DriveStep σ}
    (other : p ≠ renderThread) (fresh : Fresh b start)
    (drives : Drives p start (before ++ x :: after) s) :
    (Swaps x → ∃ k a k', before = k ++ a :: k' ∧ Acquires a ∧
      (∀ y ∈ k', y.move ≠ .render) ∧
        a.before.loop.size = x.before.coordinator.surface.dimensions) ∧
      (Acquires x ∨ AsksSwap x → (lastConsumed b before).isEmpty = false) := by
  obtain ⟨path, taken, -⟩ := Path.split drives
  have wired : x.before.Wired p := Drives.wired path other (fresh.wired p)
  have drawing : Acquires x ∨ AsksSwap x → x.before.loop.size.isEmpty = false :=
    fun draws => wired.drawing (draws.imp Acquires.stage AsksSwap.stage)
  refine ⟨fun swaps => ?_, fun draws => ?_⟩
  · obtain ⟨asks, unasked⟩ := swaps_of_driven (driven other wired taken) swaps
    obtain ⟨k, a, k', eq, acquires, size, quiet⟩ :=
      Drives.acquired path other fresh asks.stage
    refine ⟨k, a, k', eq, acquires, quiet, size.trans ?_⟩
    obtain ⟨crashed, -⟩ | live := Drives.live path other fresh
    · rw [asks.stage] at crashed
      cases crashed
    · obtain empty | fits := live.standing.drawn rfl unasked
      · rw [drawing (.inr asks)] at empty
        cases empty
      · exact fits
  · rw [← Drives.size path other fresh]
    exact drawing draws

/-- The window grows while the render loop draws its first frame. -/
def stretchingMoves : List DriveMove :=
  [.render, .render, .render, .render, .resize ⟨1024, 768⟩, .proceed, .proceed, .render, .render,
    .render, .render, .render, .render, .render]

/-- The steps of these moves. -/
def stretchingSteps : List (DriveStep Headless) :=
  Path.record (drive 1) SessionMoved.next desk stretchingMoves

/-- The frame that was being drawn is dropped, and the next one fits. -/
theorem growing_window_not_stretched :
    ∃ (before : List (DriveStep Headless)) (x : DriveStep Headless),
      stretchingSteps = before ++ [x] ∧ Swaps x ∧
        (∃ k a k', before = k ++ a :: k' ∧ Acquires a ∧ (∀ y ∈ k', y.move ≠ .render) ∧
          a.before.loop.size = x.before.coordinator.surface.dimensions) ∧
        (lastConsumed ⟨800, 600⟩ before).isEmpty = false := by
  have cut : stretchingSteps =
      stretchingSteps.take 13 ++ [stretchingSteps.get ⟨13, by decide⟩] := rfl
  have swaps : Swaps (stretchingSteps.get ⟨13, by decide⟩) := ⟨.returned true, .tail _ (.head _)⟩
  obtain ⟨s, drives⟩ : ∃ s, Drives 1 desk stretchingSteps s := Path.recorded desk stretchingMoves
  rw [cut] at drives
  obtain ⟨fits, full⟩ := no_stretched_frame (by decide) desk_opened.fresh drives
  exact ⟨_, _, cut, swaps, fits swaps, full (.inr ⟨rfl, rfl⟩)⟩

end HostView.Session
