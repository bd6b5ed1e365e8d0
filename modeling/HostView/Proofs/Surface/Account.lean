import HostView.Proofs.Surface.Headless
import HostView.Proofs.Surface.History

/-!
# What a headless surface answers, by its history

A headless surface has two fields that nobody sees, its target and whether its context is current,
and counts that outlive the surface.  `Headless.Accounts` says of each what the calls so far made of
it, and every call keeps that.  So each answer is decided by the history alone
(`Headless.answers_by_history`).
-/

namespace HostView.Headless

open SurfaceDevice

/-- The fields of a headless surface are what its history made of them. -/
structure Accounts (h : Headless) (history : List DeviceEvent) : Prop where
  target : ∀ target, h.target = some target ↔ Survives target history
  current : h.current = true ↔ Current history
  /-- A context is current only as long as there is a surface. -/
  backed : h.current = true → h.target.isSome = true
  frames : h.stats.framesPresented = history.countP DeviceEvent.presents
  resizes : h.stats.resizes = history.countP DeviceEvent.resizes

theorem accounts_nil : Accounts {} [] := by
  constructor <;> simp

variable {h h' : Headless} {history : List DeviceEvent} {e : DeviceEvent}

/-- One more call: the fields after it follow from those before it and from the answer. -/
theorem Accounts.snoc (accounts : h.Accounts history)
    (target : ∀ target, h'.target = some target ↔
      e.created = some target ∨ h.target = some target ∧ e.created = none ∧ e.destroys = false)
    (current : h'.current = true ↔ e.makesCurrent = true ∨
      h.current = true ∧ e.created = none ∧ e.destroys = false ∧ e.clears = false)
    (backed : h'.current = true → h'.target.isSome = true)
    (frames : h'.stats.framesPresented = h.stats.framesPresented + e.presents.toNat)
    (resizes : h'.stats.resizes = h.stats.resizes + e.resizes.toNat) :
    h'.Accounts (history ++ [e]) where
  target t := by rw [target, accounts.target, survives_snoc]
  current := by rw [current, accounts.current, current_snoc]
  backed := backed
  frames := by
    rw [frames, accounts.frames, List.countP_append, List.countP_singleton]
    cases e.presents <;> rfl
  resizes := by
    rw [resizes, accounts.resizes, List.countP_append, List.countP_singleton]
    cases e.resizes <;> rfl

/-- A call of which nothing comes. -/
theorem Accounts.idle (accounts : h.Accounts history) (created : e.created = none)
    (destroys : e.destroys = false) (makesCurrent : e.makesCurrent = false)
    (clears : e.clears = false) (presents : e.presents = false) (resizes : e.resizes = false) :
    h.Accounts (history ++ [e]) :=
  accounts.snoc (fun _ => by simp [created, destroys])
    (by simp [makesCurrent, created, destroys, clears]) accounts.backed (by simp [presents])
    (by simp [resizes])

/-- Every call keeps the account. -/
theorem Accounts.step (accounts : h.Accounts history) (call : DeviceCall) :
    (perform call h).state.Accounts (history ++ [⟨call, (perform call h).outcome⟩]) := by
  cases call with
  | create target size =>
    cases full : size.isEmpty with
    | false =>
      rw [create_of_full full]
      refine accounts.snoc (fun t => ?_) ?_ (by simp) rfl rfl
      · simp [DeviceEvent.created]
      · simp [DeviceEvent.created, DeviceEvent.makesCurrent]
    | true =>
      obtain ⟨error, refused⟩ := create_of_empty h target full
      rw [refused]
      exact accounts.idle rfl rfl rfl rfl rfl rfl
  | resize target size =>
    by_cases refused : h.target = some target → size.isEmpty = true
    · obtain ⟨error, refused⟩ := resize_of_refused refused
      rw [refused]
      exact accounts.idle rfl rfl rfl rfl rfl rfl
    · obtain ⟨held, full⟩ := Classical.not_imp.1 refused
      rw [resize_of_target held (by simpa using full)]
      refine accounts.snoc (fun t => ?_) ?_ accounts.backed rfl rfl
      · simp [DeviceEvent.created, DeviceEvent.destroys]
      · simp [DeviceEvent.created, DeviceEvent.destroys, DeviceEvent.makesCurrent,
          DeviceEvent.clears]
  | makeCurrent =>
    change Accounts h.makeCurrent.2 (history ++ [⟨.makeCurrent, .returned h.makeCurrent.1⟩])
    cases held : h.target.isSome with
    | true =>
      rw [makeCurrent, held]
      refine accounts.snoc (fun t => ?_) ?_ (fun _ => held) rfl rfl
      · simp [DeviceEvent.created, DeviceEvent.destroys]
      · simp [DeviceEvent.makesCurrent]
    | false =>
      -- there was no surface, so no context was current before either
      have idle : h.current = false := by
        cases current : h.current with
        | false => rfl
        | true => exact absurd (accounts.backed current) (by simp [held])
      have same : h.makeCurrent = (false, h) := by rw [makeCurrent, held, ← idle]
      rw [same]
      exact accounts.idle rfl rfl rfl rfl rfl rfl
  | makeResourceCurrent => exact accounts.idle rfl rfl rfl rfl rfl rfl
  | clearContext =>
    change Accounts { h with current := false } (history ++ [⟨.clearContext, .returned true⟩])
    refine accounts.snoc (fun t => ?_) ?_ (by simp) rfl rfl
    · simp [DeviceEvent.created, DeviceEvent.destroys]
    · simp [DeviceEvent.makesCurrent, DeviceEvent.clears]
  | swap =>
    change Accounts h.swap.2 (history ++ [⟨.swap, .returned h.swap.1⟩])
    cases current : h.current with
    | true =>
      rw [swap, if_pos current]
      refine accounts.snoc (fun t => ?_) ?_ accounts.backed rfl rfl
      · simp [DeviceEvent.created, DeviceEvent.destroys]
      · simp [DeviceEvent.created, DeviceEvent.destroys, DeviceEvent.makesCurrent,
          DeviceEvent.clears]
    | false =>
      rw [swap, if_neg (by simp [current])]
      exact accounts.idle rfl rfl rfl rfl rfl rfl
  | dimensions => exact accounts.idle rfl rfl rfl rfl rfl rfl
  | destroy =>
    change Accounts h.destroy (history ++ [⟨.destroy, .returned ()⟩])
    refine accounts.snoc (fun t => ?_) ?_ (by simp [destroy]) rfl rfl
    · simp [destroy, DeviceEvent.created, DeviceEvent.destroys]
    · simp [destroy, DeviceEvent.makesCurrent, DeviceEvent.destroys]

/-- So does any sequence of calls. -/
theorem Accounts.askAll (accounts : h.Accounts history) (calls : List DeviceCall) :
    (askAll h calls).2.Accounts (history ++ (SurfaceDevice.askAll h calls).1) := by
  induction calls generalizing h history with
  | nil => simpa [SurfaceDevice.askAll] using accounts
  | cons call calls ih => simpa [SurfaceDevice.askAll] using ih (accounts.step call)

/-- After any calls to a new headless surface: a swap presents a frame if and only if the context
was made current and since then no surface was created or destroyed and the context was not
cleared; all frames that were presented and all resizes that succeeded are counted; and a resize
succeeds if and only if the latest of the creations that succeeded and of the destructions is a
creation for the same target, and the new size has no zero side. -/
theorem answers_by_history (calls : List DeviceCall) :
    let (history, h) := askAll ({} : Headless) calls
    ((perform .swap h).outcome = .returned true ↔ Current history) ∧
      h.stats.framesPresented = history.countP DeviceEvent.presents ∧
      h.stats.resizes = history.countP DeviceEvent.resizes ∧
      ∀ target size, (perform (.resize target size) h).outcome = .returned (.ok ()) ↔
        Survives target history ∧ size.width ≠ 0 ∧ size.height ≠ 0 := by
  have accounts := accounts_nil.askAll calls
  rw [List.nil_append] at accounts
  revert accounts
  generalize askAll ({} : Headless) calls = asked
  obtain ⟨history, h⟩ := asked
  intro accounts
  refine ⟨?_, accounts.frames, accounts.resizes, fun target size => ?_⟩
  · rw [← accounts.current]
    cases current : h.current <;> simp [perform, swap, current]
  · rw [← accounts.target, ← Size.isEmpty_eq_false_iff]
    by_cases refused : h.target = some target → size.isEmpty = true
    · obtain ⟨error, same⟩ := resize_of_refused refused
      rw [same]
      simpa using refused
    · obtain ⟨held, full⟩ := Classical.not_imp.1 refused
      rw [resize_of_target held (by simpa using full)]
      simpa [held] using full

end HostView.Headless
