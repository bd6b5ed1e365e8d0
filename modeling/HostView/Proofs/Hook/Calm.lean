import HostView.Proofs.Hook.Conduct

/-!
# Hooks that do not panic

A hook is calm if its script has no panic and registers calm hooks only.  A dispatch to calm hooks
returns, however its hooks register others and call the view again, and it leaves calm hooks, so
that the next dispatch returns as well.
-/

namespace HostView

/-- A hook without a panic in its script, which registers hooks of this sort only. -/
inductive Hook.Calm : Hook → Prop
  | intro {h : Hook} (steady : ∀ r ∈ h.script, ∀ message, .panic message ∉ r.actions)
      (recruits : ∀ r ∈ h.script, ∀ g, .register g ∈ r.actions → Calm g) : Calm h

theorem idle_calm (name : String) : (Hook.idle name).Calm := ⟨nofun, nofun⟩

/-- Actions without a panic, which register calm hooks only. -/
structure CalmActions (actions : List Action) : Prop where
  steady : ∀ message, .panic message ∉ actions
  recruits : ∀ g, .register g ∈ actions → g.Calm

/-- An action that is not a panic. -/
def Action.Steady (a : Action) : Prop := ∀ message, a ≠ .panic message

theorem Action.forall_steady {as : List Action} :
    (∀ a ∈ as, a.Steady) ↔ ∀ message, .panic message ∉ as :=
  ⟨fun steady message mem => steady _ mem message rfl,
    fun steady _ mem message panics => steady message (panics ▸ mem)⟩

theorem Hook.calm_iff {h : Hook} : h.Calm ↔ h.Uses Action.Steady := by
  constructor
  · intro calm
    induction calm with
    | intro steady _ ih => exact ⟨fun r mem => Action.forall_steady.2 (steady r mem), ih⟩
  · intro use
    induction use with
    | intro acts _ ih => exact ⟨fun r mem => Action.forall_steady.1 (acts r mem), ih⟩

theorem calmActions_iff {as : List Action} : CalmActions as ↔ ActionsUse Action.Steady as :=
  ⟨fun calm => ⟨Action.forall_steady.2 calm.steady,
      fun g mem => Hook.calm_iff.1 (calm.recruits g mem)⟩,
    fun use => ⟨Action.forall_steady.1 use.acts,
      fun g mem => Hook.calm_iff.2 (use.recruits g mem)⟩⟩

/-- A dispatch to calm hooks. -/
structure DispatchFrame.Calm (f : DispatchFrame) : Prop where
  chain : ∀ h ∈ f.chain, h.Calm
  running : ∀ h as, f.running = some (h, as) → CalmActions as

theorem DispatchFrame.calm_iff {f : DispatchFrame} : f.Calm ↔ f.Uses Action.Steady :=
  ⟨fun calm => ⟨fun h mem => Hook.calm_iff.1 (calm.chain h mem),
      fun h as running => calmActions_iff.1 (calm.running h as running)⟩,
    fun use => ⟨fun h mem => Hook.calm_iff.2 (use.chain h mem),
      fun h as running => calmActions_iff.2 (use.running h as running)⟩⟩

namespace Dispatcher

/-- All hooks, in the slot and in the dispatches under way, are calm. -/
structure Calm (d : Dispatcher) : Prop where
  slot : ∀ h ∈ d.slot, h.Calm
  frames : ∀ f ∈ d.frames, f.Calm

variable {slot : List Hook} {f : DispatchFrame} {outer : List DispatchFrame}

theorem calm_iff {d : Dispatcher} : d.Calm ↔ d.Uses Action.Steady :=
  ⟨fun calm => ⟨fun h mem => Hook.calm_iff.1 (calm.slot h mem),
      fun f mem => DispatchFrame.calm_iff.1 (calm.frames f mem)⟩,
    fun use => ⟨fun h mem => Hook.calm_iff.2 (use.slot h mem),
      fun f mem => DispatchFrame.calm_iff.2 (use.frames f mem)⟩⟩

theorem Calm.enter {frames : List DispatchFrame} (calm : Calm ⟨slot, frames⟩)
    (callback : Callback) : (enter slot frames callback).Calm :=
  calm_iff.2 ((calm_iff.1 calm).enter callback)

/-- The dispatch goes on with the rest of what its hook has to do. -/
theorem Calm.resume {h : Hook} {a : Action} {as : List Action} (calm : Calm ⟨slot, f :: outer⟩)
    (running : f.running = some (h, a :: as)) :
    Calm ⟨slot, { f with running := some (h, as) } :: outer⟩ :=
  calm_iff.2 ((calm_iff.1 calm).resume running)

/-- A dispatcher with calm hooks only does not panic, and its hooks stay calm. -/
theorem Calm.advance {d : Dispatcher} {p : Progress} (calm : d.Calm)
    (taken : d.advance () = some p) :
    p.next.Calm ∧ ∀ slot' message, p ≠ .panicked slot' message := by
  obtain ⟨slot, _ | ⟨f, outer⟩⟩ := d
  · cases taken
  · obtain rfl := Option.some.inj taken
    have use := calm_iff.1 calm
    have made := advanced slot f outer
    refine ⟨calm_iff.2 (use.step made), fun slot' message panics => ?_⟩
    rw [panics] at made
    exact use.panics made message rfl

theorem Calm.course {start d : Dispatcher} {steps : List DispatchStep} (calm : start.Calm)
    (course : Course start steps d) : d.Calm :=
  Path.invariant course calm fun calm taken => (calm.advance taken).1

/-- A dispatch to calm hooks returns, and the hooks that it leaves are calm. -/
theorem dispatch_calm {chain : List Hook} (calm : ∀ h ∈ chain, h.Calm) (callback : Callback) :
    (∃ consumed, (dispatch chain callback).outcome = .returned consumed) ∧
      ∀ h ∈ (dispatch chain callback).slot, h.Calm := by
  obtain ⟨left, -, panics⟩ :=
    dispatch_uses (fun h mem => Hook.calm_iff.1 (calm h mem)) callback
  refine ⟨?_, fun h mem => Hook.calm_iff.2 (left h mem)⟩
  cases outcome : (dispatch chain callback).outcome with
  | returned consumed => exact ⟨consumed, rfl⟩
  | panicked message => exact absurd rfl (panics message outcome message)

end Dispatcher

end HostView
