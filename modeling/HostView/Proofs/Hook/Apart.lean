import HostView.Proofs.Hook.Conduct
import HostView.Proofs.Hook.Plain

/-!
# Hooks that do not call the view

A hook keeps apart if its script does not call the hooks again, and it registers hooks of this sort
only.  While such hooks are called no other dispatch comes in between, so that the calls that are
seen are those of the dispatch itself: they go to the hooks of its chain in order, up to the first
that keeps the call, and only a panic ends them before that (`Dispatcher.dispatch_apart`).
-/

namespace HostView

/-- An action that does not call the hooks again. -/
def Action.Apart (a : Action) : Prop := ∀ callback, a ≠ .enter callback

/-- The calls that a dispatch has yet to make. -/
def DispatchFrame.ahead (f : DispatchFrame) : List (Manner × Callback) :=
  if f.running.isSome && f.keeps then [] else Hook.callsTo f.callback f.waiting

namespace Dispatcher

variable {slot : List Hook} {f : DispatchFrame} {p : Progress}

/-- A dispatch to hooks that keep apart goes on by itself: with each step it makes the first of the
calls ahead of it or none, and it ends when none is ahead. -/
theorem Advanced.alone (apart : Uses Action.Apart ⟨slot, [f]⟩) (made : Advanced slot f [] p) :
    (∃ slot' f' signals, p = .onward ⟨slot', [f']⟩ signals ∧
      signals.filterMap Signal.hookCall ++ f'.ahead = f.ahead) ∨
    (∃ slot' consumed, p = .ended slot' consumed [.touched] ∧ f.ahead = []) ∨
    ∃ slot' message, p = .panicked slot' message := by
  cases made with
  | @registered h g as running =>
    exact .inl ⟨_, _, _, rfl, by simp [DispatchFrame.ahead, running, Signal.hookCall]⟩
  | @entered h callback as running => exact absurd rfl (apart.acts running callback)
  | pointed running =>
    exact .inl ⟨_, _, _, rfl, by simp [DispatchFrame.ahead, running, Signal.hookCall]⟩
  | panicked => exact .inr (.inr ⟨_, _, rfl⟩)
  | passed running free =>
    exact .inl ⟨_, _, _, rfl, by simp [DispatchFrame.ahead, running, free]⟩
  | kept running keeps =>
    exact .inr (.inl ⟨_, _, rfl, by simp [DispatchFrame.ahead, running, keeps]⟩)
  | @called h hs running waiting =>
    refine .inl ⟨_, _, _, rfl, ?_⟩
    cases keeps : h.consumes f.callback <;>
      simp [DispatchFrame.ahead, running, waiting, Hook.callsTo, audience_cons, keeps,
        Signal.hookCall]
  | exhausted running waiting =>
    exact .inr (.inl ⟨_, _, rfl, by
      simp [DispatchFrame.ahead, running, waiting, Hook.callsTo, audience]⟩)

/-- The rest of a dispatch makes the calls ahead of it, unless a hook panics. -/
theorem run_apart {outer : List DispatchFrame} (apart : Uses Action.Apart ⟨slot, f :: outer⟩)
    (alone : outer = []) :
    (run slot f outer).signals.filterMap Signal.hookCall <+: f.ahead ∧
      ∀ consumed, (run slot f outer).outcome = .returned consumed →
        (run slot f outer).signals.filterMap Signal.hookCall = f.ahead := by
  fun_induction run slot f outer with
  | case1 slot f outer slot' signals made => exact absurd made step_ne_onward_nil
  | case2 slot f outer slot' f' outer' signals made rest ih =>
    subst alone
    have taken := made ▸ advanced slot f []
    obtain ⟨_, _, _, same, split⟩ | ⟨_, _, ended, -⟩ | ⟨_, _, panics⟩ := taken.alone apart
    · obtain ⟨⟨rfl, rfl, rfl⟩, rfl⟩ : (slot' = _ ∧ f' = _ ∧ outer' = []) ∧ signals = _ := by
        simpa using same
      obtain ⟨begun, whole⟩ := ih (apart.step taken) rfl
      rw [List.filterMap_append, ← split]
      refine ⟨(List.prefix_append_right_inj _).2 begun, fun consumed returned => ?_⟩
      rw [whole consumed returned]
    · cases ended
    · cases panics
  | case3 slot f outer slot' consumed signals made =>
    subst alone
    have taken := made ▸ advanced slot f []
    obtain ⟨_, _, _, goes_on, -⟩ | ⟨_, _, ended, none⟩ | ⟨_, _, panics⟩ := taken.alone apart
    · cases goes_on
    · cases ended
      simp [none, Signal.hookCall]
    · cases panics
  | case4 slot f outer slot' message made =>
    exact ⟨List.nil_prefix, fun consumed returned => by cases returned⟩

/-- A dispatch to hooks that keep apart calls the audience of the call in order, and nobody else;
only a panic ends it before all have been called. -/
theorem dispatch_apart {chain : List Hook} (apart : ∀ h ∈ chain, h.Uses Action.Apart)
    (callback : Callback) :
    (dispatch chain callback).signals.filterMap Signal.hookCall <+: Hook.callsTo callback chain ∧
      ∀ consumed, (dispatch chain callback).outcome = .returned consumed →
        (dispatch chain callback).signals.filterMap Signal.hookCall =
          Hook.callsTo callback chain := by
  have resting : Uses Action.Apart ⟨chain, []⟩ := ⟨apart, nofun⟩
  exact run_apart (resting.enter callback) rfl

end Dispatcher

end HostView
