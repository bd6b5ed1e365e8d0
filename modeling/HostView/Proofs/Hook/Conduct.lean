import HostView.Proofs.Hook.Course

/-!
# Hooks that do only certain things

`Hook.Uses allowed` says that all actions in the script of a hook are allowed, and those of the
hooks that it registers as well.  A dispatch to such hooks does only what is allowed, however its
hooks register others and call the view again, and it leaves such hooks behind
(`Dispatcher.dispatch_uses`).
-/

namespace HostView

/-- A hook that does only what is allowed, and registers hooks of this sort only. -/
inductive Hook.Uses (allowed : Action → Prop) : Hook → Prop
  | intro {h : Hook} (acts : ∀ r ∈ h.script, ∀ a ∈ r.actions, allowed a)
      (recruits : ∀ r ∈ h.script, ∀ g, .register g ∈ r.actions → Uses allowed g) : Uses allowed h

/-- Actions that are allowed and register only hooks that do what is allowed. -/
structure ActionsUse (allowed : Action → Prop) (actions : List Action) : Prop where
  acts : ∀ a ∈ actions, allowed a
  recruits : ∀ g, .register g ∈ actions → g.Uses allowed

/-- A dispatch to hooks that do only what is allowed. -/
structure DispatchFrame.Uses (allowed : Action → Prop) (f : DispatchFrame) : Prop where
  chain : ∀ h ∈ f.chain, h.Uses allowed
  running : ∀ h as, f.running = some (h, as) → ActionsUse allowed as

variable {allowed : Action → Prop}

theorem ActionsUse.tail {a : Action} {as : List Action} (use : ActionsUse allowed (a :: as)) :
    ActionsUse allowed as where
  acts b mem := use.acts b (by simp [mem])
  recruits g mem := use.recruits g (by simp [mem])

/-- A call takes its actions from the script, and leaves no reaction that was not there. -/
theorem takeReaction_spec (kind : CallbackKind) (rs : List Reaction) :
    (∀ a ∈ (takeReaction kind rs).1, ∃ r ∈ rs, a ∈ r.actions) ∧
      ∀ r ∈ (takeReaction kind rs).2, r ∈ rs := by
  induction rs with
  | nil => exact ⟨nofun, nofun⟩
  | cons r rs ih =>
    obtain ⟨actions, rest⟩ := ih
    rw [takeReaction]
    split
    · exact ⟨fun a mem => ⟨r, by simp, mem⟩, fun k mem => by simp [mem]⟩
    · refine ⟨fun a mem => ?_, fun k mem => ?_⟩
      · obtain ⟨k, old, inside⟩ := actions a mem
        exact ⟨k, by simp [old], inside⟩
      · obtain rfl | old := List.mem_cons.1 mem
        · simp
        · simp [rest k old]

theorem Hook.react_spec (h : Hook) (callback : Callback) :
    (∀ a ∈ (h.react callback).1, ∃ r ∈ h.script, a ∈ r.actions) ∧
      ∀ r ∈ (h.react callback).2.script, r ∈ h.script := by
  rw [Hook.react]
  split
  · exact takeReaction_spec callback.kind h.script
  · exact ⟨nofun, fun r mem => mem⟩

theorem Hook.Uses.actions {h : Hook} (use : h.Uses allowed) (callback : Callback) :
    ActionsUse allowed (h.react callback).1 := by
  obtain ⟨acts, recruits⟩ := use
  obtain ⟨inScript, -⟩ := h.react_spec callback
  refine ⟨fun a mem => ?_, fun g mem => ?_⟩
  · obtain ⟨r, inside, act⟩ := inScript _ mem
    exact acts r inside a act
  · obtain ⟨r, inside, act⟩ := inScript _ mem
    exact recruits r inside g act

theorem Hook.Uses.after {h : Hook} (use : h.Uses allowed) (callback : Callback) :
    (h.react callback).2.Uses allowed := by
  obtain ⟨acts, recruits⟩ := use
  obtain ⟨-, left⟩ := h.react_spec callback
  exact ⟨fun r mem => acts r (left r mem), fun r mem => recruits r (left r mem)⟩

namespace Dispatcher

/-- All hooks, in the slot and in the dispatches under way, do only what is allowed. -/
structure Uses (allowed : Action → Prop) (d : Dispatcher) : Prop where
  slot : ∀ h ∈ d.slot, h.Uses allowed
  frames : ∀ f ∈ d.frames, f.Uses allowed

variable {slot : List Hook} {f : DispatchFrame} {outer : List DispatchFrame}

theorem uses_cons :
    Uses allowed ⟨slot, f :: outer⟩ ↔
      (∀ h ∈ slot, h.Uses allowed) ∧ f.Uses allowed ∧ ∀ g ∈ outer, g.Uses allowed :=
  ⟨fun use => ⟨use.slot, List.forall_mem_cons.1 use.frames⟩,
    fun use => ⟨use.1, List.forall_mem_cons.2 use.2⟩⟩

theorem Uses.enter {frames : List DispatchFrame} (use : Uses allowed ⟨slot, frames⟩)
    (callback : Callback) : (enter slot frames callback).Uses allowed :=
  uses_cons.2 ⟨nofun, ⟨by simpa [DispatchFrame.chain] using use.slot, nofun⟩, use.frames⟩

/-- What the hook that is being called does next is allowed. -/
theorem Uses.acts {h : Hook} {a : Action} {as : List Action}
    (use : Uses allowed ⟨slot, f :: outer⟩) (running : f.running = some (h, a :: as)) : allowed a :=
  ((uses_cons.1 use).2.1.running h _ running).acts a List.mem_cons_self

/-- The dispatch goes on with the rest of what its hook has to do. -/
theorem Uses.resume {h : Hook} {a : Action} {as : List Action}
    (use : Uses allowed ⟨slot, f :: outer⟩) (running : f.running = some (h, a :: as)) :
    Uses allowed ⟨slot, { f with running := some (h, as) } :: outer⟩ := by
  obtain ⟨kept, ⟨chain, acts⟩, rest⟩ := uses_cons.1 use
  refine uses_cons.2 ⟨kept, ⟨by rwa [chain_of_running running], ?_⟩, rest⟩
  intro k bs eq
  cases eq
  exact (acts h (a :: as) running).tail

theorem Uses.leave (use : Uses allowed ⟨slot, f :: outer⟩) :
    Uses allowed ⟨f.chain ++ slot, outer⟩ := by
  obtain ⟨kept, ⟨chain, -⟩, rest⟩ := uses_cons.1 use
  exact ⟨List.forall_mem_append.2 ⟨chain, kept⟩, rest⟩

/-- All hooks go on to do only what is allowed. -/
theorem Uses.step {p : Progress} (use : Uses allowed ⟨slot, f :: outer⟩)
    (made : Advanced slot f outer p) : p.next.Uses allowed := by
  obtain ⟨kept, ⟨chain, acts⟩, rest⟩ := uses_cons.1 use
  cases made with
  | @registered h g as running =>
    have recruit : g.Uses allowed := (acts h _ running).recruits g List.mem_cons_self
    have joined : ∀ k ∈ slot ++ [g], k.Uses allowed :=
      List.forall_mem_append.2 ⟨kept, List.forall_mem_singleton.2 recruit⟩
    exact ⟨joined, (use.resume running).frames⟩
  | @entered h callback as running => exact (use.resume running).enter callback
  | pointed running => exact use.resume running
  | panicked => exact ⟨kept, nofun⟩
  | passed running free =>
    exact uses_cons.2 ⟨kept, ⟨by rwa [chain_of_passed running], nofun⟩, rest⟩
  | kept | exhausted =>
    rw [finished_next]
    exact use.leave
  | @called h hs running waiting =>
    simp only [chain_of_called running waiting, List.forall_mem_append, List.forall_mem_cons]
      at chain
    obtain ⟨visited, useHook, waits⟩ := chain
    refine uses_cons.2 ⟨kept, ⟨?_, ?_⟩, rest⟩
    · simpa [DispatchFrame.chain, or_imp, forall_and] using
        ⟨visited, useHook.after f.callback, waits⟩
    · intro k as eq
      cases eq
      exact useHook.actions f.callback

/-- A step panics only if that is allowed. -/
theorem Uses.panics {slot' : List Hook} {message : String}
    (use : Uses allowed ⟨slot, f :: outer⟩)
    (made : Advanced slot f outer (.panicked slot' message)) : allowed (.panic message) := by
  generalize panics : Progress.panicked slot' message = p at made
  cases made with
  | panicked running =>
    cases panics
    exact use.acts running
  | kept | exhausted => exact absurd panics.symm (finished_ne_panicked _ _ _ _ _ _)
  | _ => cases panics

/-- A step moves the pointer only if that is allowed. -/
theorem Uses.points {p : Progress} {input : PointerInput} (use : Uses allowed ⟨slot, f :: outer⟩)
    (made : Advanced slot f outer p) (points : .pointed input ∈ p.signals) :
    allowed (.point input) := by
  cases made with
  | pointed running =>
    cases List.mem_singleton.1 points
    exact use.acts running
  | kept | exhausted => cases outer <;> simp [finished, Progress.signals] at points
  | _ => simp [Progress.signals] at points

/-- What holds of every step of hooks that do only what is allowed holds of a whole dispatch. -/
theorem uses_run (use : Uses allowed ⟨slot, f :: outer⟩) :
    (∀ h ∈ (run slot f outer).slot, h.Uses allowed) ∧
      (∀ input, .pointed input ∈ (run slot f outer).signals → allowed (.point input)) ∧
      ∀ message, (run slot f outer).outcome = .panicked message → allowed (.panic message) := by
  fun_induction run slot f outer with
  | case1 slot f outer slot' signals made => exact absurd made step_ne_onward_nil
  | case2 slot f outer slot' f' outer' signals made rest ih =>
    have taken := made ▸ advanced slot f outer
    obtain ⟨left, points, panics⟩ := ih (use.step taken)
    refine ⟨left, fun input mem => ?_, panics⟩
    obtain here | later := List.mem_append.1 mem
    · exact use.points taken here
    · exact points input later
  | case3 slot f outer slot' consumed signals made =>
    have taken := made ▸ advanced slot f outer
    exact ⟨(use.step taken).slot, fun input mem => use.points taken mem, by simp⟩
  | case4 slot f outer slot' message made =>
    have taken := made ▸ advanced slot f outer
    refine ⟨(use.step taken).slot, by simp, fun message' same => ?_⟩
    cases same
    exact use.panics taken

/-- A dispatch to hooks that do only what is allowed leaves such hooks, and moves the pointer or
panics only if that is allowed. -/
theorem dispatch_uses {chain : List Hook} (use : ∀ h ∈ chain, h.Uses allowed)
    (callback : Callback) :
    (∀ h ∈ (dispatch chain callback).slot, h.Uses allowed) ∧
      (∀ input, .pointed input ∈ (dispatch chain callback).signals → allowed (.point input)) ∧
      ∀ message, (dispatch chain callback).outcome = .panicked message →
        allowed (.panic message) := by
  have resting : Uses allowed ⟨chain, []⟩ := ⟨use, nofun⟩
  obtain ⟨left, points, panics⟩ := uses_run (resting.enter callback)
  refine ⟨left, fun input mem => points input ?_, panics⟩
  simpa [dispatch] using mem

end Dispatcher

end HostView
