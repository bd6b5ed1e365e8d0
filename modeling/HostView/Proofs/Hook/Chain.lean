import HostView.Proofs.Hook.Calm
import HostView.View.Basic
import Mathlib.Data.List.Permutation
import Mathlib.Logic.Relation

/-!
# The chain survives re-entrant dispatches

A dispatch takes the chain out of its slot, and hooks that are called may register further hooks
and enter further dispatches, which take what they find in the slot.  All the same, a dispatch
calls the hooks of the chain that it took and no others, and when it is over that chain is back in
the slot, followed by all that was registered meanwhile (`Dispatched`).  The proof follows one
dispatch through the steps made while it is under way (`Underway`): its own chain is in its
frame, and the hooks registered since are in the frames further in and in the slot.
-/

namespace HostView

/-- The hook that is left after a call. -/
def Hook.after (h : Hook) (callback : Callback) : Hook := (h.react callback).2

/-- The same hook after any number of calls. -/
def Hook.Becomes : Hook → Hook → Prop :=
  Relation.ReflTransGen fun g g' => ∃ callback, g' = g.after callback

/-- The hooks of a chain that a dispatch calls: all up to the first one that keeps the call. -/
def audience (callback : Callback) (chain : List Hook) : List Hook :=
  chain.take (chain.findIdx (·.consumes callback) + 1)

theorem audience_of_passed {callback : Callback} {chain : List Hook}
    (passed : ∀ h ∈ chain, h.consumes callback = false) : audience callback chain = chain := by
  have beyond : chain.findIdx (·.consumes callback) = chain.length :=
    List.findIdx_eq_length.2 passed
  rw [audience, beyond, List.take_of_length_le (Nat.le_succ _)]

theorem audience_of_kept {callback : Callback} {before after : List Hook} {h : Hook}
    (passed : ∀ g ∈ before, g.consumes callback = false) (keeps : h.consumes callback = true) :
    audience callback (before ++ h :: after) = before ++ [h] := by
  have here : (before ++ h :: after).findIdx (·.consumes callback) = before.length := by
    rw [List.findIdx_append, if_neg (by simpa using passed), List.findIdx_cons, keeps]
    simp
  rw [audience, here, List.append_cons, List.take_left' (by simp)]

/-- A call to one of the hooks. -/
theorem becomes_of_call {l before after : List Hook} {h : Hook} (callback : Callback)
    (become : List.Forall₂ Hook.Becomes l (before ++ h :: after)) :
    List.Forall₂ Hook.Becomes l (before ++ h.after callback :: after) := by
  induction before generalizing l with
  | nil =>
    cases become with
    | cons first rest => exact .cons (first.tail ⟨callback, rfl⟩) rest
  | cons g before ih =>
    cases become with
    | cons first rest => exact .cons first (ih rest)

theorem becomes_of_registration {l l' : List Hook} (g : Hook)
    (become : List.Forall₂ Hook.Becomes l l') :
    List.Forall₂ Hook.Becomes (l ++ [g]) (l' ++ [g]) :=
  List.rel_append become (.cons Relation.ReflTransGen.refl .nil)

/-- How far a dispatch has come with the chain that it took, and which hooks it has called. -/
inductive DispatchFrame.Reached (chain : List Hook) (callback : Callback) :
    List Hook → DispatchFrame → Prop
  | between {calls waiting : List Hook} {keeps : Bool} (split : chain = calls ++ waiting)
      (passed : ∀ h ∈ calls, h.consumes callback = false) :
      Reached chain callback calls
        ⟨callback, calls.map (·.after callback), none, keeps, waiting⟩
  | within {calls waiting : List Hook} {h : Hook} {as : List Action}
      (split : chain = calls ++ h :: waiting) (passed : ∀ g ∈ calls, g.consumes callback = false) :
      Reached chain callback (calls ++ [h])
        ⟨callback, calls.map (·.after callback), some (h.after callback, as),
          h.consumes callback, waiting⟩

namespace DispatchFrame.Reached

variable {chain calls hs : List Hook} {callback : Callback} {f : DispatchFrame} {h : Hook}
  {a : Action} {as : List Action}

theorem callback_eq (reached : f.Reached chain callback calls) : f.callback = callback := by
  cases reached <;> rfl

theorem resume (reached : f.Reached chain callback calls)
    (running : f.running = some (h, a :: as)) :
    { f with running := some (h, as) }.Reached chain callback calls := by
  cases reached with
  | between split passed => cases running
  | within split passed =>
    cases running
    exact .within split passed

theorem pass (reached : f.Reached chain callback calls) (running : f.running = some (h, []))
    (free : f.keeps = false) :
    { f with visited := f.visited ++ [h], running := none }.Reached chain callback calls := by
  cases reached with
  | between split passed => cases running
  | @within calls waiting g _ split passed =>
    cases running
    have visited : calls.map (·.after callback) ++ [g.after callback] =
        (calls ++ [g]).map (·.after callback) := by simp
    rw [visited]
    refine .between (by simp [split]) fun k mem => ?_
    obtain old | new := List.mem_append.1 mem
    · exact passed k old
    · rwa [List.mem_singleton.1 new]

theorem call (reached : f.Reached chain callback calls) (running : f.running = none)
    (waiting : f.waiting = h :: hs) :
    { f with
      running := some ((h.react f.callback).2, (h.react f.callback).1)
      keeps := h.consumes f.callback
      waiting := hs }.Reached chain callback (calls ++ [h]) := by
  cases reached with
  | between split passed =>
    cases waiting
    exact .within split passed
  | within split passed => cases running

/-- The hook that was called last keeps the call. -/
theorem of_kept (reached : f.Reached chain callback calls) (running : f.running = some (h, []))
    (keeps : f.keeps = true) :
    calls = audience callback chain ∧ chain.any (·.consumes callback) = true ∧
      f.chain = calls.map (·.after callback) ++ chain.drop calls.length := by
  cases reached with
  | between split passed => cases running
  | @within calls waiting g _ split passed =>
    cases running
    subst split
    refine ⟨(audience_of_kept passed keeps).symm, ?_, ?_⟩
    · exact List.any_eq_true.2 ⟨g, by simp, keeps⟩
    · rw [List.append_cons calls g waiting, List.drop_left]
      simp [DispatchFrame.chain]

/-- All hooks were called, and none of them keeps the call. -/
theorem of_exhausted (reached : f.Reached chain callback calls) (running : f.running = none)
    (waiting : f.waiting = []) :
    calls = audience callback chain ∧ chain.any (·.consumes callback) = false ∧
      f.chain = calls.map (·.after callback) ++ chain.drop calls.length := by
  cases reached with
  | between split passed =>
    cases waiting
    rw [List.append_nil] at split
    subst split
    refine ⟨(audience_of_passed passed).symm, ?_, by simp [DispatchFrame.chain]⟩
    exact List.any_eq_false.2 fun h mem => by simp [passed h mem]
  | within split passed => cases running

end DispatchFrame.Reached

namespace Dispatcher

/-- The hooks in the frames of some dispatches, those of the outermost first, and in the slot. -/
def gathered (inner : List DispatchFrame) (slot : List Hook) : List Hook :=
  inner.reverse.flatMap DispatchFrame.chain ++ slot

theorem gathered_cons (g : DispatchFrame) (inner : List DispatchFrame) (slot : List Hook) :
    gathered (g :: inner) slot = gathered inner (g.chain ++ slot) := by
  simp [gathered]

theorem gathered_append (inner : List DispatchFrame) (slot l : List Hook) :
    gathered inner (slot ++ l) = gathered inner slot ++ l := by
  simp [gathered]

theorem gathered_around (inner : List DispatchFrame) (before after slot : List Hook) (h : Hook) :
    gathered inner ((before ++ h :: after) ++ slot) =
      (inner.reverse.flatMap DispatchFrame.chain ++ before) ++ h :: (after ++ slot) := by
  simp [gathered]

/-- A dispatch is under way: it has come somewhere with its chain, and what was registered since
it began is in the frames of the dispatches inside it and in the slot. -/
structure Underway (chain : List Hook) (callback : Callback) (outer : List DispatchFrame)
    (steps : List DispatchStep) (d : Dispatcher) (inner : List DispatchFrame)
    (f : DispatchFrame) : Prop where
  frames : d.frames = inner ++ f :: outer
  reached : f.Reached chain callback (called outer.length steps)
  joined : List.Forall₂ Hook.Becomes (registered steps) (gathered inner d.slot)

/-- A dispatch is over: it has called its audience and nobody else, it answers whether one of them
kept the call, and its chain is back in front of all that was registered meanwhile. -/
structure Dispatched (chain : List Hook) (callback : Callback) (depth : Nat)
    (steps : List DispatchStep) (slot : List Hook) (consumed : Bool) : Prop where
  called : called depth steps = audience callback chain
  consumed : consumed = chain.any (·.consumes callback)
  slot : ∃ joined, slot = (audience callback chain).map (·.after callback) ++
      chain.drop (audience callback chain).length ++ joined ∧
    List.Forall₂ Hook.Becomes (registered steps) joined

/-! ### One step -/

section Step

variable {chain slot : List Hook} {callback : Callback} {outer inner : List DispatchFrame}
  {steps : List DispatchStep} {s : Dispatcher} {f g : DispatchFrame} {p : Progress}

theorem Underway.called_snoc (underway : Underway chain callback outer steps s [] f) :
    called outer.length (steps ++ [⟨s, (), p⟩]) =
      called outer.length steps ++ f.calls.toList := by
  rw [Dispatcher.called_snoc]
  simp [calls, underway.frames]

theorem Underway.registered_snoc (underway : Underway chain callback outer steps s [] f) :
    registered (steps ++ [⟨s, (), p⟩]) = registered steps ++ f.registers.toList := by
  rw [Dispatcher.registered_snoc]
  simp [registers, underway.frames]

theorem Underway.called_snoc_inside
    (underway : Underway chain callback outer steps s (g :: inner) f) :
    called outer.length (steps ++ [⟨s, (), p⟩]) = called outer.length steps := by
  have deeper : (inner ++ f :: outer).length ≠ outer.length := by
    rw [List.length_append, List.length_cons]
    omega
  rw [Dispatcher.called_snoc, calls, underway.frames]
  simp only [List.cons_append, if_neg deeper, Option.toList_none, List.append_nil]

theorem Underway.registered_snoc_inside
    (underway : Underway chain callback outer steps s (g :: inner) f) :
    registered (steps ++ [⟨s, (), p⟩]) = registered steps ++ g.registers.toList := by
  rw [Dispatcher.registered_snoc]
  simp [registers, underway.frames]

/-- What the innermost of some dispatches makes of the hooks in them and in the slot with a step:
one may be called, and one may join them at the end. -/
theorem Advanced.regathers (made : Advanced slot g (inner ++ outer) p) {l : List Hook}
    (joined : List.Forall₂ Hook.Becomes l (gathered (g :: inner) slot)) :
    (∃ inner', p.next.frames = inner' ++ outer ∧
      List.Forall₂ Hook.Becomes (l ++ g.registers.toList) (gathered inner' p.next.slot)) ∨
      ∃ slot message, p = .panicked slot message := by
  rw [gathered_cons] at joined
  have silent (quiet : g.registers = none) (inner' : List DispatchFrame)
      (frames : p.next.frames = inner' ++ outer)
      (joined : List.Forall₂ Hook.Becomes l (gathered inner' p.next.slot)) :
      ∃ inner', p.next.frames = inner' ++ outer ∧
        List.Forall₂ Hook.Becomes (l ++ g.registers.toList) (gathered inner' p.next.slot) :=
    ⟨inner', frames, by simpa [quiet] using joined⟩
  cases made with
  | @registered h k as running =>
    refine .inl ⟨{ g with running := some (h, as) } :: inner, rfl, ?_⟩
    have registers : g.registers = some k := by simp [DispatchFrame.registers, running]
    rw [registers, Progress.next, gathered_cons, chain_of_running running, ← List.append_assoc,
      gathered_append]
    exact becomes_of_registration k joined
  | @entered h callback' as running =>
    refine .inl (silent (by simp [DispatchFrame.registers, running])
      (⟨callback', [], none, false, slot⟩ :: { g with running := some (h, as) } :: inner) rfl ?_)
    rw [Progress.next, enter, gathered_cons, gathered_cons, chain_of_running running]
    simpa [DispatchFrame.chain] using joined
  | @pointed h input as running =>
    refine .inl (silent (by simp [DispatchFrame.registers, running])
      ({ g with running := some (h, as) } :: inner) rfl ?_)
    rwa [Progress.next, gathered_cons, chain_of_running running]
  | panicked running => exact .inr ⟨_, _, rfl⟩
  | @passed h running free =>
    refine .inl (silent (by simp [DispatchFrame.registers, running])
      ({ g with visited := g.visited ++ [h], running := none } :: inner) rfl ?_)
    rwa [Progress.next, gathered_cons, chain_of_passed running]
  | kept running keeps =>
    refine .inl (silent (by simp [DispatchFrame.registers, running]) inner
      (by rw [finished_next]) ?_)
    rwa [finished_next]
  | @called h hs running waiting =>
    refine .inl (silent (by simp [DispatchFrame.registers, running]) (_ :: inner) rfl ?_)
    rw [chain_of_called running waiting, gathered_around] at joined
    simpa [gathered, DispatchFrame.chain, Progress.next, Hook.after] using
      becomes_of_call g.callback joined
  | exhausted running waiting =>
    refine .inl (silent (by simp [DispatchFrame.registers, running]) inner
      (by rw [finished_next]) ?_)
    rwa [finished_next]

/-- A step of a dispatch inside leaves the dispatch under way: it does nothing itself, and only
what was registered since it began has to be followed. -/
theorem Underway.step_inside (underway : Underway chain callback outer steps s (g :: inner) f)
    (made : Advanced s.slot g (inner ++ f :: outer) p) :
    (∃ inner', Underway chain callback outer (steps ++ [⟨s, (), p⟩]) p.next inner' f) ∨
      ∃ slot message, p = .panicked slot message := by
  obtain ⟨inner', frames, joined⟩ | panicked := made.regathers underway.joined
  · refine .inl ⟨inner', frames, ?_, ?_⟩
    · rw [underway.called_snoc_inside]
      exact underway.reached
    · rwa [underway.registered_snoc_inside]
  · exact .inr panicked

/-- A step of the dispatch itself leaves it under way or ends it. -/
theorem Underway.step_own (underway : Underway chain callback outer steps s [] f)
    (made : Advanced s.slot f outer p) :
    (∃ inner' f', Underway chain callback outer (steps ++ [⟨s, (), p⟩]) p.next inner' f') ∨
      (∃ slot message, p = .panicked slot message) ∨
      ∃ slot consumed, p = finished outer callback slot consumed ∧
        Dispatched chain callback outer.length (steps ++ [⟨s, (), p⟩]) slot consumed := by
  have reached := underway.reached
  have joined : List.Forall₂ Hook.Becomes (registered steps) s.slot := underway.joined
  have goes_on (inner' : List DispatchFrame) (f' : DispatchFrame)
      (frames : p.next.frames = inner' ++ f' :: outer)
      (reached : f'.Reached chain callback (called outer.length steps ++ f.calls.toList))
      (joined : List.Forall₂ Hook.Becomes (registered steps ++ f.registers.toList)
        (gathered inner' p.next.slot)) :
      ∃ inner' f', Underway chain callback outer (steps ++ [⟨s, (), p⟩]) p.next inner' f' := by
    refine ⟨inner', f', frames, ?_, ?_⟩
    · rwa [underway.called_snoc]
    · rwa [underway.registered_snoc]
  have ends {consumed : Bool} (eq : p = finished outer f.callback (f.chain ++ s.slot) consumed)
      (quiet : f.calls = none) (silent : f.registers = none)
      (complete : called outer.length steps = audience callback chain ∧
        chain.any (·.consumes callback) = consumed ∧
        f.chain = (called outer.length steps).map (·.after callback) ++
          chain.drop (called outer.length steps).length) :
      ∃ slot consumed, p = finished outer callback slot consumed ∧
        Dispatched chain callback outer.length (steps ++ [⟨s, (), p⟩]) slot consumed := by
    obtain ⟨heard, any, back⟩ := complete
    refine ⟨f.chain ++ s.slot, consumed, by rw [eq, reached.callback_eq], ?_, any.symm,
      s.slot, ?_, ?_⟩
    · rw [underway.called_snoc, quiet, Option.toList_none, List.append_nil, heard]
    · rw [back, heard]
    · rwa [underway.registered_snoc, silent, Option.toList_none, List.append_nil]
  cases made with
  | @registered h g as running =>
    refine .inl (goes_on [] { f with running := some (h, as) } rfl ?_ ?_)
    · simpa [DispatchFrame.calls, running] using reached.resume running
    · simpa [DispatchFrame.registers, running, gathered, Progress.next] using
        becomes_of_registration g joined
  | @entered h callback' as running =>
    refine .inl (goes_on [⟨callback', [], none, false, s.slot⟩] { f with running := some (h, as) }
      rfl ?_ ?_)
    · simpa [DispatchFrame.calls, running] using reached.resume running
    · simpa [DispatchFrame.registers, running, gathered, Progress.next, enter,
        DispatchFrame.chain] using joined
  | @pointed h input as running =>
    refine .inl (goes_on [] { f with running := some (h, as) } rfl ?_ ?_)
    · simpa [DispatchFrame.calls, running] using reached.resume running
    · simpa [DispatchFrame.registers, running, gathered, Progress.next] using joined
  | panicked running => exact .inr (.inl ⟨_, _, rfl⟩)
  | passed running free =>
    refine .inl (goes_on [] _ rfl ?_ ?_)
    · simpa [DispatchFrame.calls, running] using reached.pass running free
    · simpa [DispatchFrame.registers, running, gathered, Progress.next] using joined
  | kept running keeps =>
    exact .inr (.inr (ends rfl (by simp [DispatchFrame.calls, running])
      (by simp [DispatchFrame.registers, running]) (reached.of_kept running keeps)))
  | called running waiting =>
    refine .inl (goes_on [] _ rfl ?_ ?_)
    · simpa [DispatchFrame.calls, running, waiting] using reached.call running waiting
    · simpa [DispatchFrame.registers, running, gathered, Progress.next] using joined
  | exhausted running waiting =>
    exact .inr (.inr (ends rfl (by simp [DispatchFrame.calls, running, waiting])
      (by simp [DispatchFrame.registers, running]) (reached.of_exhausted running waiting)))

end Step

/-! ### The whole dispatch -/

theorem underway_enter (chain : List Hook) (callback : Callback) (outer : List DispatchFrame) :
    Underway chain callback outer [] (enter chain outer callback) []
      { callback, waiting := chain } :=
  ⟨rfl, .between rfl nofun, .nil⟩

theorem Underway.step {chain : List Hook} {callback : Callback}
    {outer inner : List DispatchFrame} {steps : List DispatchStep} {s : Dispatcher}
    {f : DispatchFrame} {p : Progress} (underway : Underway chain callback outer steps s inner f)
    (taken : s.advance () = some p) :
    (∃ inner' f', Underway chain callback outer (steps ++ [⟨s, (), p⟩]) p.next inner' f') ∨
      (∃ slot message, p = .panicked slot message) ∨
      ∃ slot consumed, p = finished outer callback slot consumed ∧
        Dispatched chain callback outer.length (steps ++ [⟨s, (), p⟩]) slot consumed := by
  rw [advance, underway.frames] at taken
  cases inner with
  | nil =>
    obtain rfl := Option.some.inj taken
    exact underway.step_own (advanced _ _ _)
  | cons g inner =>
    obtain rfl := Option.some.inj taken
    obtain ⟨inner', goes_on⟩ | panicked := underway.step_inside (advanced _ _ _)
    · exact .inl ⟨inner', f, goes_on⟩
    · exact .inr (.inl panicked)

/-- A dispatch that has not been left is under way. -/
theorem Course.underway {chain : List Hook} {callback : Callback} {outer : List DispatchFrame}
    {steps : List DispatchStep} {d : Dispatcher}
    (course : Course (enter chain outer callback) steps d)
    (inside : ∀ x ∈ steps, outer.length < x.before.frames.length)
    (still : outer.length < d.frames.length) :
    ∃ inner f, Underway chain callback outer steps d inner f := by
  induction course with
  | nil => exact ⟨[], _, underway_enter chain callback outer⟩
  | @snoc steps s _ p path taken ih =>
    obtain ⟨inner, f, underway⟩ := ih (fun x mem => inside x (by simp [mem]))
      (inside ⟨s, (), p⟩ (by simp))
    obtain goes_on | ⟨slot, message, rfl⟩ | ⟨slot, consumed, rfl, -⟩ := underway.step taken
    · exact goes_on
    · simp [Progress.next] at still
    · simp [finished_next] at still

/-- A step with which a dispatch is left ends it. -/
theorem Course.ends {chain : List Hook} {callback : Callback} {outer : List DispatchFrame}
    {steps : List DispatchStep} {x : DispatchStep} {d : Dispatcher}
    (course : Course (enter chain outer callback) (steps ++ [x]) d)
    (inside : ∀ y ∈ steps ++ [x], outer.length < y.before.frames.length)
    (left : d.frames.length ≤ outer.length) :
    (∃ slot message, x.result = .panicked slot message) ∨
      ∃ slot consumed, x.result = finished outer callback slot consumed ∧
        Dispatched chain callback outer.length (steps ++ [x]) slot consumed := by
  obtain ⟨path, taken, rfl⟩ := Path.of_snoc course
  obtain ⟨s, ⟨⟩, p⟩ := x
  obtain ⟨inner, f, underway⟩ :=
    Course.underway path (fun y mem => inside y (by simp [mem])) (inside _ (by simp))
  obtain ⟨inner', f', goes_on⟩ | ended := underway.step taken
  · rw [goes_on.frames, List.length_append, List.length_cons] at left
    omega
  · exact ended

/-- Every step of a course is made by a dispatch under way. -/
theorem Course.frames_ne_nil {start d : Dispatcher} {steps : List DispatchStep}
    (course : Course start steps d) {x : DispatchStep} (mem : x ∈ steps) : x.before.frames ≠ [] := by
  intro none
  have taken := Path.taken_of_mem course mem
  rw [advance, none] at taken
  cases taken

/-- A dispatch that returns was carried out in steps. -/
theorem dispatch_course {chain : List Hook} {callback : Callback} {consumed : Bool}
    (returned : (dispatch chain callback).outcome = .returned consumed) :
    ∃ steps, Course (enter chain [] callback) steps ⟨(dispatch chain callback).slot, []⟩ ∧
      (dispatch chain callback).signals = .touched :: steps.flatMap (fun x => x.result.signals) ∧
      Dispatched chain callback 0 steps (dispatch chain callback).slot consumed := by
  obtain ⟨steps, x, course, seen, returns⟩ := run_course [] { callback, waiting := chain } []
  have inside : ∀ y ∈ steps ++ [x], 0 < y.before.frames.length := fun y mem =>
    List.length_pos_iff.2 (Course.frames_ne_nil course mem)
  have last := returns consumed returned
  obtain ⟨slot, message, panics⟩ | ⟨slot, consumed', eq, dispatched⟩ :=
    Course.ends course inside (Nat.le_refl 0)
  · rw [last] at panics
    cases panics
  · rw [last] at eq
    cases eq
    exact ⟨steps ++ [x], course, congrArg (Signal.touched :: ·) seen, dispatched⟩

end Dispatcher

theorem audience_of_unkept {callback : Callback} (unkept : ∀ event, callback ≠ .key event)
    (chain : List Hook) : audience callback chain = chain := by
  refine audience_of_passed fun h _ => ?_
  cases callback with
  | key event => exact absurd rfl (unkept event)
  | _ => rfl

/-! ### Hooks that register others -/

/-- Somebody presses the enter key. -/
def enterPressed : Callback := .key ⟨13, 28, .press, none, false⟩

/-- A hook that keeps all keys, and registers a guest when it is called with the first. -/
def newcomer : Hook :=
  .mk { name := "newcomer", consumes := .always true } [.mk .key [.register (.idle "guest")]]

/-- A hook that registers a newcomer, presses the key once more, and registers another hook. -/
def registrar : Hook :=
  .mk { name := "registrar", consumes := .always false }
    [.mk .key [.register newcomer, .enter enterPressed, .register (.idle "last")]]

theorem newcomer_calm : newcomer.Calm := by
  refine ⟨?_, ?_⟩ <;> simp [newcomer, Hook.script, Reaction.actions, idle_calm]

theorem registrar_calm : registrar.Calm := by
  refine ⟨?_, ?_⟩ <;> simp [registrar, Hook.script, Reaction.actions, idle_calm, newcomer_calm]

/-! ### Dispatches of a view -/

namespace View

variable {σ : Type}

open Dispatcher

/-- A dispatch whose hooks do not panic returns.  It has called the hooks of the chain in order, up
to the first that keeps the call, each once, and none that was registered meanwhile; only keys are
kept, and the answer is whether this one was.  The chain that the dispatch leaves is the chain
that it found, followed by all hooks that were registered meanwhile, in that order. -/
theorem chain_survives_reentrancy {v : View σ} {callback : Callback}
    (calm : ∀ h ∈ v.hooks, h.Calm) :
    ∃ steps consumed,
      Course (enter v.hooks [] callback) steps ⟨(v.notify callback).state.hooks, []⟩ ∧
      (dispatch v.hooks callback).signals =
        .touched :: steps.flatMap (fun x => x.result.signals) ∧
      (v.notify callback).outcome = .returned consumed ∧
      called 0 steps = audience callback v.hooks ∧
      ((∀ event, callback ≠ .key event) → called 0 steps = v.hooks) ∧
      (consumed = true ↔ ∃ h ∈ v.hooks, h.consumes callback = true) ∧
      ∃ joined, (v.notify callback).state.hooks =
          (audience callback v.hooks).map (·.after callback) ++
            v.hooks.drop (audience callback v.hooks).length ++ joined ∧
        List.Forall₂ Hook.Becomes (registered steps) joined := by
  obtain ⟨⟨consumed, returned⟩, -⟩ := dispatch_calm calm callback
  obtain ⟨steps, course, seen, dispatched⟩ := dispatch_course returned
  refine ⟨steps, consumed, course, seen, returned, dispatched.called, fun unkept => ?_, ?_,
    dispatched.slot⟩
  · rw [dispatched.called, audience_of_unkept unkept]
  · rw [dispatched.consumed, List.any_eq_true]

/-- A view with two hooks, the first of which is a registrar. -/
def typing : View Unit where
  handshake := { coordinator := { surface := { device := (), target := ⟨1⟩ } }, scale := 1.0 }
  hooks := [registrar, .idle "reader"]

/-- The newcomer keeps the second key and its guest comes next, but both hooks that were there get
the first key and stay in front. -/
theorem registrar_stays_in_front :
    (∀ h ∈ typing.hooks, h.Calm) ∧ ∃ steps,
      Course (enter typing.hooks [] enterPressed) steps
        ⟨(typing.notify enterPressed).state.hooks, []⟩ ∧
      (typing.notify enterPressed).outcome = .returned false ∧
      called 0 steps = [registrar, .idle "reader"] ∧
      (typing.notify enterPressed).state.hooks =
        [registrar.after enterPressed, .idle "reader"] ++
          [newcomer.after enterPressed, .idle "guest", .idle "last"] ∧
      List.Forall₂ Hook.Becomes (registered steps)
        [newcomer.after enterPressed, .idle "guest", .idle "last"] := by
  have calm : ∀ h ∈ typing.hooks, h.Calm := by
    simp [typing, registrar_calm, idle_calm]
  have returns : (dispatch [registrar, .idle "reader"] enterPressed).outcome = .returned false := by
    cbv
  have left : (dispatch [registrar, .idle "reader"] enterPressed).slot =
      [registrar.after enterPressed, .idle "reader"] ++
        [newcomer.after enterPressed, .idle "guest", .idle "last"] := by
    cbv
  obtain ⟨steps, consumed, course, -, -, calls, -, -, joined, back, become⟩ :=
    @chain_survives_reentrancy Unit typing enterPressed calm
  have hears : audience enterPressed typing.hooks = [registrar, .idle "reader"] := rfl
  rw [hears] at calls back
  obtain rfl := List.append_cancel_left (left.symm.trans back)
  exact ⟨calm, steps, course, returns, calls, left, become⟩

end View

end HostView
