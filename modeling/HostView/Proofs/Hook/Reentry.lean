import HostView.Proofs.Hook.Chain

/-!
# What a dispatch entered from a hook reaches

A dispatch that a hook enters takes what it finds in the slot.  The chain of the dispatch around
it is not there, but the hooks are that were registered since the dispatch around it began
(`reentrant_dispatch_reaches_newcomers`).  So it reaches nobody only if none was registered, and a
newcomer can keep a key before the outermost dispatch is over (`newcomer_keeps_reentrant_key`).
-/

namespace HostView

namespace Dispatcher

/-- When the innermost dispatch has its turn, the slot holds the hooks that were registered since
it began. -/
theorem Course.slot_at_turn {chain : List Hook} {callback : Callback}
    {outer : List DispatchFrame} {steps : List DispatchStep} {d : Dispatcher} {f : DispatchFrame}
    (course : Course (enter chain outer callback) steps d)
    (inside : ∀ x ∈ steps, outer.length < x.before.frames.length)
    (turn : d.frames = f :: outer) : List.Forall₂ Hook.Becomes (registered steps) d.slot := by
  obtain ⟨inner, g, underway⟩ := Course.underway course inside (by simp [turn])
  obtain rfl : inner = [] := by
    simpa using congrArg List.length (underway.frames.symm.trans turn)
  exact underway.joined

/-- A dispatch to calm hooks, wherever it is entered, comes to its end. -/
theorem dispatched_of_calm {chain : List Hook} {outer : List DispatchFrame}
    (calm : Calm ⟨chain, outer⟩) (callback : Callback) :
    ∃ steps x slot consumed, Course (enter chain outer callback) (steps ++ [x]) ⟨slot, outer⟩ ∧
      (∀ y ∈ steps ++ [x], outer.length < y.before.frames.length) ∧
      x.result = finished outer callback slot consumed ∧
      Dispatched chain callback outer.length (steps ++ [x]) slot consumed := by
  obtain ⟨all, last, toEnd, -⟩ := run_course [] { callback, waiting := chain } outer
  -- everything comes to an end, and the dispatch itself with the first step that leaves it
  obtain ⟨-, deep⟩ | ⟨steps, x, later, cut, inside, left⟩ :=
    Path.kept_or_lost (P := fun d => outer.length < d.frames.length) toEnd
      (by rw [List.length_cons]; exact Nat.lt_succ_self _)
  · exact absurd deep (Nat.not_lt_zero _)
  rw [cut] at toEnd
  obtain ⟨path, taken, -⟩ := Path.split toEnd
  have course : Course (enter chain outer callback) (steps ++ [x]) x.result.next :=
    path.snoc taken
  obtain ⟨slot, message, panics⟩ | ⟨slot, consumed, returns, dispatched⟩ :=
    Course.ends course inside (Nat.not_lt.1 left)
  · exact absurd panics ((((calm.enter callback).course path).advance taken).2 slot message)
  · rw [returns, finished_next] at course
    exact ⟨steps, x, slot, consumed, course, inside, returns, dispatched⟩

/-- A hook enters a dispatch while calm hooks are called.  The dispatch returns to it, having
called the audience among the hooks that were registered since the dispatch around it began, and
answers whether one of them kept the call; if none was registered, it calls nobody. -/
theorem reentrant_dispatch_reaches_newcomers {chain : List Hook} {callback c : Callback}
    {outer : List DispatchFrame} {steps : List DispatchStep} {s : Dispatcher} {f : DispatchFrame}
    {h : Hook} {as : List Action} (calm : Calm ⟨chain, outer⟩)
    (course : Course (enter chain outer callback) steps s)
    (inside : ∀ x ∈ steps, outer.length < x.before.frames.length)
    (frames : s.frames = f :: outer) (running : f.running = some (h, .enter c :: as)) :
    let around := { f with running := some (h, as) } :: outer
    s.advance () = some (.onward (enter s.slot around c) [.touched]) ∧
      List.Forall₂ Hook.Becomes (registered steps) s.slot ∧
      ∃ nested x slot consumed, Course (enter s.slot around c) (nested ++ [x]) ⟨slot, around⟩ ∧
        (∀ y ∈ nested ++ [x], around.length < y.before.frames.length) ∧
        x.result.signals = [.touched, .returned c consumed] ∧
        called around.length (nested ++ [x]) = audience c s.slot ∧
        (consumed = true ↔ ∃ g ∈ s.slot, g.consumes c = true) ∧
        (registered steps = [] →
          called around.length (nested ++ [x]) = [] ∧ consumed = false) := by
  intro around
  have entered : s.advance () = some (.onward (enter s.slot around c) [.touched]) := by
    simp [advance, frames, step, running, around]
  have joined := course.slot_at_turn inside frames
  have calmHere : Calm ⟨s.slot, f :: outer⟩ := frames ▸ (calm.enter callback).course course
  obtain ⟨nested, x, slot, consumed, returnsToHook, within, returns, dispatched⟩ :=
    dispatched_of_calm (calmHere.resume running) c
  refine ⟨entered, joined, nested, x, slot, consumed, returnsToHook, within, ?_,
    dispatched.called, ?_, fun quiet => ?_⟩
  · rw [returns]
    rfl
  · rw [dispatched.consumed, List.any_eq_true]
  · rw [quiet] at joined
    have empty : s.slot = [] := List.forall₂_nil_left_iff.1 joined
    refine ⟨?_, ?_⟩
    · rw [dispatched.called, empty]
      rfl
    · rw [dispatched.consumed, empty]
      rfl

/-- The first two steps of a dispatch to a registrar: it is called, and registers the newcomer. -/
def registrarSteps : List DispatchStep :=
  Path.record advance Progress.next (enter [registrar] [] enterPressed) [(), ()]

/-- The dispatch to the registrar, which is about to press the key once more. -/
def registrarAtKey : DispatchFrame where
  callback := enterPressed
  running := some (registrar.after enterPressed, [.enter enterPressed, .register (.idle "last")])
  waiting := []

/-- The key that the registrar presses gets to the newcomer, which keeps it. -/
theorem newcomer_gets_key_of_registrar :
    ∃ (around : List DispatchFrame) (nested : List DispatchStep) (x : DispatchStep)
      (slot : List Hook),
      around.length = 1 ∧
      Course (enter [newcomer] around enterPressed) (nested ++ [x]) ⟨slot, around⟩ ∧
      called 1 (nested ++ [x]) = [newcomer] ∧
      x.result.signals = [.touched, .returned enterPressed true] := by
  have calm : Calm ⟨[registrar], []⟩ := ⟨by simp [registrar_calm], nofun⟩
  have course : Course (enter [registrar] [] enterPressed) registrarSteps
      ⟨[newcomer], [registrarAtKey]⟩ :=
    (Path.nil.snoc rfl).snoc rfl
  have inside : ∀ x ∈ registrarSteps, 0 < x.before.frames.length := fun x mem =>
    List.length_pos_iff.2 (Course.frames_ne_nil course mem)
  obtain ⟨-, -, nested, x, slot, consumed, returns, -, signals, calls, kept, -⟩ :=
    reentrant_dispatch_reaches_newcomers calm course inside rfl rfl
  obtain rfl : consumed = true := kept.2 ⟨newcomer, by simp, rfl⟩
  exact ⟨_, nested, x, slot, rfl, returns, calls, signals⟩

/-- A key that is pressed while the registrar is called can be kept: the newcomer is called with
it, and keeps it, before the dispatch to the registrar has returned. -/
theorem newcomer_keeps_reentrant_key :
    (∀ h ∈ [registrar], h.Calm) ∧
      (dispatch [registrar] enterPressed).outcome = .returned false ∧
      (dispatch [registrar] enterPressed).signals =
        [.touched, .called registrar.manner enterPressed,
          -- the newcomer is registered, and the second dispatch takes it out of the slot
          .touched, .touched, .called newcomer.manner enterPressed,
          -- its guest is registered, and the second dispatch ends
          .touched, .touched, .returned enterPressed true,
          -- the last hook is registered, and the dispatch to the registrar ends
          .touched, .touched] := by
  refine ⟨by simp [registrar_calm], ?_, ?_⟩
  · cbv
  · cbv

end Dispatcher

end HostView
