import HostView.Hook.Dispatch
import HostView.Proofs.Path

/-!
# The steps of a dispatch

A dispatch to the hooks is a path of single steps (`Dispatcher.Course`), each made by the
innermost dispatch under way.  `Advanced` lists what a step can come to.  Which hooks a dispatch
calls and which hooks are registered while it runs is read off its steps (`called`,
`registered`), and `run_course` says that every dispatch has such a path, to the chain that it
leaves.
-/

namespace HostView

/-- What a step leaves; when the outermost dispatch has ended, no dispatch is under way. -/
def Progress.next : Progress → Dispatcher
  | .onward next _ => next
  | .ended slot _ _ => ⟨slot, []⟩
  | .panicked slot _ => ⟨slot, []⟩

/-- What is seen of a step. -/
def Progress.signals : Progress → List Signal
  | .onward _ signals => signals
  | .ended _ _ signals => signals
  | .panicked _ _ => []

/-- The hook that a dispatch calls with its next step. -/
def DispatchFrame.calls (f : DispatchFrame) : Option Hook :=
  match f.running, f.waiting with
  | none, h :: _ => some h
  | _, _ => none

/-- The hook that is registered with the next step of a dispatch. -/
def DispatchFrame.registers (f : DispatchFrame) : Option Hook :=
  match f.running with
  | some (_, .register g :: _) => some g
  | _ => none

namespace Dispatcher

/-- One step of the innermost dispatch, if any dispatch is under way. -/
def advance (d : Dispatcher) (_ : Unit) : Option Progress :=
  match d.frames with
  | [] => none
  | f :: outer => some (step d.slot f outer)

/-- A step that was taken. -/
abbrev DispatchStep := StepTaken Dispatcher Unit Progress

/-- The steps from one dispatcher to another. -/
abbrev Course (start : Dispatcher) (steps : List DispatchStep) (d : Dispatcher) : Prop :=
  Path advance Progress.next start steps d

/-- The hook that the innermost dispatch calls next, if `depth` dispatches are around it. -/
def calls (depth : Nat) (d : Dispatcher) : Option Hook :=
  match d.frames with
  | [] => none
  | f :: outer => if outer.length = depth then f.calls else none

/-- The hook that is registered next. -/
def registers (d : Dispatcher) : Option Hook :=
  d.frames.head?.bind DispatchFrame.registers

/-- The hooks that were called in some steps by a dispatch with `depth` dispatches around it, each
as it was when it was called. -/
def called (depth : Nat) (steps : List DispatchStep) : List Hook :=
  steps.filterMap fun x => calls depth x.before

/-- The hooks that were registered in some steps, by whatever hook. -/
def registered (steps : List DispatchStep) : List Hook :=
  steps.filterMap fun x => registers x.before

theorem called_snoc (depth : Nat) (steps : List DispatchStep) (x : DispatchStep) :
    called depth (steps ++ [x]) = called depth steps ++ (calls depth x.before).toList := by
  cases h : calls depth x.before <;> simp [called, h]

theorem registered_snoc (steps : List DispatchStep) (x : DispatchStep) :
    registered (steps ++ [x]) = registered steps ++ (registers x.before).toList := by
  cases h : registers x.before <;> simp [registered, h]

/-- How a dispatch ends: it leaves a chain in the slot and an answer to whoever made it. -/
def finished (outer : List DispatchFrame) (callback : Callback) (slot : List Hook)
    (consumed : Bool) : Progress :=
  match outer with
  | [] => .ended slot consumed [.touched]
  | _ :: _ => .onward ⟨slot, outer⟩ [.touched, .returned callback consumed]

theorem leave_eq (slot : List Hook) (f : DispatchFrame) (outer : List DispatchFrame)
    (consumed : Bool) :
    leave slot f outer consumed = finished outer f.callback (f.chain ++ slot) consumed := by
  cases outer <;> rfl

theorem finished_next (outer : List DispatchFrame) (callback : Callback) (slot : List Hook)
    (consumed : Bool) : (finished outer callback slot consumed).next = ⟨slot, outer⟩ := by
  cases outer <;> rfl

theorem finished_ne_panicked (outer : List DispatchFrame) (callback : Callback)
    (slot slot' : List Hook) (consumed : Bool) (message : String) :
    finished outer callback slot consumed ≠ .panicked slot' message := by
  cases outer <;> nofun

section Chain

variable {f : DispatchFrame} {h : Hook}

/-- What a hook does next leaves the chain of its dispatch alone. -/
theorem chain_of_running {as : List Action} (running : f.running = some (h, as))
    (as' : List Action) : { f with running := some (h, as') }.chain = f.chain := by
  simp [DispatchFrame.chain, running]

theorem chain_of_passed (running : f.running = some (h, [])) :
    { f with visited := f.visited ++ [h], running := none }.chain = f.chain := by
  simp [DispatchFrame.chain, running]

theorem chain_of_called {hs : List Hook} (running : f.running = none)
    (waiting : f.waiting = h :: hs) : f.chain = f.visited ++ h :: hs := by
  simp [DispatchFrame.chain, running, waiting]

end Chain

/-! ### What a step comes to -/

/-- What a step of the innermost dispatch comes to. -/
inductive Advanced (slot : List Hook) (f : DispatchFrame) (outer : List DispatchFrame) :
    Progress → Prop
  | registered {h g : Hook} {as : List Action} (running : f.running = some (h, .register g :: as)) :
      Advanced slot f outer
        (.onward ⟨slot ++ [g], { f with running := some (h, as) } :: outer⟩ [.touched])
  | entered {h : Hook} {callback : Callback} {as : List Action}
      (running : f.running = some (h, .enter callback :: as)) :
      Advanced slot f outer
        (.onward (enter slot ({ f with running := some (h, as) } :: outer) callback) [.touched])
  | pointed {h : Hook} {input : PointerInput} {as : List Action}
      (running : f.running = some (h, .point input :: as)) :
      Advanced slot f outer
        (.onward ⟨slot, { f with running := some (h, as) } :: outer⟩ [.pointed input])
  | panicked {h : Hook} {message : String} {as : List Action}
      (running : f.running = some (h, .panic message :: as)) :
      Advanced slot f outer (.panicked slot message)
  /-- The hook that was called does not keep the call. -/
  | passed {h : Hook} (running : f.running = some (h, [])) (free : f.keeps = false) :
      Advanced slot f outer
        (.onward ⟨slot, { f with visited := f.visited ++ [h], running := none } :: outer⟩ [])
  /-- The hook that was called keeps the call, and the dispatch ends. -/
  | kept {h : Hook} (running : f.running = some (h, [])) (keeps : f.keeps = true) :
      Advanced slot f outer (finished outer f.callback (f.chain ++ slot) true)
  | called {h : Hook} {hs : List Hook} (running : f.running = none) (waiting : f.waiting = h :: hs) :
      Advanced slot f outer
        (.onward
          ⟨slot,
            { f with
              running := some ((h.react f.callback).2, (h.react f.callback).1)
              keeps := h.consumes f.callback
              waiting := hs } :: outer⟩
          [.called h.manner f.callback])
  /-- All hooks were called, and the dispatch ends. -/
  | exhausted (running : f.running = none) (waiting : f.waiting = []) :
      Advanced slot f outer (finished outer f.callback (f.chain ++ slot) false)

theorem advanced (slot : List Hook) (f : DispatchFrame) (outer : List DispatchFrame) :
    Advanced slot f outer (step slot f outer) := by
  obtain ⟨callback, visited, running, keeps, waiting⟩ := f
  rcases running with _ | ⟨h, _ | ⟨a, as⟩⟩
  · cases waiting with
    | nil =>
      rw [step, leave_eq]
      exact .exhausted rfl rfl
    | cons h hs => exact .called rfl rfl
  · cases keeps with
    | true => simpa [step, leave_eq] using Advanced.kept rfl rfl
    | false => exact .passed rfl rfl
  · cases a with
    | register g => exact .registered rfl
    | enter callback' => exact .entered rfl
    | point input => exact .pointed rfl
    | panic message => exact .panicked rfl

/-- The innermost dispatch is never left without the dispatches around it. -/
theorem step_ne_onward_nil {slot slot' : List Hook} {f : DispatchFrame}
    {outer : List DispatchFrame} {signals : List Signal} :
    step slot f outer ≠ .onward ⟨slot', []⟩ signals := by
  intro h
  have made := advanced slot f outer
  generalize step slot f outer = p at h made
  cases made with
  | kept | exhausted => cases outer <;> cases h
  | _ => cases h

theorem signals_of_ended {slot slot' : List Hook} {f : DispatchFrame} {outer : List DispatchFrame}
    {consumed : Bool} {signals : List Signal}
    (h : step slot f outer = .ended slot' consumed signals) : signals = [.touched] := by
  have made := advanced slot f outer
  generalize step slot f outer = p at h made
  cases made with
  | kept | exhausted =>
    cases outer <;> cases h
    rfl
  | _ => cases h

/-! ### The path of a dispatch -/

/-- A dispatch makes its steps one after the other, and what is seen of it is what is seen of
them.  If it returns, it does so with the last of them. -/
theorem run_course (slot : List Hook) (f : DispatchFrame) (outer : List DispatchFrame) :
    ∃ steps x, Course ⟨slot, f :: outer⟩ (steps ++ [x]) ⟨(run slot f outer).slot, []⟩ ∧
      (run slot f outer).signals = (steps ++ [x]).flatMap (fun y => y.result.signals) ∧
      ∀ consumed, (run slot f outer).outcome = .returned consumed →
        x.result = .ended (run slot f outer).slot consumed [.touched] := by
  fun_induction run slot f outer with
  | case1 slot f outer slot' signals made => exact absurd made step_ne_onward_nil
  | case2 slot f outer slot' f' outer' signals made rest ih =>
    obtain ⟨steps, x, course, seen, returns⟩ := ih
    let first : DispatchStep := ⟨⟨slot, f :: outer⟩, (), .onward ⟨slot', f' :: outer'⟩ signals⟩
    exact ⟨first :: steps, x, course.cons (x := first) (congrArg some made),
      congrArg (signals ++ ·) seen, returns⟩
  | case3 slot f outer slot' consumed signals made =>
    let only : DispatchStep := ⟨⟨slot, f :: outer⟩, (), .ended slot' consumed signals⟩
    refine ⟨[], only, Path.nil.snoc (congrArg some made), by simp [only, Progress.signals], ?_⟩
    intro consumed' returned
    cases returned
    rw [← signals_of_ended made]
  | case4 slot f outer slot' message made =>
    let only : DispatchStep := ⟨⟨slot, f :: outer⟩, (), .panicked slot' message⟩
    exact ⟨[], only, Path.nil.snoc (congrArg some made), rfl, nofun⟩

end Dispatcher

end HostView
