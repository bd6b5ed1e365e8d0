import HostView.Proofs.Path
import HostView.Proofs.Work
import HostView.View.Basic

/-!
# Window events on their way to a view

An `Intake` is a view with the translator of the events of its window.  `Intake.forward` hands it
one event, and an `Intake.Course` is any sequence of events; it ends when a hook panics.

The calls to the hooks that are made for an event are found by running the program that fulfils a
request (`ViewRequest.perform`) with the calls seen instead of what they lead to
(`View.callsFor`).
-/

namespace HostView

/-! ### One program, seen in different ways -/

/-- Whether a computation has come to its end. -/
def Outcome.hasReturned {α : Type} : Outcome α → Bool
  | returned _ => true
  | panicked _ => false

namespace Work

variable {σ ε δ α β : Type}

/-- Two computations that differ at most in what is seen of them. -/
def Agrees (w : Work σ ε α) (w' : Work σ δ α) : Prop :=
  ∀ s, (w s).outcome = (w' s).outcome ∧ (w s).state = (w' s).state

theorem Agrees.pure (a : α) : Agrees (pure a : Work σ ε α) (pure a : Work σ δ α) :=
  fun _ => ⟨rfl, rfl⟩

theorem Agrees.bind {w : Work σ ε α} {w' : Work σ δ α} {f : α → Work σ ε β} {f' : α → Work σ δ β}
    (first : w.Agrees w') (second : ∀ a, (f a).Agrees (f' a)) : (w >>= f).Agrees (w' >>= f') := by
  intro s
  obtain ⟨outcome, state⟩ := first s
  rcases run : w s with ⟨a | m, t, es⟩ <;> rcases run' : w' s with ⟨a' | m', t', es'⟩ <;>
    rw [run, run'] at outcome state <;> cases outcome <;> cases state
  · rw [bind_of_returned run, bind_of_returned run']
    exact second a t
  · rw [bind_of_panicked run, bind_of_panicked run']
    exact ⟨rfl, rfl⟩

end Work

section Perform

variable {σ ε δ : Type}

/-- Makes calls to the hooks, one after the other. -/
def callAll (call : Callback → Work σ ε Bool) : List Callback → Work σ ε Unit
  | [] => pure ()
  | c :: cs => do
    let _ ← call c
    callAll call cs

/-- Does what is asked for, where `call` makes one call to the hooks and `point` reports about the
pointer. -/
def ViewRequest.perform (call : Callback → Work σ ε Bool) (point : PointerInput → Work σ ε Bool) :
    ViewRequest → Work σ ε Bool
  | .nothing => return false
  | .resize _ => return true
  | .point input => point input
  | .key event text => do
    if ← call (.key event) then return true
    match text with
    | none => return false
    | some text =>
      let _ ← call (.text text)
      return false
  | .compose calls => do
    callAll call calls
    return true

variable {call : Callback → Work σ ε Bool} {call' : Callback → Work σ δ Bool}
  {point : PointerInput → Work σ ε Bool} {point' : PointerInput → Work σ δ Bool}

theorem ViewRequest.perform_key (event : KeyEvent) (text : Option String) :
    (ViewRequest.key event text).perform call point =
      call (.key event) >>= fun consumed =>
        if consumed then pure true
        else
          match text with
          | none => pure false
          | some text => call (.text text) >>= fun _ => pure false :=
  rfl

theorem ViewRequest.perform_compose (calls : List Callback) :
    (ViewRequest.compose calls).perform call point =
      callAll call calls >>= fun _ => pure true :=
  rfl

theorem callAll_agrees (same : ∀ c, (call c).Agrees (call' c)) (cs : List Callback) :
    (callAll call cs).Agrees (callAll call' cs) := by
  induction cs with
  | nil => exact .pure ()
  | cons c cs ih => exact (same c).bind fun _ => ih

/-- What is done does not depend on what is seen of the calls. -/
theorem ViewRequest.perform_agrees (same : ∀ c, (call c).Agrees (call' c))
    (same' : ∀ input, (point input).Agrees (point' input)) (request : ViewRequest) :
    (request.perform call point).Agrees (request.perform call' point') := by
  cases request with
  | nothing => exact .pure false
  | resize size => exact .pure true
  | point input => exact same' input
  | key event text =>
    refine (same _).bind fun consumed => ?_
    cases consumed with
    | true => exact .pure true
    | false =>
      cases text with
      | none => exact .pure false
      | some text => exact (same _).bind fun _ => .pure false
  | compose calls => exact (callAll_agrees same calls).bind fun _ => .pure true

end Perform

namespace View

variable {σ : Type}

theorem notifyAll_eq (cs : List Callback) :
    (notifyAll cs : Work (View σ) Event Unit) = callAll (fun c v => v.notify c) cs := by
  induction cs with
  | nil => rfl
  | cons c cs ih => exact congrArg (fun rest => (fun v : View σ => v.notify c) >>= fun _ => rest) ih

/-- A request is fulfilled by this program. -/
theorem fulfil_eq (request : ViewRequest) :
    (fulfil request : Work (View σ) Event Bool) =
      request.perform (fun c v => v.notify c)
        fun input v => ⟨.returned true, (v.point input).1, (v.point input).2⟩ := by
  cases request with
  | compose calls =>
    exact congrArg (fun w : Work (View σ) Event Unit => w >>= fun _ => pure true)
      (notifyAll_eq calls)
  | _ => rfl

/-- A call to the hooks, seen as such. -/
def call (callback : Callback) : Work (View σ) Callback Bool := fun v =>
  ⟨(v.notify callback).outcome, (v.notify callback).state, [callback]⟩

theorem call_of_notify {v w : View σ} {c : Callback} {outcome : Outcome Bool} {es : List Event}
    (made : v.notify c = ⟨outcome, w, es⟩) : call c v = ⟨outcome, w, [c]⟩ := by
  rw [call, made]

/-- A report about the pointer, which is no call to the hooks. -/
def pointUnseen (input : PointerInput) : Work (View σ) Callback Bool := fun v =>
  ⟨.returned true, (v.point input).1, []⟩

/-- The calls to the hooks that are made in fulfilling a request; a panic ends them. -/
def callsFor (v : View σ) (request : ViewRequest) : List Callback :=
  (request.perform call pointUnseen v).events

/-- The calls are those of the work that is done. -/
theorem perform_call_agrees (request : ViewRequest) :
    (request.perform call pointUnseen : Work (View σ) Callback Bool).Agrees (fulfil request) := by
  have same (c : Callback) :
      (call c : Work (View σ) Callback Bool).Agrees (fun v : View σ => v.notify c) :=
    fun _ => ⟨rfl, rfl⟩
  rw [fulfil_eq]
  exact request.perform_agrees same fun _ _ => ⟨rfl, rfl⟩

/-- A key is offered to the hooks, and brings its text unless one of them keeps it. -/
theorem callsFor_key (v : View σ) (event : KeyEvent) (text : Option String) :
    v.callsFor (.key event text) =
      .key event ::
        if (v.notify (.key event)).outcome = .returned false then text.toList.map .text
        else [] := by
  rw [callsFor, ViewRequest.perform_key]
  rcases made : v.notify (.key event) with ⟨consumed | m, w, es⟩
  · rw [Work.bind_of_returned (call_of_notify made)]
    cases consumed with
    | true => simp
    | false =>
      cases text with
      | none => simp
      | some text =>
        rcases made' : w.notify (.text text) with ⟨_ | _, _, _⟩
        · simp [Work.bind_of_returned (call_of_notify made')]
        · simp [Work.bind_of_panicked (call_of_notify made')]
  · rw [Work.bind_of_panicked (call_of_notify made)]
    simp

/-- Of several calls all are made, or those up to a panic. -/
theorem callAll_events (cs : List Callback) (v : View σ) :
    (callAll call cs v).events <+: cs ∧ (cs ≠ [] → (callAll call cs v).events ≠ []) ∧
      ((callAll call cs v).outcome.hasReturned = true → (callAll call cs v).events = cs) := by
  induction cs generalizing v with
  | nil => simp [callAll]
  | cons c cs ih =>
    rw [callAll]
    rcases made : v.notify c with ⟨consumed | m, w, es⟩
    · obtain ⟨begun, -, whole⟩ := ih w
      rw [Work.bind_of_returned (call_of_notify made)]
      exact ⟨List.prefix_append_right_inj [c] |>.2 begun, by simp,
        fun returns => congrArg (c :: ·) (whole returns)⟩
    · rw [Work.bind_of_panicked (call_of_notify made)]
      exact ⟨List.prefix_append [c] cs, by simp, nofun⟩

theorem callsFor_compose (v : View σ) (cs : List Callback) :
    v.callsFor (.compose cs) <+: cs ∧ (cs ≠ [] → v.callsFor (.compose cs) ≠ []) ∧
      ((fulfil (.compose cs) v).outcome.hasReturned = true → v.callsFor (.compose cs) = cs) := by
  have made := callAll_events cs v
  rw [← (perform_call_agrees (.compose cs) v).1, callsFor,
    ViewRequest.perform_compose]
  rcases run : callAll call cs v with ⟨⟨⟩ | m, w, es⟩ <;> rw [run] at made
  · rw [Work.bind_of_returned run]
    simpa [Outcome.hasReturned] using made
  · rw [Work.bind_of_panicked run]
    simpa [Outcome.hasReturned] using made

end View

/-! ### Any sequence of events -/

/-- A view with the translator of the events of its window. -/
structure Intake (σ : Type) where
  view : View σ
  translator : Translator := {}
  /-- A hook has panicked, and no event is forwarded any more. -/
  unwound : Bool := false

/-- What an event comes to. -/
structure Forwarded (σ : Type) where
  next : Intake σ
  /-- The calls to the hooks that were made for it. -/
  calls : List Callback
  events : List Event
  outcome : Outcome Bool

namespace Intake

variable {σ : Type}

/-- An event is translated, and the view does what it asks for. -/
def forward (i : Intake σ) (e : WindowEvent) : Option (Forwarded σ) :=
  if i.unwound then none
  else
    let (translator, request) := i.translator.translate e
    let r := View.fulfil request i.view
    some
      { next := ⟨r.state, translator, !r.outcome.hasReturned⟩
        calls := i.view.callsFor request
        events := r.events
        outcome := r.outcome }

/-- A step that was taken. -/
abbrev IntakeStep (σ : Type) := StepTaken (Intake σ) WindowEvent (Forwarded σ)

/-- A sequence of window events. -/
abbrev Course (start : Intake σ) (steps : List (IntakeStep σ)) (i : Intake σ) : Prop :=
  Path forward Forwarded.next start steps i

/-- The calls to the hooks in some steps. -/
def calls (steps : List (IntakeStep σ)) : List Callback := steps.flatMap (·.result.calls)

theorem calls_snoc (steps : List (IntakeStep σ)) (x : IntakeStep σ) :
    calls (steps ++ [x]) = calls steps ++ x.result.calls := by
  simp [calls]

/-- What a step comes to. -/
theorem forward_eq {i : Intake σ} {e : WindowEvent} {r : Forwarded σ}
    (taken : i.forward e = some r) :
    i.unwound = false ∧ r.next.translator = (i.translator.translate e).1 ∧
      r.calls = i.view.callsFor (i.translator.translate e).2 ∧
      r.outcome = (View.fulfil (i.translator.translate e).2 i.view).outcome ∧
      r.next.unwound = !r.outcome.hasReturned := by
  rw [forward] at taken
  cases running : i.unwound with
  | true => simp [running] at taken
  | false =>
    rw [running] at taken
    obtain rfl := Option.some.inj taken
    exact ⟨rfl, rfl, rfl, rfl, rfl⟩

end Intake

end HostView
