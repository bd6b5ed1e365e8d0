import HostView.Proofs.Hook.Chain
import HostView.Proofs.Observer

/-!
# Hooks without a script

A hook without a script does on every call what its manner says and nothing else.  A dispatch to
such hooks calls all of them up to the first that keeps the call, and leaves the chain as it was
(`Dispatcher.dispatch_plain`), so that whatever is done at once on a view with such hooks makes the
calls that can be read off the request (`View.calls_fulfil`).
-/

namespace HostView

/-- A hook that has nothing but its manner. -/
def Hook.Plain (h : Hook) : Prop := h.script = []

theorem Hook.Plain.react {h : Hook} (plain : h.Plain) (callback : Callback) :
    h.react callback = ([], h) := by
  obtain ⟨manner, script⟩ := h
  obtain rfl : script = [] := plain
  rw [Hook.react]
  split <;> rfl

/-- Such a hook does nothing that could be forbidden. -/
theorem Hook.Plain.uses {allowed : Action → Prop} {h : Hook} (plain : h.Plain) :
    h.Uses allowed :=
  have none (r : Reaction) : r ∉ h.script := List.eq_nil_iff_forall_not_mem.1 plain r
  ⟨fun r mem => absurd mem (none r), fun r mem => absurd mem (none r)⟩

/-- The call to a hook that an event is. -/
def Event.hookCall : Event → Option (Manner × Callback)
  | .hook manner callback => some (manner, callback)
  | _ => none

theorem Event.observer_hookCall : Observer Event.hookCall :=
  ⟨fun _ => rfl, fun _ => rfl, fun _ => rfl⟩

theorem audience_cons (callback : Callback) (h : Hook) (hs : List Hook) :
    audience callback (h :: hs) =
      h :: if h.consumes callback then [] else audience callback hs := by
  cases keeps : h.consumes callback <;> simp [audience, List.findIdx_cons, keeps]

theorem Event.mem_hookCalls {es : List Event} {manner : Manner} {callback : Callback} :
    (manner, callback) ∈ es.filterMap Event.hookCall ↔ .hook manner callback ∈ es := by
  rw [List.mem_filterMap]
  constructor
  · rintro ⟨e, mem, same⟩
    cases e with
    | hook => cases same; exact mem
    | _ => cases same
  · exact fun mem => ⟨_, mem, rfl⟩

/-- The call to a hook that a signal is. -/
def Signal.hookCall : Signal → Option (Manner × Callback)
  | .called manner callback => some (manner, callback)
  | _ => none

/-- The calls that a dispatch to plain hooks makes. -/
def Hook.callsTo (callback : Callback) (chain : List Hook) : List (Manner × Callback) :=
  (audience callback chain).map fun h => (h.manner, callback)

namespace Dispatcher

variable {slot slot' : List Hook} {f f' : DispatchFrame} {outer outer' : List DispatchFrame}
  {signals : List Signal}

theorem run_of_onward (made : step slot f outer = .onward ⟨slot', f' :: outer'⟩ signals) :
    run slot f outer =
      { run slot' f' outer' with signals := signals ++ (run slot' f' outer').signals } := by
  rw [run]
  split <;> simp_all

theorem run_of_ended {consumed : Bool} (made : step slot f outer = .ended slot' consumed signals) :
    run slot f outer = ⟨.returned consumed, slot', signals⟩ := by
  rw [run]
  split <;> simp_all

/-- The rest of a dispatch that has passed some hooks. -/
theorem run_plain {visited waiting : List Hook} {keeps : Bool} {callback : Callback}
    (plain : ∀ h ∈ waiting, h.Plain) :
    run slot { callback, visited, keeps, waiting } [] =
      ⟨.returned (waiting.any (·.consumes callback)), visited ++ waiting ++ slot,
        ((audience callback waiting).map fun h => .called h.manner callback) ++ [.touched]⟩ := by
  induction waiting generalizing visited keeps with
  | nil =>
    refine (run_of_ended rfl).trans ?_
    simp [DispatchFrame.chain, audience]
  | cons h hs ih =>
    obtain ⟨plainHook, plain⟩ := List.forall_mem_cons.1 plain
    have called : step slot { callback, visited, keeps, waiting := h :: hs } [] =
        .onward ⟨slot,
          [{ callback
             visited
             running := some (h, [])
             keeps := h.consumes callback
             waiting := hs }]⟩ [.called h.manner callback] := by
      rw [step]
      dsimp only
      rw [plainHook.react callback]
    rw [run_of_onward called]
    cases keep : h.consumes callback with
    | true =>
      rw [run_of_ended rfl]
      simp [DispatchFrame.chain, audience_cons, keep]
    | false =>
      rw [run_of_onward rfl, ih plain]
      simp [audience_cons, keep]

/-- A dispatch to plain hooks calls all up to the first that keeps the call, and leaves the chain
as it was. -/
theorem dispatch_plain {chain : List Hook} (plain : ∀ h ∈ chain, h.Plain) (callback : Callback) :
    dispatch chain callback =
      ⟨.returned (chain.any (·.consumes callback)), chain,
        .touched :: (((audience callback chain).map fun h => .called h.manner callback) ++
          [.touched])⟩ := by
  rw [dispatch, run_plain plain, List.append_nil, List.nil_append]

end Dispatcher

namespace View

variable {σ : Type}

theorem hookCalls_pointerEvents (d : Dispatch) :
    (pointerEvents d).filterMap Event.hookCall = [] := by
  have looks := Event.observer_hookCall
  rw [pointerEvents, List.filterMap_append, looks.guarded, looks.logs, List.filterMap_map]
  exact List.filterMap_eq_nil_iff.2 fun _ _ => rfl

/-- Every call to a hook is heard, and no other. -/
theorem hookCalls_hear (pointer : Normalizer) (signals : List Signal) :
    (hear pointer signals).2.filterMap Event.hookCall = signals.filterMap Signal.hookCall := by
  have looks := Event.observer_hookCall
  induction signals generalizing pointer with
  | nil => rfl
  | cons signal signals ih =>
    cases signal with
    | touched => exact ih pointer
    | called manner callback =>
      simp only [hear, List.cons_append, List.filterMap_append, List.filterMap_cons, looks.logs, ih]
      rfl
    | pointed input =>
      rw [hear, List.filterMap_append, hookCalls_pointerEvents, ih]
      rfl
    | returned callback consumed => exact ih pointer

/-- Work on a view with certain plain hooks that returns, leaves the hooks in place, and makes
certain calls to them. -/
def Calls {α : Type} (hooks : List Hook) (w : Work (View σ) Event α) (a : α)
    (callbacks : List Callback) : Prop :=
  ∀ v, v.hooks = hooks → (w v).outcome = .returned a ∧ (w v).state.hooks = hooks ∧
    (w v).events.filterMap Event.hookCall = callbacks.flatMap (Hook.callsTo · hooks)

variable {hooks : List Hook}

theorem Calls.pure {α : Type} (a : α) : Calls hooks (pure a : Work (View σ) Event α) a [] :=
  fun _ same => ⟨rfl, same, rfl⟩

theorem Calls.bind {α β : Type} {w : Work (View σ) Event α} {f : α → Work (View σ) Event β}
    {a : α} {b : β} {first second : List Callback} (calls : Calls hooks w a first)
    (calls' : Calls hooks (f a) b second) : Calls hooks (w >>= f) b (first ++ second) := by
  intro v same
  obtain ⟨returns, kept, made⟩ := calls v same
  rcases run : w v with ⟨outcome, v', es⟩
  rw [run] at returns kept made
  obtain rfl : outcome = .returned a := returns
  obtain ⟨returns', kept', made'⟩ := calls' v' kept
  rw [Work.bind_of_returned run]
  refine ⟨returns', kept', ?_⟩
  rw [List.filterMap_append, List.flatMap_append, made, made']

/-- A call to plain hooks goes to all up to the first that keeps it. -/
theorem calls_notify (plain : ∀ h ∈ hooks, h.Plain) (callback : Callback) :
    Calls hooks (fun v : View σ => v.notify callback) (hooks.any (·.consumes callback))
      [callback] := by
  rintro v rfl
  have calls := hookCalls_hear v.pointer (Dispatcher.dispatch v.hooks callback).signals
  rw [Dispatcher.dispatch_plain plain callback] at calls
  dsimp only
  rw [notify, Dispatcher.dispatch_plain plain callback]
  refine ⟨rfl, rfl, calls.trans ?_⟩
  rw [List.filterMap_cons_none rfl, List.filterMap_append, List.filterMap_map,
    List.flatMap_singleton]
  exact (List.append_nil _).trans (congrFun List.filterMap_eq_map _)

theorem calls_notifyAll (plain : ∀ h ∈ hooks, h.Plain) (callbacks : List Callback) :
    Calls hooks (notifyAll callbacks : Work (View σ) Event Unit) () callbacks := by
  induction callbacks with
  | nil => exact .pure ()
  | cons c cs ih => exact .bind (calls_notify plain c) ih

/-- What plain hooks are told about a request: the text of a key only if none of them keeps the
key. -/
def told (hooks : List Hook) : ViewRequest → List Callback
  | .key event text =>
    .key event :: if hooks.any (·.consumes (.key event)) then [] else (text.map .text).toList
  | .compose calls => calls
  | _ => []

theorem calls_fulfil (plain : ∀ h ∈ hooks, h.Plain) (request : ViewRequest) :
    ∃ used, Calls hooks (fulfil request : Work (View σ) Event Bool) used (told hooks request) := by
  cases request with
  | nothing => exact ⟨false, .pure false⟩
  | resize size => exact ⟨true, .pure true⟩
  | point input =>
    refine ⟨true, fun v same => ⟨rfl, same, ?_⟩⟩
    exact hookCalls_pointerEvents _
  | key event text =>
    have first := calls_notify (σ := σ) plain (.key event)
    cases kept : hooks.any (·.consumes (.key event)) with
    | true =>
      rw [kept] at first
      refine ⟨true, ?_⟩
      rw [told, kept]
      exact .bind first (.pure true)
    | false =>
      rw [kept] at first
      refine ⟨false, ?_⟩
      rw [told, kept]
      refine .bind first ?_
      cases text with
      | none => exact .pure false
      | some text => exact .bind (calls_notify plain (.text text)) (.pure false)
  | compose calls =>
    refine ⟨true, ?_⟩
    rw [show told hooks (.compose calls) = calls ++ [] from (List.append_nil calls).symm]
    exact .bind (calls_notifyAll plain calls) (.pure true)

end View

end HostView
