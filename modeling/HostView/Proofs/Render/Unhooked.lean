import HostView.Proofs.Hook.Plain
import HostView.Proofs.Render.Moves
import HostView.Proofs.Resize.Section

/-!
# The threads of a session and the hooks

Hooks are called only by what is done at once for an event.  A move in the resize handshake calls
none (`Handshake.step_unhooked`), and so neither the threads of a session nor the render thread
ever call a hook or change the chain (`Session.step_unhooked`).
-/

namespace HostView

/-- No hook is called in a critical section. -/
theorem Event.hookCalls_of_inner {es : List Event} (inner : ∀ e ∈ es, e.isInner = true) :
    es.filterMap Event.hookCall = [] := by
  refine List.filterMap_eq_nil_iff.2 fun e mem => ?_
  have inside := inner e mem
  cases e with
  | hook => cases inside
  | _ => rfl

/-- Moves of the resize handshake call no hook. -/
theorem Handshake.step_unhooked {σ : Type} [SurfaceDevice σ] {h : Handshake σ} {t : ThreadId}
    {m : Move} {moved : Moved σ} (taken : h.step t m = some moved) :
    moved.events.filterMap Event.hookCall = [] := by
  have looks := Event.observer_hookCall
  have made := stepped taken
  cases m with
  | call call =>
    obtain nothing | ⟨es, guarded, inner⟩ := section_of_call made
    · rw [nothing]
      rfl
    · rw [guarded, looks.guarded, Event.hookCalls_of_inner inner]
  | proceed =>
    cases made with
    | registered _ run =>
      obtain ⟨records, rfl⟩ := Coordinator.register_logs run
      rw [looks.guarded, looks.logs]
    | told | done | woke => rfl
    | released | slept => rw [looks.guarded, looks.logs]
    | announced => rw [List.filterMap_cons_none rfl, looks.logs]

namespace Session

variable {σ : Type} {s : Session σ}

theorem carry_view (s : Session σ) (es : List Event) : (s.carry es).1.view = s.view := by
  rw [carry_state]
  rfl

/-- What an observer sees of the events that are carried out is what it sees of the events. -/
theorem carry_seen {α : Type} {f : Event → Option α} (looks : Event.Observer f) (s : Session σ)
    (es : List Event) : (s.carry es).2.filterMap f = es.filterMap f := by
  induction es generalizing s with
  | nil => rfl
  | cons e es ih =>
    cases e with
    | engine event =>
      simp only [carry, List.cons_append, List.filterMap_cons, List.filterMap_append, looks.logs,
        ih, List.nil_append]
    | _ => simp only [carry, List.cons_append, List.nil_append, List.filterMap_cons, ih]

/-- A move that neither calls a hook nor changes the chain. -/
structure Unhooked (s : Session σ) (moved : SessionMoved σ) : Prop where
  hooks : moved.next.view.hooks = s.view.hooks
  calls : moved.events.filterMap Event.hookCall = []

/-- The render thread makes a move of the handshake, and goes on without the hooks. -/
theorem unhooked_afterMove {moved : Option (Moved σ)}
    {next : Session σ → Option Reply → Session σ × List Event}
    (still : ∀ m, moved = some m → m.events.filterMap Event.hookCall = [])
    (hooks : ∀ t reply, (next t reply).1.view.hooks = t.view.hooks)
    (calls : ∀ t reply, (next t reply).2.filterMap Event.hookCall = []) :
    Unhooked s (s.afterMove moved next) := by
  cases moved with
  | none => exact ⟨rfl, rfl⟩
  | some moved =>
    obtain ⟨h, es, reply⟩ := moved
    have view := carry_view { s with view.handshake := h } es
    have seen := carry_seen Event.observer_hookCall { s with view.handshake := h } es
    rw [still _ rfl] at seen
    rw [afterMove]
    rcases carried : Session.carry { s with view.handshake := h } es with ⟨t, es'⟩
    rw [carried] at view seen
    have kept : t.view.hooks = s.view.hooks := by rw [view]
    rcases reply with _ | reply | message
    · exact ⟨(hooks t none).trans kept, by rw [List.filterMap_append, seen, calls]; rfl⟩
    · exact ⟨(hooks t _).trans kept, by rw [List.filterMap_append, seen, calls]; rfl⟩
    · exact ⟨kept, seen⟩

theorem takeEvent_hooks {t : Session σ} {e : Option EngineEvent}
    (taken : s.takeEvent = some (e, t)) : t.view.hooks = s.view.hooks := by
  obtain ⟨⟨e', bus⟩, -, same⟩ := Option.map_eq_some_iff.1 taken
  obtain rfl := (Prod.mk.inj same).2
  rfl

variable [SurfaceDevice σ] {moved : SessionMoved σ}

theorem unhooked_render (taken : s.render = some moved) : Unhooked s moved := by
  have still (m : Move) (r : Moved σ) (made : s.view.handshake.step renderThread m = some r) :
      r.events.filterMap Event.hookCall = [] := Handshake.step_unhooked made
  rw [render] at taken
  cases stage : s.loop.stage <;> simp only [stage] at taken
  case starting =>
    obtain rfl := Option.some.inj taken
    refine unhooked_afterMove (still _) (fun _ _ => rfl) fun t reply => ?_
    rw [List.filterMap_append]
    split <;> split <;> rfl
  case testing =>
    obtain rfl := Option.some.inj taken
    exact ⟨rfl, rfl⟩
  case receiving | draining =>
    split at taken <;> obtain rfl := Option.some.inj taken
    next => exact ⟨rfl, rfl⟩
    all_goals
      next received =>
        have kept := takeEvent_hooks received
        exact ⟨kept, rfl⟩
  case acquiring =>
    obtain rfl := Option.some.inj taken
    exact unhooked_afterMove (still _) (fun _ _ => rfl) fun _ _ => rfl
  case swapping | presenting =>
    obtain rfl := Option.some.inj taken
    refine unhooked_afterMove (still _) (fun t reply => ?_) fun t reply => ?_
    · unfold afterSwap
      split <;> rfl
    · unfold afterSwap
      split <;> rfl
  case clearing =>
    obtain rfl := Option.some.inj taken
    exact unhooked_afterMove (still _) (fun _ _ => rfl) fun _ _ => rfl
  all_goals cases taken

/-- Neither a thread that moves in the handshake nor the render thread calls a hook. -/
theorem step_unhooked {m : SessionMove} (taken : s.step m = some moved) : Unhooked s moved := by
  cases m with
  | platform thread m =>
    rw [step] at taken
    split at taken
    next => cases taken
    next =>
      obtain ⟨r, made, rfl⟩ := Option.map_eq_some_iff.1 taken
      have seen := carry_seen Event.observer_hookCall { s with view.handshake := r.next } r.events
      rw [Handshake.step_unhooked made] at seen
      refine ⟨?_, seen⟩
      dsimp only
      rw [carry_view]
  | render => exact unhooked_render taken
  | stop =>
    obtain rfl := Option.some.inj taken
    exact ⟨rfl, rfl⟩

end Session

end HostView
