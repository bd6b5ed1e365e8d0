import HostView.Proofs.Work
import HostView.View.Basic

/-!
# What is done at once

A request that is not a resize is done on the thread that brings it (`View.fulfil`), by calls to the
hooks and reports about the pointer; what holds of these holds of it (`View.fulfil_rule`).  It
leaves the resize handshake alone, and all that is seen of it is aside from what the surface does
and what the engine and the window are told about sizes (`Event.isAside`).
-/

namespace HostView

/-- An event that is neither about the surface nor about a size. -/
def Event.isAside : Event → Bool
  | .device _ | .engine (.metrics _) | .window .resized => false
  | _ => true

namespace View

variable {σ : Type}

/-- All that is seen in a list of events is aside from sizes. -/
def Aside (es : List Event) : Prop := ∀ e ∈ es, e.isAside = true

theorem aside_nil : Aside [] := by simp [Aside]

theorem Aside.append {l l' : List Event} (h : Aside l) (h' : Aside l') : Aside (l ++ l') := by
  intro e he
  obtain before | after := List.mem_append.1 he
  · exact h e before
  · exact h' e after

theorem aside_guarded (lock : Lock) {es : List Event} (h : Aside es) :
    Aside (Event.guarded lock es) := by
  intro e he
  simp only [Event.guarded, List.cons_append, List.mem_cons, List.mem_append,
    List.not_mem_nil, or_false] at he
  obtain rfl | inside | rfl := he
  · rfl
  · exact h e inside
  · rfl

theorem aside_logs (records : List Log.Record) : Aside (records.map .log) := by
  intro e he
  obtain ⟨r, -, rfl⟩ := List.mem_map.1 he
  rfl

theorem aside_pointerEvents (d : Dispatch) : Aside (pointerEvents d) := by
  refine (aside_guarded .pointer (aside_logs d.records)).append fun e he => ?_
  obtain ⟨p, -, rfl⟩ := List.mem_map.1 he
  rfl

theorem aside_hear (pointer : Normalizer) (signals : List Signal) :
    Aside (hear pointer signals).2 := by
  induction signals generalizing pointer with
  | nil => exact aside_nil
  | cons signal signals ih =>
    cases signal with
    | touched => exact (aside_guarded .hooks aside_nil).append (ih pointer)
    | called manner callback =>
      refine Aside.append (l := .hook manner callback :: _) ?_ (ih pointer)
      intro e he
      obtain rfl | log := List.mem_cons.1 he
      · rfl
      · exact aside_logs _ e log
    | pointed input => exact (aside_pointerEvents _).append (ih _)
    | returned callback consumed =>
      intro e he
      obtain rfl | later := List.mem_cons.1 he
      · rfl
      · exact ih pointer e later

/-- Work on a view that is aside from its handshake. -/
def StaysAside {α : Type} (w : Work (View σ) Event α) : Prop :=
  ∀ v, (w v).state.handshake = v.handshake ∧ Aside (w v).events

theorem StaysAside.pure {α : Type} (a : α) : StaysAside (pure a : Work (View σ) Event α) :=
  fun _ => ⟨rfl, aside_nil⟩

theorem StaysAside.bind {α β : Type} {w : Work (View σ) Event α}
    {f : α → Work (View σ) Event β} (first : StaysAside w) (second : ∀ a, StaysAside (f a)) :
    StaysAside (w >>= f) := by
  intro v
  obtain ⟨same, aside⟩ := first v
  rcases run : w v with ⟨a | m, v', es⟩ <;> simp only [run] at same aside
  · obtain ⟨same', aside'⟩ := second a v'
    rw [Work.bind_of_returned run]
    exact ⟨same'.trans same, aside.append aside'⟩
  · rw [Work.bind_of_panicked run]
    exact ⟨same, aside⟩

theorem staysAside_notify (callback : Callback) :
    StaysAside (fun v : View σ => v.notify callback) :=
  fun _ => ⟨rfl, aside_hear _ _⟩

/-- A property of work that is kept when work is put together holds of whatever a request asks for,
if it holds of the calls to the hooks and of the report that is asked for. -/
theorem fulfil_rule {P : (α : Type) → Work (View σ) Event α → Prop}
    (ready : ∀ {α : Type} (a : α), P α (pure a))
    (join : ∀ {α β : Type} {w : Work (View σ) Event α} {f : α → Work (View σ) Event β},
      P α w → (∀ a, P β (f a)) → P β (w >>= f))
    (call : ∀ callback, P Bool fun v => v.notify callback) {request : ViewRequest}
    (report : ∀ input, request = .point input → P Bool (fulfil (.point input))) :
    P Bool (fulfil request) := by
  have all (cs : List Callback) : P Unit (notifyAll cs) := by
    induction cs with
    | nil => exact ready ()
    | cons c cs ih => exact join (call c) fun _ => ih
  cases request with
  | nothing => exact ready false
  | resize size => exact ready true
  | point input => exact report input rfl
  | key event text =>
    refine join (call _) fun consumed => ?_
    cases consumed with
    | true => exact ready true
    | false =>
      cases text with
      | none => exact ready false
      | some text => exact join (call _) fun _ => ready false
  | compose calls => exact join (all calls) fun _ => ready true

/-- Whatever is done at once leaves the handshake alone. -/
theorem staysAside_fulfil (request : ViewRequest) :
    StaysAside (fulfil request : Work (View σ) Event Bool) :=
  fulfil_rule (P := fun _ => StaysAside) .pure .bind staysAside_notify fun _ _ _ =>
    ⟨rfl, aside_pointerEvents _⟩

end View

end HostView
