import HostView.Proofs.Hook.Conduct
import HostView.Proofs.Observer
import HostView.Proofs.Pointer.History
import HostView.Proofs.Resize.Release
import HostView.Proofs.Window.Intake

/-!
# Where the pointer is

The translator of window events and the normalizer of a view each remember a position: the one
where the cursor was seen last, the other where the engine was told last that the pointer is.  If
nobody else moves the pointer of the view, the two are the same after every event
(`Intake.Tracked`), so that whatever the engine is told of the pointer happens where the cursor was
seen last (`Intake.pointer_follows_cursor`).
-/

namespace HostView

/-- An action that does not move the pointer. -/
def Action.SparesPointer (a : Action) : Prop := ∀ input, a ≠ .point input

/-- What the engine is told of the pointer. -/
def Event.pointer : Event → Option PointerEvent
  | .engine (.pointer e) => some e
  | _ => none

theorem Event.observer_pointer : Observer Event.pointer :=
  ⟨fun _ => rfl, fun _ => rfl, fun _ => rfl⟩

/-! ### The normalizer -/

namespace Normalizer

theorem report_position (n : Normalizer) (p : Point) (buttons : Buttons) (signal : PointerSignal) :
    (∀ e ∈ (n.report p buttons signal).events, e.position = p) ∧
      (n.report p buttons signal).next.last = p := by
  refine ⟨fun e mem => ?_, rfl⟩
  simp only [report, announcement, List.mem_append, List.mem_singleton] at mem
  obtain announces | rfl := mem
  · split at announces
    · cases announces
    · rw [List.mem_singleton.1 announces]
  · rfl

/-- All that a report leads to happens at its position, where the pointer is known to be then. -/
theorem dispatch_position (n : Normalizer) (i : PointerInput) :
    (∀ e ∈ (n.dispatch i).events, e.position = i.position n.last) ∧
      ((n.dispatch i).next.last = i.position n.last ∨
        i.Senseless n.state.added ∧ (n.dispatch i).next = n) := by
  have reported (p : Point) (buttons : Buttons) (signal : PointerSignal) :
      (∀ e ∈ (n.report p buttons signal).events, e.position = p) ∧
        ((n.report p buttons signal).next.last = p ∨
          i.Senseless n.state.added ∧ (n.report p buttons signal).next = n) :=
    ⟨(n.report_position p buttons signal).1, .inl (n.report_position p buttons signal).2⟩
  cases i with
  | add p =>
    rw [dispatch]
    split
    next added => exact ⟨by simp [drop], .inr ⟨added, rfl⟩⟩
    next added => exact ⟨by simp [announcement, added, PointerInput.position], .inl rfl⟩
  | leave =>
    rw [dispatch]
    split
    next added => exact ⟨by simp [PointerInput.position], .inl rfl⟩
    next absent => exact ⟨by simp [drop], .inr ⟨eq_false_of_ne_true absent, rfl⟩⟩
  | move p => exact reported p _ _
  | down p buttons =>
    rw [dispatch]
    split
    next empty => exact ⟨by simp [drop], .inr ⟨Buttons.isEmpty_iff.1 empty, rfl⟩⟩
    next => exact reported p _ _
  | up p buttons =>
    rw [dispatch]
    split
    next empty => exact ⟨by simp [drop], .inr ⟨Buttons.isEmpty_iff.1 empty, rfl⟩⟩
    next => exact reported p _ _
  | scroll p delta multiplier => exact reported p _ _

end Normalizer

/-! ### Work that does not move the pointer -/

namespace View

variable {σ : Type}

/-- No hook of the view moves the pointer. -/
def Unmoved (v : View σ) : Prop := ∀ h ∈ v.hooks, h.Uses Action.SparesPointer

/-- Work on a view whose hooks do not move the pointer, which does not move it either. -/
def SparesPointer {α : Type} (w : Work (View σ) Event α) : Prop :=
  ∀ v, v.Unmoved → (w v).state.Unmoved ∧ (w v).state.pointer = v.pointer ∧
    (w v).events.filterMap Event.pointer = []

theorem SparesPointer.pure {α : Type} (a : α) : SparesPointer (pure a : Work (View σ) Event α) :=
  fun _ unmoved => ⟨unmoved, rfl, rfl⟩

theorem SparesPointer.bind {α β : Type} {w : Work (View σ) Event α}
    {f : α → Work (View σ) Event β} (first : SparesPointer w) (second : ∀ a, SparesPointer (f a)) :
    SparesPointer (w >>= f) := by
  intro v unmoved
  obtain ⟨unmoved', same, silent⟩ := first v unmoved
  rcases run : w v with ⟨a | m, v', es⟩ <;> simp only [run] at unmoved' same silent
  · obtain ⟨unmoved'', same', silent'⟩ := second a v' unmoved'
    rw [Work.bind_of_returned run]
    refine ⟨unmoved'', same'.trans same, ?_⟩
    rw [List.filterMap_append, silent, silent', List.append_nil]
  · rw [Work.bind_of_panicked run]
    exact ⟨unmoved', same, silent⟩

/-- Nothing is heard of the pointer if no hook moves it. -/
theorem hear_of_unmoved (pointer : Normalizer) {signals : List Signal}
    (unmoved : ∀ input, .pointed input ∉ signals) :
    (hear pointer signals).1 = pointer ∧
      (hear pointer signals).2.filterMap Event.pointer = [] := by
  have looks := Event.observer_pointer
  induction signals with
  | nil => exact ⟨rfl, rfl⟩
  | cons signal signals ih =>
    obtain ⟨same, silent⟩ := ih fun input mem => unmoved input (by simp [mem])
    cases signal with
    | touched =>
      refine ⟨same, ?_⟩
      rw [hear, List.filterMap_append, looks.guarded, silent]
      rfl
    | called manner callback =>
      refine ⟨same, ?_⟩
      rw [hear, List.cons_append, List.filterMap_cons_none rfl, List.filterMap_append, looks.logs,
        silent]
      rfl
    | pointed input => exact absurd List.mem_cons_self (unmoved input)
    | returned callback consumed =>
      refine ⟨same, ?_⟩
      rw [hear, List.filterMap_cons_none rfl, silent]

theorem sparesPointer_notify (callback : Callback) :
    SparesPointer (fun v : View σ => v.notify callback) := by
  intro v unmoved
  obtain ⟨left, points, -⟩ := Dispatcher.dispatch_uses unmoved callback
  have still : ∀ input, .pointed input ∉ (Dispatcher.dispatch v.hooks callback).signals :=
    fun input mem => points input mem input rfl
  exact ⟨left, hear_of_unmoved v.pointer still⟩

/-- Only a request about the pointer moves it. -/
theorem sparesPointer_fulfil {request : ViewRequest} (other : ∀ input, request ≠ .point input) :
    SparesPointer (fulfil request : Work (View σ) Event Bool) :=
  fulfil_rule (P := fun _ => SparesPointer) .pure .bind sparesPointer_notify fun input same =>
    absurd same (other input)

/-- The engine is told of all that a report leads to. -/
theorem pointers_of_point (v : View σ) (input : PointerInput) :
    (v.point input).2.filterMap Event.pointer = (v.pointer.dispatch input).events := by
  have looks := Event.observer_pointer
  rw [point, pointerEvents, List.filterMap_append, looks.guarded, looks.logs, List.nil_append,
    List.filterMap_map]
  exact List.filterMap_some

end View

/-! ### The translator -/

namespace WindowEvent

/-- Where an event says that the cursor is. -/
def cursor : WindowEvent → Option Point
  | cursorMoved position => some position
  | _ => none

/-- An event that is about the pointer: a mouse button without a place on the mouse is not. -/
def pointing : WindowEvent → Bool
  | mouse _ (.other _) => false
  | cursorMoved _ | cursorLeft | mouse _ _ | wheel _ => true
  | _ => false

/-- An event that nothing is done for. -/
def ignored : WindowEvent → Bool
  | mouse _ (.other _) => true
  | key input => input.synthetic
  | closeRequested | destroyed | redrawRequested | other => true
  | _ => false

end WindowEvent

namespace Translator

variable {t : Translator} {e : WindowEvent}

theorem cursor_translate (t : Translator) (e : WindowEvent) :
    (t.translate e).1.cursor = e.cursor.getD t.cursor := by
  cases e with
  | mouse pressed button => cases button <;> rfl
  | key input =>
    rw [translate]
    split <;> rfl
  | _ => rfl

/-- An event about the pointer is reported where the cursor is then; only one that moves the cursor
is reported elsewhere than before, and such a report always makes sense. -/
theorem translate_of_pointing (t : Translator) (pointing : e.pointing = true) :
    ∃ input, (t.translate e).2 = .point input ∧
      input.position t.cursor = (t.translate e).1.cursor ∧
      ∀ added, input.Senseless added → (t.translate e).1.cursor = t.cursor := by
  cases e with
  | cursorMoved position => exact ⟨_, rfl, rfl, nofun⟩
  | cursorLeft => exact ⟨_, rfl, rfl, fun _ _ => rfl⟩
  | mouse pressed button =>
    cases button with
    | other => cases pointing
    | _ => cases pressed <;> exact ⟨_, rfl, rfl, fun _ _ => rfl⟩
  | wheel delta => exact ⟨_, rfl, rfl, nofun⟩
  | _ => cases pointing

theorem translate_of_other (t : Translator) (other : e.pointing = false) (input : PointerInput) :
    (t.translate e).2 ≠ .point input := by
  cases e with
  | mouse pressed button =>
    cases button with
    | other => nofun
    | _ => cases other
  | key input =>
    rw [translate]
    split <;> nofun
  | cursorMoved | cursorLeft | wheel => cases other
  | _ => nofun

theorem translate_of_ignored (t : Translator) (ignored : e.ignored = true) :
    t.translate e = (t, .nothing) := by
  cases e with
  | mouse pressed button =>
    cases button with
    | other => rfl
    | _ => cases ignored
  | key input => exact if_pos ignored
  | closeRequested | destroyed | redrawRequested | other => rfl
  | _ => cases ignored

end Translator

/-! ### Any sequence of events -/

namespace Intake

variable {σ : Type} {start i : Intake σ} {steps : List (IntakeStep σ)}

/-- What the engine is told of the pointer in a step. -/
def pointers (r : Forwarded σ) : List PointerEvent := r.events.filterMap Event.pointer

/-- Where the cursor was seen last. -/
def lastCursor (steps : List (IntakeStep σ)) : Point :=
  (steps.filterMap fun x => x.move.cursor).getLast?.getD .origin

theorem lastCursor_snoc (steps : List (IntakeStep σ)) (x : IntakeStep σ) :
    lastCursor (steps ++ [x]) = x.move.cursor.getD (lastCursor steps) := by
  cases moved : x.move.cursor <;> simp [lastCursor, moved]

/-- The translator and the normalizer agree about where the pointer is, and no hook moves it. -/
structure Tracked (i : Intake σ) : Prop where
  agree : i.view.pointer.last = i.translator.cursor
  unmoved : i.view.Unmoved

variable {e : WindowEvent} {r : Forwarded σ}

theorem forward_view (taken : i.forward e = some r) :
    r.next.view = (View.fulfil (i.translator.translate e).2 i.view).state ∧
      r.events = (View.fulfil (i.translator.translate e).2 i.view).events := by
  rw [forward] at taken
  split at taken
  next => cases taken
  next =>
    obtain rfl := Option.some.inj taken
    exact ⟨rfl, rfl⟩

/-- An event that is not about the pointer leaves it where it is. -/
theorem forward_of_other (unmoved : i.view.Unmoved) (taken : i.forward e = some r)
    (other : e.pointing = false) :
    pointers r = [] ∧ r.next.view.pointer = i.view.pointer ∧
      r.next.translator.cursor = i.translator.cursor ∧ r.next.view.Unmoved := by
  obtain ⟨-, translator, -⟩ := forward_eq taken
  obtain ⟨view, events⟩ := forward_view taken
  obtain ⟨unmoved', same, silent⟩ :=
    View.sparesPointer_fulfil (i.translator.translate_of_other other) i.view unmoved
  have unseen : e.cursor = none := by
    cases e with
    | cursorMoved => cases other
    | _ => rfl
  refine ⟨?_, ?_, ?_, ?_⟩
  · rw [pointers, events, silent]
  · rw [view, same]
  · rw [translator, Translator.cursor_translate, unseen]
    rfl
  · rw [view]
    exact unmoved'

/-- An event that nothing is done for changes nothing. -/
theorem forward_of_ignored (taken : i.forward e = some r) (ignored : e.ignored = true) :
    r.events = [] ∧ r.next = i := by
  rw [forward, i.translator.translate_of_ignored ignored] at taken
  split at taken
  next => cases taken
  next running =>
    obtain rfl := Option.some.inj taken
    obtain ⟨view, translator, unwound⟩ := i
    obtain rfl : unwound = false := eq_false_of_ne_true running
    exact ⟨rfl, rfl⟩

/-- After each event the two agree, and what the engine is told of the pointer happens where they
say that it is. -/
theorem Tracked.step (tracked : i.Tracked) (taken : i.forward e = some r) :
    r.next.Tracked ∧ r.next.translator.cursor = e.cursor.getD i.translator.cursor ∧
      ∀ p ∈ pointers r, p.position = r.next.translator.cursor := by
  obtain ⟨agree, unmoved⟩ := tracked
  obtain ⟨-, translator, -⟩ := forward_eq taken
  have cursor : r.next.translator.cursor = e.cursor.getD i.translator.cursor := by
    rw [translator, Translator.cursor_translate]
  cases pointing : e.pointing with
  | false =>
    obtain ⟨silent, same, still, unmoved'⟩ := forward_of_other unmoved taken pointing
    refine ⟨⟨?_, unmoved'⟩, cursor, by simp [silent]⟩
    rw [same, still, agree]
  | true =>
    obtain ⟨input, request, position, still⟩ := i.translator.translate_of_pointing pointing
    obtain ⟨view, events⟩ := forward_view taken
    rw [request] at view events
    rw [← translator] at position still
    obtain ⟨there, last⟩ := i.view.pointer.dispatch_position input
    rw [agree, position] at there last
    have told : pointers r = (i.view.pointer.dispatch input).events := by
      rw [pointers, events]
      exact i.view.pointers_of_point input
    have next : r.next.view.pointer = (i.view.pointer.dispatch input).next := by
      rw [view]
      rfl
    refine ⟨⟨?_, by rwa [view]⟩, cursor, by rwa [told]⟩
    rw [next]
    obtain moved | ⟨senseless, dropped⟩ := last
    · exact moved
    · rw [dropped, agree, still _ senseless]

theorem Course.tracked (course : Course start steps i) (tracked : start.Tracked)
    (fresh : start.translator.cursor = .origin) :
    i.Tracked ∧ i.translator.cursor = lastCursor steps := by
  induction course with
  | nil => exact ⟨tracked, fresh⟩
  | snoc path taken ih =>
    obtain ⟨so, cursor⟩ := ih
    obtain ⟨so', cursor', -⟩ := so.step taken
    exact ⟨so', by rw [lastCursor_snoc, cursor', cursor]⟩

/-- Whatever events a window gets, if nobody else moves the pointer of its view: the translator and
the normalizer agree about where it is, which is where the cursor was seen last, and all that the
engine is told of the pointer happens there.  An event that is not about the pointer tells the
engine nothing of it and changes nothing about it, and one that nothing is done for changes nothing
at all. -/
theorem pointer_follows_cursor (course : Course start steps i) (translator : start.translator = {})
    (pointer : start.view.pointer = {}) (unmoved : start.view.Unmoved) :
    (i.translator.cursor = lastCursor steps ∧ i.view.pointer.last = lastCursor steps) ∧
      ∀ before x after, steps = before ++ x :: after →
        (∀ p ∈ pointers x.result, p.position = lastCursor (before ++ [x])) ∧
        (x.move.pointing = false →
          pointers x.result = [] ∧ x.result.next.view.pointer = x.before.view.pointer ∧
            x.result.next.translator.cursor = x.before.translator.cursor) ∧
        (x.move.ignored = true → x.result.events = [] ∧ x.result.next = x.before) := by
  have tracked : start.Tracked := ⟨by rw [translator, pointer], unmoved⟩
  have fresh : start.translator.cursor = .origin := by rw [translator]
  obtain ⟨⟨agree, -⟩, cursor⟩ := Course.tracked course tracked fresh
  refine ⟨⟨cursor, agree.trans cursor⟩, ?_⟩
  rintro before x after rfl
  obtain ⟨path, taken, -⟩ := Path.split course
  obtain ⟨so, cursor⟩ := Course.tracked path tracked fresh
  obtain ⟨-, cursor', there⟩ := so.step taken
  refine ⟨fun p mem => ?_, fun other => ?_, forward_of_ignored taken⟩
  · rw [there p mem, lastCursor_snoc, cursor', cursor]
  · obtain ⟨silent, same, still, -⟩ := forward_of_other so.unmoved taken other
    exact ⟨silent, same, still⟩

/-- The window of a view that has one hook, which only keeps the key that quits. -/
def pointingAt (h : Handshake Headless) : Intake Headless where
  view := { handshake := h, hooks := [quitOnEscape] }

/-- The cursor is seen once and leaves, and a button is pressed all the same; another button has no
place on the mouse. -/
def pressedOutside : List WindowEvent :=
  [.cursorMoved ⟨3, 4⟩, .cursorLeft, .mouse true .left, .mouse true (.other 9)]

/-- The steps of these events. -/
def outsideSteps : List (IntakeStep Headless) :=
  Path.record forward Forwarded.next (pointingAt .resting) pressedOutside

theorem phases_outside :
    outsideSteps.map (fun x => (pointers x.result).map PointerEvent.phase) =
      [[.add, .hover], [.remove], [.add, .down], []] := by
  decide +kernel

theorem lastCursor_outside : lastCursor outsideSteps = ⟨3, 4⟩ := rfl

/-- A button that is pressed after the cursor has left is taken to be pressed where it left. -/
theorem press_outside_at_last_cursor :
    outsideSteps.map (fun x => (pointers x.result).map PointerEvent.phase) =
        [[.add, .hover], [.remove], [.add, .down], []] ∧
      ∃ i, Course (pointingAt .resting) outsideSteps i ∧
        i.translator.cursor = ⟨3, 4⟩ ∧ i.view.pointer.last = ⟨3, 4⟩ := by
  have unmoved : (pointingAt .resting).view.Unmoved := by
    intro h mem
    rw [List.mem_singleton.1 mem]
    exact ⟨nofun, nofun⟩
  obtain ⟨i, course⟩ : ∃ i, Course (pointingAt .resting) outsideSteps i :=
    Path.recorded (pointingAt .resting) pressedOutside
  obtain ⟨agree, -⟩ := pointer_follows_cursor course rfl rfl unmoved
  rw [lastCursor_outside] at agree
  exact ⟨phases_outside, i, course, agree⟩

end Intake

end HostView
