import HostView.Proofs.Pointer.Stream
import HostView.Proofs.Since

/-!
# Which buttons are held, and what a report leads to

After any reports to a fresh normalizer a button is held if it was pressed since the pointer last
left and not released since (`PointerInput.Held`), whatever other buttons the same reports press
and release.  A report leads to nothing (`PointerInput.Senseless`) and changes nothing, or it leads
to one event at its position, after the event that announces a pointer which the engine does not know
(`Normalizer.Answers`).  A pointer goes down or up only with the report that presses the first
button or releases the last (`Normalizer.dispatch_after_history`).
-/

namespace HostView

namespace PointerInput

/-- Whether a report says that a button was pressed. -/
def presses (k : Nat) : PointerInput → Bool
  | down _ buttons => buttons.contains k
  | _ => false

/-- Whether a report says that a button was released. -/
def releases (k : Nat) : PointerInput → Bool
  | up _ buttons => buttons.contains k
  | _ => false

/-- Some report says that a button was pressed, and in the reports after it the pointer has not
left and the button was not released. -/
def Held (k : Nat) (inputs : List PointerInput) : Prop :=
  ∃ before i later, inputs = before ++ i :: later ∧ i.presses k = true ∧
    ∀ j ∈ later, j ≠ leave ∧ j.releases k = false

/-- A report that makes no sense: the pointer that it adds is there, the one that leaves is not,
or it says that no button was pressed or released. -/
def Senseless (added : Bool) : PointerInput → Prop
  | add _ => added = true
  | leave => added = false
  | down _ buttons | up _ buttons => buttons = .none
  | move _ | scroll _ _ _ => False

/-- Whether a report is about a pointer that ought to be there. -/
def presumes : PointerInput → Bool
  | add _ | leave => false
  | move _ | down _ _ | up _ _ | scroll _ _ _ => true

/-- Where a report says that the pointer is; a pointer that leaves is where it was last. -/
def position (last : Point) : PointerInput → Point
  | add p | move p | down p _ | up p _ | scroll p _ _ => p
  | leave => last

/-- What the event for a report carries beside position and buttons. -/
def signal : PointerInput → PointerSignal
  | scroll _ delta multiplier =>
    let factor := Float.ofInt multiplier.toInt
    .scroll ⟨delta.x * factor, delta.y * factor⟩
  | _ => .none

/-- A button is held since it was pressed, as long as neither it was released nor the pointer left. -/
theorem held_iff (k : Nat) (inputs : List PointerInput) :
    Held k inputs ↔
      Since (fun i => i.presses k = true) (fun i => i ≠ leave ∧ i.releases k = false) inputs :=
  Iff.rfl

theorem not_held_nil (k : Nat) : ¬ Held k [] := not_since_nil

/-- One more report. -/
theorem held_snoc (k : Nat) (inputs : List PointerInput) (i : PointerInput) :
    Held k (inputs ++ [i]) ↔
      i.presses k = true ∨ Held k inputs ∧ i ≠ leave ∧ i.releases k = false := by
  rw [held_iff, since_snoc, held_iff]

end PointerInput

open PointerInput

theorem Buttons.ne_none_iff {b : Buttons} : b ≠ .none ↔ ∃ k, b.contains k = true := by
  constructor
  · intro some
    by_contra unheld
    push Not at unheld
    refine some (congrArg Buttons.mk (BitVec.eq_of_getLsbD_eq fun k _ => ?_))
    simpa [contains] using unheld k
  · rintro ⟨k, held⟩ rfl
    simp at held

/-! ### The state of the pointer -/

/-- A pointer is down while a button is held. -/
theorem PointerState.told_down (events : List PointerEvent) :
    (told events).down = !(told events).buttons.isEmpty := by
  unfold told
  split
  · rfl
  · split <;> rfl

theorem PointerState.settle_buttons (s : PointerState) (phase : Phase) :
    (s.settle phase).buttons = s.buttons := by
  unfold settle
  split
  · rfl
  · split <;> rfl
  · split <;> rfl
  · rfl

namespace Normalizer

variable {n : Normalizer} {out : List PointerEvent} {inputs : List PointerInput}

/-- The normalizer after some reports. -/
def after (n : Normalizer) (inputs : List PointerInput) : Normalizer :=
  inputs.foldl (fun n i => (n.dispatch i).next) n

theorem after_snoc (n : Normalizer) (inputs : List PointerInput) (i : PointerInput) :
    n.after (inputs ++ [i]) = ((n.after inputs).dispatch i).next := by
  simp [after]

theorem stream_snoc (n : Normalizer) (inputs : List PointerInput) (i : PointerInput) :
    n.stream (inputs ++ [i]) = n.stream inputs ++ ((n.after inputs).dispatch i).events := by
  induction inputs generalizing n with
  | nil => simp [stream, dispatches, after]
  | cons j inputs ih =>
    have rest := ih (n.dispatch j).next
    simp only [stream, List.cons_append, dispatches, List.flatMap_cons, List.append_assoc] at rest ⊢
    rw [rest]
    rfl

theorem Settled.after (settled : n.Settled []) (inputs : List PointerInput) :
    (n.after inputs).Settled (n.stream inputs) := by
  induction inputs using List.reverseRecOn with
  | nil => exact settled
  | append_singleton inputs i ih =>
    rw [after_snoc, stream_snoc]
    exact ih.dispatch i

theorem Settled.down (settled : n.Settled out) : n.state.down = !n.state.buttons.isEmpty := by
  rw [settled.state]
  exact PointerState.told_down out

/-! ### The buttons -/

theorem report_buttons (n : Normalizer) (position : Point) (buttons : Buttons)
    (signal : PointerSignal) : (n.report position buttons signal).next.state.buttons = buttons :=
  PointerState.settle_buttons _ _

/-- A button is held after a report that presses it, and otherwise if it was held and neither was
released nor went with the pointer. -/
theorem Settled.contains_dispatch (settled : n.Settled out) (k : Nat) (i : PointerInput) :
    (n.dispatch i).next.state.buttons.contains k = true ↔
      i.presses k = true ∨
        n.state.buttons.contains k = true ∧ i ≠ leave ∧ i.releases k = false := by
  cases i with
  | add position =>
    cases added : n.state.added <;> simp [Normalizer.dispatch, drop, added, presses, releases]
  | leave =>
    cases added : n.state.added with
    | true => simp [Normalizer.dispatch, added, presses]
    | false =>
      have absent := settled.state_of_absent added
      simp [Normalizer.dispatch, drop, absent, presses]
  | move position => simp [Normalizer.dispatch, report_buttons, presses, releases]
  | down position buttons =>
    cases empty : buttons.isEmpty with
    | true =>
      simp [Normalizer.dispatch, drop, Buttons.isEmpty_iff.1 empty, presses, releases]
    | false => simp [Normalizer.dispatch, empty, report_buttons, presses, releases, or_comm]
  | up position buttons =>
    cases empty : buttons.isEmpty with
    | true =>
      simp [Normalizer.dispatch, drop, Buttons.isEmpty_iff.1 empty, presses, releases]
    | false => simp [Normalizer.dispatch, empty, report_buttons, presses, releases]
  | scroll position delta multiplier =>
    simp [Normalizer.dispatch, report_buttons, presses, releases]

/-- The buttons that are held are told by the whole history. -/
theorem contains_after (k : Nat) (inputs : List PointerInput) :
    (after {} inputs).state.buttons.contains k = true ↔ Held k inputs := by
  induction inputs using List.reverseRecOn with
  | nil => simp [after, not_held_nil]
  | append_singleton inputs i ih =>
    rw [after_snoc, (settled_fresh.after inputs).contains_dispatch, ih, held_snoc]

/-- The first button is held only after a report that presses it. -/
theorem Settled.presses_first (settled : n.Settled out) {i : PointerInput}
    (before : n.state.buttons = .none) (after : (n.dispatch i).next.state.buttons ≠ .none) :
    ∃ position buttons, i = .down position buttons := by
  obtain ⟨k, held⟩ := Buttons.ne_none_iff.1 after
  obtain pressed | ⟨was, -⟩ := (settled.contains_dispatch k i).1 held
  · cases i with
    | down position buttons => exact ⟨position, buttons, rfl⟩
    | _ => cases pressed
  · simp [before] at was

/-- The last button goes only with a report that releases it, or with the pointer. -/
theorem Settled.releases_last (settled : n.Settled out) {i : PointerInput} (stays : i ≠ leave)
    (before : n.state.buttons ≠ .none) (after : (n.dispatch i).next.state.buttons = .none) :
    ∃ position buttons, i = .up position buttons := by
  obtain ⟨k, held⟩ := Buttons.ne_none_iff.1 before
  have gone : ¬ (n.dispatch i).next.state.buttons.contains k = true := by simp [after]
  rw [settled.contains_dispatch k i] at gone
  have released : i.releases k ≠ false := fun kept => gone (.inr ⟨held, stays, kept⟩)
  cases i with
  | up position buttons => exact ⟨position, buttons, rfl⟩
  | _ => exact absurd rfl released

/-! ### What a report leads to -/

/-- What a report leads to: one event for it, after the event that announces a pointer which was
not there and ought to be.  The pointer goes down with the first button and up with the last. -/
structure Answers (n : Normalizer) (i : PointerInput) (d : Dispatch) (e : PointerEvent) : Prop where
  events : d.events =
    (if n.state.added = false ∧ i.presumes = true then [⟨.add, e.position, .none, .none⟩]
      else []) ++ [e]
  position : e.position = i.position n.last
  added : e.phase = .add ↔ ∃ p, i = .add p
  removed : e.phase = .remove ↔ i = .leave
  down : e.phase = .down ↔ n.state.buttons = .none ∧ d.next.state.buttons ≠ .none
  up : e.phase = .up ↔ i ≠ .leave ∧ n.state.buttons ≠ .none ∧ d.next.state.buttons = .none
  buttons : e.buttons = if e.phase = .remove then n.state.buttons else d.next.state.buttons
  signal : e.signal = i.signal

theorem phase_midway_eq_down (held buttons : Buttons) :
    (midway held buttons).phase = .down ↔ held = .none ∧ buttons ≠ .none := by
  rw [← Buttons.isEmpty_iff, ne_eq, ← Buttons.isEmpty_iff]
  cases before : held.isEmpty <;> cases now : buttons.isEmpty <;>
    simp [midway, PointerState.phase, before, now]

theorem phase_midway_eq_up (held buttons : Buttons) :
    (midway held buttons).phase = .up ↔ held ≠ .none ∧ buttons = .none := by
  rw [ne_eq, ← Buttons.isEmpty_iff, ← Buttons.isEmpty_iff]
  cases before : held.isEmpty <;> cases now : buttons.isEmpty <;>
    simp [midway, PointerState.phase, before, now]

/-- What is told of a pointer that ought to be there. -/
theorem Settled.report_events (settled : n.Settled out) (position : Point) (buttons : Buttons)
    (signal : PointerSignal) :
    (n.report position buttons signal).events =
      n.announcement position ++
        [⟨(midway n.state.buttons buttons).phase, position, buttons, signal⟩] := by
  simp only [Normalizer.report, midway, settled.down]

theorem Settled.answers_report (settled : n.Settled out) {i : PointerInput} {buttons : Buttons}
    (presumes : i.presumes = true)
    (made : n.dispatch i = n.report (i.position n.last) buttons i.signal) :
    n.Answers i (n.dispatch i)
      ⟨(midway n.state.buttons buttons).phase, i.position n.last, buttons, i.signal⟩ := by
  have reports := reports_midway n.state.buttons buttons
  have noAdd : (midway n.state.buttons buttons).phase ≠ .add := by
    intro added
    rw [added] at reports
    cases reports
  have noRemove : (midway n.state.buttons buttons).phase ≠ .remove := by
    intro removed
    rw [removed] at reports
    cases reports
  have stays : i ≠ leave := by
    rintro rfl
    cases presumes
  have next : (n.dispatch i).next.state.buttons = buttons := by
    rw [made, report_buttons]
  refine
    { events := ?_
      position := rfl
      added := iff_of_false noAdd ?_
      removed := iff_of_false noRemove stays
      down := ?_
      up := ?_
      buttons := ?_
      signal := rfl }
  · rw [made, settled.report_events, announcement]
    cases added : n.state.added <;> simp [presumes]
  · rintro ⟨p, rfl⟩
    cases presumes
  · rw [next]
    exact phase_midway_eq_down _ _
  · rw [next, phase_midway_eq_up]
    simp [stays]
  · rw [if_neg noRemove, next]

/-- A report makes no sense and is dropped, or it is answered. -/
theorem Settled.answers (settled : n.Settled out) (i : PointerInput) :
    (i.Senseless n.state.added ∧ ∃ why, n.dispatch i = n.drop why) ∨
      ¬ i.Senseless n.state.added ∧ ∃ e, n.Answers i (n.dispatch i) e := by
  cases i with
  | add position =>
    cases added : n.state.added with
    | true => exact .inl ⟨rfl, .duplicateAdd, by simp [Normalizer.dispatch, added]⟩
    | false =>
      have absent := settled.state_of_absent added
      refine .inr ⟨by simp [Senseless], ⟨.add, position, .none, .none⟩, ?_⟩
      constructor <;>
        simp [Normalizer.dispatch, announcement, PointerInput.position, PointerInput.signal,
          presumes, absent]
  | leave =>
    cases added : n.state.added with
    | false => exact .inl ⟨rfl, .removeWithoutAdd, by simp [Normalizer.dispatch, added]⟩
    | true =>
      refine .inr ⟨by simp [Senseless], ⟨.remove, n.last, n.state.buttons, .none⟩, ?_⟩
      constructor <;>
        simp [Normalizer.dispatch, PointerInput.position, PointerInput.signal, added]
  | move position => exact .inr ⟨id, _, settled.answers_report rfl rfl⟩
  | down position buttons =>
    cases empty : buttons.isEmpty with
    | true =>
      refine .inl ⟨Buttons.isEmpty_iff.1 empty, .noButton, ?_⟩
      simp [Normalizer.dispatch, empty]
    | false =>
      refine .inr ⟨?_, _, settled.answers_report rfl (if_neg (by simp [empty]))⟩
      rintro rfl
      cases empty
  | up position buttons =>
    cases empty : buttons.isEmpty with
    | true =>
      refine .inl ⟨Buttons.isEmpty_iff.1 empty, .noButton, ?_⟩
      simp [Normalizer.dispatch, empty]
    | false =>
      refine .inr ⟨?_, _, settled.answers_report rfl (if_neg (by simp [empty]))⟩
      rintro rfl
      cases empty
  | scroll position delta multiplier => exact .inr ⟨id, _, settled.answers_report rfl rfl⟩

/-- The only event for a report that is not an announcement is the one that it leads to. -/
theorem Answers.exists_phase {i : PointerInput} {d : Dispatch} {e : PointerEvent} {p : Phase}
    (answers : n.Answers i d e) (other : p ≠ .add) :
    (∃ e' ∈ d.events, e'.phase = p) ↔ e.phase = p := by
  rw [answers.events]
  constructor
  · rintro ⟨e', mem, phase⟩
    obtain announces | here := List.mem_append.1 mem
    · split at announces
      · rw [List.mem_singleton.1 announces] at phase
        exact absurd phase.symm other
      · simp at announces
    · rwa [List.mem_singleton.1 here] at phase
  · intro phase
    exact ⟨e, by simp, phase⟩

/-- After any reports to a fresh normalizer, a button is held if some report pressed it since the
pointer last left and none has released it since, and the last position is that of the last event.
A further report leads to no event if it makes no sense, and then changes nothing; any other leads
to one event for it, which comes after an announcement if the pointer was not there and ought to
be.  A pointer goes down with the report that presses the first button, and up with the one that
releases the last. -/
theorem dispatch_after_history (inputs : List PointerInput) :
    (∀ k, (after {} inputs).state.buttons.contains k = true ↔ Held k inputs) ∧
      (∀ e ∈ (stream {} inputs).getLast?, (after {} inputs).last = e.position) ∧
      ∀ i,
        let n := after {} inputs
        let d := n.dispatch i
        (d.events = [] ↔ i.Senseless n.state.added) ∧
        (d.events = [] → d.next = n) ∧
        (d.events ≠ [] → ∃ e, n.Answers i d e) ∧
        ((∃ e ∈ d.events, e.phase = .down) ↔
          (∃ position buttons, i = .down position buttons) ∧
            n.state.buttons = .none ∧ d.next.state.buttons ≠ .none) ∧
        ((∃ e ∈ d.events, e.phase = .up) ↔
          (∃ position buttons, i = .up position buttons) ∧
            n.state.buttons ≠ .none ∧ d.next.state.buttons = .none) := by
  have settled := settled_fresh.after inputs
  refine ⟨fun k => contains_after k inputs, settled.last, fun i => ?_⟩
  intro n d
  obtain ⟨senseless, why, dropped⟩ | ⟨sensible, e, answers⟩ := settled.answers i
  · change d = n.drop why at dropped
    rw [dropped]
    simp [drop, senseless, n]
  · change n.Answers i d e at answers
    have some : d.events ≠ [] := by simp [answers.events]
    refine ⟨iff_of_false some sensible, fun none => absurd none some, fun _ => ⟨e, answers⟩, ?_, ?_⟩
    · rw [answers.exists_phase (by decide), answers.down]
      constructor
      · intro turns
        exact ⟨settled.presses_first turns.1 turns.2, turns⟩
      · exact fun turns => turns.2
    · rw [answers.exists_phase (by decide), answers.up]
      constructor
      · rintro ⟨stays, turns⟩
        exact ⟨settled.releases_last stays turns.1 turns.2, turns⟩
      · rintro ⟨⟨p, b, rfl⟩, turns⟩
        exact ⟨by simp, turns⟩

end Normalizer

end HostView
