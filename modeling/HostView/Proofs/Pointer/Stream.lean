import HostView.Pointer.Normalizer
import Mathlib.Computability.RegularExpressions
import Mathlib.Data.List.Chain

/-!
# What the engine is told about the pointer

Whatever the window system reports, and in whatever order, the engine is told about one pointer
that is added, hovers, goes down, moves and goes up, and is removed, over and over
(`Phase.lives`), and the phase of each event agrees with the buttons of the event and of the one
before it (`PointerEvent.Agrees`).  The state of the normalizer is what can be read off the last
event (`PointerState.told`).  `Normalizer.Settled` collects this; every event that
`Normalizer.dispatch` adds to the stream keeps it.
-/

namespace HostView

/-! ### The words of the stream -/

/-- A phase of a pointer that is there. -/
def Phase.ofPresent : RegularExpression Phase :=
  .plus (.plus (.char .hover) (.char .down)) (.plus (.char .move) (.char .up))

/-- The phases of a pointer that was added and is still there. -/
def Phase.stay : RegularExpression Phase := .comp (.char .add) (.star ofPresent)

/-- The phases of a pointer from the event that adds it to the one that removes it. -/
def Phase.life : RegularExpression Phase := .comp stay (.char .remove)

/-- The phases of a pointer that comes and goes any number of times. -/
def Phase.lives : RegularExpression Phase := .star life

/-- The phases up to a moment at which the pointer is there or not. -/
def Phase.upTo : Bool → RegularExpression Phase
  | false => lives
  | true => .comp lives stay

/-- Whether a phase is one of a pointer that is there and stays. -/
def Phase.reports : Phase → Bool
  | add | remove => false
  | hover | down | move | up => true

theorem Phase.mem_ofPresent {p : Phase} (reports : p.reports = true) : [p] ∈ ofPresent.matches' := by
  cases p with
  | add => cases reports
  | remove => cases reports
  | hover => exact .inl (.inl rfl)
  | down => exact .inl (.inr rfl)
  | move => exact .inr (.inl rfl)
  | up => exact .inr (.inr rfl)

/-- The phases so far, and whether the pointer is there after them. -/
inductive Phase.Word : Bool → List Phase → Prop
  | start : Word false []
  | add {w : List Phase} (word : Word false w) : Word true (w ++ [.add])
  | report {w : List Phase} {p : Phase} (word : Word true w) (reports : p.reports = true) :
      Word true (w ++ [p])
  | remove {w : List Phase} (word : Word true w) : Word false (w ++ [.remove])

/-- One more word of a repeated language. -/
theorem mem_star_append {α : Type} {P : RegularExpression α} {v w : List α}
    (hv : v ∈ P.star.matches') (hw : w ∈ P.matches') : v ++ w ∈ P.star.matches' :=
  kstar_mul_le_kstar (a := P.matches') (Language.append_mem_mul hv hw)

theorem Phase.Word.mem {present : Bool} {w : List Phase} (word : Word present w) :
    w ∈ (upTo present).matches' := by
  induction word with
  | start => exact Language.nil_mem_kstar _
  | add word ih =>
    have begun : [Phase.add] ++ [] ∈ stay.matches' :=
      Language.append_mem_mul rfl (Language.nil_mem_kstar _)
    exact Language.append_mem_mul ih begun
  | report word reports ih =>
    obtain ⟨past, hpast, _, ⟨first, hfirst, body, hbody, rfl⟩, rfl⟩ := Language.mem_mul.1 ih
    have longer := mem_star_append hbody (mem_ofPresent reports)
    rw [List.append_assoc, List.append_assoc]
    exact Language.append_mem_mul hpast (Language.append_mem_mul hfirst longer)
  | remove word ih =>
    obtain ⟨past, hpast, rest, hrest, rfl⟩ := Language.mem_mul.1 ih
    have whole : rest ++ [Phase.remove] ∈ life.matches' := Language.append_mem_mul hrest rfl
    rw [List.append_assoc]
    exact mem_star_append hpast whole

/-- The phases so far begin a word of the language: removing the pointer would complete it. -/
theorem Phase.Word.prefix_lives {present : Bool} {w : List Phase} (word : Word present w) :
    ∃ w' ∈ lives.matches', w <+: w' := by
  cases present with
  | false => exact ⟨w, word.mem, List.prefix_rfl⟩
  | true => exact ⟨w ++ [.remove], word.remove.mem, List.prefix_append _ _⟩

/-! ### Phases and buttons -/

/-- What an event may be after another one.  The phases of a pointer that is there tell whether
buttons were held before the event and are held with it; the event that removes the pointer
repeats where it was and what it held. -/
inductive PointerEvent.Agrees (before e : PointerEvent) : Prop
  | add (phase : e.phase = .add) (after : e.buttons = .none)
  | hover (phase : e.phase = .hover) (before : before.buttons = .none) (after : e.buttons = .none)
  | down (phase : e.phase = .down) (before : before.buttons = .none) (after : e.buttons ≠ .none)
  | move (phase : e.phase = .move) (before : before.buttons ≠ .none) (after : e.buttons ≠ .none)
  | up (phase : e.phase = .up) (before : before.buttons ≠ .none) (after : e.buttons = .none)
  | remove (phase : e.phase = .remove) (buttons : e.buttons = before.buttons)
      (position : e.position = before.position)

/-- The state of the pointer that its last event shows. -/
def PointerState.told (events : List PointerEvent) : PointerState :=
  match events.getLast? with
  | none => {}
  | some e =>
    if e.phase = .remove then {}
    else { buttons := e.buttons, added := true, down := !e.buttons.isEmpty }

theorem PointerState.told_snoc (events : List PointerEvent) (e : PointerEvent) :
    told (events ++ [e]) =
      if e.phase = .remove then {}
      else { buttons := e.buttons, added := true, down := !e.buttons.isEmpty } := by
  simp [told]

namespace Normalizer

/-- All that the engine is told in the course of some reports. -/
def stream (n : Normalizer) (inputs : List PointerInput) : List PointerEvent :=
  (n.dispatches inputs).flatMap Dispatch.events

/-- The stream so far is well formed, and the normalizer knows its last event. -/
structure Settled (n : Normalizer) (out : List PointerEvent) : Prop where
  state : n.state = .told out
  last : ∀ e ∈ out.getLast?, n.last = e.position
  word : Phase.Word n.state.added (out.map PointerEvent.phase)
  adds : ∀ e ∈ out, e.phase = .add → e.buttons = .none
  agree : out.IsChain PointerEvent.Agrees

theorem settled_fresh : Settled {} [] :=
  ⟨rfl, nofun, .start, nofun, .nil⟩

/-- One more event. -/
theorem Settled.snoc {n n' : Normalizer} {out : List PointerEvent} {e : PointerEvent}
    (settled : n.Settled out) (state : n'.state = .told (out ++ [e]))
    (last : n'.last = e.position)
    (word : Phase.Word n'.state.added (out.map PointerEvent.phase ++ [e.phase]))
    (adds : e.phase = .add → e.buttons = .none)
    (agrees : ∀ before ∈ out.getLast?, before.Agrees e) : n'.Settled (out ++ [e]) where
  state := state
  last := by simpa using last
  word := by simpa using word
  adds := by
    intro e' mem
    obtain old | new := List.mem_append.1 mem
    · exact settled.adds e' old
    · rwa [List.mem_singleton.1 new]
  agree := by
    refine List.isChain_append.2 ⟨settled.agree, List.isChain_singleton e, ?_⟩
    rintro before hbefore e' he'
    obtain rfl : e = e' := by simpa using he'
    exact agrees before hbefore

/-- A pointer that is there has a last event, which shows its buttons. -/
theorem Settled.last_event {n : Normalizer} {out : List PointerEvent} (settled : n.Settled out)
    (added : n.state.added = true) :
    ∃ before, out.getLast? = some before ∧ n.state.buttons = before.buttons ∧
      n.state.down = !before.buttons.isEmpty ∧ n.last = before.position := by
  have state := settled.state
  unfold PointerState.told at state
  cases h : out.getLast? with
  | none =>
    rw [h] at state
    simp [state] at added
  | some e =>
    simp only [h] at state
    by_cases removed : e.phase = .remove
    · simp [state, removed] at added
    · rw [if_neg removed] at state
      exact ⟨e, rfl, by rw [state], by rw [state], settled.last e h⟩

/-- A pointer that is not there holds no button. -/
theorem Settled.state_of_absent {n : Normalizer} {out : List PointerEvent}
    (settled : n.Settled out) (absent : n.state.added = false) : n.state = {} := by
  have state := settled.state
  unfold PointerState.told at state
  split at state
  · exact state
  · split at state
    · exact state
    · simp [state] at absent

/-! ### What a report adds to the stream -/

/-- The normalizer once the pointer has been announced. -/
def announced (n : Normalizer) (position : Point) : Normalizer :=
  if n.state.added then n else ⟨{ n.state with added := true }, position⟩

theorem announced_added (n : Normalizer) (position : Point) :
    (n.announced position).state.added = true := by
  unfold announced
  split
  next added => exact added
  next => rfl

theorem Settled.announced {n : Normalizer} {out : List PointerEvent} (settled : n.Settled out)
    (position : Point) : (n.announced position).Settled (out ++ n.announcement position) := by
  cases added : n.state.added with
  | true => simpa [Normalizer.announced, announcement, added] using settled
  | false =>
    have word := settled.word
    rw [added] at word
    simp only [Normalizer.announced, announcement, added, Bool.false_eq_true, if_false]
    refine settled.snoc ?_ rfl (.add word) (fun _ => rfl) fun _ _ => .add rfl rfl
    rw [settled.state_of_absent added, PointerState.told_snoc]
    rfl

/-- A report announces the pointer first, and then tells about it. -/
theorem report_eq (n : Normalizer) (position : Point) (buttons : Buttons)
    (signal : PointerSignal) :
    n.report position buttons signal =
      { next := ((n.announced position).report position buttons signal).next
        events := n.announcement position ++
          ((n.announced position).report position buttons signal).events } := by
  cases added : n.state.added <;> simp [report, announced, announcement, added]

/-- The state in which the phase of the next event is found: the flag still tells of the buttons
held before, the mask is the new one. -/
def midway (held buttons : Buttons) : PointerState :=
  { buttons, added := true, down := !held.isEmpty }

theorem settle_midway (held buttons : Buttons) :
    (midway held buttons).settle (midway held buttons).phase =
      { buttons, added := true, down := !buttons.isEmpty } := by
  cases before : held.isEmpty <;> cases after : buttons.isEmpty <;>
    simp [midway, PointerState.phase, PointerState.settle, before, after]

theorem reports_midway (held buttons : Buttons) :
    (midway held buttons).phase.reports = true := by
  cases before : held.isEmpty <;> cases after : buttons.isEmpty <;>
    simp [midway, PointerState.phase, before, after, Phase.reports]

theorem agrees_midway (before : PointerEvent) (position : Point) (buttons : Buttons)
    (signal : PointerSignal) :
    before.Agrees ⟨(midway before.buttons buttons).phase, position, buttons, signal⟩ := by
  have none_of {b : Buttons} (empty : b.isEmpty = true) : b = .none := Buttons.isEmpty_iff.1 empty
  have some_of {b : Buttons} (held : b.isEmpty = false) : b ≠ .none := by
    rintro rfl
    cases held
  cases was : before.buttons.isEmpty <;> cases now : buttons.isEmpty <;>
    simp only [midway, PointerState.phase, was, now, Bool.not_true, Bool.not_false]
  · exact .move rfl (some_of was) (some_of now)
  · exact .up rfl (some_of was) (none_of now)
  · exact .down rfl (none_of was) (some_of now)
  · exact .hover rfl (none_of was) (none_of now)

theorem Settled.report_present {n : Normalizer} {out : List PointerEvent}
    (settled : n.Settled out) (added : n.state.added = true) (position : Point)
    (buttons : Buttons) (signal : PointerSignal) :
    (n.report position buttons signal).next.Settled
      (out ++ (n.report position buttons signal).events) := by
  obtain ⟨before, last, -, down, -⟩ := settled.last_event added
  have word := settled.word
  rw [added] at word
  have made : n.report position buttons signal =
      { next := ⟨{ buttons, added := true, down := !buttons.isEmpty }, position⟩
        events := [⟨(midway before.buttons buttons).phase, position, buttons, signal⟩] } := by
    rw [← settle_midway before.buttons buttons]
    simp [report, midway, announcement, added, down]
  have reports := reports_midway before.buttons buttons
  rw [made]
  refine settled.snoc ?_ rfl (.report word reports) ?_ ?_
  · rw [PointerState.told_snoc, if_neg]
    intro removed
    rw [show (midway before.buttons buttons).phase = .remove from removed] at reports
    cases reports
  · intro added
    rw [show (midway before.buttons buttons).phase = .add from added] at reports
    cases reports
  · intro before' mem
    rw [last] at mem
    cases mem
    exact agrees_midway before position buttons signal

theorem Settled.report {n : Normalizer} {out : List PointerEvent} (settled : n.Settled out)
    (position : Point) (buttons : Buttons) (signal : PointerSignal) :
    (n.report position buttons signal).next.Settled
      (out ++ (n.report position buttons signal).events) := by
  rw [report_eq, ← List.append_assoc]
  exact (settled.announced position).report_present (n.announced_added position) _ _ _

/-- Whatever is reported, the stream stays well formed. -/
theorem Settled.dispatch {n : Normalizer} {out : List PointerEvent} (settled : n.Settled out)
    (input : PointerInput) :
    (n.dispatch input).next.Settled (out ++ (n.dispatch input).events) := by
  have dropped (why : Dropped) : (n.drop why).next.Settled (out ++ (n.drop why).events) := by
    simpa [drop] using settled
  cases input with
  | add position =>
    cases added : n.state.added with
    | true => simpa [Normalizer.dispatch, added] using dropped .duplicateAdd
    | false =>
      have there := settled.announced position
      rw [Normalizer.announced, if_neg (by simp [added])] at there
      simpa [Normalizer.dispatch, added] using there
  | leave =>
    cases added : n.state.added with
    | false => simpa [Normalizer.dispatch, added] using dropped .removeWithoutAdd
    | true =>
      obtain ⟨before, last, buttons, -, position⟩ := settled.last_event added
      have word := settled.word
      rw [added] at word
      simp only [Normalizer.dispatch, added, if_true]
      refine settled.snoc ?_ rfl (.remove word) nofun ?_
      · rw [PointerState.told_snoc, if_pos rfl]
      intro before' mem
      rw [last] at mem
      cases mem
      exact .remove rfl buttons position
  | move position => exact settled.report position _ _
  | down position buttons =>
    cases empty : buttons.isEmpty with
    | true => simpa [Normalizer.dispatch, empty] using dropped .noButton
    | false =>
      simpa [Normalizer.dispatch, empty] using
        settled.report position (n.state.buttons.union buttons) .none
  | up position buttons =>
    cases empty : buttons.isEmpty with
    | true => simpa [Normalizer.dispatch, empty] using dropped .noButton
    | false =>
      simpa [Normalizer.dispatch, empty] using
        settled.report position (n.state.buttons.diff buttons) .none
  | scroll position delta multiplier => exact settled.report position _ _

/-- The normalizer is settled after each of its dispatches. -/
theorem Settled.dispatches {n : Normalizer} {out : List PointerEvent} (settled : n.Settled out)
    {inputs : List PointerInput} {before after : List Dispatch} {d : Dispatch}
    (made : n.dispatches inputs = before ++ d :: after) :
    d.next.Settled (out ++ (before ++ [d]).flatMap Dispatch.events) := by
  induction inputs generalizing n out before with
  | nil => simp [Normalizer.dispatches] at made
  | cons input inputs ih =>
    cases before with
    | nil =>
      obtain ⟨rfl, -⟩ := List.cons.inj made
      simpa using settled.dispatch input
    | cons first before =>
      obtain ⟨rfl, made'⟩ := List.cons.inj made
      simpa using ih (settled.dispatch input) made'

theorem Settled.stream {n : Normalizer} (settled : n.Settled []) (inputs : List PointerInput) :
    ∃ n' : Normalizer, n'.Settled (n.stream inputs) := by
  rcases List.eq_nil_or_concat (n.dispatches inputs) with none | ⟨before, d, some⟩
  · exact ⟨n, by simpa [Normalizer.stream, none] using settled⟩
  · rw [List.concat_eq_append] at some
    exact ⟨d.next, by simpa [Normalizer.stream, some] using settled.dispatches some⟩

/-- Whatever is reported to a fresh normalizer, the engine is told the beginning of a word of
`Phase.lives`; a pointer is added without buttons, and every other event agrees with the one
before it.  After each dispatch the state is the one that the last event shows. -/
theorem stream_well_formed (inputs : List PointerInput) :
    (∃ w ∈ Phase.lives.matches', (stream {} inputs).map PointerEvent.phase <+: w) ∧
      (∀ e ∈ stream {} inputs, e.phase = .add → e.buttons = .none) ∧
      (stream {} inputs).IsChain PointerEvent.Agrees ∧
      ∀ before d after, dispatches {} inputs = before ++ d :: after →
        d.next.state = .told ((before ++ [d]).flatMap Dispatch.events) := by
  obtain ⟨n, settled⟩ := settled_fresh.stream inputs
  refine ⟨settled.word.prefix_lives, settled.adds, settled.agree, ?_⟩
  intro before d after made
  exact (settled_fresh.dispatches made).state

end Normalizer

end HostView
