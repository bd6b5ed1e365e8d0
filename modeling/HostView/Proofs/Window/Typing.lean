import HostView.Proofs.Hook.Apart
import HostView.Proofs.Hook.Calm
import HostView.Proofs.Since
import HostView.Proofs.Window.Cursor

/-!
# When a key brings its text

A composition is open from the first text that the input method shows until it is accepted or given
up (`WindowEvent.Composing`); that the text is cleared in between does not end it.  While one is
open no key brings a text; while none is, a key that no hook keeps brings its text to all hooks,
once to each (`Intake.text_unless_composing`).  So a key may bring no text although the input method
does not display one (`Intake.cleared_text_keeps_keys_quiet`).
-/

namespace HostView

namespace WindowEvent

/-- The text that the input method displays from now on. -/
def preedit : WindowEvent → Option String
  | ime (.preedit text _) => some text
  | _ => none

/-- Whether an event says that a text was accepted or given up. -/
def settles : WindowEvent → Bool
  | ime (.commit _) | ime .disabled => true
  | _ => false

/-- An event that says that some text is displayed. -/
def Shows (e : WindowEvent) : Prop := ∃ text, e.preedit = some text ∧ text ≠ ""

/-- Some text was displayed, and nothing was accepted or given up since. -/
def Composing (events : List WindowEvent) : Prop := Since Shows (fun e => e.settles = false) events

/-- The input method displays some text: it was not changed since, and not accepted or given up. -/
def Displaying (events : List WindowEvent) : Prop :=
  Since Shows (fun e => e.settles = false ∧ e.preedit = none) events

theorem Displaying.composing {events : List WindowEvent} (displaying : Displaying events) :
    Composing events :=
  Since.mono (fun _ still => still.1) displaying

/-- A text that is cleared is not displayed any more. -/
theorem not_displaying_cleared (events : List WindowEvent) (cursor : Option (Nat × Nat)) :
    ¬ Displaying (events ++ [.ime (.preedit "" cursor)]) := by
  rw [Displaying, since_snoc]
  rintro (⟨text, shown, nonempty⟩ | ⟨-, -, unchanged⟩)
  · exact nonempty (Option.some.inj shown).symm
  · cases unchanged

end WindowEvent

open WindowEvent

/-! ### The composer -/

/-- A composition is open after an event that displays some text, and otherwise if one was open and
has not been accepted or given up. -/
theorem Translator.composing_translate (t : Translator) (e : WindowEvent) :
    (t.translate e).1.composer.composing = true ↔
      e.Shows ∨ t.composer.composing = true ∧ e.settles = false := by
  cases e with
  | ime ime =>
    cases ime with
    | preedit text cursor =>
      cases empty : text.isEmpty with
      | true =>
        obtain rfl := String.isEmpty_iff.1 empty
        simp [translate, Composer.apply, Shows, WindowEvent.preedit, settles]
      | false =>
        have shows : text ≠ "" := by rintro rfl; cases empty
        simp [translate, Composer.apply, empty, Shows, WindowEvent.preedit, shows]
    | enabled => simp [translate, Composer.apply, Shows, WindowEvent.preedit, settles]
    | _ =>
      cases under : t.composer.composing <;>
        simp [translate, Composer.apply, Composer.close, under, Shows, WindowEvent.preedit, settles]
  | mouse pressed button =>
    cases known : button.buttons? <;>
      simp [translate, known, Shows, WindowEvent.preedit, settles]
  | key k =>
    cases synthetic : k.synthetic <;>
      simp [translate, synthetic, Shows, WindowEvent.preedit, settles]
  | _ => simp [translate, Shows, WindowEvent.preedit, settles]

/-! ### Keys -/

section Perform

variable {τ ε : Type} {call : Callback → Work τ ε Bool} {point : PointerInput → Work τ ε Bool}
  {event : KeyEvent} {s s' : τ} {es : List ε}

/-- A key that is not kept is followed by its text. -/
theorem ViewRequest.run_of_passed (offered : call (.key event) s = ⟨.returned false, s', es⟩)
    (text : String) :
    ((ViewRequest.key event (some text)).perform call point s).events =
        es ++ (call (.text text) s').events ∧
      ((ViewRequest.key event (some text)).perform call point s).outcome =
        match (call (.text text) s').outcome with
        | .returned _ => .returned false
        | .panicked message => .panicked message := by
  rw [perform_key, Work.bind_of_returned offered]
  refine ⟨congrArg (es ++ ·) (Work.map_events s'), ?_⟩
  rcases told : call (.text text) s' with ⟨_ | _, s'', es'⟩
  · exact congrArg Run.outcome (Work.bind_of_returned told)
  · exact congrArg Run.outcome (Work.bind_of_panicked told)

theorem ViewRequest.events_of_textless (event : KeyEvent) (s : τ) :
    ((ViewRequest.key event none).perform call point s).events = (call (.key event) s).events := by
  rw [perform_key]
  rcases offered : call (.key event) s with ⟨(_ | _) | m, s', es⟩
  · rw [Work.bind_of_returned offered]
    simp
  · rw [Work.bind_of_returned offered]
    simp
  · rw [Work.bind_of_panicked offered]

end Perform

/-! ### The hooks of a view -/

namespace View

variable {σ : Type}

theorem events_of_textless (v : View σ) (event : KeyEvent) :
    (fulfil (.key event none) v).events = (v.notify (.key event)).events :=
  (congrArg Run.events (congrFun (fulfil_eq _) v)).trans (ViewRequest.events_of_textless event v)

theorem run_of_passed {v w : View σ} {event : KeyEvent} {es : List Event}
    (offered : v.notify (.key event) = ⟨.returned false, w, es⟩) (text : String) :
    (fulfil (.key event (some text)) v).events = es ++ (w.notify (.text text)).events ∧
      (fulfil (.key event (some text)) v).outcome =
        match (w.notify (.text text)).outcome with
        | .returned _ => .returned false
        | .panicked message => .panicked message := by
  rw [fulfil_eq]
  exact ViewRequest.run_of_passed offered text

/-- Hooks go on to do only what is allowed. -/
theorem keeps_uses {allowed : Action → Prop} (request : ViewRequest) :
    Work.Keeps (fun v : View σ => ∀ h ∈ v.hooks, h.Uses allowed)
      (fulfil request : Work (View σ) Event Bool) :=
  fulfil_rule (P := fun _ => Work.Keeps fun v => ∀ h ∈ v.hooks, h.Uses allowed) .pure .bind
    (fun callback _ use => (Dispatcher.dispatch_uses use callback).1) fun _ _ _ use => use

/-- The calls that are made to hooks that keep apart. -/
theorem hookCalls_notify {v : View σ} (apart : ∀ h ∈ v.hooks, h.Uses Action.Apart)
    (callback : Callback) :
    (v.notify callback).events.filterMap Event.hookCall <+: Hook.callsTo callback v.hooks ∧
      ∀ consumed, (v.notify callback).outcome = .returned consumed →
        (v.notify callback).events.filterMap Event.hookCall = Hook.callsTo callback v.hooks := by
  rw [notify, hookCalls_hear]
  exact Dispatcher.dispatch_apart apart callback

/-- The hooks that were there are there after a call as well, in front of new ones. -/
theorem manners_of_notify {v : View σ} {callback : Callback} {consumed : Bool}
    (returned : (v.notify callback).outcome = .returned consumed) :
    v.hooks.map Hook.manner <+: (v.notify callback).state.hooks.map Hook.manner := by
  obtain ⟨steps, -, -, dispatched⟩ := Dispatcher.dispatch_course returned
  obtain ⟨joined, slot, -⟩ := dispatched.slot
  have part : audience callback v.hooks <+: v.hooks := List.take_prefix _ _
  have manners (hs : List Hook) :
      (hs.map (·.after callback)).map Hook.manner = hs.map Hook.manner := by
    rw [List.map_map]
    exact List.map_congr_left fun h _ => h.manner_react callback
  have after : (v.notify callback).state.hooks.map Hook.manner =
      v.hooks.map Hook.manner ++ joined.map Hook.manner := by
    refine (congrArg (List.map Hook.manner) slot).trans ?_
    rw [List.map_append, List.map_append, manners, ← List.map_append,
      List.prefix_iff_eq_append.1 part]
  rw [after]
  exact List.prefix_append _ _

/-- Hooks that keep apart are called with nothing else meanwhile. -/
theorem eq_of_mem_hookCalls {v : View σ} (apart : ∀ h ∈ v.hooks, h.Uses Action.Apart)
    {callback : Callback} {call : Manner × Callback}
    (mem : call ∈ (v.notify callback).events.filterMap Event.hookCall) : call.2 = callback := by
  obtain ⟨h, -, rfl⟩ := List.mem_map.1 ((hookCalls_notify apart callback).1.mem mem)
  rfl

end View

/-! ### Any sequence of events -/

namespace Intake

variable {σ : Type} {start i : Intake σ} {steps : List (IntakeStep σ)}

/-- The events that came in some steps. -/
def arrived (steps : List (IntakeStep σ)) : List WindowEvent := steps.map (·.move)

/-- What hooks were told as a text in a step, and which. -/
def texts (r : Forwarded σ) : List (Manner × Callback) :=
  (r.events.filterMap Event.hookCall).filter (·.2.kind = .text)

/-- The composer knows whether a composition is open. -/
theorem Course.composing (course : Course start steps i) (fresh : start.translator = {}) :
    i.translator.composer.composing = true ↔ Composing (arrived steps) := by
  induction course with
  | nil => simp [fresh, arrived, Composing, not_since_nil]
  | snoc path taken ih =>
    obtain ⟨-, translator, -⟩ := forward_eq taken
    rw [translator, Translator.composing_translate, ih]
    simp only [arrived, List.map_append, List.map_cons, List.map_nil, Composing, since_snoc]

/-- What the hooks of the view keep, whatever is asked for, holds in all states. -/
theorem Course.uses {allowed : Action → Prop} (course : Course start steps i)
    (use : ∀ h ∈ start.view.hooks, h.Uses allowed) : ∀ h ∈ i.view.hooks, h.Uses allowed := by
  refine Path.invariant (P := fun i : Intake σ => ∀ h ∈ i.view.hooks, h.Uses allowed) course use ?_
  intro i e r use taken
  rw [(forward_view taken).1]
  exact View.keeps_uses _ _ use

variable {k : KeyInput} {r : Forwarded σ}

/-- What is seen of the offer of a key to hooks that keep apart is no text. -/
theorem filter_texts_of_key {v : View σ} (apart : ∀ h ∈ v.hooks, h.Uses Action.Apart)
    (event : KeyEvent) :
    ((v.notify (.key event)).events.filterMap Event.hookCall).filter (·.2.kind = .text) = [] := by
  refine List.filter_eq_nil_iff.2 fun call mem => ?_
  rw [View.eq_of_mem_hookCalls apart mem]
  simp [Callback.kind]

/-- A key brings no text while a composition is open. -/
theorem texts_of_composing (apart : ∀ h ∈ i.view.hooks, h.Uses Action.Apart)
    (taken : i.forward (.key k) = some r) (composing : i.translator.composer.composing = true) :
    texts r = [] := by
  rw [texts, (forward_view taken).2, Translator.translate]
  cases synthetic : k.synthetic with
  | true => rfl
  | false =>
    rw [if_neg Bool.false_ne_true, composing, Bool.not_true, Bool.and_false,
      if_neg Bool.false_ne_true, View.events_of_textless]
    exact filter_texts_of_key apart _

/-- A key that is pressed while no composition is open, and that no hook keeps, brings its text to
all hooks that are there by then; only a panic can keep it from some of them. -/
theorem texts_of_passed (apart : ∀ h ∈ i.view.hooks, h.Uses Action.Apart)
    (taken : i.forward (.key k) = some r) (free : i.translator.composer.composing = false)
    (real : k.synthetic = false) (pressed : k.pressed = true) {text : String}
    (brings : k.text = some text) {w : View σ} {es : List Event}
    (offered : i.view.notify (.key (Translator.keyEvent k)) = ⟨.returned false, w, es⟩) :
    let told := w.hooks.map fun h => (h.manner, Callback.text text)
    texts r <+: told ∧ (r.outcome.hasReturned = true → texts r = told) ∧
      r.outcome =
        match (w.notify (.text text)).outcome with
        | .returned _ => .returned false
        | .panicked message => .panicked message := by
  intro told
  have request : (i.translator.translate (.key k)).2 =
      .key (Translator.keyEvent k) (some text) := by
    simp [Translator.translate, real, pressed, free, brings]
  have apart' : ∀ h ∈ w.hooks, h.Uses Action.Apart := by
    have left := (Dispatcher.dispatch_uses apart (.key (Translator.keyEvent k))).1
    have slot : (Dispatcher.dispatch i.view.hooks (.key (Translator.keyEvent k))).slot = w.hooks :=
      congrArg (·.state.hooks) offered
    rwa [slot] at left
  obtain ⟨events, outcome⟩ := View.run_of_passed offered text
  have heard : texts r = (w.notify (.text text)).events.filterMap Event.hookCall := by
    have silent := filter_texts_of_key apart (Translator.keyEvent k)
    rw [offered] at silent
    rw [texts, (forward_view taken).2, request, events, List.filterMap_append, List.filter_append,
      silent, List.nil_append]
    refine List.filter_eq_self.2 fun call mem => ?_
    rw [View.eq_of_mem_hookCalls apart' mem]
    rfl
  have all : Hook.callsTo (.text text) w.hooks = told := by
    rw [Hook.callsTo, audience_of_unkept fun _ same => by cases same]
  obtain ⟨part, whole⟩ := View.hookCalls_notify apart' (.text text)
  rw [all, ← heard] at part whole
  rw [(forward_eq taken).2.2.2.1, request, outcome]
  refine ⟨part, fun returned => ?_, rfl⟩
  cases ended : (w.notify (.text text)).outcome with
  | returned consumed => exact whole consumed ended
  | panicked message =>
    rw [ended] at returned
    cases returned

/-- Whatever events a window gets whose hooks do not call the view: while a composition is open, and
so while the input method displays a text, keys bring no text.  While none is, a key that is
pressed, brings a text and is not kept by a hook tells this text to all hooks of the view, those
among them that were registered when the key was offered, in order and once to each; only if a
hook panics the hooks after it are not told. -/
theorem text_unless_composing (course : Course start steps i) (fresh : start.translator = {})
    (apart : ∀ h ∈ start.view.hooks, h.Uses Action.Apart) {before after : List (IntakeStep σ)}
    {x : IntakeStep σ} (split : steps = before ++ x :: after) {k : KeyInput}
    (key : x.move = .key k) :
    (Displaying (arrived before) → Composing (arrived before)) ∧
      (Composing (arrived before) → texts x.result = []) ∧
      ∀ text, ¬ Composing (arrived before) → k.synthetic = false → k.pressed = true →
        k.text = some text →
        let offered := x.before.view.notify (.key (Translator.keyEvent k))
        offered.outcome = .returned false →
          let told := offered.state.hooks.map fun h => (h.manner, Callback.text text)
          x.before.view.hooks.map Hook.manner <+: offered.state.hooks.map Hook.manner ∧
            texts x.result <+: told ∧
            (x.result.outcome.hasReturned = true → texts x.result = told) ∧
            ((∀ h ∈ start.view.hooks, h.Calm) →
              texts x.result = told ∧ x.result.outcome = .returned false) := by
  subst split
  obtain ⟨path, taken, -⟩ := Path.split course
  have composer := Course.composing path fresh
  have apart' := Course.uses path apart
  rw [key] at taken
  refine ⟨Displaying.composing, fun composing => ?_, ?_⟩
  · exact texts_of_composing apart' taken (composer.2 composing)
  intro text closed real pressed brings offered returned told
  have free : x.before.translator.composer.composing = false := by
    rw [← Bool.not_eq_true, composer]
    exact closed
  have run : offered = ⟨.returned false, offered.state, offered.events⟩ := by
    rw [← returned]
  obtain ⟨part, whole, outcome⟩ := texts_of_passed apart' taken free real pressed brings run
  refine ⟨View.manners_of_notify returned, part, whole, fun calm => ?_⟩
  have steady := Course.uses path fun h mem => Hook.calm_iff.1 (calm h mem)
  have steady' : ∀ h ∈ offered.state.hooks, h.Calm := fun h mem =>
    Hook.calm_iff.2 ((Dispatcher.dispatch_uses steady _).1 h mem)
  obtain ⟨⟨consumed, goes_on⟩, -⟩ := Dispatcher.dispatch_calm steady' (.text text)
  have ends : x.result.outcome = .returned false := by
    rw [outcome, show (offered.state.notify (.text text)).outcome = _ from goes_on]
  exact ⟨whole (by rw [ends]; rfl), ends⟩

/-! ### Windows that read -/

theorem taken_of_plain (plain : ∀ h ∈ start.view.hooks, h.Plain) (running : start.unwound = false)
    (e : WindowEvent) :
    ∃ r, start.forward e = some r ∧ r.next.unwound = false ∧
      r.next.view.hooks = start.view.hooks := by
  obtain ⟨r, taken⟩ : ∃ r, start.forward e = some r := by
    simp [forward, running]
  obtain ⟨used, calls⟩ := View.calls_fulfil (σ := σ) plain (start.translator.translate e).2
  obtain ⟨returns, hooks, -⟩ := calls start.view rfl
  obtain ⟨-, -, -, outcome, unwound⟩ := forward_eq taken
  refine ⟨r, taken, ?_, ?_⟩
  · rw [unwound, outcome, returns]
    rfl
  · rw [(forward_view taken).1, hooks]

/-- A window whose view has plain hooks takes all events, and the hooks stay as they are. -/
theorem course_of_plain (plain : ∀ h ∈ start.view.hooks, h.Plain) (running : start.unwound = false)
    (events : List WindowEvent) :
    ∃ steps i, Course start steps i ∧ arrived steps = events ∧
      ∀ x ∈ steps, x.before.view.hooks = start.view.hooks := by
  induction events generalizing start with
  | nil => exact ⟨[], start, .nil, rfl, by simp⟩
  | cons e events ih =>
    obtain ⟨r, taken, running', same⟩ := taken_of_plain plain running e
    obtain ⟨steps, i, course, came, hooks⟩ := @ih r.next (same ▸ plain) running'
    refine ⟨⟨start, e, r⟩ :: steps, i, course.cons (x := ⟨start, e, r⟩) taken,
      congrArg (e :: ·) came, ?_⟩
    rintro x (_ | ⟨_, mem⟩)
    · rfl
    · exact (hooks x mem).trans same

theorem arrived_eq_append (es : List WindowEvent) {es' : List WindowEvent} {e : WindowEvent}
    (came : arrived steps = es ++ e :: es') :
    ∃ before x after, steps = before ++ x :: after ∧ arrived before = es ∧ x.move = e ∧
      arrived after = es' := by
  obtain ⟨before, rest, rfl, begun, ended⟩ := List.map_eq_append_iff.1 came
  obtain ⟨x, after, rfl, rfl, came'⟩ := List.map_eq_cons_iff.1 ended
  exact ⟨before, x, after, rfl, begun, rfl, came'⟩

/-- The window of a view that has one hook, which keeps nothing. -/
def reading (h : Handshake Headless) : Intake Headless where
  view := { handshake := h, hooks := [.idle "reader"] }

theorem reading_plain (h : Handshake Headless) : ∀ g ∈ (reading h).view.hooks, g.Plain := by
  simp [reading, Hook.Plain, Hook.idle, Hook.script]

theorem reading_calm (h : Handshake Headless) : ∀ g ∈ (reading h).view.hooks, g.Calm := by
  simp [reading, idle_calm]

/-- The key that brings a text. -/
def letter (text : String) : KeyInput := ⟨.unidentified, some text, true, false, false⟩

/-- The hook of such a window is offered a key and does not keep it. -/
theorem offered_reading {v : View Headless} (hooks : v.hooks = [.idle "reader"])
    (event : KeyEvent) :
    (v.notify (.key event)).outcome = .returned false ∧
      (v.notify (.key event)).state.hooks = v.hooks := by
  have plain : ∀ g ∈ v.hooks, g.Plain := hooks ▸ reading_plain .resting
  rw [View.notify, Dispatcher.dispatch_plain plain, hooks]
  exact ⟨rfl, rfl⟩

/-- The input method displays a text and clears it again, and then a key brings its own. -/
def clearedEvents : List WindowEvent :=
  [.ime (.preedit "a" none), .ime (.preedit "" none), .key (letter "b")]

/-- The hook does not keep the key, and is not told its text, although none is displayed. -/
theorem cleared_text_keeps_keys_quiet :
    (∀ g ∈ (reading .resting).view.hooks, g.Uses Action.Apart ∧ g.Calm) ∧
      ∃ before x i, Course (reading .resting) (before ++ [x]) i ∧
        arrived (before ++ [x]) = clearedEvents ∧ ¬ Displaying (arrived before) ∧
        (x.before.view.notify (.key (Translator.keyEvent (letter "b")))).outcome = .returned false ∧
        texts x.result = [] := by
  refine ⟨fun g mem => ⟨(reading_plain _ g mem).uses, reading_calm _ g mem⟩, ?_⟩
  obtain ⟨steps, i, course, came, hooks⟩ :=
    course_of_plain (reading_plain .resting) rfl clearedEvents
  obtain ⟨before, x, after, rfl, begun, key, ended⟩ := arrived_eq_append
    ([.ime (.preedit "a" none)] ++ [.ime (.preedit "" none)]) came
  obtain rfl := List.map_eq_nil_iff.1 ended
  obtain ⟨path, taken, -⟩ := Path.split course
  have still : x.before.view.hooks = [.idle "reader"] := hooks x (by simp)
  have composing : Composing (arrived before) := by
    have shown : Composing ([] ++ [.ime (.preedit "a" none)]) :=
      since_snoc.2 (.inl ⟨"a", rfl, by decide⟩)
    rw [begun]
    exact since_snoc.2 (.inr ⟨shown, rfl⟩)
  refine ⟨before, x, i, course, came, ?_, (offered_reading still _).1, ?_⟩
  · rw [begun]
    exact not_displaying_cleared _ none
  · rw [key] at taken
    have apart (g : Hook) (mem : g ∈ x.before.view.hooks) : g.Uses Action.Apart :=
      have plain : ∀ g ∈ x.before.view.hooks, g.Plain := still ▸ reading_plain .resting
      (plain g mem).uses
    exact texts_of_composing apart taken ((Course.composing path rfl).2 composing)

/-- The input method displays a text, a key is pressed, the text is accepted, and another key is
pressed. -/
def acceptedEvents : List WindowEvent :=
  [.ime (.preedit "ka" none), .key (letter "k"), .ime (.commit "か"), .key (letter "a")]

/-- Of the two keys only the second brings its text to the hook, once. -/
theorem key_heard_after_composition :
    ∃ steps i, Course (reading .resting) steps i ∧ arrived steps = acceptedEvents ∧
      (∃ before x after, steps = before ++ x :: after ∧ x.move = .key (letter "k") ∧
        Composing (arrived before) ∧ texts x.result = []) ∧
      ∃ before x, steps = before ++ [x] ∧ x.move = .key (letter "a") ∧
        ¬ Composing (arrived before) ∧
        texts x.result = [((Hook.idle "reader").manner, .text "a")] := by
  obtain ⟨steps, i, course, came, hooks⟩ :=
    course_of_plain (reading_plain .resting) rfl acceptedEvents
  have apart (g : Hook) (mem : g ∈ (reading .resting).view.hooks) : g.Uses Action.Apart :=
    (reading_plain .resting g mem).uses
  have opened : Composing ([] ++ [.ime (.preedit "ka" none)]) :=
    since_snoc.2 (.inl ⟨"ka", rfl, by decide⟩)
  have closed : ¬ Composing
      ([.ime (.preedit "ka" none), .key (letter "k")] ++ [.ime (.commit "か")]) := by
    rw [Composing, since_snoc]
    rintro (⟨text, shown, -⟩ | ⟨-, kept⟩)
    · cases shown
    · cases kept
  refine ⟨steps, i, course, came, ?_, ?_⟩
  · obtain ⟨before, x, after, split, begun, key, -⟩ :=
      arrived_eq_append ([] ++ [.ime (.preedit "ka" none)]) came
    rw [← begun] at opened
    obtain ⟨-, quiet, -⟩ := text_unless_composing course rfl apart split key
    exact ⟨before, x, after, split, key, opened, quiet opened⟩
  · obtain ⟨before, x, after, split, begun, key, ended⟩ := arrived_eq_append
      ([.ime (.preedit "ka" none), .key (letter "k")] ++ [.ime (.commit "か")]) came
    obtain rfl := List.map_eq_nil_iff.1 ended
    have still : x.before.view.hooks = [.idle "reader"] := hooks x (by simp [split])
    obtain ⟨returned, kept⟩ := offered_reading still (Translator.keyEvent (letter "a"))
    rw [← begun] at closed
    obtain ⟨-, -, brings⟩ := text_unless_composing course rfl apart split key
    obtain ⟨-, -, -, whole⟩ := brings "a" closed rfl rfl rfl returned
    refine ⟨before, x, split, key, closed, ?_⟩
    rw [(whole (reading_calm .resting)).1, kept, still]
    rfl

end Intake

end HostView
