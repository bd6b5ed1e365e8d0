import HostView.Proofs.Pointer.Stream
import HostView.Proofs.Resize.Release
import HostView.Proofs.Since
import HostView.Proofs.Window.Intake
import Mathlib.Data.List.Permutation

/-!
# What hooks are told about text and compositions

Whatever events a window gets, and in whatever order, the text and the compositions that the hooks
are told of begin a word of `CallbackKind.speech`: single texts, and compositions that are begun,
changed at least once and ended (`Callback.Spoken`).  The composer is composing while the last
composition has not been ended.
-/

namespace HostView

/-! ### The words of the stream -/

/-- Where a composition stands: there is none, it was begun, or it has shown a text. -/
inductive Bracket
  | closed | begun | shown
deriving DecidableEq

def Bracket.isOpen : Bracket → Bool
  | closed => false
  | begun | shown => true

namespace CallbackKind

/-- A composition that has shown a text and has not ended. -/
def underWay : RegularExpression CallbackKind :=
  .comp (.char .composeBegin) (.comp (.char .composeChange) (.star (.char .composeChange)))

/-- A composition from its beginning to its end. -/
def composition : RegularExpression CallbackKind := .comp underWay (.char .composeEnd)

/-- Texts and compositions, one after the other. -/
def speech : RegularExpression CallbackKind := .star (.plus (.char .text) composition)

/-- The calls up to a moment at which a composition stands as given. -/
def upTo : Bracket → RegularExpression CallbackKind
  | .closed => speech
  | .begun => .comp speech (.char .composeBegin)
  | .shown => .comp speech underWay

end CallbackKind

namespace Callback

/-- Whether a call is about text or a composition. -/
def speaks (c : Callback) : Bool := c.kind != .key

/-- A composition has been begun and not been ended. -/
def Unmatched (calls : List Callback) : Prop :=
  ∃ past rest, calls = past ++ .composeBegin :: rest ∧ .composeEnd ∉ rest

theorem unmatched_iff (calls : List Callback) :
    Unmatched calls ↔ Since (· = .composeBegin) (· ≠ .composeEnd) calls := by
  constructor
  · rintro ⟨past, rest, rfl, unended⟩
    exact ⟨past, _, rest, rfl, rfl, fun c mem ends => unended (ends ▸ mem)⟩
  · rintro ⟨past, _, rest, rfl, rfl, unended⟩
    exact ⟨past, rest, rfl, fun mem => unended _ mem rfl⟩

theorem unmatched_snoc (calls : List Callback) (c : Callback) :
    Unmatched (calls ++ [c]) ↔ c = .composeBegin ∨ c ≠ .composeEnd ∧ Unmatched calls := by
  rw [unmatched_iff, since_snoc, unmatched_iff, and_comm]

/-- What a call may be after another one: a composition that was just begun shows some text. -/
def ShowsFirst (before c : Callback) : Prop :=
  before = .composeBegin → ∃ t cursor, c = .composeChange t cursor ∧ t ≠ ""

theorem isChain_snoc {calls : List Callback} {c : Callback} (shown : calls.IsChain ShowsFirst)
    (next : .composeBegin ∈ calls.getLast? → ∃ t cursor, c = .composeChange t cursor ∧ t ≠ "") :
    (calls ++ [c]).IsChain ShowsFirst := by
  refine List.isChain_append.2 ⟨shown, List.isChain_singleton _, ?_⟩
  rintro _ last d head rfl
  obtain rfl : c = d := by simpa using head
  exact next last

/-- The calls so far, and where the last composition stands after them. -/
inductive Spoken : Bracket → List Callback → Prop
  | start : Spoken .closed []
  | text {calls : List Callback} (t : String) (so : Spoken .closed calls) :
      Spoken .closed (calls ++ [.text t])
  | opening {calls : List Callback} (so : Spoken .closed calls) :
      Spoken .begun (calls ++ [.composeBegin])
  | first {calls : List Callback} {t : String} (cursor : Nat) (so : Spoken .begun calls)
      (some : t ≠ "") : Spoken .shown (calls ++ [.composeChange t cursor])
  | change {calls : List Callback} (t : String) (cursor : Nat) (so : Spoken .shown calls) :
      Spoken .shown (calls ++ [.composeChange t cursor])
  | closing {calls : List Callback} (so : Spoken .shown calls) :
      Spoken .closed (calls ++ [.composeEnd])

namespace Spoken

variable {b : Bracket} {calls : List Callback}

theorem mem (so : Spoken b calls) : calls.map kind ∈ (CallbackKind.upTo b).matches' := by
  induction so with
  | start => exact Language.nil_mem_kstar _
  | text t so ih =>
    rw [List.map_append]
    exact mem_star_append ih (.inl rfl)
  | opening so ih =>
    rw [List.map_append]
    exact Language.append_mem_mul ih rfl
  | first cursor so some ih =>
    obtain ⟨past, hpast, _, rfl, split⟩ := Language.mem_mul.1 ih
    have shown : [CallbackKind.composeBegin] ++ ([.composeChange] ++ []) ∈
        CallbackKind.underWay.matches' :=
      Language.append_mem_mul rfl (Language.append_mem_mul rfl (Language.nil_mem_kstar _))
    rw [List.map_append, ← split, List.append_assoc]
    exact Language.append_mem_mul hpast shown
  | change t cursor so ih =>
    obtain ⟨past, hpast, _, ⟨_, rfl, _, ⟨_, rfl, changes, hchanges, rfl⟩, rfl⟩, split⟩ :=
      Language.mem_mul.1 ih
    have more : changes ++ [CallbackKind.composeChange] ∈
        (RegularExpression.char CallbackKind.composeChange).star.matches' :=
      mem_star_append hchanges rfl
    have longer : [CallbackKind.composeBegin] ++ ([.composeChange] ++
        (changes ++ [.composeChange])) ∈ CallbackKind.underWay.matches' :=
      Language.append_mem_mul rfl (Language.append_mem_mul rfl more)
    rw [List.map_append, ← split, List.append_assoc]
    exact Language.append_mem_mul hpast longer
  | closing so ih =>
    obtain ⟨past, hpast, last, hlast, split⟩ := Language.mem_mul.1 ih
    have whole : last ++ [CallbackKind.composeEnd] ∈ CallbackKind.composition.matches' :=
      Language.append_mem_mul hlast rfl
    rw [List.map_append, ← split, List.append_assoc]
    exact mem_star_append hpast (.inr whole)

/-- The calls so far begin a word of the language. -/
theorem prefix_speech (so : Spoken b calls) :
    ∃ w ∈ CallbackKind.speech.matches', calls.map kind <+: w := by
  cases b with
  | closed => exact ⟨_, so.mem, List.prefix_rfl⟩
  | begun =>
    have ended := (first 0 so (t := "a") (by decide)).closing
    refine ⟨_, ended.mem, ?_⟩
    rw [List.append_assoc, List.map_append]
    exact List.prefix_append _ _
  | shown =>
    refine ⟨_, so.closing.mem, ?_⟩
    rw [List.map_append]
    exact List.prefix_append _ _

/-- The first text of each composition is not empty. -/
theorem shows_first (so : Spoken b calls) :
    calls.IsChain ShowsFirst ∧ (.composeBegin ∈ calls.getLast? → b = .begun) := by
  induction so with
  | start => exact ⟨.nil, nofun⟩
  | text t so ih => exact ⟨isChain_snoc ih.1 fun last => (nomatch ih.2 last), by simp⟩
  | opening so ih => exact ⟨isChain_snoc ih.1 fun last => (nomatch ih.2 last), fun _ => rfl⟩
  | @first calls t cursor so some ih =>
    exact ⟨isChain_snoc ih.1 fun _ => ⟨t, cursor, rfl, some⟩, by simp⟩
  | change t cursor so ih => exact ⟨isChain_snoc ih.1 fun last => (nomatch ih.2 last), by simp⟩
  | closing so ih => exact ⟨isChain_snoc ih.1 fun last => (nomatch ih.2 last), by simp⟩

/-- A composition is open while there is one that has not been ended. -/
theorem unmatched (so : Spoken b calls) : Unmatched calls ↔ b.isOpen = true := by
  induction so with
  | start => simp [Unmatched, Bracket.isOpen]
  | _ => simp_all [unmatched_snoc, Bracket.isOpen]

end Spoken

end Callback

/-! ### The composer -/

open Callback

/-- A beginning of a list of one call that is not empty is all of it. -/
theorem begins_singleton {made : List Callback} {c : Callback} (part : made <+: [c])
    (some : made ≠ []) : made = [c] := by
  obtain rfl | ⟨rest, rfl, none⟩ := List.prefix_cons_iff.1 part
  · exact absurd rfl some
  · rw [List.prefix_nil.1 none]

theorem begins_pair {made : List Callback} {c c' : Callback} (part : made <+: [c, c'])
    (some : made ≠ []) : made = [c] ∨ made = [c, c'] := by
  obtain rfl | ⟨rest, rfl, part'⟩ := List.prefix_cons_iff.1 part
  · exact absurd rfl some
  obtain rfl | ⟨rest', rfl, none⟩ := List.prefix_cons_iff.1 part'
  · exact .inl rfl
  · rw [List.prefix_nil.1 none]
    exact .inr rfl

/-- Where the calls for a report of the input method leave the composition, if a panic may cut
them short after the first one. -/
theorem Callback.Spoken.apply {c : Composer} {b : Bracket} {calls made : List Callback}
    (so : Spoken b calls) (stands : c.composing = b.isOpen) (steady : b ≠ .begun) (ime : Ime)
    (part : made <+: (c.apply ime).2) (some : (c.apply ime).2 ≠ [] → made ≠ []) :
    ∃ b', Spoken b' (calls ++ made) ∧ (c.apply ime).1.composing = b'.isOpen ∧
      (made = (c.apply ime).2 → b' ≠ .begun) := by
  have idle (none : (c.apply ime).2 = []) (same : (c.apply ime).1 = c) :
      ∃ b', Spoken b' (calls ++ made) ∧ (c.apply ime).1.composing = b'.isOpen ∧
        (made = (c.apply ime).2 → b' ≠ .begun) := by
    rw [none, List.prefix_nil] at part
    subst part
    exact ⟨b, by simpa using so, by rw [same, stands], fun _ => steady⟩
  cases b with
  | begun => exact absurd rfl steady
  | closed =>
    have stands : c.composing = false := stands
    cases ime with
    | enabled => exact idle rfl rfl
    | disabled =>
      exact idle (by simp [Composer.apply, Composer.close, stands])
        (by simp [Composer.apply, Composer.close, stands])
    | commit text =>
      simp only [Composer.apply, Composer.close, stands] at part some ⊢
      obtain rfl := begins_singleton part (some (by simp))
      exact ⟨.closed, so.text text, stands, fun _ => nofun⟩
    | preedit text cursor =>
      cases empty : text.isEmpty with
      | true =>
        exact idle (by simp [Composer.apply, empty, stands]) (by simp [Composer.apply, empty])
      | false =>
        simp only [Composer.apply, empty, stands] at part some ⊢
        -- a hook may have panicked before it was told the first text
        obtain rfl | rfl := begins_pair part (some (by simp))
        · exact ⟨.begun, so.opening, rfl, by simp⟩
        · rw [List.append_cons]
          have shows : text ≠ "" := by rintro rfl; cases empty
          exact ⟨.shown, so.opening.first _ shows, rfl, fun _ => nofun⟩
  | shown =>
    have stands : c.composing = true := stands
    cases ime with
    | enabled => exact idle rfl rfl
    | disabled =>
      simp only [Composer.apply, Composer.close, stands, if_true] at part some ⊢
      obtain rfl := begins_singleton part (some (by simp))
      exact ⟨.closed, so.closing, rfl, fun _ => nofun⟩
    | commit text =>
      simp only [Composer.apply, Composer.close, stands, if_true] at part some ⊢
      obtain rfl | rfl := begins_pair part (some (by simp))
      · exact ⟨.closed, so.closing, rfl, fun _ => nofun⟩
      · rw [List.append_cons]
        exact ⟨.closed, so.closing.text text, rfl, fun _ => nofun⟩
    | preedit text cursor =>
      cases empty : text.isEmpty with
      | true =>
        simp only [Composer.apply, empty, stands, if_true] at part some ⊢
        obtain rfl := begins_singleton part (some (by simp))
        exact ⟨.shown, so.change "" 0, rfl, fun _ => nofun⟩
      | false =>
        simp only [Composer.apply, empty, stands, if_true] at part some ⊢
        obtain rfl := begins_singleton part (some (by simp))
        exact ⟨.shown, so.change text _, rfl, fun _ => nofun⟩

/-! ### Any sequence of events -/

namespace Intake

variable {σ : Type} {start i : Intake σ} {steps : List (IntakeStep σ)}

/-- The calls about text and compositions in some steps. -/
def spoken (steps : List (IntakeStep σ)) : List Callback := (calls steps).filter speaks

theorem spoken_snoc (steps : List (IntakeStep σ)) (x : IntakeStep σ) :
    spoken (steps ++ [x]) = spoken steps ++ x.result.calls.filter speaks := by
  rw [spoken, calls_snoc, List.filter_append, spoken]

/-- The calls so far are well formed, and the composer knows whether a composition is open.  Only
a panic can come between the beginning of a composition and its first text. -/
def Told (i : Intake σ) (calls : List Callback) : Prop :=
  ∃ b, Spoken b calls ∧ i.translator.composer.composing = b.isOpen ∧
    (i.unwound = false → b ≠ .begun)

theorem Told.same {i i' : Intake σ} {calls : List Callback} (told : i.Told calls)
    (composer : i'.translator.composer = i.translator.composer) (running : i.unwound = false) :
    i'.Told (calls ++ []) := by
  obtain ⟨b, so, stands, steady⟩ := told
  exact ⟨b, by simpa using so, by rw [composer, stands], fun _ => steady running⟩

/-- A key that is pressed brings its text, unless the window system made it up, an input method is
composing, or a hook keeps the key for itself. -/
theorem spoken_of_key {k : KeyInput} {r : Forwarded σ} (taken : i.forward (.key k) = some r) :
    r.calls.filter speaks =
      if k.synthetic = false ∧ k.pressed = true ∧ i.translator.composer.composing = false ∧
          (i.view.notify (.key (Translator.keyEvent k))).outcome = .returned false then
        k.text.toList.map .text
      else [] := by
  obtain ⟨-, -, made, -, -⟩ := forward_eq taken
  rw [made, Translator.translate]
  cases synthetic : k.synthetic with
  | true =>
    rw [if_pos rfl, if_neg fun brings => Bool.noConfusion brings.1]
    rfl
  | false =>
    rw [if_neg Bool.false_ne_true, View.callsFor_key]
    cases k.pressed <;> cases i.translator.composer.composing <;> cases k.text <;>
      simp [speaks, kind, List.filter_cons, apply_ite (List.filter speaks)]

/-- An event that is neither a key nor from the input method calls no hook. -/
theorem calls_of_other {e : WindowEvent} {r : Forwarded σ} (taken : i.forward e = some r)
    (noKey : ∀ k, e ≠ .key k) (noIme : ∀ ime, e ≠ .ime ime) :
    r.calls = [] ∧ r.next.translator.composer = i.translator.composer := by
  obtain ⟨-, translator, made, -, -⟩ := forward_eq taken
  rw [made, translator]
  cases e with
  | key k => exact absurd rfl (noKey k)
  | ime ime => exact absurd rfl (noIme ime)
  | mouse pressed button =>
    cases known : button.buttons? <;> rw [Translator.translate, known] <;> exact ⟨rfl, rfl⟩
  | _ => exact ⟨rfl, rfl⟩

theorem speaks_of_apply (c : Composer) (ime : Ime) : ∀ call ∈ (c.apply ime).2, speaks call := by
  cases ime with
  | preedit text cursor =>
    cases empty : text.isEmpty <;> cases under : c.composing <;>
      simp [Composer.apply, empty, under, speaks, kind]
  | _ => cases under : c.composing <;> simp [Composer.apply, Composer.close, under, speaks, kind]

theorem Told.step {calls : List Callback} (told : i.Told calls) {e : WindowEvent}
    {r : Forwarded σ} (taken : i.forward e = some r) :
    r.next.Told (calls ++ r.calls.filter speaks) := by
  obtain ⟨running, translator, made, outcome, unwound⟩ := forward_eq taken
  rw [made]
  cases e with
  | ime ime =>
    obtain ⟨b, so, stands, steady⟩ := told
    obtain ⟨part, some, whole⟩ := i.view.callsFor_compose (i.translator.composer.apply ime).2
    obtain ⟨b', so', stands', steady'⟩ := so.apply stands (steady running) ime part some
    have all : (i.view.callsFor (.compose (i.translator.composer.apply ime).2)).filter speaks =
        i.view.callsFor (.compose (i.translator.composer.apply ime).2) :=
      List.filter_eq_self.2 fun call mem => speaks_of_apply _ _ _ (part.mem mem)
    refine ⟨b', ?_, by rw [translator]; exact stands', fun on => steady' (whole ?_)⟩
    · rw [← all] at so'
      exact so'
    · have returns := Bool.not_eq_false' _ ▸ unwound.symm.trans on
      exact outcome ▸ returns
  | key k =>
    have same : r.next.translator.composer = i.translator.composer := by
      rw [translator, Translator.translate]
      split <;> rfl
    rw [← made, spoken_of_key taken]
    split
    next brings =>
      obtain ⟨-, -, free, -⟩ := brings
      obtain ⟨b, so, stands, steady⟩ := told
      cases k.text with
      | none => exact Told.same ⟨b, so, stands, steady⟩ same running
      | some text =>
        rw [free] at stands
        cases b with
        | closed => exact ⟨.closed, so.text text, by rw [same, free]; rfl, fun _ => nofun⟩
        | _ => cases stands
    next => exact told.same same running
  | _ =>
    obtain ⟨none, same⟩ := calls_of_other taken nofun nofun
    rw [← made, none]
    exact told.same same running

theorem Course.told (course : Course start steps i) (fresh : start.translator = {}) :
    i.Told (spoken steps) := by
  induction course with
  | nil => exact ⟨.closed, .start, by rw [fresh]; rfl, fun _ => nofun⟩
  | snoc path taken ih =>
    rw [spoken_snoc]
    exact ih.step taken

theorem Told.unmatched {calls : List Callback} (told : i.Told calls) :
    i.translator.composer.composing = true ↔ Unmatched calls := by
  obtain ⟨b, so, stands, -⟩ := told
  rw [stands, so.unmatched]

/-- Accepting a text ends an open composition first. -/
theorem calls_of_commit {text : String} {r : Forwarded σ}
    (taken : i.forward (.ime (.commit text)) = some r) (returns : r.outcome.hasReturned = true) :
    r.calls = (if i.translator.composer.composing then [.composeEnd] else []) ++ [.text text] := by
  obtain ⟨-, -, made, outcome, -⟩ := forward_eq taken
  obtain ⟨-, -, whole⟩ :=
    i.view.callsFor_compose (i.translator.composer.apply (.commit text)).2
  rw [made]
  refine (whole (outcome ▸ returns)).trans ?_
  cases under : i.translator.composer.composing <;> simp [Composer.apply, Composer.close, under]

/-- Only keys and accepted texts bring text. -/
theorem text_from {e : WindowEvent} {r : Forwarded σ} {text : String}
    (taken : i.forward e = some r) (mem : .text text ∈ r.calls) :
    e = .ime (.commit text) ∨ ∃ k, e = .key k ∧ k.text = some text := by
  cases e with
  | ime ime =>
    obtain ⟨-, -, made, -, -⟩ := forward_eq taken
    rw [made] at mem
    have said := (i.view.callsFor_compose (i.translator.composer.apply ime).2).1.mem mem
    cases ime with
    | commit t =>
      cases under : i.translator.composer.composing <;>
        simp_all [Composer.apply, Composer.close]
    | preedit t cursor =>
      cases empty : t.isEmpty <;> cases under : i.translator.composer.composing <;>
        simp [Composer.apply, empty, under] at said
    | _ =>
      cases under : i.translator.composer.composing <;>
        simp [Composer.apply, Composer.close, under] at said
  | key k =>
    have said : .text text ∈ r.calls.filter speaks := List.mem_filter.2 ⟨mem, rfl⟩
    rw [spoken_of_key taken] at said
    split at said
    next => exact .inr ⟨k, rfl, by simpa using said⟩
    next => cases said
  | _ =>
    rw [(calls_of_other taken nofun nofun).1] at mem
    cases mem

/-- Whatever events a window gets, the calls about text and compositions begin a word of
`CallbackKind.speech` in which the first text of each composition is not empty, and the composer is
composing while a composition has not been ended.  Accepting a text brings exactly that text,
after ending an open composition; a key brings its text, once, if it is pressed, is not made up
and not kept by a hook, and no composition is open; nothing else brings text. -/
theorem speech_well_bracketed (course : Course start steps i) (fresh : start.translator = {}) :
    (∃ w ∈ CallbackKind.speech.matches', (spoken steps).map kind <+: w) ∧
      (spoken steps).IsChain ShowsFirst ∧
      (i.translator.composer.composing = true ↔ Unmatched (spoken steps)) ∧
      ∀ before x after, steps = before ++ x :: after →
        (x.before.translator.composer.composing = true ↔ Unmatched (spoken before)) ∧
        (∀ text, x.move = .ime (.commit text) → x.result.outcome.hasReturned = true →
          x.result.calls =
            (if x.before.translator.composer.composing then [.composeEnd] else []) ++
              [.text text]) ∧
        (∀ k, x.move = .key k → x.result.calls.filter speaks =
          if k.synthetic = false ∧ k.pressed = true ∧
              x.before.translator.composer.composing = false ∧
              (x.before.view.notify (.key (Translator.keyEvent k))).outcome = .returned false then
            k.text.toList.map .text
          else []) ∧
        ∀ text, .text text ∈ x.result.calls →
          x.move = .ime (.commit text) ∨ ∃ k, x.move = .key k ∧ k.text = some text := by
  obtain ⟨b, so, -⟩ := course.told fresh
  refine ⟨so.prefix_speech, so.shows_first.1, (course.told fresh).unmatched, ?_⟩
  rintro before x after rfl
  obtain ⟨past, taken, -⟩ := course.split
  refine ⟨(Course.told past fresh).unmatched, ?_, ?_, fun _ => text_from taken⟩
  · rintro text commits returns
    rw [commits] at taken
    exact calls_of_commit taken returns
  · rintro k keys
    rw [keys] at taken
    exact spoken_of_key taken

/-- The window of a view that has one hook, which only keeps the key that quits. -/
def listening (h : Handshake Headless) : Intake Headless where
  view := { handshake := h, hooks := [quitOnEscape] }

/-- A key that brings a text. -/
def typing (text : String) : WindowEvent := .key ⟨.unidentified, some text, true, false, false⟩

/-- A composition that is cleared before its text is accepted, with keys during and after it. -/
def composingEvents : List WindowEvent :=
  [.ime (.preedit "ka" none), typing "k", .ime (.preedit "" none), .ime (.commit "か"), typing "a"]

/-- The steps of these events. -/
def composingSteps (h : Handshake Headless) : List (IntakeStep Headless) :=
  Path.record forward Forwarded.next (listening h) composingEvents

theorem translate_ka (t : Translator) :
    t.translate (.ime (.preedit "ka" none)) =
      ({ t with composer.composing := true },
        .compose ((if t.composer.composing then [] else [.composeBegin]) ++
          [.composeChange "ka" 2])) := rfl

theorem translate_cleared (t : Translator) :
    t.translate (.ime (.preedit "" none)) =
      (t, .compose (if t.composer.composing then [.composeChange "" 0] else [])) := rfl

theorem spoken_composingSteps (h : Handshake Headless) :
    spoken (composingSteps h) =
      [.composeBegin, .composeChange "ka" 2, .composeChange "" 0, .composeEnd, .text "か",
        .text "a"] := by
  simp only [composingSteps, composingEvents, typing, Path.record, forward, translate_ka,
    translate_cleared]
  cbv

/-- The key during the composition brings no text, and the one after it brings its own. -/
theorem key_quiet_while_composing :
    spoken (composingSteps .resting) =
        [.composeBegin, .composeChange "ka" 2, .composeChange "" 0, .composeEnd, .text "か",
          .text "a"] ∧
      ∃ w ∈ CallbackKind.speech.matches',
        [.composeBegin, .composeChange, .composeChange, .composeEnd, .text, .text] <+: w := by
  obtain ⟨i, course⟩ : ∃ i, Course (listening .resting) (composingSteps .resting) i :=
    Path.recorded (listening .resting) composingEvents
  obtain ⟨word, -⟩ := speech_well_bracketed course rfl
  rw [spoken_composingSteps] at word
  exact ⟨spoken_composingSteps .resting, word⟩

end Intake

end HostView
