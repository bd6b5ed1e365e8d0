import HostView.Proofs.Host.Control
import HostView.Viewer.Run

/-!
# How the viewer is quit

The viewer has two hooks, neither of which has a script.  Among all events of its window only a
press of the Escape key makes one of them ask for shutdown (`Host.quits_iff`); a press that is
repeated or that the window system made up does not.
-/

namespace HostView

/-! ### The Escape key -/

theorem KeyCode.virtualKey_eq_escape {c : KeyCode} : c.virtualKey = escapeKey ↔ c = .escape := by
  cases c with
  | letter i => revert i; decide
  | digit i => revert i; decide
  | function i => revert i; decide
  | _ => decide

theorem KeyCode.ofName_eq_escape {name : String} : ofName name = escape ↔ name = "Escape" := by
  constructor
  · intro found
    rw [ofName, Option.getD_eq_iff] at found
    obtain found | ⟨-, absent⟩ := found
    · obtain ⟨before, after, table, -⟩ := List.lookup_eq_some_iff.1 found
      have mem : (name, escape) ∈ byName ++ letterNames ++ digitNames ++ functionNames := by
        rw [table]
        simp
      simp only [letterNames, digitNames, functionNames, List.mem_append, List.mem_map,
        Prod.mk.injEq, reduceCtorEq, and_false, exists_false, or_false] at mem
      have unique : ∀ p ∈ byName, p.2 = escape → p.1 = "Escape" := by decide
      exact unique _ mem rfl
    · cases absent
  · rintro rfl
    decide

/-- Escape has a virtual-key code of its own. -/
theorem PhysicalKey.virtualKey_eq_escape {k : PhysicalKey} :
    k.virtualKey = escapeKey ↔ k = .named "Escape" := by
  rw [virtualKey, KeyCode.virtualKey_eq_escape]
  cases k with
  | named name => rw [code, KeyCode.ofName_eq_escape, named.injEq]
  | unidentified => simp [code]

theorem KeyAction.of_eq_press {pressed repeated : Bool} :
    KeyAction.of pressed repeated = .press ↔ pressed = true ∧ repeated = false := by
  cases pressed <;> cases repeated <;> decide

/-- A press of Escape that the user has made. -/
def KeyInput.IsEscape (k : KeyInput) : Prop :=
  k.key = .named "Escape" ∧ k.pressed = true ∧ k.repeated = false ∧ k.synthetic = false

/-- A call that makes the hook that quits ask for shutdown. -/
def KeyEvent.IsQuit (e : KeyEvent) : Prop := e.key = escapeKey ∧ e.action = .press

theorem isQuit_keyEvent {k : KeyInput} :
    (Translator.keyEvent k).IsQuit ↔
      k.key = .named "Escape" ∧ k.pressed = true ∧ k.repeated = false :=
  and_congr PhysicalKey.virtualKey_eq_escape KeyAction.of_eq_press

/-! ### The hooks of the viewer -/

namespace Viewer

/-- The hooks of the viewer. -/
def hooks : List Hook := [quitOnEscape, echoText]

theorem hooks_plain : ∀ h ∈ hooks, h.Plain := by
  simp [hooks, Hook.Plain, Hook.script, quitOnEscape, echoText]

theorem quits_quitOnEscape {e : KeyEvent} :
    quitOnEscape.manner.quits (.key e) = true ↔ e.IsQuit := by
  simp [Manner.quits, quitOnEscape, Hook.manner, KeyRule.consumes, KeyEvent.IsQuit]

theorem quits_echoText (callback : Callback) : echoText.manner.quits callback = false := by
  cases callback <;> rfl

/-- Whatever the hooks are told, the first of them is told, and only it can ask for shutdown. -/
theorem quits_of_call {callback : Callback} :
    (∃ call ∈ Hook.callsTo callback hooks, call.1.quits call.2 = true) ↔
      ∃ e, callback = .key e ∧ e.IsQuit := by
  constructor
  · rintro ⟨call, mem, quits⟩
    obtain ⟨h, called, rfl⟩ := List.mem_map.1 mem
    have member : h ∈ hooks := List.mem_of_mem_take called
    simp only [hooks, List.mem_cons, List.not_mem_nil, or_false] at member
    obtain rfl | rfl := member
    · cases callback with
      | key e => exact ⟨e, rfl, quits_quitOnEscape.1 quits⟩
      | _ => cases quits
    · rw [quits_echoText] at quits
      cases quits
  · rintro ⟨e, rfl, quit⟩
    refine ⟨(quitOnEscape.manner, .key e), ?_, quits_quitOnEscape.2 quit⟩
    rw [Hook.callsTo, hooks, audience_cons]
    exact List.mem_cons_self

/-- A composition tells of no key. -/
theorem key_not_mem_apply (c : Composer) (ime : Ime) (e : KeyEvent) :
    .key e ∉ (c.apply ime).2 := by
  cases ime with
  | enabled => nofun
  | preedit text cursor =>
    rw [Composer.apply]
    split
    · cases c.composing <;> simp
    · cases c.composing <;> simp
  | commit text =>
    rw [Composer.apply, Composer.close]
    cases c.composing <;> simp
  | disabled =>
    rw [Composer.apply, Composer.close]
    cases c.composing <;> simp

/-- The only event of a window that makes a hook of the viewer ask for shutdown is a press of
Escape. -/
theorem quits_of_event {t : Translator} {event : WindowEvent} :
    (∃ call ∈ (View.told hooks (t.translate event).2).flatMap (Hook.callsTo · hooks),
        call.1.quits call.2 = true) ↔
      ∃ k, event = .key k ∧ k.IsEscape := by
  have told : (∃ call ∈ (View.told hooks (t.translate event).2).flatMap (Hook.callsTo · hooks),
      call.1.quits call.2 = true) ↔
        ∃ e, .key e ∈ View.told hooks (t.translate event).2 ∧ e.IsQuit := by
    simp only [List.mem_flatMap]
    constructor
    · rintro ⟨call, ⟨callback, mem, called⟩, quits⟩
      obtain ⟨e, rfl, quit⟩ := quits_of_call.1 ⟨call, called, quits⟩
      exact ⟨e, mem, quit⟩
    · rintro ⟨e, mem, quit⟩
      obtain ⟨call, called, quits⟩ := quits_of_call.2 ⟨e, rfl, quit⟩
      exact ⟨call, ⟨_, mem, called⟩, quits⟩
  rw [told]
  cases event with
  | key k =>
    rw [Translator.translate]
    cases made : k.synthetic with
    | true => simp [View.told, KeyInput.IsEscape, made]
    | false =>
      have only (e : KeyEvent) (text : Option String) :
          .key e ∈ View.told hooks (.key (Translator.keyEvent k) text) ↔
            e = Translator.keyEvent k := by
        rw [View.told]
        split <;> simp
      simp [only, isQuit_keyEvent, KeyInput.IsEscape, made]
  | ime ime => simp [Translator.translate, View.told, key_not_mem_apply]
  | mouse pressed button =>
    cases button <;> simp [Translator.translate, View.told, MouseButton.buttons?]
  | _ => simp [Translator.translate, View.told]

end Viewer

/-- Whatever is done at once on a view with the viewer's hooks leaves them in place, and tells them
what can be read off the request. -/
theorem Session.fulfil_viewer {s : Session Headless} (hooks : s.view.hooks = Viewer.hooks)
    (request : ViewRequest) :
    (fulfil request s).state.view.hooks = Viewer.hooks ∧
      (fulfil request s).events.filterMap Event.hookCall =
        (View.told Viewer.hooks request).flatMap (Hook.callsTo · Viewer.hooks) := by
  obtain ⟨used, calls⟩ := View.calls_fulfil (σ := Headless) Viewer.hooks_plain request
  obtain ⟨-, kept, told⟩ := calls s.view hooks
  rw [fulfil]
  dsimp only
  exact ⟨(congrArg View.hooks (carry_view _ _)).trans kept,
    (carry_seen Event.observer_hookCall _ _).trans told⟩

namespace Host

variable {h : Host} {m : HostMove} {moved : HostMoved}

/-- The hooks of the window, or those that it will get, are the viewer's. -/
structure Viewing (h : Host) : Prop where
  opened : ∀ w, h.window = some w → w.session.view.hooks = Viewer.hooks
  waiting : h.window = none → h.error = none → h.hooks = Viewer.hooks

/-- The viewer's hooks stay, unless a start-up is tried again that has failed before. -/
theorem Viewing.step (viewing : h.Viewing) (made : Handled h m moved) (up : ¬ h.stage.TakesDown)
    (unfailed : m.resumes = true → h.error = none) : moved.next.Viewing := by
  obtain ⟨opened, waiting⟩ := viewing
  cases made with
  | failed closed => exact ⟨fun w window => (by cases closed.symm.trans window), nofun⟩
  | opened closed accepted window hooks =>
    refine ⟨fun w' same => ?_, nofun⟩
    obtain rfl := Option.some.inj same
    exact hooks.trans (waiting closed (unfailed rfl))
  | worked window number work =>
    refine ⟨fun w' same => ?_, nofun⟩
    obtain rfl := Option.some.inj same
    have before := opened _ window
    cases work with
    | used own stays session =>
      rw [session]
      exact (Session.fulfil_viewer before _).1
    | resizes own taken session =>
      rw [session]
      exact (Session.step_unhooked taken).hooks.trans before
    | goes goes taken session =>
      rw [session]
      exact (Session.step_unhooked taken).hooks.trans before
  | ended window down => exact absurd down up
  | _ => exact ⟨opened, waiting⟩

/-- Of the events of its window, a press of Escape makes a hook of the viewer ask for shutdown, and
nothing else does. -/
theorem quits_iff (viewing : h.Viewing) (made : Handled h m moved) :
    h.Quits m moved ↔ ∃ id k, m = .windowEvent id (.key k) ∧ h.Owns id ∧ k.IsEscape := by
  cases made with
  | worked window number work =>
    rw [quits_of_worked window work]
    cases work with
    | used own stays session =>
      rw [(Session.fulfil_viewer (viewing.opened _ window) _).2, Viewer.quits_of_event]
      constructor
      · rintro ⟨k, rfl, escape⟩
        exact ⟨_, k, rfl, ⟨_, window, own⟩, escape⟩
      · rintro ⟨id, k, same, -, escape⟩
        cases same
        exact ⟨k, rfl, escape⟩
    | resizes own taken session => simp [(Session.step_unhooked taken).calls]
    | goes goes taken session =>
      simp [(Session.step_unhooked taken).calls, ne_windowEvent_of_goes goes]
  | foreign foreign => simp [Quits, foreign]
  | @closed id event own ends =>
    cases event <;> simp [Quits, exit, onMain, WindowEvent.isEnd] at ends ⊢
  | still still => obtain rfl | ⟨size, rfl⟩ := still <;> simp [Quits]
  | gone closed ends =>
    simp [Quits, ne_windowEvent_of_goes (.inr (.inr ends))]
  | _ => simp [Quits]

end Host

end HostView
