import HostView.Proofs.Viewer.Quit

/-!
# The loop of a host

A `Host.Run` is what becomes of a host in an event loop: turn after turn a callback is made and the
loop is about to wait, while the other threads go on and somebody may ask for shutdown, until the
host has left the loop or nothing more comes.  Which turns leave the loop, how often a window is
opened and what a run comes to is `Host.loop_control`.
-/

namespace HostView

/-- A move that is not a callback of the loop. -/
def HostMove.isBackground : HostMove → Bool
  | shutdown | proceed | render => true
  | _ => false

namespace Host

/-- The steps of one turn of the loop: what happens before the callback, the callback, what happens
until it has returned, and the look at the wish for shutdown before the loop waits. -/
structure Turn where
  earlier : List HostStep
  callback : HostStep
  meanwhile : List HostStep
  wait : HostStep

namespace Turn

def steps (t : Turn) : List HostStep := t.earlier ++ t.callback :: (t.meanwhile ++ [t.wait])

/-- The loop has resumed or brings an event of some window. -/
structure Proper (t : Turn) : Prop where
  earlier : ∀ x ∈ t.earlier, x.move.isBackground = true
  callback : (∃ answer thread, t.callback.move = .resumed answer thread) ∨
    ∃ id event, t.callback.move = .windowEvent id event
  meanwhile : ∀ x ∈ t.meanwhile, x.move.isBackground = true
  wait : t.wait.move = .aboutToWait

/-- The host leaves the loop in this turn. -/
def Exits (t : Turn) : Prop := ∃ x ∈ t.steps, Leaves x.result

/-- Why the start-up fails in this turn, if it does. -/
def failure (t : Turn) : Option ViewError := t.callback.before.startupError t.callback.move

/-- The host's own window goes away in this turn. -/
def Closes (t : Turn) : Prop := t.callback.before.Closes t.callback.move

end Turn

/-- What a run of the host comes to when the loop has ended. -/
def result (h : Host) : Except ViewError Unit :=
  match h.error with
  | some e => .error e
  | none => .ok ()

/-- A run of a host: the turns of its loop, which ends with the turn in which the host leaves it,
and what happens when the loop has ended. -/
structure Run (start : Host) (turns : List Turn) (ending : List HostStep) (h : Host) : Prop where
  course : Course start (turns.flatMap Turn.steps ++ ending) h
  proper : ∀ t ∈ turns, t.Proper
  goesOn : ∀ t ∈ turns.dropLast, ¬ t.Exits
  ending : ∀ x ∈ ending, x.move.isBackground = true ∨ x.move.endsLoop = true

variable {start h a b : Host} {steps l : List HostStep} {x : HostStep} {t : Turn}
  {turns ts : List Turn} {ending : List HostStep}

theorem Course.handled_of_mem (course : Course a l b) (mem : x ∈ l) :
    Handled x.before x.move x.result := handled (course.taken_of_mem mem)

/-- How often a window is asked for. -/
def windowsAsked (steps : List HostStep) : Nat :=
  (steps.flatMap fun x => calls x.result.seen).countP SystemCall.creates

theorem windowsAsked_append (l l' : List HostStep) :
    windowsAsked (l ++ l') = windowsAsked l + windowsAsked l' := by
  rw [windowsAsked, List.flatMap_append, List.countP_append]
  rfl

theorem windowsAsked_cons (x : HostStep) (l : List HostStep) :
    windowsAsked (x :: l) = windowsAsked [x] + windowsAsked l := windowsAsked_append [x] l

theorem windowsAsked_singleton (made : Handled x.before x.move x.result) :
    windowsAsked [x] = (x.before.window.isNone && x.move.resumes).toNat := by
  rw [windowsAsked, List.flatMap_singleton, created_of_handled made]

/-! ### The parts of a turn -/

theorem startupError_of_not_resumes {m : HostMove} (other : m.resumes = false) :
    h.startupError m = none := by
  cases m with
  | resumed => cases other
  | _ => rfl

/-- Only a start-up asks for a window or fails. -/
theorem Course.unstarted (course : Course a l b) (other : ∀ x ∈ l, x.move.resumes = false) :
    b.error = a.error ∧ windowsAsked l = 0 := by
  induction course with
  | nil => exact ⟨rfl, rfl⟩
  | @snoc l s m r course taken ih =>
    simp only [List.forall_mem_append, List.forall_mem_singleton] at other
    obtain ⟨error, asked⟩ := ih other.1
    have made := handled taken
    refine ⟨?_, ?_⟩
    · rw [error_next made, startupError_of_not_resumes other.2, Option.none_or, error]
    · rw [windowsAsked_append, asked, windowsAsked_singleton made, other.2, Bool.and_false]
      rfl

/-- Moves of the loop that are no start-up neither open the window nor close it. -/
theorem Course.steady (course : Course a l b) (up : ¬ a.stage.TakesDown)
    (other : ∀ x ∈ l, x.move.resumes = false) (on : ∀ x ∈ l, x.move.endsLoop = false) :
    ¬ b.stage.TakesDown ∧ (b.window = none ↔ a.window = none) := by
  induction course with
  | nil => exact ⟨up, Iff.rfl⟩
  | @snoc l s m r course taken ih =>
    simp only [List.forall_mem_append, List.forall_mem_singleton] at other on
    obtain ⟨up', window⟩ := ih other.1 on.1
    have made := handled taken
    refine ⟨stays_up made up' on.2, ?_⟩
    rw [window_eq_none_iff made up', window]
    simp [other.2]

theorem not_leaves_of_background (made : Handled x.before x.move x.result)
    (background : x.move.isBackground = true) : ¬ Leaves x.result := by
  rw [leaves_iff made]
  rcases move : x.move <;> rw [move] at background <;>
    simp_all [HostMove.isBackground, startupError, Closes]

theorem plain_of_background {m : HostMove} (background : m.isBackground = true) :
    m.resumes = false ∧ m.endsLoop = false := by
  cases m with
  | shutdown | proceed | render => exact ⟨rfl, rfl⟩
  | _ => cases background

theorem Turn.Proper.plain_earlier (proper : t.Proper) :
    (∀ x ∈ t.earlier, x.move.resumes = false) ∧ ∀ x ∈ t.earlier, x.move.endsLoop = false :=
  ⟨fun x mem => (plain_of_background (proper.earlier x mem)).1,
    fun x mem => (plain_of_background (proper.earlier x mem)).2⟩

theorem Turn.Proper.plain_later (proper : t.Proper) :
    (∀ x ∈ t.meanwhile ++ [t.wait], x.move.resumes = false) ∧
      ∀ x ∈ t.meanwhile ++ [t.wait], x.move.endsLoop = false := by
  simp only [List.forall_mem_append, List.forall_mem_singleton, proper.wait]
  exact ⟨⟨fun x mem => (plain_of_background (proper.meanwhile x mem)).1, rfl⟩,
    fun x mem => (plain_of_background (proper.meanwhile x mem)).2, rfl⟩

theorem Turn.Proper.callback_on (proper : t.Proper) : t.callback.move.endsLoop = false := by
  obtain ⟨answer, thread, same⟩ | ⟨id, event, same⟩ := proper.callback <;> rw [same] <;> rfl

/-- What a turn leaves. -/
theorem Turn.Proper.spec (proper : t.Proper) (course : Course a t.steps b)
    (up : ¬ a.stage.TakesDown) :
    ¬ b.stage.TakesDown ∧ b.error = t.failure.or a.error ∧
      (b.window = none ↔
        a.window = none ∧ (t.callback.move.resumes = true → t.failure ≠ none)) ∧
      windowsAsked t.steps = (a.window.isNone && t.callback.move.resumes).toNat := by
  obtain ⟨earlier, taken, later⟩ := course.split
  obtain ⟨other, on⟩ := proper.plain_earlier
  obtain ⟨other', on'⟩ := proper.plain_later
  obtain ⟨error, asked⟩ := Course.unstarted earlier other
  obtain ⟨error', asked'⟩ := Course.unstarted later other'
  obtain ⟨up₁, window⟩ := Course.steady earlier up other on
  have made := handled taken
  obtain ⟨up₂, window'⟩ := Course.steady later (stays_up made up₁ proper.callback_on) other' on'
  refine ⟨up₂, ?_, ?_, ?_⟩
  · rw [error', error_next made, error]
    rfl
  · rw [window', window_eq_none_iff made up₁, window]
    rfl
  · have closed : t.callback.before.window.isNone = a.window.isNone := by
      rw [Bool.eq_iff_iff, Option.isNone_iff_eq_none, Option.isNone_iff_eq_none, window]
    rw [steps, windowsAsked_append, windowsAsked_cons, asked, asked', windowsAsked_singleton made,
      closed]
    omega

/-- The host leaves the loop in the turns in which its start-up fails, its window goes away, or
shutdown has been asked for when the loop is about to wait. -/
theorem Turn.Proper.exits_iff (proper : t.Proper) (course : Course a t.steps b) :
    t.Exits ↔ t.failure ≠ none ∨ t.Closes ∨ t.wait.before.shutdown = true := by
  have made (x : HostStep) (mem : x ∈ t.steps) := course.handled_of_mem mem
  have callback : Leaves t.callback.result ↔ t.failure ≠ none ∨ t.Closes := by
    rw [leaves_iff (made t.callback (by simp [steps]))]
    have busy : t.callback.move ≠ .aboutToWait := by
      obtain ⟨answer, thread, same⟩ | ⟨id, event, same⟩ := proper.callback <;> rw [same] <;> nofun
    simp [busy, failure, Closes]
  have wait : Leaves t.wait.result ↔ t.wait.before.shutdown = true := by
    rw [leaves_iff (made t.wait (by simp [steps])), proper.wait]
    simp [startupError, Host.Closes]
  rw [← or_assoc, ← callback, ← wait]
  constructor
  · rintro ⟨x, mem, leaves⟩
    have handled := made x mem
    simp only [steps, List.mem_append, List.mem_cons, List.not_mem_nil, or_false] at mem
    obtain earlier | rfl | meanwhile | rfl := mem
    · exact absurd leaves (not_leaves_of_background handled (proper.earlier x earlier))
    · exact .inl leaves
    · exact absurd leaves (not_leaves_of_background handled (proper.meanwhile x meanwhile))
    · exact .inr leaves
  · rintro (leaves | leaves)
    · exact ⟨t.callback, by simp [steps], leaves⟩
    · exact ⟨t.wait, by simp [steps], leaves⟩

/-! ### A whole run -/

theorem Run.of_cons (run : Run a (t :: ts) ending h) :
    ∃ b, Course a t.steps b ∧ Run b ts ending h ∧ (t.Exits → ts = []) := by
  obtain ⟨course, proper, goesOn, ends⟩ := run
  rw [List.flatMap_cons, List.append_assoc] at course
  obtain ⟨b, first, rest⟩ := Path.of_append course
  refine ⟨b, first, ⟨rest, fun u mem => proper u (by simp [mem]), fun u mem => ?_, ends⟩, ?_⟩
  · cases ts with
    | nil => cases mem
    | cons v vs => exact goesOn u (by simp [mem])
  · intro exits
    cases ts with
    | nil => rfl
    | cons v vs => exact absurd exits (goesOn t (by simp))

/-- A turn is not the last only if its start-up, if it had one, has not failed. -/
theorem Run.failure_of_cons (run : Run a (t :: ts) ending h) (more : ts ≠ []) :
    t.failure = none := by
  obtain ⟨b, first, -, last⟩ := run.of_cons
  by_contra fails
  have proper := run.proper t (by simp)
  exact more (last ((proper.exits_iff first).2 (.inl fails)))

/-- The end of a run opens no window, and no start-up fails in it. -/
theorem Run.ends (run : Run a [] ending h) : h.error = a.error ∧ windowsAsked ending = 0 := by
  refine Course.unstarted run.course fun x mem => ?_
  obtain background | ends := run.ending x mem
  · exact (plain_of_background background).1
  · cases move : x.move <;> rw [move] at ends <;> first | rfl | cases ends

theorem Run.windowsAsked_le (run : Run a turns ending h) (up : ¬ a.stage.TakesDown) :
    windowsAsked (turns.flatMap Turn.steps ++ ending) ≤ a.window.isNone.toNat := by
  induction turns generalizing a with
  | nil =>
    rw [List.flatMap_nil, List.nil_append, run.ends.2]
    exact Nat.zero_le _
  | cons t ts ih =>
    obtain ⟨b, first, rest, last⟩ := run.of_cons
    have proper := run.proper t (by simp)
    obtain ⟨up', -, window, asked⟩ := proper.spec first up
    have later := ih rest up'
    rw [List.flatMap_cons, List.append_assoc, windowsAsked_append, asked]
    cases started : a.window.isNone && t.callback.move.resumes with
    | false =>
      have stays : b.window.isNone = true → a.window.isNone = true := by
        simp only [Option.isNone_iff_eq_none, window]
        exact And.left
      have := Bool.toNat_le_toNat stays
      rw [Bool.toNat_false]
      omega
    | true =>
      obtain ⟨closed, resumes⟩ := Bool.and_eq_true_iff.1 started
      rw [closed]
      cases failure : t.failure with
      | none =>
        have opened : b.window.isNone = false := by
          rw [← Bool.not_eq_true, Option.isNone_iff_eq_none, window]
          simp [resumes, failure]
        rw [opened, Bool.toNat_false] at later
        omega
      | some e =>
        -- the host leaves the loop, so that nothing but the end of the run is left
        obtain rfl := last ((proper.exits_iff first).2 (.inl (by simp [failure])))
        rw [List.flatMap_nil, List.nil_append, rest.ends.2]
        rfl

theorem result_eq_error {e : ViewError} : h.result = .error e ↔ h.error = some e := by
  rw [result]
  cases h.error <;> simp

/-- A run comes to an error if, and only if, a start-up has failed in it with this error. -/
theorem Run.result_iff (run : Run a turns ending h) (up : ¬ a.stage.TakesDown)
    (unfailed : a.error = none) {e : ViewError} :
    h.result = .error e ↔ ∃ t ∈ turns, t.failure = some e := by
  rw [result_eq_error]
  induction turns generalizing a with
  | nil => simp [run.ends.1, unfailed]
  | cons t ts ih =>
    obtain ⟨b, first, rest, -⟩ := run.of_cons
    obtain ⟨up', error, -⟩ := (run.proper t (by simp)).spec first up
    rw [unfailed, Option.or_none] at error
    cases ts with
    | nil => simp [rest.ends.1, error]
    | cons u us =>
      have passed := run.failure_of_cons (by simp)
      rw [ih rest up' (error.trans passed)]
      simp [passed]

/-- No start-up is tried again after one has failed. -/
theorem Run.unfailed_of_resumes (run : Run a turns ending h) (up : ¬ a.stage.TakesDown)
    (unfailed : a.error = none) :
    ∀ x ∈ turns.flatMap Turn.steps, x.move.resumes = true → x.before.error = none := by
  induction turns generalizing a with
  | nil => simp
  | cons t ts ih =>
    obtain ⟨b, first, rest, -⟩ := run.of_cons
    have proper := run.proper t (by simp)
    obtain ⟨up', error, -⟩ := proper.spec first up
    rw [unfailed, Option.or_none] at error
    intro x mem resumes
    rw [List.flatMap_cons, List.mem_append] at mem
    obtain here | later := mem
    · obtain ⟨earlier, -⟩ := first.split
      obtain ⟨other, -⟩ := proper.plain_earlier
      obtain ⟨other', -⟩ := proper.plain_later
      simp only [Turn.steps, List.mem_append, List.mem_cons] at here other'
      obtain before | rfl | after := here
      · exact absurd resumes (by simp [other x before])
      · exact (Course.unstarted earlier other).1.trans unfailed
      · exact absurd resumes (by simp [other' x after])
    · cases ts with
      | nil => cases later
      | cons u us => exact ih rest up' (error.trans (run.failure_of_cons (by simp))) x later resumes

/-- Once shutdown has been asked for, it stays so. -/
theorem Course.shutdown_kept (course : Course a l b) (asked : a.shutdown = true) :
    b.shutdown = true ∧ ∀ x ∈ l, x.result.next.shutdown = true := by
  induction course with
  | nil => exact ⟨asked, by simp⟩
  | snoc course taken ih =>
    obtain ⟨before, all⟩ := ih
    have here := Host.shutdown_kept (handled taken) before
    exact ⟨here, List.forall_mem_append.2 ⟨all, List.forall_mem_singleton.2 here⟩⟩

theorem Course.viewing (course : Course a l b) (viewing : a.Viewing) (up : ¬ a.stage.TakesDown)
    (on : ∀ x ∈ l, x.move.endsLoop = false)
    (unfailed : ∀ x ∈ l, x.move.resumes = true → x.before.error = none) :
    (b.Viewing ∧ ¬ b.stage.TakesDown) ∧ ∀ x ∈ l, x.before.Viewing := by
  induction course with
  | nil => exact ⟨⟨viewing, up⟩, by simp⟩
  | snoc course taken ih =>
    simp only [List.forall_mem_append, List.forall_mem_singleton] at on unfailed ⊢
    obtain ⟨⟨so, up'⟩, all⟩ := ih on.1 unfailed.1
    have made := handled taken
    exact ⟨⟨so.step made up' unfailed.2, stays_up made up' on.2⟩, all, so⟩

theorem Turn.Proper.on (proper : t.Proper) : ∀ x ∈ t.steps, x.move.endsLoop = false := by
  rw [steps, List.forall_mem_append, List.forall_mem_cons]
  exact ⟨proper.plain_earlier.2, proper.callback_on, proper.plain_later.2⟩

/-- A turn in which shutdown is asked for during the callback leaves the loop. -/
theorem Turn.Proper.exits_of_asked (proper : t.Proper) (course : Course a t.steps b)
    (asked : t.callback.result.next.shutdown = true) : t.Exits := by
  obtain ⟨-, -, later⟩ := course.split
  obtain ⟨meanwhile, -, -⟩ := Path.of_snoc later
  exact (proper.exits_iff course).2 (.inr (.inr (Course.shutdown_kept meanwhile asked).1))

theorem Run.split (run : Run a (ts ++ t :: turns) ending h) :
    ∃ b c, Course b t.steps c ∧ t.Proper ∧ (t.Exits → turns = []) := by
  induction ts generalizing a with
  | nil =>
    obtain ⟨c, first, -, last⟩ := Run.of_cons run
    exact ⟨a, c, first, run.proper t (by simp), last⟩
  | cons u us ih =>
    obtain ⟨b, -, rest, -⟩ := Run.of_cons run
    exact ih rest

theorem Run.viewing (run : Run a turns ending h) (viewing : a.Viewing) (up : ¬ a.stage.TakesDown)
    (unfailed : a.error = none) : ∀ x ∈ turns.flatMap Turn.steps, x.before.Viewing := by
  obtain ⟨b, loop, -⟩ := Path.of_append run.course
  refine (Course.viewing loop viewing up (fun x mem => ?_) ?_).2
  · obtain ⟨t, member, inside⟩ := List.mem_flatMap.1 mem
    exact (run.proper t member).on x inside
  · exact run.unfailed_of_resumes up unfailed

end Host

/-- An event with which the viewer is quit: its window goes away, or Escape is pressed. -/
def WindowEvent.IsQuit (event : WindowEvent) : Prop :=
  event.isEnd = true ∨ ∃ k, event = .key k ∧ k.IsEscape

namespace Host

variable {start h : Host} {turns : List Turn} {ending : List HostStep}

theorem closes_or_escape_iff {m : HostMove} :
    h.Closes m ∨ (∃ id k, m = .windowEvent id (.key k) ∧ h.Owns id ∧ k.IsEscape) ↔
      ∃ id event, m = .windowEvent id event ∧ h.Owns id ∧ event.IsQuit := by
  constructor
  · rintro (⟨id, event, same, own, ends⟩ | ⟨id, k, same, own, escape⟩)
    · exact ⟨id, event, same, own, .inl ends⟩
    · exact ⟨id, .key k, same, own, .inr ⟨k, rfl, escape⟩⟩
  · rintro ⟨id, event, same, own, ends | ⟨k, rfl, escape⟩⟩
    · exact .inl ⟨id, event, same, own, ends⟩
    · exact .inr ⟨id, k, same, own, escape⟩

/-- The host leaves its loop in the turns in which its start-up fails, its own window goes away, or
shutdown has been asked for when the loop is about to wait, and then no turn is left.  Whoever
leaves the loop has asked for shutdown, and nobody takes that back.  Events of other windows, or
before there is a window, and starts of a host that has a window change nothing, so that at most one
window is ever asked for.  A run comes to an error just when its start-up has failed.  The viewer is
quit by the end of its window or a press of Escape, and by nothing else that happens to its
window. -/
theorem loop_control (run : Run start turns ending h) (closed : start.window = none)
    (free : start.stage = .free) (unfailed : start.error = none) :
    (∀ before t after, turns = before ++ t :: after →
      (t.Exits ↔ t.failure ≠ none ∨ t.Closes ∨ t.wait.before.shutdown = true) ∧
        (t.Exits → after = [])) ∧
      (∀ before x after, turns.flatMap Turn.steps ++ ending = before ++ x :: after →
        (Leaves x.result →
          (∀ y ∈ x :: after, y.result.next.shutdown = true) ∧ h.shutdown = true) ∧
        (x.result.next.shutdown = true ↔ x.before.shutdown = true ∨ x.move = .shutdown ∨
          x.before.startupError x.move ≠ none ∨ x.before.Closes x.move ∨
            x.before.Quits x.move x.result) ∧
        (∀ id event, x.move = .windowEvent id event → ¬ x.before.Owns id →
          x.result = ⟨x.before, []⟩) ∧
        ∀ answer thread, x.move = .resumed answer thread → x.before.window ≠ none →
          x.result = ⟨x.before, []⟩) ∧
      windowsAsked (turns.flatMap Turn.steps ++ ending) ≤ 1 ∧
      (∀ e, h.result = .error e ↔ ∃ t ∈ turns, t.failure = some e) ∧
      (start.hooks = Viewer.hooks →
        (∀ x ∈ turns.flatMap Turn.steps,
          x.result.next.shutdown = true ↔ x.before.shutdown = true ∨ x.move = .shutdown ∨
            x.before.startupError x.move ≠ none ∨
              ∃ id event, x.move = .windowEvent id event ∧ x.before.Owns id ∧ event.IsQuit) ∧
        ∀ before t after, turns = before ++ t :: after → ∀ id event,
          t.callback.move = .windowEvent id event → t.callback.before.Owns id → event.IsQuit →
            t.Exits ∧ after = []) := by
  have up : ¬ start.stage.TakesDown := by
    rw [free]
    nofun
  have asked := run.windowsAsked_le up
  rw [closed] at asked
  refine ⟨?_, ?_, asked, fun e => run.result_iff up unfailed, fun hooks => ?_⟩
  · rintro before t after rfl
    obtain ⟨b, c, course, proper, last⟩ := run.split
    exact ⟨proper.exits_iff course, last⟩
  · intro before x after all
    have course := run.course
    rw [all] at course
    obtain ⟨-, taken, later⟩ := course.split
    have made := handled taken
    refine ⟨fun leaves => ?_, shutdown_next made, ?_, ?_⟩
    · have here := shutdown_of_leaves made leaves
      obtain ⟨stays, there⟩ := Course.shutdown_kept later here
      exact ⟨List.forall_mem_cons.2 ⟨here, there⟩, stays⟩
    · rintro id event same foreign
      rw [same] at made
      exact ignored_of_foreign made foreign
    · rintro answer thread same window
      rw [same] at made
      exact ignored_of_open made window
  · have viewing : start.Viewing :=
      ⟨fun w window => (by cases closed.symm.trans window), fun _ _ => hooks⟩
    have viewing' := run.viewing viewing up unfailed
    have raised (x : HostStep) (mem : x ∈ turns.flatMap Turn.steps) :
        x.result.next.shutdown = true ↔ x.before.shutdown = true ∨ x.move = .shutdown ∨
          x.before.startupError x.move ≠ none ∨
            ∃ id event, x.move = .windowEvent id event ∧ x.before.Owns id ∧ event.IsQuit := by
      have made := Course.handled_of_mem run.course (List.mem_append_left _ mem)
      rw [shutdown_next made, quits_iff (viewing' x mem) made, closes_or_escape_iff]
    refine ⟨raised, ?_⟩
    rintro before t after rfl id event same own quit
    obtain ⟨b, c, course, proper, last⟩ := run.split
    have callback := raised t.callback (List.mem_flatMap.2 ⟨t, by simp, by simp [Turn.steps]⟩)
    have exits : t.Exits :=
      proper.exits_of_asked course (callback.2 (.inr (.inr (.inr ⟨id, event, same, own, quit⟩))))
    exact ⟨exits, last exits⟩

/-- The viewer opens its window, another window is closed, and then its own. -/
def viewingMoves : List HostMove :=
  [.resumed (.ok desk) (.ok ()), .aboutToWait, .windowEvent 8 .closeRequested, .aboutToWait,
    .windowEvent 7 .closeRequested, .aboutToWait]

/-- The steps of these moves. -/
def viewingSteps : List HostStep :=
  Path.record step HostMoved.next (Viewer.host {}) viewingMoves

/-- Turns in which nothing but a callback happens. -/
def Turn.ofSteps : List HostStep → List Turn
  | callback :: wait :: rest => ⟨[], callback, [], wait⟩ :: ofSteps rest
  | _ => []

theorem calls_viewingSteps :
    viewingSteps.map (fun x => calls x.result.seen) =
      [[.createWindow (Viewer.host {}).settings.title (Viewer.host {}).settings.size,
          .allowIme true], [.waitUntil], [], [.waitUntil], [.exit], [.exit]] :=
  rfl

/-- The viewer is not quit when another window is closed, but when its own is, and then it ends
well. -/
theorem own_window_quits_viewer :
    ∃ before last h, Turn.ofSteps viewingSteps = before ++ [last] ∧
      Run (Viewer.host {}) (before ++ [last]) [] h ∧ (∀ t ∈ before, ¬ t.Exits) ∧ last.Exits ∧
      ∀ e, h.result ≠ .error e := by
  obtain ⟨h, course⟩ : ∃ h, Course (Viewer.host {}) viewingSteps h :=
    Path.recorded (Viewer.host {}) viewingMoves
  have calls := calls_viewingSteps
  have moves : viewingSteps.map StepTaken.move = viewingMoves := rfl
  have failures : (Turn.ofSteps viewingSteps).map Turn.failure = [none, none, none] := rfl
  obtain ⟨a, b, c, d, e, f, cut⟩ : ∃ a b c d e f, viewingSteps = [a, b, c, d, e, f] :=
    ⟨_, _, _, _, _, _, rfl⟩
  rw [cut] at course calls moves failures ⊢
  simp only [List.map_cons, List.map_nil, viewingMoves, List.cons.injEq, and_true] at calls moves
  obtain ⟨ca, cb, cc, cd, ce, cf⟩ := calls
  obtain ⟨ma, mb, mc, md, me, mf⟩ := moves
  have stays : ∀ t ∈ [Turn.mk [] a [] b, .mk [] c [] d], ¬ t.Exits := by
    simp [Turn.Exits, Turn.steps, Leaves, ca, cb, cc, cd]
  have exits : (Turn.mk [] e [] f).Exits := ⟨e, by simp [Turn.steps], by simp [Leaves, ce]⟩
  have run : Run (Viewer.host {}) [.mk [] a [] b, .mk [] c [] d, .mk [] e [] f] [] h := by
    refine ⟨course, ?_, stays, by simp⟩
    simp only [List.forall_mem_cons, List.not_mem_nil, false_imp_iff, implies_true, and_true]
    exact ⟨⟨by simp, .inl ⟨_, _, ma⟩, by simp, mb⟩, ⟨by simp, .inr ⟨_, _, mc⟩, by simp, md⟩,
      by simp, .inr ⟨_, _, me⟩, by simp, mf⟩
  obtain ⟨-, -, -, result, -⟩ := loop_control run rfl rfl rfl
  refine ⟨_, _, h, rfl, run, stays, exits, fun error same => ?_⟩
  obtain ⟨t, mem, fails⟩ := (result error).1 same
  have all := List.mem_map_of_mem (f := Turn.failure) mem
  rw [fails, show [Turn.mk [] a [] b, .mk [] c [] d, .mk [] e [] f].map Turn.failure =
    [none, none, none] from failures] at all
  simp at all

end Host

end HostView
