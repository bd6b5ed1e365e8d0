import HostView.Proofs.Surface.Lifecycle

/-!
# Surfaces that run from a tape

A `Tape` is a surface device that gives answers which were written down before.  Work that is
done again on a tape of the answers that it got (`Work.Replays`) comes to the same; only what the
device logs is not on the tape.  There is one rule for each way of putting work together, and all
work on a surface is replayed by these rules.
-/

namespace HostView

/-- Answers that a device has given, the first one in front. -/
abbrev Tape := List DeviceEvent

instance : SurfaceDevice Tape where
  perform call := fun tape =>
    match tape with
    | ⟨asked, outcome⟩ :: rest =>
      if same : asked = call then ⟨same ▸ outcome, rest, []⟩
      else ⟨.panicked "another call is on the tape", tape, []⟩
    | [] => ⟨.panicked "the tape is at its end", [], []⟩

theorem perform_tape (call : DeviceCall) (outcome : Outcome call.Answer) (rest : Tape) :
    SurfaceDevice.perform call (⟨call, outcome⟩ :: rest : Tape) = ⟨outcome, rest, []⟩ :=
  dif_pos rfl

namespace Event

/-- What is seen besides the log. -/
def unlogged (events : List Event) : List Event :=
  events.filter fun
    | log _ => false
    | _ => true

@[simp] theorem unlogged_append (l l' : List Event) :
    unlogged (l ++ l') = unlogged l ++ unlogged l' := List.filter_append ..

@[simp] theorem unlogged_window (call : WindowCall) (es : List Event) :
    unlogged (.window call :: es) = .window call :: unlogged es := rfl

@[simp] theorem unlogged_logs (records : List Log.Record) : unlogged (records.map .log) = [] := by
  simp [unlogged]

@[simp] theorem deviceEvents_append (l l' : List Event) :
    deviceEvents (l ++ l') = deviceEvents l ++ deviceEvents l' := List.filterMap_append

@[simp] theorem deviceEvents_logs (records : List Log.Record) :
    deviceEvents (records.map .log) = [] := by
  simp [deviceEvents]

@[simp] theorem deviceEvents_answered (call : DeviceCall) (outcome : Outcome call.Answer)
    (records : List Log.Record) :
    deviceEvents (answered call outcome records) = [⟨call, outcome⟩] := by
  rw [answered, deviceEvents_append, deviceEvents_logs]
  rfl

@[simp] theorem unlogged_answered (call : DeviceCall) (outcome : Outcome call.Answer)
    (records : List Log.Record) :
    unlogged (answered call outcome records) = [.device ⟨call, outcome⟩] := by
  rw [answered, unlogged_append, unlogged_logs]
  rfl

@[simp] theorem deviceEvents_guarded (lock : Lock) (es : List Event) :
    deviceEvents (guarded lock es) = deviceEvents es := by
  simp [guarded, deviceEvents]

@[simp] theorem unlogged_guarded (lock : Lock) (es : List Event) :
    unlogged (guarded lock es) = guarded lock (unlogged es) := by
  simp [guarded, unlogged]

end Event

/-! ### Replayed work -/

namespace Work

open Event

variable {σ τ α β : Type} {mount : σ → Tape → τ}

/-- On a tape that begins with the answers that the device gave, the work comes to the same and
leaves the rest of the tape. -/
def Replays (mount : σ → Tape → τ) (w : Work σ Event α) (w' : Work τ Event α) : Prop :=
  ∀ s rest, ∃ es, w' (mount s (deviceEvents (w s).events ++ rest)) =
    ⟨(w s).outcome, mount (w s).state rest, es⟩ ∧ unlogged es = unlogged (w s).events

theorem Replays.pure (a : α) : Replays mount (pure a) (pure a) := fun _ _ => ⟨[], rfl, rfl⟩

theorem Replays.log (r : Log.Record) : Replays mount (emit (.log r)) (emit (.log r)) :=
  fun _ _ => ⟨_, rfl, rfl⟩

theorem Replays.change {f : σ → σ} {f' : τ → τ}
    (same : ∀ s tape, f' (mount s tape) = mount (f s) tape) :
    Replays mount (change f) (change f') := by
  intro s rest
  refine ⟨[], ?_, rfl⟩
  rw [change_run, change_run, ← same]
  rfl

/-- Work that looks at the state may look at all of it but the tape. -/
theorem Replays.state {f : σ → Work σ Event α} {f' : τ → Work τ Event α}
    (same : ∀ s tape, Replays mount (f s) (f' (mount s tape))) :
    Replays mount (Work.state >>= f) (Work.state >>= f') := by
  intro s rest
  simpa only [state_bind] using same s _ s rest

theorem Replays.ite {p : Prop} [Decidable p] {w v : Work σ Event α} {w' v' : Work τ Event α}
    (holds : Replays mount w w') (fails : Replays mount v v') :
    Replays mount (if p then w else v) (if p then w' else v') := by
  split
  · exact holds
  · exact fails

theorem Replays.bind {w : Work σ Event α} {w' : Work τ Event α} {f : α → Work σ Event β}
    {f' : α → Work τ Event β} (first : Replays mount w w')
    (second : ∀ a, Replays mount (f a) (f' a)) : Replays mount (w >>= f) (w' >>= f') := by
  intro s rest
  rcases run : w s with ⟨a | m, t, es⟩
  · obtain ⟨es₁, run₁, same₁⟩ := first s (deviceEvents (f a t).events ++ rest)
    obtain ⟨es₂, run₂, same₂⟩ := second a t rest
    rw [run] at run₁ same₁
    rw [bind_of_returned run, deviceEvents_append, List.append_assoc, bind_of_returned run₁, run₂]
    exact ⟨_, rfl, by rw [unlogged_append, unlogged_append, same₁, same₂]⟩
  · obtain ⟨es₁, run₁, same₁⟩ := first s rest
    rw [run] at run₁ same₁
    rw [bind_of_panicked run, bind_of_panicked run₁]
    exact ⟨_, rfl, same₁⟩

/-- What comes of replayed work whose first run is known. -/
theorem Replays.of_run {w : Work σ Event α} {w' : Work τ Event α} {s t : σ} {outcome : Outcome α}
    {es : List Event} (replays : Replays mount w w') (run : w s = ⟨outcome, t, es⟩) (rest : Tape) :
    ∃ es', w' (mount s (deviceEvents es ++ rest)) = ⟨outcome, mount t rest, es'⟩ ∧
      unlogged es' = unlogged es := by
  simpa only [run] using replays s rest

end Work

/-! ### Replayed work on a surface -/

namespace Lifecycle

open Work

variable {σ τ : Type}

/-- The same surface with another device, of any type. -/
def mount (l : Lifecycle σ) (device : τ) : Lifecycle τ := { l with device }

variable [SurfaceDevice σ]

theorem replays_ask (call : DeviceCall) :
    Replays mount (ask call : Work (Lifecycle σ) Event call.Answer) (ask call) := by
  intro l rest
  rcases answer : SurfaceDevice.perform call l.device with ⟨outcome, d, logs⟩
  rw [ask_of_perform answer, Event.deviceEvents_answered, List.singleton_append,
    ask_of_perform (perform_tape call outcome rest)]
  exact ⟨_, rfl, by rw [Event.unlogged_answered, Event.unlogged_answered]⟩

theorem replays_create (size : Size) :
    Replays mount (create size : Work (Lifecycle σ) Event _) (create size) := by
  refine .state fun l tape => ?_
  refine (replays_ask (.create l.target size)).bind fun result => ?_
  cases result with
  | error e => exact .pure _
  | ok _ =>
    refine (replays_ask .dimensions).bind fun size => ?_
    exact .bind (.change fun _ _ => rfl) fun _ => .bind (.log _) fun _ => .pure _

theorem replays_destroy :
    Replays mount (destroy : Work (Lifecycle σ) Event Unit) destroy := by
  refine .state fun l tape => .ite (.pure _) ?_
  exact (replays_ask .destroy).bind fun _ => .bind (.change fun _ _ => rfl) fun _ => .log _

theorem replays_resize (size : Size) :
    Replays mount (resize size : Work (Lifecycle σ) Event _) (resize size) := by
  refine .state fun l tape => .ite ?_ (.pure _)
  refine (replays_ask (.resize l.target size)).bind fun result => ?_
  cases result with
  | error e => exact .pure _
  | ok _ => exact .bind (.change fun _ _ => rfl) fun _ => .pure _

end Lifecycle

end HostView
