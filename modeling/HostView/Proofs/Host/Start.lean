import HostView.Host.App
import HostView.Proofs.Render.Headless

/-!
# Opening a window

A host opens a window that has pixels and gets a render thread, and its session is right after its
start: the surface, the first metrics of the engine and the render loop all have the size of the
window (`Host.start_accepted`).  `Host.refusal` is why a window is not opened; what there is of its
surface then is destroyed (`Host.start_refused`).
-/

namespace HostView

/-! ### What is done to the surface -/

/-- What is done to the surface of the window of a host. -/
def HostEvent.deed : HostEvent → Option Deed
  | .view e => e.deed
  | .system _ => none

namespace Host

/-- What is done to surfaces, and on which threads. -/
def deeds (seen : List (ThreadId × HostEvent)) : List (ThreadId × Deed) :=
  seen.filterMap fun (t, e) => e.deed.map (t, ·)

theorem deeds_append (l l' : List (ThreadId × HostEvent)) :
    deeds (l ++ l') = deeds l ++ deeds l' := List.filterMap_append

theorem deeds_thread (t : ThreadId) (es : List HostEvent) :
    deeds (es.map ((t, ·))) = (es.filterMap HostEvent.deed).map ((t, ·)) := by
  rw [deeds, List.filterMap_map, List.map_filterMap]
  rfl

theorem deeds_onMain (es : List HostEvent) :
    deeds (onMain es) = (es.filterMap HostEvent.deed).map ((mainThread, ·)) := deeds_thread _ es

theorem filterMap_view (es : List Event) :
    (es.map HostEvent.view).filterMap HostEvent.deed = es.filterMap Event.deed := by
  rw [List.filterMap_map]
  rfl

theorem deeds_view (t : ThreadId) (es : List Event) :
    deeds (es.map fun e => (t, .view e)) = (es.filterMap Event.deed).map ((t, ·)) := by
  rw [← filterMap_view, ← deeds_thread, List.map_map]
  rfl

end Host

/-- Calls to the window system do nothing to a surface. -/
theorem Host.deeds_between (before after : List SystemCall) (es : List Event) :
    deeds (onMain (before.map .system ++ es.map .view ++ after.map .system)) =
      (es.filterMap Event.deed).map ((mainThread, ·)) := by
  have still (calls : List SystemCall) :
      (calls.map HostEvent.system).filterMap HostEvent.deed = [] := by
    rw [List.filterMap_map]
    exact List.filterMap_eq_nil_iff.2 fun _ _ => rfl
  simp only [deeds_onMain, List.filterMap_append, still, filterMap_view, List.nil_append,
    List.append_nil]

/-- A surface is destroyed once. -/
theorem Lifecycle.deeds_destroy {σ : Type} [SurfaceDevice σ] {l : Lifecycle σ}
    (present : l.destroyed = false) : (destroy l).events.filterMap Event.deed = [.destroyed] := by
  have came := ended l
  generalize destroy l = r at came ⊢
  cases came with
  | already gone => cases present.symm.trans gone
  | done =>
    simp only [List.filterMap_append, Event.observer_deed.answered]
    rfl
  | panicked =>
    rw [Event.observer_deed.answered]
    rfl

namespace Headless

variable {l : Lifecycle Headless} {size : Size}

/-- A surface is created at the size that was wanted. -/
theorem create_full (full : size.isEmpty = false) :
    ∃ es, Lifecycle.create size l = ⟨.returned (.ok ()),
        { device := (l.device.create l.target size).2, target := l.target, dimensions := size,
          live := true }, es⟩ ∧
      es.filterMap Event.deed = [.created true] := by
  have created : (l.device.create l.target size).2 =
      { target := some l.target, stats := { l.device.stats with size } } := by
    rw [create, full]
    rfl
  rw [Lifecycle.create, Work.state_bind,
    Work.bind_of_returned (Lifecycle.ask_of_perform (create_of_full full)), created]
  exact ⟨_, rfl, rfl⟩

/-- No surface is created without pixels, and what there is can be dropped. -/
theorem create_empty (empty : size.isEmpty = true) :
    Lifecycle.create size l =
      ⟨.returned (.error (.createFailed s!"zero-sized target {size.text}")), l,
        Event.answered (.create l.target size)
          (.returned (.error (.createFailed s!"zero-sized target {size.text}"))) []⟩ := by
  have answer : SurfaceDevice.perform (.create l.target size) l.device =
      ⟨.returned (.error (.createFailed s!"zero-sized target {size.text}")), l.device, []⟩ := by
    simp only [SurfaceDevice.perform, create, empty, if_true]
  rw [Lifecycle.create, Work.state_bind, Work.bind_of_returned (Lifecycle.ask_of_perform answer)]
  rfl

/-- What asking for a surface comes to, in the resize handshake. -/
theorem call_create {h : Handshake Headless} {t : ThreadId}
    {result : Except SurfaceError Unit} {l : Lifecycle Headless} {es : List Event}
    (made : Lifecycle.create size h.coordinator.surface = ⟨.returned result, l, es⟩) :
    h.call t (.surface (.create size)) =
      ⟨h.withCoordinator { h.coordinator with surface := l }, Event.guarded .resize es,
        some (.returned (.created result))⟩ := by
  have run : Handshake.surfaceWork (.create size) h.coordinator.surface =
      ⟨.returned (.created result), l, es ++ []⟩ := Work.bind_of_returned made
  rw [Handshake.call, Handshake.critical_of_returned h t (Coordinator.onSurface_of_run run),
    List.append_nil]
  rfl

end Headless

namespace Host

theorem addHooks_handshake (v : View Headless) (hooks : List Hook) :
    (addHooks v hooks).1.handshake = v.handshake := by
  induction hooks generalizing v with
  | nil => rfl
  | cons hook hooks ih => exact ih _

theorem addHooks_hooks (v : View Headless) (hooks : List Hook) :
    (addHooks v hooks).1.hooks = v.hooks ++ hooks := by
  induction hooks generalizing v with
  | nil => exact (List.append_nil _).symm
  | cons hook hooks ih => exact (ih _).trans (List.append_assoc v.hooks [hook] hooks)

theorem addHooks_deeds (v : View Headless) (hooks : List Hook) :
    (addHooks v hooks).2.filterMap Event.deed = [] := by
  induction hooks generalizing v with
  | nil => rfl
  | cons hook hooks ih =>
    change (Event.guarded .hooks [] ++ _).filterMap Event.deed = []
    rw [List.filterMap_append, Event.observer_deed.guarded]
    exact ih _

/-- The engine is told one size, and the main thread is free again. -/
theorem announce_state {s : Session Headless} (size : Size) (free : s.stack mainThread = []) :
    (announce s size).1 =
      (((s.withStack mainThread [.telling size none]).withStack mainThread
        [.told size none]).withBus
          (s.bus.send (.metrics ⟨size, s.view.handshake.scale⟩)).1).withStack mainThread [] ∧
      (announce s size).2.filterMap Event.deed = [] := by
  have apart : mainThread ≠ Session.renderThread := by decide
  have free' : s.view.handshake.stack mainThread = [] := free
  have telling (h : Handshake Headless) (l : List Activity) :
      (h.setStack mainThread l).stack mainThread = l := Handshake.setStack_same ..
  simp only [announce, Session.step, if_neg apart, Handshake.step, Handshake.canCall, free',
    if_true, Handshake.call, Option.map_some, Session.carry, Handshake.proceed, telling,
    Handshake.finish, List.nil_append, List.append_nil]
  refine ⟨rfl, ?_⟩
  rw [List.filterMap_append, List.filterMap_cons_none rfl, List.filterMap_cons_none rfl,
    Event.observer_deed.logs]
  rfl

/-- The resize handshake of a window that has no surface yet. -/
def blank (binding : Binding) : Handshake Headless where
  coordinator := { surface := { device := {}, target := binding.target } }
  scale := binding.scale

variable {h : Host} {made : NativeWindow} {thread : Except String Unit}

/-- A view at work, with a word of the host at the end. -/
theorem views_with_note (call : SystemCall) (es : List Event) (level : Log.Level)
    (message : String) :
    HostEvent.system call :: es.map .view ++ [note level message] =
      .system call :: (es ++ [Event.log (Log.Area.host.record level message)]).map .view := by
  rw [List.map_append, List.cons_append]
  rfl

/-- What is seen of a view that goes, and with it its surface. -/
theorem discard_spec {v : View Headless} (error : ViewError) (call : SystemCall) (es : List Event)
    (present : v.handshake.coordinator.surface.destroyed = false) :
    ∃ es' : List Event, h.discard v error (.system call :: es.map .view) =
        { h with error := some error }.exit (.system call :: es'.map .view) ∧
      es'.filterMap Event.deed = es.filterMap Event.deed ++ [.destroyed] := by
  have dropped := Lifecycle.deeds_destroy present
  rw [discard, fail, List.cons_append, ← List.map_append, views_with_note]
  refine ⟨_, rfl, ?_⟩
  rw [List.filterMap_append, List.filterMap_append, dropped]
  exact List.append_nil _

/-! ### A view that has its surface -/

section Launch

variable {binding : Binding} {v : View Headless}

/-- The surface of a view has been created at the size of its window. -/
def Furnished (binding : Binding) (v : View Headless) : Prop :=
  v.handshake = (Session.opened binding.target binding.scale binding.bounds).view.handshake

/-- The session of a view before the engine has been told of its window. -/
def untold (binding : Binding) (v : View Headless) : Session Headless :=
  { view := v, loop := { size := binding.bounds } }

theorem untold_free (furnished : Furnished binding v) :
    (untold binding v).stack mainThread = [] := by
  rw [Session.stack, untold, furnished]
  rfl

/-- The session is right after its start when the engine has been told. -/
theorem announce_opened (furnished : Furnished binding v) (full : binding.bounds.isEmpty = false) :
    let s := (announce (untold binding v) binding.bounds).1
    s.Opened binding.bounds ∧ s.view.hooks = v.hooks ∧
      s.coordinator.surface.destroyed = false := by
  obtain ⟨told, -⟩ := announce_state binding.bounds (untold_free furnished)
  intro s
  rw [show s = _ from told]
  obtain ⟨handshake, pointer, hooks⟩ := v
  obtain rfl : handshake = _ := furnished
  refine ⟨⟨⟨rfl, rfl, rfl, rfl, fun t => ?_, rfl, rfl, rfl, rfl⟩, full, rfl⟩, rfl, rfl⟩
  by_cases main : t = mainThread
  · rw [main, Session.withStack_same]
  · rw [Session.withStack_of_ne _ _ main, Session.withBus_stack,
      Session.withStack_of_ne _ _ main, Session.withStack_of_ne _ _ main]
    rfl

/-- What is seen while the engine is told. -/
def introduction (binding : Binding) (v : View Headless) : List Event :=
  View.askBounds ++ (announce (untold binding v) binding.bounds).2

theorem introduction_deeds (furnished : Furnished binding v) :
    (introduction binding v).filterMap Event.deed = [] := by
  rw [introduction, List.filterMap_append, (announce_state _ (untold_free furnished)).2]
  rfl

/-- With a render thread, the window is open. -/
theorem launch_ok (furnished : Furnished binding v) (full : binding.bounds.isEmpty = false)
    (call : SystemCall) (es : List Event) :
    ∃ w, ∃ es' : List Event, h.launch binding v (.system call :: es.map .view) (.ok ()) =
        ⟨{ h with window := some w }, onMain (.system call :: es'.map .view)⟩ ∧
      w.binding = binding ∧ w.session.view.hooks = v.hooks ∧ w.session.Opened binding.bounds ∧
      w.session.coordinator.surface.destroyed = false ∧
      es'.filterMap Event.deed = es.filterMap Event.deed := by
  obtain ⟨opened, hooks, present⟩ := announce_opened furnished full
  let w : OpenWindow := ⟨binding, (announce (untold binding v) binding.bounds).1, {}⟩
  have ready := views_with_note call (es ++ introduction binding v) .info
    ("host: window " ++ binding.window.text ++ " '" ++ h.settings.title ++ "' ready")
  rw [List.map_append, ← List.cons_append] at ready
  refine ⟨w, _, congrArg (fun seen => HostMoved.mk { h with window := some w } (onMain seen)) ready,
    rfl, hooks, opened, present, ?_⟩
  rw [List.filterMap_append, List.filterMap_append, introduction_deeds furnished, List.append_nil]
  exact List.append_nil _

/-- Without a render thread, the view goes again. -/
theorem launch_error (furnished : Furnished binding v) (full : binding.bounds.isEmpty = false)
    (call : SystemCall) (es : List Event) (e : String) :
    ∃ es' : List Event, h.launch binding v (.system call :: es.map .view) (.error e) =
        { h with error := some (.platform ("render thread spawn failed: " ++ e)) }.exit
          (.system call :: es'.map .view) ∧
      es'.filterMap Event.deed = es.filterMap Event.deed ++ [.destroyed] := by
  obtain ⟨-, -, present⟩ := announce_opened furnished full
  obtain ⟨es', gone, done⟩ := discard_spec (h := h)
    (.platform ("render thread spawn failed: " ++ e)) call (es ++ introduction binding v) present
  rw [List.map_append, ← List.cons_append] at gone
  refine ⟨es', gone, ?_⟩
  rw [done, List.filterMap_append, introduction_deeds furnished, List.append_nil]

end Launch

/-! ### A window that has been made -/

/-- The view of a window that has been made asks for a surface, and it depends on the answer how the
host goes on. -/
theorem start_spec (thread : Except String Unit) {binding : Binding}
    (same : ⟨made, h.settings.scale⟩ = binding) {result : Except SurfaceError Unit}
    {l : Lifecycle Headless} {asked : List Event}
    (run : Lifecycle.create binding.bounds (blank binding).coordinator.surface =
      ⟨.returned result, l, asked⟩) :
    ∃ (v : View Headless) (es : List Event),
      v.handshake =
        (blank binding).withCoordinator { (blank binding).coordinator with surface := l } ∧
      v.hooks = h.hooks ∧ es.filterMap Event.deed = asked.filterMap Event.deed ∧
      (∀ e, result = .error e → h.start made thread =
        { h with hooks := [] }.discard v (.surface e)
          (.system (.allowIme true) :: es.map .view)) ∧
      (result = .ok () → h.start made thread =
        { h with hooks := [] }.launch binding v (.system (.allowIme true) :: es.map .view)
          thread) := by
  have created := Headless.call_create (t := mainThread) run
  have unmade : ({ coordinator := { surface := { device := {}, target := binding.target } },
                   scale := binding.scale } : Handshake Headless) = blank binding := rfl
  simp only [start, same, addHooks_handshake, unmade, created]
  let hooked := addHooks { handshake := blank binding } h.hooks
  refine ⟨{ hooked.1 with handshake := (blank binding).withCoordinator _ },
    hooked.2 ++ View.askBounds ++ Event.guarded .resize asked, rfl, addHooks_hooks _ _,
    ?deeds, ?error, ?ok⟩
  case deeds =>
    have still : hooked.2.filterMap Event.deed = [] := addHooks_deeds _ _
    rw [List.filterMap_append, List.filterMap_append, still, Event.observer_deed.guarded]
    rfl
  case error =>
    rintro e rfl
    rfl
  case ok =>
    rintro rfl
    rfl

/-- A window that has pixels gets a view with a surface. -/
theorem start_full (thread : Except String Unit) (full : made.innerSize.isEmpty = false) :
    ∃ (binding : Binding) (v : View Headless) (es : List Event), h.start made thread =
        { h with hooks := [] }.launch binding v (.system (.allowIme true) :: es.map .view) thread ∧
      binding.window = made ∧ v.hooks = h.hooks ∧ Furnished binding v ∧
      es.filterMap Event.deed = [.created true] := by
  obtain ⟨asked, run, created⟩ := Headless.create_full
    (l := (blank ⟨made, h.settings.scale⟩).coordinator.surface) full
  obtain ⟨v, es, furnished, hooks, deeds, -, goes_on⟩ := start_spec thread rfl run
  exact ⟨_, v, es, goes_on rfl, rfl, hooks, furnished, deeds.trans created⟩

/-- A window without pixels is not opened. -/
theorem start_empty (empty : made.innerSize.isEmpty = true) :
    ∃ es : List Event, h.start made thread =
        ({ h with
            hooks := []
            error := some (.surface (.createFailed s!"zero-sized target {made.innerSize.text}")) }
          ).exit (.system (.allowIme true) :: es.map .view) ∧
      es.filterMap Event.deed = [.created false, .destroyed] := by
  have run := Headless.create_empty
    (l := (blank ⟨made, h.settings.scale⟩).coordinator.surface) empty
  obtain ⟨v, es, bare, -, deeds, stops, -⟩ := start_spec thread rfl run
  have present : v.handshake.coordinator.surface.destroyed = false := by rw [bare]; rfl
  obtain ⟨es', gone, done⟩ :=
    discard_spec (h := { h with hooks := [] }) _ (.allowIme true) es present
  refine ⟨es', (stops _ rfl).trans gone, ?_⟩
  rw [done, deeds, Event.observer_deed.answered]
  rfl

/-! ### Whether a window is opened -/

/-- Why no window is opened when a request for one is answered so, and one for a thread: there is no
window, or it has no pixels, or there is no thread that could draw in it. -/
def refusal : Except String NativeWindow → Except String Unit → Option ViewError
  | .error e, _ => some (.platform ("window create failed: " ++ e))
  | .ok made, thread =>
    if made.innerSize.isEmpty then
      some (.surface (.createFailed s!"zero-sized target {made.innerSize.text}"))
    else
      match thread with
      | .error e => some (.platform ("render thread spawn failed: " ++ e))
      | .ok () => none

/-- With a render thread, only a window without pixels is refused. -/
theorem isEmpty_of_refused (refused : (refusal (.ok made) (.ok ())).isSome = true) :
    made.innerSize.isEmpty = true := by
  by_contra full
  simp [refusal, full] at refused

/-- A window is opened, and its session is right after its start. -/
theorem start_accepted (accepted : refusal (.ok made) thread = none) :
    ∃ w, ∃ es : List Event, h.start made thread =
        ⟨{ h with hooks := [], window := some w },
          onMain (.system (.allowIme true) :: es.map .view)⟩ ∧
      w.binding.window = made ∧ w.session.view.hooks = h.hooks ∧
      w.session.Opened w.binding.bounds ∧
      w.session.coordinator.surface.destroyed = false ∧
      es.filterMap Event.deed = [.created true] := by
  simp only [refusal] at accepted
  split at accepted
  next => cases accepted
  next pixels =>
    have full := eq_false_of_ne_true pixels
    cases thread with
    | error e => cases accepted
    | ok =>
      obtain ⟨binding, v, es, start, window, hooks, furnished, done⟩ :=
        start_full (h := h) (.ok ()) full
      subst window
      obtain ⟨w, es', launch, rfl, same, opened, present, done'⟩ :=
        launch_ok (h := { h with hooks := [] }) furnished full (.allowIme true) es
      exact ⟨w, es', start.trans launch, rfl, same.trans hooks, opened, present, done'.trans done⟩

/-- A window is not opened, and a surface that has been made for it is destroyed. -/
theorem start_refused {error : ViewError} (refused : refusal (.ok made) thread = some error) :
    ∃ es : List Event, h.start made thread =
        { h with hooks := [], error := some error }.exit
          (.system (.allowIme true) :: es.map .view) ∧
      es.filterMap Event.deed = [.created !made.innerSize.isEmpty, .destroyed] := by
  simp only [refusal] at refused
  split at refused
  next empty =>
    obtain rfl := Option.some.inj refused
    rw [empty]
    exact start_empty empty
  next pixels =>
    have full := eq_false_of_ne_true pixels
    cases thread with
    | ok => cases refused
    | error e =>
      obtain rfl := Option.some.inj refused
      obtain ⟨binding, v, es, start, window, -, furnished, done⟩ :=
        start_full (h := h) (.error e) full
      subst window
      obtain ⟨es', gone, done'⟩ :=
        launch_error (h := { h with hooks := [] }) furnished full (.allowIme true) es e
      refine ⟨es', start.trans gone, ?_⟩
      rw [done', done, full]
      rfl

end Host

end HostView
