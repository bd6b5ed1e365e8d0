import HostView.Proofs.Surface.History
import HostView.Proofs.Surface.Replay
import HostView.Resize.Handshake
import HostView.Surface.Headless

/-!
# Creations and destructions of a surface

The owner of a surface keeps two flags, whether the surface lives and whether it was destroyed.
`Lifecycle.Paired` ties both to the calls that the device has got, and every use of the surface
keeps it.  So however a surface is used and let go in the end, between two destructions there is a
creation, the last destruction comes after all creations, and a device is told to resize only a
surface that it holds (`Lifecycle.destructions_paired`).
-/

namespace HostView

/-- What the owner of a surface is asked to do with it. -/
inductive SurfaceUse
  | task (task : SurfaceTask)
  | resize (size : Size)
  | swap

/-- Neither a destruction nor the question for the size panics. -/
def DeviceEvent.calm : DeviceEvent → Bool
  | ⟨.destroy, .panicked _⟩ | ⟨.dimensions, .panicked _⟩ => false
  | _ => true

/-- A history in which only a surface that is not yet gone is destroyed, and only a surface that
was created for the target is told to resize. -/
inductive Orderly (target : RenderTarget) : List DeviceEvent → Prop
  | nil : Orderly target []
  | snoc {history : List DeviceEvent} {e : DeviceEvent} (orderly : Orderly target history)
      (once : e.destroys = true → ¬ Gone history)
      (held : e.triesResize = true → Survives target history) : Orderly target (history ++ [e])

namespace Orderly

variable {target : RenderTarget} {before after : List DeviceEvent} {e : DeviceEvent}

/-- What is asked of each call holds at its place. -/
theorem at_call (orderly : Orderly target (before ++ e :: after)) :
    (e.destroys = true → ¬ Gone before) ∧ (e.triesResize = true → Survives target before) := by
  induction after using List.reverseRecOn with
  | nil =>
    generalize whole : before ++ [e] = history at orderly
    cases orderly with
    | nil => simp at whole
    | snoc orderly once held =>
      obtain ⟨rfl, same⟩ := List.append_inj' whole rfl
      obtain rfl := List.singleton_inj.1 same
      exact ⟨once, held⟩
  | append_singleton after last ih =>
    generalize whole : before ++ e :: (after ++ [last]) = history at orderly
    cases orderly with
    | nil => simp at whole
    | snoc orderly =>
      rw [← List.cons_append, ← List.append_assoc] at whole
      obtain ⟨rfl, -⟩ := List.append_inj' whole rfl
      exact ih orderly

/-- Between two destructions a surface is created. -/
theorem created_between {d : DeviceEvent} {between : List DeviceEvent}
    (orderly : Orderly target (before ++ d :: (between ++ e :: after))) (first : d.destroys = true)
    (second : e.destroys = true) : ∃ x ∈ between, x.created.isSome = true := by
  rw [← List.cons_append, ← List.append_assoc] at orderly
  by_contra none
  refine orderly.at_call.1 second ⟨before, d, between, rfl, first, fun x mem => ?_⟩
  by_contra created
  exact none ⟨x, mem, Option.isSome_iff_ne_none.2 created⟩

/-- If nothing is created after a destruction, there is only one. -/
theorem countP_destroys {history : List DeviceEvent} (orderly : Orderly target history)
    (gone : Gone history)
    (final : history.Pairwise fun d e => d.destroys = true → e.created = none) :
    history.countP DeviceEvent.destroys = 1 := by
  have alone {start between rest : List DeviceEvent} {d d' : DeviceEvent}
      (cut : history = start ++ d :: (between ++ d' :: rest)) (first : d.destroys = true)
      (second : d'.destroys = true) : False := by
    rw [cut] at orderly final
    obtain ⟨x, here, created⟩ := orderly.created_between first second
    have later := List.pairwise_cons.1 (List.pairwise_append.1 final).2.1
    have none := later.1 x (by simp [here]) first
    rw [none] at created
    cases created
  obtain ⟨before, d, after, cut, destroys, -⟩ := gone
  have earlier : before.countP DeviceEvent.destroys = 0 := by
    refine List.countP_eq_zero.2 fun e mem first => ?_
    obtain ⟨start, between, rfl⟩ := List.append_of_mem mem
    exact alone (by simpa using cut) first destroys
  have later : after.countP DeviceEvent.destroys = 0 := by
    refine List.countP_eq_zero.2 fun e mem second => ?_
    obtain ⟨between, rest, rfl⟩ := List.append_of_mem mem
    exact alone cut destroys second
  rw [cut, List.countP_append, List.countP_cons_of_pos destroys, earlier, later]

end Orderly

namespace Lifecycle

variable {σ : Type} [SurfaceDevice σ]

/-- One use of a surface: the calls that its device gets, and what becomes of it. -/
def used (l : Lifecycle σ) : SurfaceUse → List DeviceEvent × Lifecycle σ
  | .task task =>
    let r := Handshake.surfaceWork task l
    (Event.deviceEvents r.events, r.state)
  | .resize size =>
    let r := resize size l
    (Event.deviceEvents r.events, r.state)
  | .swap =>
    let r := swap l
    (Event.deviceEvents r.events, r.state)

/-- Uses of a surface, one after the other. -/
def usedFor (l : Lifecycle σ) : List SurfaceUse → List DeviceEvent × Lifecycle σ
  | [] => ([], l)
  | use :: uses =>
    let r := l.used use
    let rest := usedFor r.2 uses
    (r.1 ++ rest.1, rest.2)

theorem usedFor_append (l : Lifecycle σ) (uses later : List SurfaceUse) :
    l.usedFor (uses ++ later) =
      ((l.usedFor uses).1 ++ ((l.usedFor uses).2.usedFor later).1,
        ((l.usedFor uses).2.usedFor later).2) := by
  induction uses generalizing l with
  | nil => rfl
  | cons use uses ih => simp only [List.cons_append, usedFor, ih, List.append_assoc]

omit [SurfaceDevice σ] in
/-- The flags of the owner of a surface for a target say what its device was told last. -/
structure Paired (l : Lifecycle σ) (target : RenderTarget) (history : List DeviceEvent) :
    Prop where
  owned : l.target = target
  live : l.live = true ↔ Survives target history
  destroyed : l.destroyed = true ↔ Gone history
  orderly : Orderly target history

variable {l l' : Lifecycle σ} {target : RenderTarget} {history : List DeviceEvent}
  {e : DeviceEvent}

omit [SurfaceDevice σ] in
/-- One more call, and what the owner makes of it. -/
theorem Paired.snoc (paired : l.Paired target history) (same : l'.target = l.target)
    (live : l'.live = true ↔
      e.created = some l.target ∨ l.live = true ∧ e.created = none ∧ e.destroys = false)
    (destroyed : l'.destroyed = true ↔
      e.destroys = true ∨ l.destroyed = true ∧ e.created = none)
    (once : e.destroys = true → l.destroyed = false)
    (alive : e.triesResize = true → l.live = true) : l'.Paired target (history ++ [e]) where
  owned := same.trans paired.owned
  live := by rw [live, paired.live, survives_snoc, paired.owned]
  destroyed := by rw [destroyed, paired.destroyed, gone_snoc]
  orderly := by
    refine paired.orderly.snoc (fun destroys gone => ?_) fun tries => ?_
    · rw [← paired.destroyed, once destroys] at gone
      cases gone
    · exact paired.live.1 (alive tries)

omit [SurfaceDevice σ] in
/-- A call that neither creates nor destroys, of an owner whose flags stay as they are. -/
theorem Paired.keep (paired : l.Paired target history) (same : l'.target = l.target)
    (live : l'.live = l.live) (destroyed : l'.destroyed = l.destroyed)
    (creates : e.created = none) (destroys : e.destroys = false)
    (alive : e.triesResize = true → l.live = true) : l'.Paired target (history ++ [e]) :=
  paired.snoc same (by simp [live, creates, destroys]) (by simp [destroyed, creates, destroys])
    (by simp [destroys]) alive

/-- A question that changes nothing at the owner. -/
theorem Paired.ask (paired : l.Paired target history) (call : DeviceCall)
    (plain : ∀ outcome, (⟨call, outcome⟩ : DeviceEvent).created = none ∧
      (⟨call, outcome⟩ : DeviceEvent).destroys = false ∧
      (⟨call, outcome⟩ : DeviceEvent).triesResize = false) :
    (Lifecycle.ask call l).state.Paired target
      (history ++ Event.deviceEvents (Lifecycle.ask call l).events) := by
  rcases answer : SurfaceDevice.perform call l.device with ⟨outcome, d, logs⟩
  obtain ⟨creates, destroys, tries⟩ := plain outcome
  rw [ask_of_perform answer, Event.deviceEvents_answered]
  exact paired.keep rfl rfl rfl creates destroys (by simp [tries])

theorem Paired.create (paired : l.Paired target history) (wanted : Size)
    (calm : ∀ e ∈ Event.deviceEvents (Lifecycle.create wanted l).events, e.calm = true) :
    (Lifecycle.create wanted l).state.Paired target
      (history ++ Event.deviceEvents (Lifecycle.create wanted l).events) := by
  have came := created l wanted
  generalize Lifecycle.create wanted l = r at came calm ⊢
  cases came with
  | refused =>
    rw [Event.deviceEvents_answered]
    exact paired.keep rfl rfl rfl rfl rfl nofun
  | panicked =>
    rw [Event.deviceEvents_answered]
    exact paired.keep rfl rfl rfl rfl rfl nofun
  | @made size d d' =>
    let owner : Lifecycle σ := { l.withDevice d with live := true, destroyed := false }
    have made : owner.Paired target
        (history ++ [⟨.create l.target wanted, .returned (.ok ())⟩]) :=
      paired.snoc rfl (by simp [owner, DeviceEvent.created])
        (by simp [owner, DeviceEvent.created, DeviceEvent.destroys]) nofun nofun
    rw [Event.deviceEvents_append, Event.deviceEvents_append, Event.deviceEvents_answered,
      Event.deviceEvents_answered, ← List.append_assoc history]
    exact made.keep (e := ⟨.dimensions, .returned size⟩) rfl rfl rfl rfl rfl nofun
  | @panickedLate m =>
    rw [Event.deviceEvents_append, Event.deviceEvents_answered, Event.deviceEvents_answered] at calm
    exact absurd (calm ⟨.dimensions, .panicked m⟩ (by simp)) (by simp [DeviceEvent.calm])

theorem Paired.destroy (paired : l.Paired target history)
    (calm : ∀ e ∈ Event.deviceEvents (Lifecycle.destroy l).events, e.calm = true) :
    (Lifecycle.destroy l).state.Paired target
        (history ++ Event.deviceEvents (Lifecycle.destroy l).events) ∧
      (Lifecycle.destroy l).state.destroyed = true := by
  have came := ended l
  generalize Lifecycle.destroy l = r at came calm ⊢
  cases came with
  | already gone => exact ⟨by simpa [Event.deviceEvents] using paired, gone⟩
  | done present =>
    rw [Event.deviceEvents_append, Event.deviceEvents_answered]
    exact ⟨paired.snoc rfl (by simp [DeviceEvent.created, DeviceEvent.destroys])
      (by simp [DeviceEvent.destroys]) (fun _ => present) (by simp [DeviceEvent.triesResize]), rfl⟩
  | @panicked m =>
    rw [Event.deviceEvents_answered] at calm
    exact absurd (calm ⟨.destroy, .panicked m⟩ (by simp)) (by simp [DeviceEvent.calm])

theorem Paired.resize (paired : l.Paired target history) (size : Size) :
    (Lifecycle.resize size l).state.Paired target
      (history ++ Event.deviceEvents (Lifecycle.resize size l).events) := by
  have came := resized l size
  generalize Lifecycle.resize size l = r at came ⊢
  cases came with
  | missing => simpa [Event.deviceEvents] using paired
  | failed alive =>
    rw [Event.deviceEvents_answered]
    exact paired.keep rfl rfl rfl rfl rfl fun _ => alive
  | done alive =>
    rw [Event.deviceEvents_answered]
    exact paired.keep rfl rfl rfl rfl rfl fun _ => alive
  | panicked alive =>
    rw [Event.deviceEvents_answered]
    exact paired.keep rfl rfl rfl rfl rfl fun _ => alive

/-- Every use of a surface keeps the flags in step with the calls. -/
theorem Paired.used (paired : l.Paired target history) (use : SurfaceUse)
    (calm : ∀ e ∈ (l.used use).1, e.calm = true) :
    (l.used use).2.Paired target (history ++ (l.used use).1) := by
  cases use with
  | task task =>
    cases task <;>
      simp only [Lifecycle.used, Handshake.surfaceWork, Work.map_events, Work.map_state] at calm ⊢
    case create size => exact paired.create size calm
    case destroy => exact (paired.destroy calm).1
    case makeCurrent => exact paired.ask .makeCurrent fun _ => ⟨rfl, rfl, rfl⟩
    case makeResourceCurrent => exact paired.ask .makeResourceCurrent fun _ => ⟨rfl, rfl, rfl⟩
    case clearContext => exact paired.ask .clearContext fun _ => ⟨rfl, rfl, rfl⟩
  | resize size => exact paired.resize size
  | swap => exact paired.ask .swap fun _ => ⟨rfl, rfl, rfl⟩

theorem Paired.usedFor (paired : l.Paired target history) (uses : List SurfaceUse)
    (calm : ∀ e ∈ (l.usedFor uses).1, e.calm = true) :
    (l.usedFor uses).2.Paired target (history ++ (l.usedFor uses).1) := by
  induction uses generalizing l history with
  | nil => simpa [Lifecycle.usedFor] using paired
  | cons use uses ih =>
    obtain ⟨here, later⟩ := List.forall_mem_append.1 calm
    simpa [Lifecycle.usedFor] using ih (paired.used use here) later

/-- A new owner uses a surface in any way and then lets it go, which destroys it, and the device
never panics in a destruction or when it is asked for its size.  Between two destructions a
surface is created; the last of the destructions comes after all creations, and is the only one if
no creation comes after a destruction; and the device is told to resize only the surface that it
holds, while at any other time a resize fails and the device is not asked. -/
theorem destructions_paired (device : σ) (target : RenderTarget) (uses : List SurfaceUse) :
    let start : Lifecycle σ := { device, target }
    let whole := (start.usedFor uses).1 ++
      Event.deviceEvents (Lifecycle.destroy (start.usedFor uses).2).events
    (∀ e ∈ whole, e.calm = true) →
      (∀ before d between d' after, whole = before ++ d :: (between ++ d' :: after) →
        d.destroys = true → d'.destroys = true → ∃ e ∈ between, e.created.isSome = true) ∧
      Gone whole ∧
      ((whole.Pairwise fun d e => d.destroys = true → e.created = none) →
        whole.countP DeviceEvent.destroys = 1) ∧
      (∀ before e after, whole = before ++ e :: after → e.triesResize = true →
        Survives target before) ∧
      ∀ earlier later, uses = earlier ++ later → ¬ Survives target (start.usedFor earlier).1 →
        ∀ size, Lifecycle.resize size (start.usedFor earlier).2 =
          ⟨.returned (.error .missing), (start.usedFor earlier).2, []⟩ := by
  intro start whole calm
  have fresh : start.Paired target [] := ⟨rfl, by simp [start], by simp [start], .nil⟩
  obtain ⟨calmInUse, calmAtEnd⟩ := List.forall_mem_append.1 calm
  obtain ⟨paired, destroyed⟩ := (fresh.usedFor uses calmInUse).destroy calmAtEnd
  have orderly : Orderly target whole := paired.orderly
  have gone : Gone whole := paired.destroyed.1 destroyed
  refine ⟨fun before d between d' after cut first second => ?_, gone, orderly.countP_destroys gone,
    fun before e after cut => ?_, fun earlier later cut lost size => ?_⟩
  · rw [cut] at orderly
    exact orderly.created_between first second
  · rw [cut] at orderly
    exact orderly.at_call.2
  · rw [cut, usedFor_append] at calmInUse
    have soFar := fresh.usedFor earlier (List.forall_mem_append.1 calmInUse).1
    have dead : (start.usedFor earlier).2.live = false :=
      Bool.eq_false_iff.2 fun live => lost (soFar.live.1 live)
    rw [Lifecycle.resize, Work.state_bind, dead]
    rfl

/-- A surface cannot be made at first, then it draws a frame at another size, and it is destroyed
before it is let go. -/
def shortLife : List SurfaceUse :=
  [.task (.create .zero), .task (.create ⟨800, 600⟩), .resize ⟨1024, 768⟩, .task .makeCurrent,
    .swap, .task .destroy, .task .destroy]

/-- The surface is destroyed once, and after that it cannot be resized. -/
theorem short_life_ends_once :
    let start : Lifecycle Headless := { device := {}, target := ⟨1⟩ }
    let whole := (start.usedFor shortLife).1 ++
      Event.deviceEvents (Lifecycle.destroy (start.usedFor shortLife).2).events
    (∀ e ∈ whole, e.calm = true) ∧
      (whole.Pairwise fun d e => d.destroys = true → e.created = none) ∧
      whole.countP DeviceEvent.destroys = 1 ∧ ¬ Survives ⟨1⟩ (start.usedFor shortLife).1 ∧
      Lifecycle.resize ⟨640, 480⟩ (start.usedFor shortLife).2 =
        ⟨.returned (.error .missing), (start.usedFor shortLife).2, []⟩ := by
  intro start whole
  have calm : ∀ e ∈ whole, e.calm = true := by decide +kernel
  have final : whole.Pairwise fun d e => d.destroys = true → e.created = none := by
    decide +kernel
  have lost : ¬ Survives ⟨1⟩ (start.usedFor shortLife).1 := by
    have ends : (start.usedFor shortLife).1 =
        (start.usedFor (shortLife.take 5)).1 ++ [⟨.destroy, .returned ()⟩] := by
      rfl
    rw [ends, survives_snoc]
    simp [DeviceEvent.created, DeviceEvent.destroys]
  obtain ⟨-, -, once, -, missing⟩ := destructions_paired ({} : Headless) ⟨1⟩ shortLife calm
  exact ⟨calm, final, once final, lost, missing shortLife [] (by simp) lost ⟨640, 480⟩⟩

end Lifecycle

end HostView
