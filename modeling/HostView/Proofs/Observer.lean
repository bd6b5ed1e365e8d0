import HostView.Proofs.Surface.Lifecycle
import HostView.Proofs.View.Request

/-!
# Looking at what is seen

What a property speaks of is picked from the events by a function `Event → Option α`: the sizes
that the surface was resized to, what was done to it, the metrics that the engine was told, the
calls to the window.
An `Event.Observer` is such a function that looks at no lock and at no log, so that it sees the
same in a critical section as in the answers of the device that the section is made of.
-/

namespace HostView

/-- What can be done to a surface, sizes aside. -/
inductive Deed
  | created (succeeded : Bool)
  | resized
  | madeCurrent
  | madeResourceCurrent
  | swapped
  | cleared
  | destroyed
deriving DecidableEq

/-- What a call to a device did to the surface; asking for its size does nothing. -/
def DeviceEvent.deed : DeviceEvent → Option Deed
  | ⟨.create _ _, .returned (.ok _)⟩ => some (.created true)
  | ⟨.create _ _, _⟩ => some (.created false)
  | ⟨.resize _ _, _⟩ => some .resized
  | ⟨.makeCurrent, _⟩ => some .madeCurrent
  | ⟨.makeResourceCurrent, _⟩ => some .madeResourceCurrent
  | ⟨.swap, _⟩ => some .swapped
  | ⟨.clearContext, _⟩ => some .cleared
  | ⟨.dimensions, _⟩ => none
  | ⟨.destroy, _⟩ => some .destroyed

namespace Event

/-- The size that the surface was resized to. -/
def resizedTo : Event → Option Size
  | .device ⟨.resize _ size, .returned (.ok _)⟩ => some size
  | _ => none

/-- The metrics that the engine is told. -/
def metrics : Event → Option Metrics
  | .engine (.metrics m) => some m
  | _ => none

/-- The call to the surface device that an event is the answer to. -/
def deviceCall : Event → Option DeviceCall
  | .device e => some e.call
  | _ => none

/-- What is done to the surface. -/
def deed : Event → Option Deed
  | .device e => e.deed
  | _ => none

/-- The window is told that it has been resized. -/
def announcement : Event → Option WindowCall
  | .window .resized => some .resized
  | _ => none

/-- An event of a critical section of the resize lock: the device is asked, or something is
logged. -/
def isInner : Event → Bool
  | .device _ | .log _ => true
  | _ => false

/-! Observers look at no lock and at no log. -/

section Observers

variable {α : Type} {f : Event → Option α}

/-- An observer of what happens between the locks and the logs. -/
structure Observer (f : Event → Option α) : Prop where
  locked : ∀ lock, f (.locked lock) = none
  unlocked : ∀ lock, f (.unlocked lock) = none
  log : ∀ r, f (.log r) = none

theorem observer_resizedTo : Observer resizedTo := ⟨fun _ => rfl, fun _ => rfl, fun _ => rfl⟩

theorem observer_deviceCall : Observer deviceCall := ⟨fun _ => rfl, fun _ => rfl, fun _ => rfl⟩

theorem observer_deed : Observer deed := ⟨fun _ => rfl, fun _ => rfl, fun _ => rfl⟩

theorem observer_metrics : Observer metrics := ⟨fun _ => rfl, fun _ => rfl, fun _ => rfl⟩

theorem observer_announcement : Observer announcement := ⟨fun _ => rfl, fun _ => rfl, fun _ => rfl⟩

theorem resizedTo_of_aside {e : Event} (aside : e.isAside = true) : e.resizedTo = none := by
  cases e with
  | device => cases aside
  | _ => rfl

theorem announcement_of_aside {e : Event} (aside : e.isAside = true) : e.announcement = none := by
  cases e with
  | window call =>
    cases call with
    | resized => cases aside
    | _ => rfl
  | _ => rfl

theorem metrics_of_aside {e : Event} (aside : e.isAside = true) : e.metrics = none := by
  cases e with
  | engine event =>
    cases event with
    | metrics => cases aside
    | pointer => rfl
  | _ => rfl

theorem Observer.logs (observer : Observer f) (records : List Log.Record) :
    (records.map .log).filterMap f = [] := by
  rw [List.filterMap_map]
  exact List.filterMap_eq_nil_iff.2 fun r _ => observer.log r

theorem Observer.guarded (observer : Observer f) (lock : Lock) (es : List Event) :
    (guarded lock es).filterMap f = es.filterMap f := by
  simp [Event.guarded, observer.locked, observer.unlocked]

theorem Observer.answered (observer : Observer f) (call : DeviceCall)
    (outcome : Outcome call.Answer) (records : List Log.Record) :
    (answered call outcome records).filterMap f = (f (.device ⟨call, outcome⟩)).toList := by
  rw [Event.answered, List.filterMap_append, observer.logs]
  cases seen : f (.device ⟨call, outcome⟩) <;> simp [seen]

end Observers

end Event

end HostView
