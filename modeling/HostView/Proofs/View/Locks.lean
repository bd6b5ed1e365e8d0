import HostView.Proofs.Resize.Section
import HostView.View.Basic

/-!
# Which locks are held when

Every entry point of a view keeps to one rule (`Event.hold`): a thread holds one lock at most, the
device of the surface is asked under the resize lock, and the engine, the window and the hooks are
called without a lock.  Whatever an entry point makes seen can follow when no lock is held, and
leaves none held (`Event.Keeps none none`).
-/

namespace HostView

namespace Event

/-- A call to the engine, to the window or to a hook. -/
def isCallback : Event → Bool
  | .engine _ | .window _ | .hook _ _ => true
  | _ => false

/-- The lock that a thread holds after an event, if the event keeps to the rule. -/
def hold : Option Lock → Event → Option (Option Lock)
  | held, .log _ => some held
  | none, .locked lock => some (some lock)
  | some lock, .unlocked other => if other = lock then some none else none
  | some .resize, .device _ => some (some .resize)
  | none, .engine _ | none, .window _ | none, .hook _ _ | none, .reentered _ _ | none, .notified =>
    some none
  | _, _ => none

section Hold

variable {held after : Option Lock} {lock : Lock} {e : Event}

theorem hold_callback (holds : hold held e = some after) (callback : e.isCallback = true) :
    held = none ∧ after = none := by
  cases e with
  | engine | window | hook =>
    cases held with
    | none => exact ⟨rfl, (Option.some.inj holds).symm⟩
    | some => cases holds
  | _ => cases callback

theorem hold_device {d : DeviceEvent} (holds : hold held (.device d) = some after) :
    held = some .resize := by
  rcases held with _ | ⟨_ | _ | _⟩
  · cases holds
  · rfl
  · cases holds
  · cases holds

theorem hold_locked (holds : hold held (.locked lock) = some after) :
    held = none ∧ after = some lock := by
  cases held with
  | none => exact ⟨rfl, (Option.some.inj holds).symm⟩
  | some => cases holds

theorem hold_unlocked (holds : hold held (.unlocked lock) = some after) :
    held = some lock ∧ after = none := by
  cases held with
  | none => cases holds
  | some other =>
    obtain ⟨rfl, eq⟩ := Option.ite_none_right_eq_some.1 holds
    exact ⟨rfl, (Option.some.inj eq).symm⟩

/-- Whatever neither takes nor gives back a lock leaves it where it is. -/
theorem hold_still (holds : hold held e = some after) (taken : ∀ lock, e ≠ .locked lock)
    (given : ∀ lock, e ≠ .unlocked lock) : after = held := by
  cases e with
  | locked lock => exact absurd rfl (taken lock)
  | unlocked lock => exact absurd rfl (given lock)
  | log => cases held <;> exact (Option.some.inj holds).symm
  | device d =>
    obtain rfl := hold_device holds
    exact (Option.some.inj holds).symm
  | engine | window | hook =>
    obtain ⟨rfl, rfl⟩ := hold_callback holds rfl
    rfl
  | reentered | notified =>
    cases held with
    | none => exact (Option.some.inj holds).symm
    | some => cases holds

end Hold

/-- The events keep to the rule from one lock held, or none, to another. -/
def Keeps (before after : Option Lock) (es : List Event) : Prop :=
  es.foldlM hold before = some after

variable {es es' : List Event} {a b c : Option Lock} {lock : Lock}

theorem keeps_nil : Keeps a a [] := rfl

theorem keeps_cons {e : Event} : Keeps a c (e :: es) ↔ ∃ b, hold a e = some b ∧ Keeps b c es := by
  rw [Keeps, List.foldlM_cons]
  exact Option.bind_eq_some_iff

theorem Keeps.append (first : Keeps a b es) (second : Keeps b c es') : Keeps a c (es ++ es') := by
  rw [Keeps, List.foldlM_append, first]
  exact second

/-- Events that leave the lock that is held where it is. -/
theorem keeps_of_forall (still : ∀ e ∈ es, hold a e = some a) : Keeps a a es := by
  induction es with
  | nil => exact keeps_nil
  | cons e es ih =>
    exact keeps_cons.2 ⟨a, still e (List.mem_cons_self ..),
      ih fun e mem => still e (List.mem_cons_of_mem _ mem)⟩

theorem keeps_logs (records : List Log.Record) : Keeps a a (records.map .log) := by
  refine keeps_of_forall fun e mem => ?_
  obtain ⟨r, -, rfl⟩ := List.mem_map.1 mem
  cases a <;> rfl

theorem keeps_inner (inner : ∀ e ∈ es, e.isInner = true) :
    Keeps (some .resize) (some .resize) es := by
  refine keeps_of_forall fun e mem => ?_
  have inside := inner e mem
  cases e with
  | device => rfl
  | log => rfl
  | _ => cases inside

theorem Keeps.guarded (inside : Keeps (some lock) (some lock) es) :
    Keeps none none (guarded lock es) := by
  refine keeps_cons.2 ⟨some lock, rfl, inside.append ?_⟩
  exact keeps_cons.2 ⟨none, if_pos rfl, keeps_nil⟩

end Event

open Event

/-! ### The entry points -/

namespace View

theorem keeps_pointerEvents (d : Dispatch) : Keeps none none (pointerEvents d) := by
  refine (keeps_logs d.records).guarded.append (keeps_of_forall fun e mem => ?_)
  obtain ⟨p, -, rfl⟩ := List.mem_map.1 mem
  rfl

/-- Whatever happens in a dispatch, the hooks are called without a lock, and what they do to the
view in turn begins and ends without one. -/
theorem keeps_hear (pointer : Normalizer) (signals : List Signal) :
    Keeps none none (hear pointer signals).2 := by
  induction signals generalizing pointer with
  | nil => exact keeps_nil
  | cons signal signals ih =>
    cases signal with
    | touched => exact (keeps_nil.guarded).append (ih pointer)
    | called manner callback =>
      have called : Keeps none none (.hook manner callback :: (manner.records callback).map .log) :=
        keeps_cons.2 ⟨none, rfl, keeps_logs _⟩
      exact called.append (ih pointer)
    | pointed input => exact (keeps_pointerEvents _).append (ih _)
    | returned callback consumed => exact keeps_cons.2 ⟨none, rfl, ih pointer⟩

end View

namespace Handshake

variable {σ : Type} [SurfaceDevice σ] {h : Handshake σ} {t : ThreadId} {m : Move} {moved : Moved σ}

/-- Every move of the handshake keeps to the rule. -/
theorem keeps_step (taken : Stepped h t m moved) : Keeps none none moved.events := by
  cases m with
  | call call =>
    obtain none | ⟨es, events, inner⟩ := section_of_call taken
    · rw [none]
      exact keeps_nil
    · rw [events]
      exact (keeps_inner inner).guarded
  | proceed =>
    cases taken with
    | registered _ run =>
      obtain ⟨records, rfl⟩ := Coordinator.register_logs run
      exact (keeps_logs records).guarded
    | told => exact rfl
    | done => exact keeps_nil
    | released => exact (keeps_logs _).guarded
    | slept => exact (keeps_logs _).guarded
    | woke => exact rfl
    | announced => exact keeps_cons.2 ⟨none, rfl, keeps_logs _⟩

end Handshake

end HostView
