import HostView.Engine.Event

/-!
# Sizes on a bus

Of the events on an unbounded bus only the sizes matter to the render loop (`Bus.sizes`).  A send
adds at the end and takes nothing away.
-/

namespace HostView

/-- The sizes among the events for the engine. -/
def EngineEvent.size : EngineEvent → Option Size
  | .metrics m => some m.size
  | .pointer _ => none

namespace Bus

/-- The sizes that are on their way to the engine, the oldest first. -/
def sizes (b : Bus EngineEvent) : List Size := b.queue.filterMap EngineEvent.size

section Projections

variable {α : Type} (b : Bus α) (e : α)

theorem send_of_open {b : Bus α} (unbounded : b.capacity = none) (isOpen : b.isOpen = true) :
    b.send e = ({ b with queue := b.queue ++ [e] }, .accepted) := by
  simp [send, hasRoom, unbounded, isOpen]

theorem sendAll_of_open {b : Bus α} (unbounded : b.capacity = none) (isOpen : b.isOpen = true)
    (es : List α) : (b.sendAll es).1 = { b with queue := b.queue ++ es } := by
  induction es generalizing b with
  | nil => simp [sendAll]
  | cons e es ih =>
    rw [sendAll, send_of_open e unbounded isOpen]
    simpa using ih (b := { b with queue := b.queue ++ [e] }) unbounded isOpen

theorem send_of_closed {b : Bus α} (closed : b.isOpen = false) : b.send e = (b, .closed) := by
  simp [send, closed]

theorem sendAll_of_closed {b : Bus α} (closed : b.isOpen = false) (es : List α) :
    (b.sendAll es).1 = b := by
  induction es with
  | nil => rfl
  | cons e es ih =>
    rw [sendAll, send_of_closed e closed]
    exact ih

/-- The bus becomes the property of a thread if nobody else owns it. -/
theorem claim_of_owner {b : Bus α} {t : ThreadId} (consumer : b.owner = none ∨ b.owner = some t) :
    b.claim t = some { b with owner := some t } := by
  obtain ⟨capacity, queue, owner, isOpen⟩ := b
  obtain rfl | rfl : owner = none ∨ owner = some t := consumer
  · rfl
  · exact if_pos rfl

theorem claim_of_other {b : Bus α} {owner t : ThreadId} (owned : b.owner = some owner)
    (other : owner ≠ t) : b.claim t = none := by
  rw [claim, owned]
  exact if_neg other

/-- Whose property a bus can become. -/
theorem claim_eq_some {b b' : Bus α} {t : ThreadId} :
    b.claim t = some b' ↔
      (b.owner = none ∨ b.owner = some t) ∧ b' = { b with owner := some t } := by
  constructor
  · intro claimed
    have consumer : b.owner = none ∨ b.owner = some t := by
      cases owned : b.owner with
      | none => exact .inl rfl
      | some owner =>
        by_cases same : owner = t
        · exact .inr (congrArg some same)
        · cases (claim_of_other owned same).symm.trans claimed
    exact ⟨consumer, Option.some.inj (claimed.symm.trans (claim_of_owner consumer))⟩
  · rintro ⟨consumer, rfl⟩
    exact claim_of_owner consumer

theorem claim_eq_none {b : Bus α} {t : ThreadId} :
    b.claim t = none ↔ ∃ owner, b.owner = some owner ∧ owner ≠ t := by
  constructor
  · intro refused
    cases owned : b.owner with
    | none => cases (claim_of_owner (.inl owned)).symm.trans refused
    | some owner =>
      refine ⟨owner, rfl, ?_⟩
      rintro rfl
      cases (claim_of_owner (.inr owned)).symm.trans refused
  · rintro ⟨owner, owned, other⟩
    exact claim_of_other owned other

theorem pop_eq (b : Bus α) : b.pop = (b.queue.head?, { b with queue := b.queue.tail }) := by
  obtain ⟨capacity, _ | _, owner, isOpen⟩ := b <;> rfl

/-- Whoever may receive takes the oldest event, and owns the bus from then on. -/
theorem receive_of_owner {b : Bus α} {t : ThreadId} (consumer : b.owner = none ∨ b.owner = some t) :
    b.receive t =
      some (b.queue.head?, { b with owner := some t, queue := b.queue.tail }) := by
  rw [receive, claim_of_owner consumer, Option.map_some, pop_eq]

end Projections

end Bus

end HostView
