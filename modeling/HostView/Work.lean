/-!
# Work that changes a state and is watched while it does

`Work σ ε α` is a computation over a state `σ` that emits events `ε` and either returns an `α` or
panics.  A panic keeps the state and the events up to that point and skips the rest.
-/

namespace HostView

/-- How a computation ends. -/
inductive Outcome (α : Type)
  | returned (value : α)
  | panicked (message : String)
deriving DecidableEq

/-- A finished computation: how it ended, what it left, and what was seen of it. -/
structure Run (σ ε α : Type) where
  outcome : Outcome α
  state : σ
  events : List ε := []

/-- A computation over a state. -/
def Work (σ ε α : Type) := σ → Run σ ε α

namespace Work

variable {σ τ ε δ α β : Type}

/-- Runs the second computation where the first one stopped, unless that panicked. -/
def andThen (w : Work σ ε α) (next : α → Work σ ε β) : Work σ ε β := fun s =>
  match w s with
  | ⟨.returned a, s, events⟩ =>
    let r := next a s
    ⟨r.outcome, r.state, events ++ r.events⟩
  | ⟨.panicked m, s, events⟩ => ⟨.panicked m, s, events⟩

instance : Monad (Work σ ε) where
  pure a := fun s => ⟨.returned a, s, []⟩
  bind := andThen

/-- The current state. -/
def state : Work σ ε σ := fun s => ⟨.returned s, s, []⟩

/-- Changes the state. -/
def change (f : σ → σ) : Work σ ε Unit := fun s => ⟨.returned (), f s, []⟩

/-- Lets an event be seen. -/
def emit (event : ε) : Work σ ε Unit := fun s => ⟨.returned (), s, [event]⟩

/-- Work on a part of a larger state, its events read as events of the whole. -/
def within (part : σ → τ) (restore : τ → σ → σ) (lift : δ → ε) (w : Work τ δ α) :
    Work σ ε α := fun s =>
  let r := w (part s)
  ⟨r.outcome, restore r.state s, r.events.map lift⟩

end Work

end HostView
