import HostView.Work

/-!
# Running work

One equation for each way of putting work together, so that a computation is run from one end to
the other without looking at `Work.andThen` again; and one rule for each, from which what all that
is seen of a computation has in common (`Work.Emits`) and what it keeps of the state (`Work.Keeps`)
are put together in the same way.
-/

namespace HostView.Work

variable {σ τ ε δ α β : Type}

@[simp] theorem pure_run (a : α) (s : σ) : (pure a : Work σ ε α) s = ⟨.returned a, s, []⟩ := rfl

@[simp] theorem state_bind (f : σ → Work σ ε β) (s : σ) : (state >>= f) s = f s s := rfl

@[simp] theorem change_run (g : σ → σ) (s : σ) :
    (change g : Work σ ε Unit) s = ⟨.returned (), g s, []⟩ := rfl

@[simp] theorem change_bind (g : σ → σ) (f : Unit → Work σ ε β) (s : σ) :
    (change g >>= f) s = f () (g s) := rfl

@[simp] theorem emit_run (e : ε) (s : σ) : (emit e : Work σ ε Unit) s = ⟨.returned (), s, [e]⟩ :=
  rfl

theorem bind_of_returned {w : Work σ ε α} {f : α → Work σ ε β} {s t : σ} {a : α} {es : List ε}
    (h : w s = ⟨.returned a, t, es⟩) :
    (w >>= f) s = ⟨(f a t).outcome, (f a t).state, es ++ (f a t).events⟩ := by
  change andThen w f s = _
  rw [andThen, h]

theorem bind_of_panicked {w : Work σ ε α} {f : α → Work σ ε β} {s t : σ} {m : String}
    {es : List ε} (h : w s = ⟨.panicked m, t, es⟩) : (w >>= f) s = ⟨.panicked m, t, es⟩ := by
  change andThen w f s = _
  rw [andThen, h]

/-- Passing a result on is not seen. -/
theorem map_events {w : Work σ ε α} {f : α → β} (s : σ) :
    ((w >>= fun a => pure (f a)) s).events = (w s).events := by
  rcases run : w s with ⟨a | m, t, es⟩
  · rw [bind_of_returned run, pure_run, List.append_nil]
  · rw [bind_of_panicked run]

theorem map_state {w : Work σ ε α} {f : α → β} (s : σ) :
    ((w >>= fun a => pure (f a)) s).state = (w s).state := by
  rcases run : w s with ⟨a | m, t, es⟩
  · rw [bind_of_returned run, pure_run]
  · rw [bind_of_panicked run]

/-! ### What is seen -/

/-- Whatever the state, all that is seen of a computation is of some kind. -/
def Emits (P : ε → Prop) (w : Work σ ε α) : Prop := ∀ s, ∀ e ∈ (w s).events, P e

variable {P : ε → Prop}

theorem Emits.pure (a : α) : Emits P (pure a : Work σ ε α) := by simp [Emits]

theorem Emits.state : Emits P (state : Work σ ε σ) := by simp [Emits, Work.state]

theorem Emits.change (f : σ → σ) : Emits P (change f : Work σ ε Unit) := by simp [Emits]

theorem Emits.emit {e : ε} (holds : P e) : Emits P (emit e : Work σ ε Unit) := by
  simpa [Emits] using fun _ => holds

theorem Emits.bind {w : Work σ ε α} {f : α → Work σ ε β} (first : Emits P w)
    (second : ∀ a, Emits P (f a)) : Emits P (w >>= f) := by
  intro s e mem
  have before := first s
  rcases run : w s with ⟨a | m, t, es⟩ <;> rw [run] at before
  · rw [bind_of_returned run] at mem
    obtain early | late := List.mem_append.1 mem
    · exact before e early
    · exact second a t e late
  · rw [bind_of_panicked run] at mem
    exact before e mem

theorem Emits.within {part : σ → τ} {restore : τ → σ → σ} {lift : δ → ε} {w : Work τ δ α}
    (emits : Emits (fun e => P (lift e)) w) : Emits P (within part restore lift w) := by
  intro s e mem
  obtain ⟨d, inside, rfl⟩ := List.mem_map.1 mem
  exact emits (part s) d inside

/-! ### What is kept -/

/-- Whatever comes of a computation, what holds of the state before it holds after it. -/
def Keeps (K : σ → Prop) (w : Work σ ε α) : Prop := ∀ s, K s → K (w s).state

variable {K : σ → Prop}

theorem Keeps.pure (a : α) : Keeps K (pure a : Work σ ε α) := fun _ holds => holds

theorem Keeps.bind {w : Work σ ε α} {f : α → Work σ ε β} (first : Keeps K w)
    (second : ∀ a, Keeps K (f a)) : Keeps K (w >>= f) := by
  intro s holds
  have kept := first s holds
  rcases run : w s with ⟨a | m, t, es⟩ <;> rw [run] at kept
  · rw [bind_of_returned run]
    exact second a t kept
  · rw [bind_of_panicked run]
    exact kept

end HostView.Work
