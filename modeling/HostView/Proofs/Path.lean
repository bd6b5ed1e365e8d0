import Mathlib.Data.List.Induction

/-!
# Paths through a system that moves step by step

A system is given by what each move comes to, if it can be made, and by the state that it leaves.
A `Path` is any finite sequence of moves that can be made, with every step recorded, so that a
statement about all interleavings of some threads is a statement about all paths.
-/

namespace HostView

/-- A step that was taken: the state before it, the move, and what the move came to. -/
structure StepTaken (S M R : Type) where
  before : S
  move : M
  result : R

variable {S M R : Type}

/-- The steps that lead from `start` to a state, the oldest first. -/
inductive Path (step : S → M → Option R) (next : R → S) (start : S) :
    List (StepTaken S M R) → S → Prop
  | nil : Path step next start [] start
  | snoc {steps : List (StepTaken S M R)} {s : S} {m : M} {r : R}
      (path : Path step next start steps s) (taken : step s m = some r) :
      Path step next start (steps ++ [⟨s, m, r⟩]) (next r)

namespace Path

variable {step : S → M → Option R} {next : R → S} {a b c : S} {l l₁ l₂ : List (StepTaken S M R)}
  {x : StepTaken S M R}

theorem eq_of_nil (h : Path step next a [] b) : b = a := by
  generalize nil : [] = l at h
  cases h with
  | nil => rfl
  | snoc => simp at nil

theorem of_snoc (h : Path step next a (l ++ [x]) b) :
    Path step next a l x.before ∧ step x.before x.move = some x.result ∧ b = next x.result := by
  generalize hl : l ++ [x] = l' at h
  cases h with
  | nil => simp at hl
  | snoc path taken =>
    obtain ⟨rfl, hx⟩ := List.append_inj' hl rfl
    obtain rfl := List.singleton_inj.1 hx
    exact ⟨path, taken, rfl⟩

theorem append (h₁ : Path step next a l₁ b) (h₂ : Path step next b l₂ c) :
    Path step next a (l₁ ++ l₂) c := by
  induction h₂ with
  | nil => simpa using h₁
  | snoc _ taken ih => simpa using ih.snoc taken

theorem cons (taken : step x.before x.move = some x.result)
    (h : Path step next (next x.result) l b) : Path step next x.before (x :: l) b :=
  append (nil.snoc taken) h

theorem of_append (h : Path step next a (l₁ ++ l₂) c) :
    ∃ b, Path step next a l₁ b ∧ Path step next b l₂ c := by
  induction l₂ using List.reverseRecOn generalizing c with
  | nil => exact ⟨c, by simpa using h, .nil⟩
  | append_singleton l₂ x ih =>
    rw [← List.append_assoc] at h
    obtain ⟨path, taken, rfl⟩ := of_snoc h
    obtain ⟨b, h₁, h₂⟩ := ih path
    exact ⟨b, h₁, h₂.snoc taken⟩

/-- A path can be cut at any of its steps. -/
theorem split (h : Path step next a (l₁ ++ x :: l₂) c) :
    Path step next a l₁ x.before ∧ step x.before x.move = some x.result ∧
      Path step next (next x.result) l₂ c := by
  rw [List.append_cons] at h
  obtain ⟨b, h₁, h₂⟩ := of_append h
  obtain ⟨path, taken, rfl⟩ := of_snoc h₁
  exact ⟨path, taken, h₂⟩

/-- The first step of a path is taken at its start. -/
theorem of_cons (h : Path step next a (x :: l) c) :
    x.before = a ∧ step x.before x.move = some x.result ∧ Path step next (next x.result) l c := by
  have cut : Path step next a ([] ++ x :: l) c := h
  obtain ⟨path, taken, rest⟩ := cut.split
  exact ⟨eq_of_nil path, taken, rest⟩

/-- Every step of a path can be taken. -/
theorem taken_of_mem (h : Path step next a l c) (hx : x ∈ l) :
    step x.before x.move = some x.result := by
  obtain ⟨l₁, l₂, rfl⟩ := List.append_of_mem hx
  exact h.split.2.1

/-- The steps of the given moves, as far as they can be made. -/
def record (step : S → M → Option R) (next : R → S) (s : S) : List M → List (StepTaken S M R)
  | [] => []
  | m :: ms =>
    match step s m with
    | none => []
    | some r => ⟨s, m, r⟩ :: record step next (next r) ms

theorem recorded (s : S) (ms : List M) : ∃ t, Path step next s (record step next s ms) t := by
  induction ms generalizing s with
  | nil => exact ⟨s, .nil⟩
  | cons m ms ih =>
    rw [record]
    cases taken : step s m with
    | none => exact ⟨s, .nil⟩
    | some r =>
      obtain ⟨t, path⟩ := ih (next r)
      exact ⟨t, path.cons (x := ⟨s, m, r⟩) taken⟩

/-- What holds at the start and is kept by every step holds at the end. -/
theorem invariant {P : S → Prop} (h : Path step next a l b) (start : P a)
    (kept : ∀ {s m r}, P s → step s m = some r → P (next r)) : P b := by
  induction h with
  | nil => exact start
  | snoc _ taken ih => exact kept ih taken

/-- What holds at the start holds all along, or there is a first step with which it is lost. -/
theorem kept_or_lost {P : S → Prop} (h : Path step next a l b) (start : P a) :
    ((∀ y ∈ l, P y.before) ∧ P b) ∨
      ∃ l₁ x l₂, l = l₁ ++ x :: l₂ ∧ (∀ y ∈ l₁ ++ [x], P y.before) ∧ ¬ P (next x.result) := by
  induction h with
  | nil => exact .inl ⟨nofun, start⟩
  | @snoc l s m r path taken ih =>
    obtain ⟨before, here⟩ | ⟨l₁, x, l₂, rfl, before, lost⟩ := ih
    · have upTo : ∀ y ∈ l ++ [⟨s, m, r⟩], P y.before :=
        List.forall_mem_append.2 ⟨before, List.forall_mem_singleton.2 here⟩
      by_cases kept : P (next r)
      · exact .inl ⟨upTo, kept⟩
      · exact .inr ⟨l, ⟨s, m, r⟩, [], rfl, upTo, kept⟩
    · exact .inr ⟨l₁, x, l₂ ++ [⟨s, m, r⟩], by simp, before, lost⟩

end Path

end HostView
