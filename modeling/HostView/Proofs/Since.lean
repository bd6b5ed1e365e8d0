import Mathlib.Data.List.Induction

/-!
# What has held since something happened

`Since p q l` says of the members of a list, the oldest first, that some member was of the first
kind and all after it were of the second.  Whether this holds of a list that grows is decided by
the new member and by whether it held before (`since_snoc`).
-/

namespace HostView

variable {α : Type} {p q : α → Prop} {l : List α} {x : α}

/-- Some member is of the first kind, and all after it are of the second. -/
def Since (p q : α → Prop) (l : List α) : Prop :=
  ∃ before x after, l = before ++ x :: after ∧ p x ∧ ∀ y ∈ after, q y

theorem not_since_nil : ¬ Since p q [] := by
  rintro ⟨before, x, after, split, -⟩
  simp at split

/-- One more member. -/
theorem since_snoc : Since p q (l ++ [x]) ↔ p x ∨ Since p q l ∧ q x := by
  constructor
  · rintro ⟨before, y, after, split, happened, since⟩
    rcases List.eq_nil_or_concat after with rfl | ⟨after, last, rfl⟩
    · obtain ⟨-, same⟩ := List.append_inj' split rfl
      obtain rfl := List.singleton_inj.1 same
      exact .inl happened
    · rw [List.concat_eq_append] at split since
      rw [← List.cons_append, ← List.append_assoc] at split
      obtain ⟨rfl, same⟩ := List.append_inj' split rfl
      obtain rfl := List.singleton_inj.1 same
      refine .inr ⟨⟨before, y, after, rfl, happened, ?_⟩, since x (by simp)⟩
      intro z mem
      exact since z (by simp [mem])
  · rintro (happened | ⟨⟨before, y, after, rfl, happened, since⟩, here⟩)
    · exact ⟨l, x, [], rfl, happened, by simp⟩
    · refine ⟨before, y, after ++ [x], by simp, happened, ?_⟩
      intro z mem
      obtain old | new := List.mem_append.1 mem
      · exact since z old
      · rwa [List.mem_singleton.1 new]

theorem Since.mono {q' : α → Prop} (weaker : ∀ y, q y → q' y) (since : Since p q l) :
    Since p q' l := by
  obtain ⟨before, x, after, split, happened, since⟩ := since
  exact ⟨before, x, after, split, happened, fun y mem => weaker y (since y mem)⟩

end HostView
