import HostView.Toml.Reader

/-!
# What a reader can read

One rule for each way of putting readers together, from which what all results of a reader have in
common (`Reader.Reads`) is put together in the same way.
-/

namespace HostView.Toml.Reader

variable {α β : Type} {P : α → Prop} {Q : β → Prop} {r s : Reader α} {f : α → Reader β}

/-- Wherever a reader starts, what it reads is of some kind. -/
def Reads (P : α → Prop) (r : Reader α) : Prop := ∀ c a d, r c = some (a, d) → P a

theorem bind_eq_some {c d : Cursor} {b : β} :
    (r >>= f) c = some (b, d) ↔ ∃ a e, r c = some (a, e) ∧ f a e = some (b, d) := by
  rw [show (r >>= f) c = (r c).bind fun x => f x.1 x.2 from rfl, Option.bind_eq_some_iff,
    Prod.exists]

theorem orElse_eq_some {c d : Cursor} {a : α} :
    (r <|> s) c = some (a, d) ↔ r c = some (a, d) ∨ r c = none ∧ s c = some (a, d) := by
  rw [show (r <|> s) c = (r c <|> s c) from rfl]
  cases r c <;> simp

theorem Reads.pure {a : α} (holds : P a) : Reads P (pure a) := by
  intro c b d read
  obtain ⟨rfl, -⟩ := Prod.mk.inj (Option.some.inj read)
  exact holds

theorem Reads.failure : Reads P failure := nofun

theorem Reads.bind (first : Reads P r) (second : ∀ a, P a → Reads Q (f a)) : Reads Q (r >>= f) := by
  intro c b d read
  obtain ⟨a, e, before, after⟩ := bind_eq_some.1 read
  exact second a (first c a e before) e b d after

/-- What comes first need not be of any kind. -/
theorem Reads.after (second : ∀ a, Reads Q (f a)) : Reads Q (r >>= f) :=
  Reads.bind (P := fun _ => True) (fun _ _ _ _ => trivial) fun a _ => second a

theorem Reads.orElse (left : Reads P r) (right : Reads P s) : Reads P (r <|> s) := by
  intro c a d read
  obtain read | ⟨-, read⟩ := orElse_eq_some.1 read
  · exact left c a d read
  · exact right c a d read

theorem Reads.attempt (reads : Reads P r) : Reads (fun o => ∀ a ∈ o, P a) (attempt r) := by
  intro c o d read
  unfold Reader.attempt at read
  split at read
  next a e inner =>
    obtain ⟨rfl, -⟩ := Prod.mk.inj (Option.some.inj read)
    rintro _ ⟨⟩
    exact reads c a e inner
  next =>
    obtain ⟨rfl, -⟩ := Prod.mk.inj (Option.some.inj read)
    nofun

theorem Reads.many (reads : Reads P r) : Reads (fun l => ∀ a ∈ l, P a) (many r) := by
  have each (count : Nat) : Reads (fun l => ∀ a ∈ l, P a) (repeatFor r count) := by
    induction count with
    | zero => exact .pure nofun
    | succ count ih =>
      refine reads.attempt.bind fun o holds => ?_
      cases o with
      | none => exact .pure nofun
      | some a => exact ih.bind fun l rest => .pure (List.forall_mem_cons.2 ⟨holds a rfl, rest⟩)
  exact fun c => each c.rest.length c

theorem Reads.separated (reads : Reads P r) (separator : Reader β) :
    Reads (fun l => ∀ a ∈ l, P a) (separated r separator) :=
  reads.bind fun _ holds => (Reads.many (.after fun _ => reads)).bind fun _ rest =>
    .pure (List.forall_mem_cons.2 ⟨holds, rest⟩)

theorem Reads.spanned (reads : Reads P r) : Reads (fun x => P x.1) (spanned r) := by
  rintro c ⟨a, span⟩ d read
  obtain ⟨⟨b, e⟩, inner, same⟩ := Option.map_eq_some_iff.1 read
  obtain ⟨⟨rfl, -⟩, -⟩ := Prod.mk.inj same |>.imp Prod.mk.inj id
  exact reads c b e inner

theorem reads_check (condition : Bool) : Reads (fun _ => condition = true) (check condition) := by
  cases condition with
  | false => exact .failure
  | true => exact .pure rfl

end HostView.Toml.Reader
