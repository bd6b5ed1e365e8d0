import HostView.Config.Decode
import HostView.Proofs.Toml.Table

/-!
# Fields that do not look at each other

A field that only decodes its own item and sets its own place (`Field.of`) does not mind what else
stands in the table.  So a table without duplicate keys is decoded if and only if each item is that
some field decodes (`entriesInto_ok_iff`), and a place then holds what became of the item under its
key, or what it held at the start (`Slot.entriesInto`).
-/

namespace HostView.Config

open Toml

variable {α β : Type}

/-- The field that puts what becomes of its item in a place of its own. -/
def Field.of (decode : Item → Decoded β) (set : α → β → α) : Field α :=
  fun a item => do return set a (← decode item)

/-- Whether a field takes an item does not depend on what was decoded before. -/
def Field.Steady (field : Field α) : Prop :=
  ∀ a a' item, (∃ b, field a item = .ok b) → ∃ b, field a' item = .ok b

/-- A field leaves a place alone. -/
def Field.Spares (field : Field α) (get : α → β) : Prop :=
  ∀ a item b, field a item = .ok b → get b = get a

theorem Field.of_eq_ok {decode : Item → Decoded β} {set : α → β → α} {a b : α} {item : Item} :
    Field.of decode set a item = .ok b ↔ ∃ x, decode item = .ok x ∧ set a x = b := by
  rw [Field.of]
  cases decode item with
  | error m => exact ⟨nofun, fun ⟨x, refused, _⟩ => nomatch refused⟩
  | ok x =>
    constructor
    · intro decoded
      exact ⟨x, rfl, Except.ok.inj decoded⟩
    · rintro ⟨_, ⟨⟩, rfl⟩
      rfl

theorem Field.of_takes {decode : Item → Decoded β} {set : α → β → α} {a : α} {item : Item} :
    (∃ b, Field.of decode set a item = .ok b) ↔ ∃ x, decode item = .ok x := by
  simp only [Field.of_eq_ok]
  exact ⟨fun ⟨_, x, decoded, _⟩ => ⟨x, decoded⟩, fun ⟨x, decoded⟩ => ⟨_, x, decoded, rfl⟩⟩

theorem Field.steady_of (decode : Item → Decoded β) (set : α → β → α) :
    (Field.of decode set).Steady := by
  intro a a' item taken
  rwa [Field.of_takes] at taken ⊢

theorem Field.spares_of {γ : Type} {decode : Item → Decoded β} {set : α → β → α} {get : α → γ}
    (same : ∀ a x, get (set a x) = get a) : (Field.of decode set).Spares get := by
  intro a item b taken
  obtain ⟨x, -, rfl⟩ := Field.of_eq_ok.1 taken
  exact same a x

/-! ### Finding a field -/

variable {fields : List (String × Field α)}

theorem mem_of_lookup {name : String} {field : Field α} (known : fields.lookup name = some field) :
    (name, field) ∈ fields := by
  obtain ⟨before, after, rfl, -⟩ := List.lookup_eq_some_iff.1 known
  simp

theorem lookup_of_mem {p : String × Field α} (distinct : (fields.map Prod.fst).Nodup)
    (mem : p ∈ fields) : fields.lookup p.1 = some p.2 := by
  obtain ⟨before, after, rfl⟩ := List.append_of_mem mem
  refine List.lookup_eq_some_iff.2 ⟨before, after, rfl, fun q earlier => ?_⟩
  rw [List.map_append, List.map_cons, List.nodup_append] at distinct
  obtain ⟨-, -, apart⟩ := distinct
  rw [bne_iff_ne]
  exact (apart q.1 (List.mem_map_of_mem earlier) p.1 List.mem_cons_self).symm

/-! ### Decoding entry by entry -/

theorem entriesInto_nil (a : α) : entriesInto fields a [] = .ok a := rfl

theorem entriesInto_cons_of_unknown {e : Entry} (unknown : fields.lookup e.key.name = none)
    (a : α) (entries : List Entry) :
    entriesInto fields a (e :: entries) = entriesInto fields a entries := by
  rw [entriesInto, List.foldlM_cons, unknown]
  rfl

theorem entriesInto_cons_of_known {e : Entry} {field : Field α}
    (known : fields.lookup e.key.name = some field) {a s : α} {entries : List Entry} :
    entriesInto fields a (e :: entries) = .ok s ↔
      ∃ b, field a e.item = .ok b ∧ entriesInto fields b entries = .ok s := by
  rw [entriesInto, List.foldlM_cons, known]
  dsimp only
  cases taken : field a e.item with
  | error m => exact ⟨nofun, fun ⟨b, refused, _⟩ => nomatch refused⟩
  | ok b =>
    constructor
    · exact fun decoded => ⟨b, rfl, decoded⟩
    · rintro ⟨_, ⟨⟩, decoded⟩
      exact decoded

/-- A table is decoded if and only if every item under a known key is. -/
theorem entriesInto_ok_iff_forall_mem (steady : ∀ p ∈ fields, p.2.Steady) (start a : α)
    {entries : List Entry} :
    (∃ s, entriesInto fields a entries = .ok s) ↔
      ∀ e ∈ entries, ∀ field, fields.lookup e.key.name = some field →
        ∃ b, field start e.item = .ok b := by
  induction entries generalizing a with
  | nil => exact iff_of_true ⟨a, entriesInto_nil a⟩ nofun
  | cons e entries ih =>
    rw [List.forall_mem_cons]
    cases known : fields.lookup e.key.name with
    | none =>
      rw [entriesInto_cons_of_unknown known, ih a]
      exact ⟨fun rest => ⟨nofun, rest⟩, And.right⟩
    | some field =>
      have taken := steady _ (mem_of_lookup known)
      simp only [entriesInto_cons_of_known known, Option.some.injEq, forall_eq']
      constructor
      · rintro ⟨s, b, first, rest⟩
        exact ⟨taken a start e.item ⟨b, first⟩, (ih b).1 ⟨s, rest⟩⟩
      · rintro ⟨first, rest⟩
        obtain ⟨b, first⟩ := taken start a e.item first
        obtain ⟨s, rest⟩ := (ih b).2 rest
        exact ⟨s, b, first, rest⟩

/-- In a table without duplicate keys, each field has its own item to take, if there is one. -/
theorem entriesInto_ok_iff (known : (fields.map Prod.fst).Nodup)
    (steady : ∀ p ∈ fields, p.2.Steady) {entries : List Entry} (distinct : (names entries).Nodup)
    (start : α) :
    (∃ s, entriesInto fields start entries = .ok s) ↔
      ∀ p ∈ fields, ∀ item ∈ lookup p.1 entries, ∃ b, p.2 start item = .ok b := by
  rw [entriesInto_ok_iff_forall_mem steady start]
  constructor
  · intro taken p mem item found
    obtain ⟨e, inside, same, rfl⟩ := exists_mem_of_lookup found
    exact taken e inside p.2 (by rw [same, lookup_of_mem known mem])
  · intro taken e mem field found
    exact taken _ (mem_of_lookup found) e.item (Toml.lookup_of_mem distinct mem)

/-! ### The place of a field -/

/-- The place that the field of a key sets, and what it makes of a value. -/
structure Slot (fields : List (String × Field α)) (name : String) (get : α → β)
    (means : Value → β → Prop) : Prop where
  own : ∃ field, fields.lookup name = some field ∧
    ∀ a item b, field a item = .ok b → means item.value (get b)
  others : ∀ p ∈ fields, p.1 = name ∨ p.2.Spares get

theorem Slot.of {γ : Type} {name : String} {get : α → β} {decode : Item → Decoded γ}
    {set : α → γ → α} {means : Value → β → Prop}
    (known : fields.lookup name = some (Field.of decode set))
    (own : ∀ a item x, decode item = .ok x → means item.value (get (set a x)))
    (others : ∀ p ∈ fields, p.1 = name ∨ p.2.Spares get) : Slot fields name get means := by
  refine ⟨⟨_, known, fun a item b taken => ?_⟩, others⟩
  obtain ⟨x, decoded, rfl⟩ := Field.of_eq_ok.1 taken
  exact own a item x decoded

/-- What a place holds in the end: what the value under its key means, or what it held at the start
if the key is missing. -/
theorem Slot.entriesInto {name : String} {get : α → β} {means : Value → β → Prop}
    (slot : Slot fields name get means) {a s : α} {entries : List Entry}
    (distinct : (names entries).Nodup) (decoded : entriesInto fields a entries = .ok s) :
    ((lookup name entries).map Item.value).elim (get s = get a) (means · (get s)) := by
  induction entries generalizing a with
  | nil =>
    obtain rfl := Except.ok.inj decoded
    exact rfl
  | cons e entries ih =>
    obtain ⟨fresh, distinct⟩ := List.nodup_cons.1 distinct
    by_cases own : e.key.name = name
    · obtain ⟨field, known, sets⟩ := slot.own
      rw [← own] at known
      obtain ⟨b, taken, rest⟩ := (entriesInto_cons_of_known known).1 decoded
      have kept := ih distinct rest
      rw [lookup_eq_none_iff.2 (own ▸ fresh)] at kept
      rw [lookup_cons_of_eq own]
      change means e.item.value (get s)
      rw [show get s = get b from kept]
      exact sets a e.item b taken
    · rw [lookup_cons_of_ne own]
      cases known : fields.lookup e.key.name with
      | none =>
        rw [entriesInto_cons_of_unknown known] at decoded
        exact ih distinct decoded
      | some field =>
        obtain ⟨b, taken, rest⟩ := (entriesInto_cons_of_known known).1 decoded
        obtain same | spares := slot.others _ (mem_of_lookup known)
        · exact absurd same own
        · rw [← spares a e.item b taken]
          exact ih distinct rest

end HostView.Config
