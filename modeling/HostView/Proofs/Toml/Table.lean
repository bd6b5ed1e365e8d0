import HostView.Toml.Scalar
import HostView.Toml.Table

/-!
# Tables without duplicate keys

In a sound value no table has a key twice and every whole number fits in 64 bits, at any depth
(`Value.Sound`).  Every way in which a table is built keeps its entries so (`Tidy`).
-/

namespace HostView.Toml

/-- The keys of a table, in order. -/
def names (entries : List Entry) : List String := entries.map fun e => e.key.name

/-- A value in which no table has a key twice and every whole number fits. -/
inductive Value.Sound : Value → Prop
  | string (text : String) : Sound (.string text)
  | integer {n : Int} (fits : fits n = true) : Sound (.integer n)
  | float (x : Float) : Sound (.float x)
  | boolean (b : Bool) : Sound (.boolean b)
  | datetime : Sound .datetime
  | array {items : List Item} (each : ∀ item ∈ items, Sound item.value) : Sound (.array items)
  | tables {items : List Item} (each : ∀ item ∈ items, Sound item.value) : Sound (.tables items)
  | table {origin : Origin} {entries : List Entry} (distinct : (names entries).Nodup)
      (each : ∀ e ∈ entries, Sound e.item.value) : Sound (.table origin entries)

/-- The entries of a table without duplicate keys whose values are sound. -/
structure Tidy (entries : List Entry) : Prop where
  distinct : (names entries).Nodup
  items : ∀ e ∈ entries, e.item.value.Sound

theorem Value.sound_table_iff {origin : Origin} {entries : List Entry} :
    (Value.table origin entries).Sound ↔ Tidy entries := by
  constructor
  · rintro (_ | _ | _ | _ | _ | _ | _ | ⟨distinct, each⟩)
    exact ⟨distinct, each⟩
  · exact fun tidy => .table tidy.distinct tidy.items

theorem Value.sound_tables_iff {items : List Item} :
    (Value.tables items).Sound ↔ ∀ item ∈ items, item.value.Sound := by
  constructor
  · rintro (_ | _ | _ | _ | _ | _ | each)
    exact each
  · exact .tables

/-! ### Looking up -/

section Lookup

variable {name : String} {key : Key} {item : Item} {e : Entry} {entries : List Entry}

theorem lookup_cons_of_eq (same : e.key.name = name) :
    lookup name (e :: entries) = some e.item := by
  simp [lookup, same]

theorem lookup_cons_of_ne (other : e.key.name ≠ name) :
    lookup name (e :: entries) = lookup name entries := by
  simp [lookup, other]

theorem lookup_eq_none_iff : lookup name entries = none ↔ name ∉ names entries := by
  simp [lookup, names]

theorem exists_mem_of_lookup (found : lookup name entries = some item) :
    ∃ e ∈ entries, e.key.name = name ∧ e.item = item := by
  obtain ⟨e, first, rfl⟩ := Option.map_eq_some_iff.1 found
  exact ⟨e, List.mem_of_find?_eq_some first, by simpa using List.find?_some first, rfl⟩

theorem lookup_of_mem (distinct : (names entries).Nodup) (mem : e ∈ entries) :
    lookup e.key.name entries = some e.item := by
  induction entries with
  | nil => cases mem
  | cons first rest ih =>
    obtain ⟨fresh, distinct⟩ := List.nodup_cons.1 distinct
    obtain rfl | later := List.mem_cons.1 mem
    · exact lookup_cons_of_eq rfl
    · have other : first.key.name ≠ e.key.name := fun same =>
        fresh (List.mem_map.2 ⟨e, later, same.symm⟩)
      rw [lookup_cons_of_ne other, ih distinct later]

end Lookup

/-! ### Changing a table -/

namespace Tidy

variable {name : String} {key : Key} {item : Item} {entries : List Entry}

theorem nil : Tidy [] := ⟨List.nodup_nil, nofun⟩

theorem of_lookup (tidy : Tidy entries) (found : lookup name entries = some item) :
    item.value.Sound := by
  obtain ⟨e, mem, -, rfl⟩ := exists_mem_of_lookup found
  exact tidy.items e mem

theorem append (tidy : Tidy entries) (fresh : lookup key.name entries = none)
    (sound : item.value.Sound) : Tidy (entries ++ [.mk key item]) := by
  refine ⟨?_, List.forall_mem_append.2 ⟨tidy.items, List.forall_mem_singleton.2 sound⟩⟩
  rw [names, List.map_append]
  refine List.nodup_append.2 ⟨tidy.distinct, by simp, fun a mem b new same => ?_⟩
  rw [same, List.mem_singleton.1 new] at mem
  exact lookup_eq_none_iff.1 fresh mem

theorem replace (tidy : Tidy entries) (sound : item.value.Sound) :
    Tidy (replace name item entries) := by
  constructor
  · have same : names (Toml.replace name item entries) = names entries := by
      rw [names, Toml.replace, List.map_map]
      refine List.map_congr_left fun e _ => ?_
      simp only [Function.comp_apply]
      split <;> rfl
    rw [same]
    exact tidy.distinct
  · intro e mem
    obtain ⟨old, before, rfl⟩ := List.mem_map.1 mem
    split
    · exact sound
    · exact tidy.items old before

theorem erase (tidy : Tidy entries) : Tidy (erase name entries) :=
  ⟨tidy.distinct.sublist (List.filter_sublist.map _),
    fun e mem => tidy.items e (List.mem_filter.1 mem).1⟩

theorem lookup_erase : lookup name (Toml.erase name entries) = none := by
  rw [lookup_eq_none_iff]
  simp [names, Toml.erase]

end Tidy

/-! ### Building -/

/-- A change that keeps tables tidy. -/
def Change.KeepsTidy (change : Change) : Prop :=
  ∀ origin entries entries', Tidy entries → change origin entries = some entries' → Tidy entries'

theorem changeLast_sound {change : List Entry → Option (List Entry)} {items items' : List Item}
    (keeps : ∀ entries entries', Tidy entries → change entries = some entries' → Tidy entries')
    (sound : ∀ item ∈ items, item.value.Sound) (changed : changeLast change items = some items') :
    ∀ item ∈ items', item.value.Sound := by
  fun_induction changeLast change items generalizing items' with
  | case1 => cases changed
  | case2 span origin entries =>
    obtain ⟨inner, made, rfl⟩ := Option.map_eq_some_iff.1 changed
    have before := Value.sound_table_iff.1 (sound _ (List.mem_singleton_self _))
    exact List.forall_mem_singleton.2 (Value.sound_table_iff.2 (keeps _ _ before made))
  | case3 => cases changed
  | case4 item items _ _ ih =>
    obtain ⟨inner, made, rfl⟩ := Option.map_eq_some_iff.1 changed
    obtain ⟨first, rest⟩ := List.forall_mem_cons.1 sound
    exact List.forall_mem_cons.2 ⟨first, ih rest made⟩

theorem changeAt_keepsTidy (way : Way) {change : Change} (keeps : change.KeepsTidy)
    (path : List Key) : Change.KeepsTidy (changeAt way change path) := by
  induction path with
  | nil => exact keeps
  | cons key path ih =>
    intro origin entries entries' tidy changed
    unfold changeAt at changed
    split at changed
    next fresh =>
      obtain ⟨inner, made, rfl⟩ := Option.map_eq_some_iff.1 changed
      exact tidy.append fresh (Value.sound_table_iff.2 (ih _ _ _ .nil made))
    next span origin' inner found =>
      split at changed
      · obtain ⟨inner', made, rfl⟩ := Option.map_eq_some_iff.1 changed
        have before := Value.sound_table_iff.1 (tidy.of_lookup found)
        exact tidy.replace (Value.sound_table_iff.2 (ih _ _ _ before made))
      · cases changed
    next span items found =>
      obtain ⟨items', made, rfl⟩ := Option.map_eq_some_iff.1 changed
      have before := Value.sound_tables_iff.1 (tidy.of_lookup found)
      exact tidy.replace (Value.sound_tables_iff.2 (changeLast_sound (ih _) before made))
    next => cases changed

theorem addPair_tidy {p : Pair} {entries entries' : List Entry} (tidy : Tidy entries)
    (sound : p.item.value.Sound) (added : addPair p entries = some entries') : Tidy entries' := by
  refine changeAt_keepsTidy .dotted (fun origin inner inner' before made => ?_) p.path _ _ _ tidy
    added
  split at made
  · cases made
  · next fresh =>
    split at made
    · obtain rfl := Option.some.inj made
      exact before.append (by simpa using fresh) sound
    · cases made

/-- Building step by step keeps a table tidy if every step does. -/
theorem foldlM_tidy {α : Type} {P : α → Prop} {add : List Entry → α → Option (List Entry)}
    (keeps : ∀ entries a entries', Tidy entries → P a → add entries a = some entries' →
      Tidy entries') {l : List α} {entries entries' : List Entry} (tidy : Tidy entries)
    (holds : ∀ a ∈ l, P a) (added : l.foldlM add entries = some entries') : Tidy entries' := by
  induction l generalizing entries with
  | nil =>
    obtain rfl := Option.some.inj added
    exact tidy
  | cons a l ih =>
    rw [List.foldlM_cons] at added
    obtain ⟨between, made, added⟩ := Option.bind_eq_some_iff.1 added
    obtain ⟨first, rest⟩ := List.forall_mem_cons.1 holds
    exact ih (keeps _ _ _ tidy first made) rest added

theorem addPairs_tidy {entries entries' : List Entry} {pairs : List Pair} (tidy : Tidy entries)
    (sound : ∀ p ∈ pairs, p.item.value.Sound) (added : addPairs entries pairs = some entries') :
    Tidy entries' :=
  foldlM_tidy (fun _ _ _ tidy sound made => addPair_tidy tidy sound made) tidy sound added

theorem Section.add_keepsTidy {s : Section} (sound : ∀ p ∈ s.pairs, p.item.value.Sound) :
    Change.KeepsTidy s.add := by
  intro origin entries entries' tidy added
  -- the table under the header, from the entries that it has already
  have table {start : List Entry} {item : Item} (before : Tidy start)
      (made : (addPairs start s.pairs).map
        (fun inner => Item.mk (some s.extent) (.table .header inner)) = some item) :
      item.value.Sound := by
    obtain ⟨inner, added, rfl⟩ := Option.map_eq_some_iff.1 made
    exact Value.sound_table_iff.2 (addPairs_tidy before sound added)
  unfold Section.add at added
  dsimp only at added
  split at added
  · split at added
    next fresh =>
      obtain ⟨item, made, last⟩ := Option.bind_eq_some_iff.1 added
      obtain rfl := Option.some.inj last
      exact tidy.append fresh
        (Value.sound_tables_iff.2 (List.forall_mem_singleton.2 (table .nil made)))
    next span items found =>
      obtain ⟨item, made, last⟩ := Option.bind_eq_some_iff.1 added
      obtain rfl := Option.some.inj last
      have before := Value.sound_tables_iff.1 (tidy.of_lookup found)
      exact tidy.replace (Value.sound_tables_iff.2
        (List.forall_mem_append.2 ⟨before, List.forall_mem_singleton.2 (table .nil made)⟩))
    next => cases added
  · split at added
    next fresh =>
      obtain ⟨item, made, last⟩ := Option.bind_eq_some_iff.1 added
      obtain rfl := Option.some.inj last
      exact tidy.append fresh (table .nil made)
    next span inner found =>
      obtain ⟨item, made, last⟩ := Option.bind_eq_some_iff.1 added
      obtain rfl := Option.some.inj last
      exact tidy.erase.append Tidy.lookup_erase
        (table (Value.sound_table_iff.1 (tidy.of_lookup found)) made)
    next => cases added

theorem addSection_tidy {s : Section} {entries entries' : List Entry} (tidy : Tidy entries)
    (sound : ∀ p ∈ s.pairs, p.item.value.Sound) (added : addSection entries s = some entries') :
    Tidy entries' :=
  changeAt_keepsTidy .header (Section.add_keepsTidy sound) s.path _ _ _ tidy added

end HostView.Toml
