import Mathlib
import HostView.Config.Load
import HostView.Proofs.Config.Places
import HostView.Proofs.Toml.Document

/-!
# Keys are decoded independently

Each setting comes from the value under its own key, or is the default where the key is missing
(`Follows`), and a document has settings if and only if each of its known keys has a value that is
accepted (`Accepted`) and no side of the window is zero.  So nothing else in a document matters:
not the order of the keys, nor how a table is written, nor keys that are not known
(`Config.keys_decoded_independently`).
-/

namespace HostView

/-- Whether a value is a table, however it is written. -/
def Toml.Value.isTable : Value → Bool
  | .table _ _ => true
  | _ => false

/-- A string, a number or a flag; other values are none of these. -/
def Toml.Value.scalar? : Value → Option Value
  | .string text => some (.string text)
  | .integer n => some (.integer n)
  | .float x => some (.float x)
  | .boolean b => some (.boolean b)
  | _ => none

namespace Config

open Toml

/-! ### What a document says -/

/-- The entries of a section; a section that is missing has none. -/
def sectionAt (name : String) (entries : List Entry) : List Entry :=
  match (lookup name entries).map Item.value with
  | some (.table _ inner) => inner
  | _ => []

/-- What stands under a key of the document, or of one of its sections. -/
def found (inside : Option String) (name : String) (entries : List Entry) : Option Value :=
  (lookup name (inside.elim entries fun s => sectionAt s entries)).map Item.value

/-- A key that is known: the section that it stands in, if any, and what it expects. -/
structure KnownKey where
  inside : Option String
  name : String
  expected : Expected
deriving DecidableEq

def knownKeys : List KnownKey :=
  [⟨none, "title", .string⟩, ⟨none, "width", .unsigned32⟩, ⟨none, "height", .unsigned32⟩,
    ⟨none, "pixel_ratio", .float⟩, ⟨some "log", "filter", .string⟩,
    ⟨some "log", "timestamps", .boolean⟩, ⟨some "render", "frame_interval_ms", .unsigned64⟩]

/-- What stands under a known key. -/
def KnownKey.found (k : KnownKey) (entries : List Entry) : Option Value :=
  Config.found k.inside k.name entries

/-- The sections of a document are tables, if they are there. -/
def Sectioned (entries : List Entry) : Prop :=
  ∀ name ∈ ["log", "render"], ∀ v ∈ found none name entries, v.isTable = true

/-- Every known key that is there has a value that it accepts. -/
def Accepted (entries : List Entry) : Prop :=
  ∀ k ∈ knownKeys, ∀ v ∈ k.found entries, k.expected.accepts v = true

instance (entries : List Entry) : Decidable (Sectioned entries) :=
  inferInstanceAs (Decidable (∀ _ ∈ _, ∀ _ ∈ _, _ = true))

instance (entries : List Entry) : Decidable (Accepted entries) :=
  inferInstanceAs (Decidable (∀ _ ∈ _, ∀ _ ∈ _, _ = true))

/-- A side of the window: the number under its key, or the default. -/
def side (name : String) (default : Int) (entries : List Entry) : Int :=
  match found none name entries with
  | some (.integer n) => n
  | _ => default

/-- Each setting is the value under its key, or the default where the key is missing. -/
structure Follows (entries : List Entry) (s : Settings) : Prop where
  title : (found none "title" entries).elim (s.title = "embedview") (· = .string s.title)
  width : (found none "width" entries).elim (s.size.width = 1280)
    (· = .integer s.size.width.toNat)
  height : (found none "height" entries).elim (s.size.height = 720)
    (· = .integer s.size.height.toNat)
  scale : (found none "pixel_ratio" entries).elim (s.scale = none) fun v =>
    ∃ x, s.scale = some x ∧ (v = .float x ∨ ∃ n, v = .integer n ∧ x = Float.ofInt n)
  filter : (found (some "log") "filter" entries).elim (s.log.filter = "info")
    (· = .string s.log.filter)
  timestamps : (found (some "log") "timestamps" entries).elim (s.log.timestamps = true)
    (· = .boolean s.log.timestamps)
  frameInterval : (found (some "render") "frame_interval_ms" entries).elim
    (s.render.frameInterval = 16) (· = .integer s.render.frameInterval.toNat)

/-! ### Sections -/

variable {entries entries' : List Entry} {s s' : Settings}

theorem tidy_sectionAt (tidy : Tidy entries) (name : String) : Tidy (sectionAt name entries) := by
  unfold sectionAt
  split
  next origin inner table =>
    obtain ⟨item, found, value⟩ := Option.map_eq_some_iff.1 table
    exact Value.sound_table_iff.1 (value ▸ tidy.of_lookup found)
  next => exact .nil

section OneSection

variable {α : Type} {fields : List (String × Field α)} {start : α} {name : String}
  (tables : ∀ v ∈ found none name entries, v.isTable = true)
include tables

/-- A section that is missing, or else is a table. -/
theorem missing_or_table : (lookup name entries = none ∧ sectionAt name entries = []) ∨
    ∃ item origin, lookup name entries = some item ∧
      item.value = .table origin (sectionAt name entries) := by
  unfold sectionAt
  cases there : lookup name entries with
  | none => exact .inl ⟨rfl, rfl⟩
  | some item =>
    have table := tables item.value (by simp [found, there])
    refine .inr ⟨item, ?_⟩
    cases value : item.value with
    | table origin inner => exact ⟨origin, rfl, by simp [value]⟩
    | _ => simp [value, Value.isTable] at table

/-- A section is decoded like the entries that it has, also where it is missing. -/
theorem sectionInto_takes {expected : Expected} :
    (∀ item ∈ lookup name entries, ∃ x, sectionInto fields expected start item = .ok x) ↔
      ∃ x, entriesInto fields start (sectionAt name entries) = .ok x := by
  obtain ⟨missing, none⟩ | ⟨item, origin, there, table⟩ := missing_or_table tables
  · rw [missing, none]
    exact iff_of_true nofun ⟨start, entriesInto_nil start⟩
  · rw [there]
    simp only [Option.mem_some_iff, forall_eq', sectionInto_table table]

theorem sectionInto_decoded {x : α}
    (decoded : ((lookup name entries).map Item.value).elim (x = start) fun v =>
      ∀ origin inner, v = .table origin inner → entriesInto fields start inner = .ok x) :
    entriesInto fields start (sectionAt name entries) = .ok x := by
  obtain ⟨missing, none⟩ | ⟨item, origin, there, table⟩ := missing_or_table tables
  · rw [missing] at decoded
    rw [none, entriesInto_nil, show x = start from decoded]
  · rw [there] at decoded
    exact decoded origin _ table

end OneSection

/-! ### Documents -/

theorem follows_of_decode (tidy : Tidy entries) (sections : Sectioned entries)
    (decoded : decode entries = .ok s) : Follows entries s := by
  have log := sectionInto_decoded (sections "log" (by simp))
    (slot_log.entriesInto tidy.distinct decoded)
  have render := sectionInto_decoded (sections "render" (by simp))
    (slot_render.entriesInto tidy.distinct decoded)
  have inLog := (tidy_sectionAt tidy "log").distinct
  exact {
    title := slot_title.entriesInto tidy.distinct decoded
    width := slot_width.entriesInto tidy.distinct decoded
    height := slot_height.entriesInto tidy.distinct decoded
    scale := slot_scale.entriesInto tidy.distinct decoded
    filter := slot_filter.entriesInto inLog log
    timestamps := slot_timestamps.entriesInto inLog log
    frameInterval := slot_frameInterval.entriesInto (tidy_sectionAt tidy "render").distinct render }

/-- A key with a decoder that takes what is expected. -/
theorem key_takes {β : Type} {decode : Item → Decoded β} {expected : Expected} {name : String}
    (tidy : Tidy entries) (takes : ∀ item : Item, item.value.Sound →
      ((∃ x, decode item = .ok x) ↔ expected.accepts item.value = true)) :
    (∀ item ∈ lookup name entries, ∃ x, decode item = .ok x) ↔
      ∀ v ∈ (lookup name entries).map Item.value, expected.accepts v = true := by
  cases there : lookup name entries with
  | none => exact iff_of_true nofun nofun
  | some item =>
    simpa only [Option.mem_some_iff, forall_eq', Option.map_some] using
      takes item (tidy.of_lookup there)

theorem logSection_takes (tidy : Tidy entries) (sections : Sectioned entries) :
    (∀ item ∈ lookup "log" entries, ∃ x, sectionInto logFields .logSection {} item = .ok x) ↔
      (∀ v ∈ found (some "log") "filter" entries, Expected.string.accepts v = true) ∧
        ∀ v ∈ found (some "log") "timestamps" entries, Expected.boolean.accepts v = true := by
  have inside := tidy_sectionAt tidy "log"
  rw [sectionInto_takes (sections "log" (by simp)),
    entriesInto_ok_iff (by decide) steady_logFields inside.distinct]
  simp only [logFields_eq, List.forall_mem_cons, Field.of_takes, List.not_mem_nil,
    false_implies, implies_true, and_true]
  exact and_congr (key_takes inside fun _ _ => string_takes)
    (key_takes inside fun _ _ => boolean_takes)

theorem renderSection_takes (tidy : Tidy entries) (sections : Sectioned entries) :
    (∀ item ∈ lookup "render" entries,
        ∃ x, sectionInto renderFields .renderSection {} item = .ok x) ↔
      ∀ v ∈ found (some "render") "frame_interval_ms" entries,
        Expected.unsigned64.accepts v = true := by
  have inside := tidy_sectionAt tidy "render"
  rw [sectionInto_takes (sections "render" (by simp)),
    entriesInto_ok_iff (by decide) steady_renderFields inside.distinct]
  simp only [renderFields_eq, List.forall_mem_cons, Field.of_takes, List.not_mem_nil,
    false_implies, implies_true, and_true]
  exact key_takes inside fun _ => unsigned64_takes

theorem decode_ok_iff (tidy : Tidy entries) (sections : Sectioned entries) :
    (∃ s, decode entries = .ok s) ↔ Accepted entries := by
  rw [decode, entriesInto_ok_iff (by decide) steady_fields tidy.distinct]
  simp only [fields_eq, Accepted, knownKeys, List.forall_mem_cons, Field.of_takes,
    List.not_mem_nil, false_implies, implies_true, and_true, logSection_takes tidy sections,
    renderSection_takes tidy sections, and_assoc]
  exact and_congr (key_takes tidy fun _ _ => string_takes) <|
    and_congr (key_takes tidy fun _ _ => unsigned32_takes) <|
    and_congr (key_takes tidy fun _ _ => unsigned32_takes) <|
    and_congr (key_takes tidy fun _ _ => float_takes) Iff.rfl

/-- A setting is told by what stands under its key. -/
theorem eq_of_elim {β : Type} {o : Option Value} {value : β → Value} {default x y : β}
    (injective : Function.Injective value) (hx : o.elim (x = default) (· = value x))
    (hy : o.elim (y = default) (· = value y)) : x = y := by
  cases o with
  | none => exact Eq.trans hx (Eq.symm hy)
  | some v => exact injective (Eq.trans (Eq.symm hx) hy)

theorem Follows.scale_unique (follows : Follows entries s) (follows' : Follows entries s') :
    s.scale = s'.scale := by
  have here := follows.scale
  have there := follows'.scale
  generalize found none "pixel_ratio" entries = o at here there
  cases o with
  | none => exact Eq.trans here (Eq.symm there)
  | some v =>
    obtain ⟨x, scale, number⟩ := here
    obtain ⟨x', scale', number'⟩ := there
    rw [scale, scale']
    obtain rfl | ⟨n, rfl, rfl⟩ := number
    · obtain ⟨⟨⟩⟩ | ⟨n, ⟨⟩, -⟩ := number'
      rfl
    · obtain ⟨⟨⟩⟩ | ⟨_, ⟨⟩, rfl⟩ := number'
      rfl

theorem Follows.unique (follows : Follows entries s) (follows' : Follows entries s') : s = s' := by
  have words (w w' : UInt32) (same : Value.integer w.toNat = Value.integer w'.toNat) : w = w' := by
    rw [Value.integer.injEq, Int.natCast_inj] at same
    exact UInt32.toNat_inj.1 same
  have counts (w w' : UInt64) (same : Value.integer w.toNat = Value.integer w'.toNat) : w = w' := by
    rw [Value.integer.injEq, Int.natCast_inj] at same
    exact UInt64.toNat_inj.1 same
  have title := eq_of_elim (fun _ _ => Value.string.inj) follows.title follows'.title
  have width := eq_of_elim words follows.width follows'.width
  have height := eq_of_elim words follows.height follows'.height
  have scale := follows.scale_unique follows'
  have filter := eq_of_elim (fun _ _ => Value.string.inj) follows.filter follows'.filter
  have timestamps :=
    eq_of_elim (fun _ _ => Value.boolean.inj) follows.timestamps follows'.timestamps
  have interval := eq_of_elim counts follows.frameInterval follows'.frameInterval
  obtain ⟨_, ⟨_, _⟩, _, ⟨_, _⟩, ⟨_⟩⟩ := s
  obtain ⟨_, ⟨_, _⟩, _, ⟨_, _⟩, ⟨_⟩⟩ := s'
  simp_all

theorem decode_eq_ok_iff (tidy : Tidy entries) (sections : Sectioned entries) :
    decode entries = .ok s ↔ Accepted entries ∧ Follows entries s := by
  constructor
  · intro decoded
    exact ⟨(decode_ok_iff tidy sections).1 ⟨s, decoded⟩, follows_of_decode tidy sections decoded⟩
  · rintro ⟨accepted, follows⟩
    obtain ⟨s', decoded⟩ := (decode_ok_iff tidy sections).2 accepted
    rw [follows.unique (follows_of_decode tidy sections decoded), decoded]

theorem read_eq_ok_iff {text : String} (document : parse? text = some entries)
    (sections : Sectioned entries) :
    read text = .ok s ↔ Accepted entries ∧ Follows entries s ∧ s.size.isEmpty = false := by
  rw [← and_assoc, ← decode_eq_ok_iff (parse?_tidy document) sections]
  unfold read ofText
  rw [document]
  dsimp only
  cases decode entries with
  | error m => exact iff_of_false nofun fun ⟨refused, _⟩ => nomatch refused
  | ok s' =>
    dsimp only
    cases empty : s'.size.isEmpty with
    | true =>
      refine iff_of_false nofun ?_
      rintro ⟨⟨⟩, full⟩
      rw [empty] at full
      cases full
    | false =>
      constructor
      · rintro ⟨⟩
        exact ⟨rfl, empty⟩
      · rintro ⟨⟨⟩, -⟩
        rfl

theorem side_eq {name : String} {w default : UInt32}
    (follows : (found none name entries).elim (w = default) (· = .integer w.toNat)) :
    side name default.toNat entries = w.toNat := by
  unfold side
  generalize found none name entries = o at follows
  cases o with
  | none =>
    obtain rfl : w = default := follows
    rfl
  | some v =>
    obtain rfl : v = .integer w.toNat := follows
    rfl

theorem Follows.full_iff (follows : Follows entries s) :
    s.size.isEmpty = false ↔ side "width" 1280 entries ≠ 0 ∧ side "height" 720 entries ≠ 0 := by
  have nonzero (w : UInt32) : w ≠ 0 ↔ (w.toNat : Int) ≠ 0 := by
    rw [Ne, Ne, Int.natCast_eq_zero, ← UInt32.toNat_inj, UInt32.toNat_zero]
  have width : side "width" 1280 entries = s.size.width.toNat := side_eq follows.width
  have height : side "height" 720 entries = s.size.height.toNat := side_eq follows.height
  rw [Size.isEmpty_eq_false_iff, width, height, nonzero, nonzero]

/-! ### Documents that agree -/

/-- Under some known keys two documents have the same strings, numbers and flags, and lack the same
keys. -/
def AgreeOn (keys : List KnownKey) (entries entries' : List Entry) : Prop :=
  ∀ k ∈ keys, (k.found entries).map Value.scalar? = (k.found entries').map Value.scalar?

theorem eq_of_scalar? {v w : Value} (same : v.scalar? = some w) : v = w := by
  cases v <;> simp_all [Value.scalar?]

theorem scalar?_of_accepts {expected : Expected} {v : Value} (accepts : expected.accepts v = true) :
    v.scalar? = some v := by
  cases v with
  | datetime | array | tables | table => cases expected <;> cases accepts
  | _ => rfl

/-- A condition that only strings, numbers and flags meet is met by both of two values that agree,
or by neither. -/
theorem elim_of_agree {o o' : Option Value} {default : Prop} {P : Value → Prop}
    (agree : o.map Value.scalar? = o'.map Value.scalar?) (scalars : ∀ v, P v → v.scalar? = some v)
    (holds : o.elim default P) : o'.elim default P := by
  cases o with
  | none =>
    cases o' with
    | none => exact holds
    | some v' => cases agree
  | some v =>
    cases o' with
    | none => cases agree
    | some v' =>
      have same : v.scalar? = v'.scalar? := Option.some.inj agree
      rw [scalars v holds] at same
      obtain rfl := eq_of_scalar? same.symm
      exact holds

theorem Follows.of_agree (agree : AgreeOn knownKeys entries entries')
    (follows : Follows entries s) : Follows entries' s := by
  exact {
    title := elim_of_agree (agree ⟨none, "title", .string⟩ (by decide))
      (by rintro v rfl; rfl) follows.title
    width := elim_of_agree (agree ⟨none, "width", .unsigned32⟩ (by decide))
      (by rintro v rfl; rfl) follows.width
    height := elim_of_agree (agree ⟨none, "height", .unsigned32⟩ (by decide))
      (by rintro v rfl; rfl) follows.height
    scale := elim_of_agree (agree ⟨none, "pixel_ratio", .float⟩ (by decide))
      (by rintro v ⟨x, -, rfl | ⟨n, rfl, -⟩⟩ <;> rfl) follows.scale
    filter := elim_of_agree (agree ⟨some "log", "filter", .string⟩ (by decide))
      (by rintro v rfl; rfl) follows.filter
    timestamps := elim_of_agree (agree ⟨some "log", "timestamps", .boolean⟩ (by decide))
      (by rintro v rfl; rfl) follows.timestamps
    frameInterval := elim_of_agree (agree ⟨some "render", "frame_interval_ms", .unsigned64⟩
      (by decide)) (by rintro v rfl; rfl) follows.frameInterval }

theorem Accepted.of_agree (agree : AgreeOn knownKeys entries entries')
    (accepted : Accepted entries) : Accepted entries' := by
  intro k known v there
  have here : (k.found entries).elim True (k.expected.accepts · = true) := by
    cases found : k.found entries with
    | none => trivial
    | some w => exact accepted k known w found
  have moved := elim_of_agree (agree k known) (fun v => scalar?_of_accepts) here
  rwa [Option.mem_def.1 there] at moved

theorem read_of_agree {text text' : String} (document : parse? text = some entries)
    (document' : parse? text' = some entries') (sections : Sectioned entries)
    (sections' : Sectioned entries') (agree : AgreeOn knownKeys entries entries')
    (read : read text = .ok s) : Config.read text' = .ok s := by
  obtain ⟨accepted, follows, full⟩ := (read_eq_ok_iff document sections).1 read
  exact (read_eq_ok_iff document' sections').2
    ⟨accepted.of_agree agree, follows.of_agree agree, full⟩

theorem AgreeOn.symm {keys : List KnownKey} (agree : AgreeOn keys entries entries') :
    AgreeOn keys entries' entries :=
  fun k known => (agree k known).symm

/-- A section that is empty has as many keys as one that is missing. -/
theorem AgreeOn.of_empty {name : String} {origin : Origin}
    (missing : found none name entries = none)
    (empty : found none name entries' = some (.table origin []))
    (agree : AgreeOn (knownKeys.filter fun k => k.inside ≠ some name) entries entries') :
    AgreeOn knownKeys entries entries' := by
  intro k known
  by_cases inside : k.inside = some name
  · have none : sectionAt name entries = [] := by
      unfold sectionAt
      rw [show (lookup name entries).map Item.value = Option.none from missing]
    have none' : sectionAt name entries' = [] := by
      unfold sectionAt
      rw [show (lookup name entries').map Item.value = some (.table origin []) from empty]
    simp [KnownKey.found, found, inside, none, none']
  · exact agree k (List.mem_filter.2 ⟨known, by simpa using inside⟩)

/-! ### The pause between frames -/

theorem pause_spec (r : RenderSettings) :
    1 ≤ r.pause ∧ (0 < r.frameInterval → r.pause = r.frameInterval) := by
  have larger : r.pause = if r.frameInterval ≤ 1 then 1 else r.frameInterval := rfl
  rw [larger]
  split
  next small =>
    refine ⟨UInt64.le_refl 1, fun positive => ?_⟩
    rw [UInt64.lt_iff_toNat_lt, UInt64.toNat_zero] at positive
    rw [UInt64.le_iff_toNat_le, UInt64.toNat_one] at small
    rw [← UInt64.toNat_inj, UInt64.toNat_one]
    omega
  next large => exact ⟨UInt64.le_of_lt (UInt64.not_le.1 large), fun _ => rfl⟩

/-- Of a document whose sections are tables, if they are there, each setting is read from its own
key.  There are settings if and only if every known key that is there has a value that it accepts,
and neither side of the window comes out as zero; each of them then is the value under its key, or
the default where the key is missing.  So two documents that have the same strings, numbers and
flags under the known keys have the same settings, or both have none, whatever else stands in them
and however they are written; and a section that is missing is like one that is empty.  The pause
between frames is never zero, and is the interval that was set if that is not zero. -/
theorem keys_decoded_independently {text : String} (document : parse? text = some entries)
    (sections : Sectioned entries) :
    ((∃ s, read text = .ok s) ↔
        Accepted entries ∧ side "width" 1280 entries ≠ 0 ∧ side "height" 720 entries ≠ 0) ∧
      (∀ s, read text = .ok s → Follows entries s) ∧
      (∀ text' entries', parse? text' = some entries' → Sectioned entries' →
        AgreeOn knownKeys entries entries' → ∀ s, read text = .ok s ↔ read text' = .ok s) ∧
      (∀ name text' entries' origin, parse? text' = some entries' → Sectioned entries' →
        found none name entries = none → found none name entries' = some (.table origin []) →
        AgreeOn (knownKeys.filter fun k => k.inside ≠ some name) entries entries' →
        ∀ s, read text = .ok s ↔ read text' = .ok s) ∧
      ∀ r : RenderSettings, 1 ≤ r.pause ∧ (0 < r.frameInterval → r.pause = r.frameInterval) := by
  have alike (text' : String) (entries' : List Entry) (document' : parse? text' = some entries')
      (sections' : Sectioned entries') (agree : AgreeOn knownKeys entries entries')
      (s : Settings) : read text = .ok s ↔ read text' = .ok s :=
    ⟨read_of_agree document document' sections sections' agree,
      read_of_agree document' document sections' sections agree.symm⟩
  refine ⟨?succeeds, fun s came => ?follows, alike, ?empty, pause_spec⟩
  case succeeds =>
    constructor
    · rintro ⟨s, came⟩
      obtain ⟨accepted, follows, full⟩ := (read_eq_ok_iff document sections).1 came
      exact ⟨accepted, follows.full_iff.1 full⟩
    · rintro ⟨accepted, full⟩
      have tidy := parse?_tidy document
      obtain ⟨s, decoded⟩ := (decode_ok_iff tidy sections).2 accepted
      have follows := follows_of_decode tidy sections decoded
      exact ⟨s, (read_eq_ok_iff document sections).2 ⟨accepted, follows, follows.full_iff.2 full⟩⟩
  case follows =>
    obtain ⟨-, follows, -⟩ := (read_eq_ok_iff document sections).1 came
    exact follows
  case empty =>
    intro name text' entries' origin document' sections' missing empty agree
    exact alike text' entries' document' sections' (AgreeOn.of_empty missing empty agree)

/-- A width in base sixteen, and a section with a header. -/
def headedText : String := "width = 0x280\n[log]\nfilter = \"warn\""

def headedEntries : List Entry :=
  [.mk ⟨"width", ⟨0, 5⟩⟩ (.mk (some ⟨8, 13⟩) (.integer 640)),
    .mk ⟨"log", ⟨15, 18⟩⟩ (.mk (some ⟨14, 35⟩) (.table .header
      [.mk ⟨"filter", ⟨20, 26⟩⟩ (.mk (some ⟨29, 35⟩) (.string "warn"))]))]

/-- The same settings in another order, with a dotted key, an empty section and an unknown key. -/
def dottedText : String := "log.filter = 'warn'\nrender = \x7b\x7d\nextra = [1]\nwidth = 640"

def dottedEntries : List Entry :=
  [.mk ⟨"log", ⟨0, 3⟩⟩ (.mk none (.table .dotted
      [.mk ⟨"filter", ⟨4, 10⟩⟩ (.mk (some ⟨13, 19⟩) (.string "warn"))])),
    .mk ⟨"render", ⟨20, 26⟩⟩ (.mk (some ⟨29, 31⟩) (.table .braces [])),
    .mk ⟨"extra", ⟨32, 37⟩⟩ (.mk (some ⟨40, 43⟩) (.array [.mk (some ⟨41, 42⟩) (.integer 1)])),
    .mk ⟨"width", ⟨44, 49⟩⟩ (.mk (some ⟨52, 55⟩) (.integer 640))]

/-- Both texts are read, with the same result. -/
theorem spellings_read_alike :
    ∃ s, read headedText = .ok s ∧ read dottedText = .ok s ∧ s.title = "embedview" ∧
      s.size.width.toNat = 640 ∧ s.size.height = 720 ∧ s.log.filter = "warn" := by
  have headed : parse? headedText = some headedEntries := by cbv
  have dotted : parse? dottedText = some dottedEntries := by cbv
  have agree :
      AgreeOn (knownKeys.filter fun k => k.inside ≠ some "render") headedEntries dottedEntries := by
    intro k mem
    obtain ⟨known, -⟩ := List.mem_filter.1 mem
    simp only [knownKeys, List.mem_cons, List.not_mem_nil, or_false] at known
    rcases known with rfl | rfl | rfl | rfl | rfl | rfl | rfl <;> rfl
  obtain ⟨succeeds, follows, -, empty, -⟩ :=
    keys_decoded_independently headed (by decide : Sectioned headedEntries)
  obtain ⟨s, came⟩ := succeeds.2 ⟨by decide, by decide, by decide⟩
  have settings := follows s came
  have width : Value.integer 640 = .integer s.size.width.toNat := settings.width
  have filter : Value.string "warn" = .string s.log.filter := settings.filter
  have also := (empty "render" _ _ .braces dotted (by decide) rfl rfl agree s).1 came
  exact ⟨s, came, also, settings.title, (Int.ofNat.inj (Value.integer.inj width)).symm,
    settings.height, (Value.string.inj filter).symm⟩

end Config

end HostView
