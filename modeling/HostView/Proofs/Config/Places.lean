import HostView.Proofs.Config.Fields
import HostView.Toml.Scalar

/-!
# The place that each key sets

What a value of a document has to be for each kind of setting (`Expected.accepts`), and which
setting comes from which key: one `Slot` for each of them.
-/

namespace HostView.Config

open Toml

/-- Whether a value is of the kind that is expected.  Whole numbers do for fractions as well; a
count has no bound but that of all numbers in a document; and a section is no single value. -/
def Expected.accepts : Expected → Value → Bool
  | string, .string _ => true
  | boolean, .boolean _ => true
  | float, .float _ => true
  | float, .integer _ => true
  | unsigned32, .integer n => decide (0 ≤ n ∧ n.toNat < UInt32.size)
  | unsigned64, .integer n => decide (0 ≤ n)
  | _, _ => false

/-! ### Single values -/

section Map

variable {α β : Type} {d : Decoded α} {f : α → β}

theorem map_eq_ok {b : β} : d.map f = .ok b ↔ ∃ a, d = .ok a ∧ f a = b := by
  cases d with
  | error m => exact iff_of_false nofun fun ⟨a, refused, _⟩ => nomatch refused
  | ok a => simp [Except.map]

theorem map_takes : (∃ b, d.map f = .ok b) ↔ ∃ a, d = .ok a := by
  cases d <;> simp [Except.map]

end Map

section Values

variable {item : Item}

theorem string_eq_ok {text : String} : string item = .ok text ↔ item.value = .string text := by
  unfold string
  cases item.value <;> simp [refuse]

theorem boolean_eq_ok {b : Bool} : boolean item = .ok b ↔ item.value = .boolean b := by
  unfold boolean
  cases item.value <;> simp [refuse]

theorem float_eq_ok {x : Float} :
    float item = .ok x ↔
      item.value = .float x ∨ ∃ n, item.value = .integer n ∧ x = Float.ofInt n := by
  unfold float
  cases item.value <;> simp [refuse, eq_comm]

theorem unsigned_eq_ok {bound : Nat} {expected : Expected} {n : Nat} :
    unsigned bound expected item = .ok n ↔ item.value = .integer n ∧ n < bound := by
  unfold unsigned
  split
  next number same =>
    rw [same, Value.integer.injEq]
    split
    · rw [Except.ok.injEq]
      omega
    · simp only [reduceCtorEq, false_iff]
      omega
  next other => exact iff_of_false nofun fun ⟨same, _⟩ => other n same

/-- Words of any width, which tell apart as many numbers as are below the bound. -/
theorem word_eq_ok {α : Type} {bound : Nat} {expected : Expected} {toNat : α → Nat}
    {ofNat : Nat → α} (small : ∀ w, toNat w < bound)
    (toNat_ofNat : ∀ n < bound, toNat (ofNat n) = n) (ofNat_toNat : ∀ w, ofNat (toNat w) = w)
    {w : α} :
    (unsigned bound expected item).map ofNat = .ok w ↔ item.value = .integer (toNat w) := by
  simp only [map_eq_ok, unsigned_eq_ok]
  constructor
  · rintro ⟨n, ⟨same, fits⟩, rfl⟩
    rw [same, toNat_ofNat n fits]
  · intro same
    exact ⟨toNat w, ⟨same, small w⟩, ofNat_toNat w⟩

theorem unsigned32_eq_ok {w : UInt32} : unsigned32 item = .ok w ↔ item.value = .integer w.toNat :=
  word_eq_ok UInt32.toNat_lt (fun _ fits => UInt32.toNat_ofNat_of_lt' fits)
    fun _ => UInt32.ofNat_toNat

theorem unsigned64_eq_ok {w : UInt64} : unsigned64 item = .ok w ↔ item.value = .integer w.toNat :=
  word_eq_ok UInt64.toNat_lt (fun _ fits => UInt64.toNat_ofNat_of_lt' fits)
    fun _ => UInt64.ofNat_toNat

theorem sectionInto_table {α : Type} {fields : List (String × Field α)} {expected : Expected}
    {start : α} {origin : Origin} {inner : List Entry} (table : item.value = .table origin inner) :
    sectionInto fields expected start item = entriesInto fields start inner := by
  rw [sectionInto, table]

theorem string_takes : (∃ x, string item = .ok x) ↔ Expected.string.accepts item.value = true := by
  simp only [string_eq_ok]
  cases item.value <;> simp [Expected.accepts]

theorem boolean_takes :
    (∃ x, boolean item = .ok x) ↔ Expected.boolean.accepts item.value = true := by
  simp only [boolean_eq_ok]
  cases item.value <;> simp [Expected.accepts]

theorem float_takes : (∃ x, float item = .ok x) ↔ Expected.float.accepts item.value = true := by
  simp only [float_eq_ok]
  cases item.value <;> simp [Expected.accepts]

theorem unsigned_takes {bound : Nat} {expected : Expected} {n : Int}
    (number : item.value = .integer n) :
    (∃ m, unsigned bound expected item = .ok m) ↔ 0 ≤ n ∧ n.toNat < bound := by
  simp only [unsigned_eq_ok, number, Value.integer.injEq]
  constructor
  · rintro ⟨m, rfl, small⟩
    exact ⟨Int.natCast_nonneg m, small⟩
  · rintro ⟨positive, small⟩
    exact ⟨n.toNat, (Int.toNat_of_nonneg positive).symm, small⟩

theorem unsigned32_takes :
    (∃ x, unsigned32 item = .ok x) ↔ Expected.unsigned32.accepts item.value = true := by
  cases value : item.value with
  | integer n =>
    rw [unsigned32, map_takes, unsigned_takes value, Expected.accepts, decide_eq_true_eq]
  | _ => simp [unsigned32_eq_ok, value, Expected.accepts]

/-- A number that is not negative is taken, as the numbers of a document fit in 64 bits. -/
theorem unsigned64_takes (sound : item.value.Sound) :
    (∃ x, unsigned64 item = .ok x) ↔ Expected.unsigned64.accepts item.value = true := by
  cases value : item.value with
  | integer n =>
    rw [value] at sound
    obtain _ | fits := sound
    simp only [Toml.fits, Bool.and_eq_true, decide_eq_true_eq] at fits
    obtain ⟨-, small⟩ := fits
    rw [unsigned64, map_takes, unsigned_takes value, Expected.accepts, decide_eq_true_eq]
    refine and_iff_left_of_imp fun positive => ?_
    have small : n < 2 ^ 63 := small
    change n.toNat < 2 ^ 64
    omega
  | _ => simp [unsigned64_eq_ok, value, Expected.accepts]

end Values

/-! ### The fields of each section -/

theorem logFields_eq :
    logFields = [("filter", .of string fun s x => { s with filter := x }),
      ("timestamps", .of boolean fun s x => { s with timestamps := x })] := rfl

theorem renderFields_eq :
    renderFields =
      [("frame_interval_ms", .of unsigned64 fun s x => { s with frameInterval := x })] :=
  rfl

theorem fields_eq :
    fields = [("title", .of string fun s x => { s with title := x }),
      ("width", .of unsigned32 fun s x => { s with size.width := x }),
      ("height", .of unsigned32 fun s x => { s with size.height := x }),
      ("pixel_ratio", .of float fun s x => { s with scale := some x }),
      ("log", .of (sectionInto logFields .logSection {}) fun s x => { s with log := x }),
      ("render", .of (sectionInto renderFields .renderSection {})
        fun s x => { s with render := x })] :=
  rfl

theorem steady_logFields : ∀ p ∈ logFields, p.2.Steady := by
  simp [logFields_eq, Field.steady_of]

theorem steady_renderFields : ∀ p ∈ renderFields, p.2.Steady := by
  simp [renderFields_eq, Field.steady_of]

theorem steady_fields : ∀ p ∈ fields, p.2.Steady := by
  simp [fields_eq, Field.steady_of]

theorem slot_title : Slot fields "title" Settings.title fun v x => v = .string x :=
  .of rfl (fun _ _ _ => string_eq_ok.1) (by simp [fields_eq, Field.spares_of])

theorem slot_width :
    Slot fields "width" (fun s : Settings => s.size.width) fun v x => v = .integer x.toNat :=
  .of rfl (fun _ _ _ => unsigned32_eq_ok.1) (by simp [fields_eq, Field.spares_of])

theorem slot_height :
    Slot fields "height" (fun s : Settings => s.size.height) fun v x => v = .integer x.toNat :=
  .of rfl (fun _ _ _ => unsigned32_eq_ok.1) (by simp [fields_eq, Field.spares_of])

theorem slot_scale :
    Slot fields "pixel_ratio" Settings.scale fun v scale =>
      ∃ x, scale = some x ∧ (v = .float x ∨ ∃ n, v = .integer n ∧ x = Float.ofInt n) :=
  .of rfl (fun _ _ x decoded => ⟨x, rfl, float_eq_ok.1 decoded⟩)
    (by simp [fields_eq, Field.spares_of])

theorem slot_log :
    Slot fields "log" Settings.log fun v log => ∀ origin inner, v = .table origin inner →
      entriesInto logFields {} inner = .ok log :=
  .of rfl (fun _ _ x decoded origin inner table => by rwa [← sectionInto_table table])
    (by simp [fields_eq, Field.spares_of])

theorem slot_render :
    Slot fields "render" Settings.render fun v render => ∀ origin inner, v = .table origin inner →
      entriesInto renderFields {} inner = .ok render :=
  .of rfl (fun _ _ x decoded origin inner table => by rwa [← sectionInto_table table])
    (by simp [fields_eq, Field.spares_of])

theorem slot_filter : Slot logFields "filter" LogSettings.filter fun v x => v = .string x :=
  .of rfl (fun _ _ _ => string_eq_ok.1) (by simp [logFields_eq, Field.spares_of])

theorem slot_timestamps :
    Slot logFields "timestamps" LogSettings.timestamps fun v x => v = .boolean x :=
  .of rfl (fun _ _ _ => boolean_eq_ok.1) (by simp [logFields_eq, Field.spares_of])

theorem slot_frameInterval :
    Slot renderFields "frame_interval_ms" RenderSettings.frameInterval
      fun v x => v = .integer x.toNat :=
  .of rfl (fun _ _ _ => unsigned64_eq_ok.1) (by simp [renderFields_eq])

end HostView.Config
