import HostView.Proofs.Toml.Reader
import HostView.Proofs.Toml.Table
import HostView.Toml.Document

/-!
# Documents are tidy

Whatever text it is read from, no table of a document has a key twice and every whole number in it
fits in 64 bits (`parse?_tidy`).  The readers of values check the numbers, and the tables are built
by changes that keep them tidy.
-/

namespace HostView.Toml

open Reader

/-! ### Values -/

theorem reads_decimalInteger : Reads Value.Sound decimalInteger :=
  .after fun _ => .after fun _ => (reads_check _).bind fun _ fits => .pure (.integer fits)

theorem reads_prefixedInteger (letter : Char) (base : Nat) :
    Reads Value.Sound (prefixedInteger letter base) :=
  .after fun _ => .after fun _ => (reads_check _).bind fun _ fits => .pure (.integer fits)

theorem reads_decimalFloat : Reads Value.Sound decimalFloat :=
  .after fun _ => .after fun _ => .after fun _ => .after fun _ => .after fun _ => .after fun _ =>
    .pure (.float _)

theorem reads_specialFloat : Reads Value.Sound specialFloat :=
  .after fun _ => .orElse (.after fun _ => .pure (.float _)) (.after fun _ => .pure (.float _))

theorem reads_datetime : Reads Value.Sound datetime :=
  .orElse (.after fun _ => .after fun _ => .pure .datetime) (.after fun _ => .pure .datetime)

theorem reads_scalar : Reads Value.Sound scalar := by
  have string (r : Reader String) : Reads Value.Sound (do return .string (← r)) :=
    .after fun text => .pure (.string text)
  have word (w : String) (b : Bool) : Reads Value.Sound (do chars w.toList; return .boolean b) :=
    .after fun _ => .pure (.boolean b)
  exact .orElse (string _) <| .orElse (string _) <| .orElse (string _) <| .orElse (string _) <|
    .orElse (word _ _) <| .orElse (word _ _) <| .orElse reads_datetime <|
    .orElse reads_decimalFloat <| .orElse reads_specialFloat <|
    .orElse (reads_prefixedInteger _ _) <| .orElse (reads_prefixedInteger _ _) <|
    .orElse (reads_prefixedInteger _ _) reads_decimalInteger

section Containers

variable {r : Reader Value} (reads : Reads Value.Sound r)
include reads

theorem reads_pair : Reads (fun p => p.item.value.Sound) (pair r) :=
  .after fun _ => .after fun _ => .after fun _ => reads.spanned.bind fun _ sound => .pure sound

theorem reads_array : Reads Value.Sound (array r) := by
  refine .after fun _ => (Reads.attempt (P := fun items => ∀ item ∈ items, item.value.Sound)
    ?items).bind fun found sound => .after fun _ => .after fun _ => .pure (.array ?_)
  case items =>
    refine (Reads.separated (P := fun item => item.value.Sound) ?item _).bind fun _ sound =>
      .after fun _ => .pure sound
    case item =>
      exact .after fun _ => reads.spanned.bind fun _ sound => .after fun _ => .pure sound
  cases found with
  | none => nofun
  | some items => exact sound items rfl

theorem reads_braces : Reads Value.Sound (braces r) := by
  have spaced : Reads (fun p : Pair => p.item.value.Sound) (do
      let p ← pair r
      blanks
      return p) :=
    (reads_pair reads).bind fun _ sound => .after fun _ => .pure sound
  refine .after fun _ => (spaced.separated (char ',')).attempt.bind
    fun pairs sound => .after fun _ => .after fun _ => ?_
  split
  · exact .failure
  · next entries added =>
    refine .pure (Value.sound_table_iff.2 (addPairs_tidy .nil ?_ added))
    cases pairs with
    | none => nofun
    | some pairs => exact sound pairs rfl

end Containers

theorem reads_value (depth : Nat) : Reads Value.Sound (value depth) := by
  induction depth with
  | zero => exact reads_scalar
  | succ depth ih => exact .orElse reads_scalar (.orElse (reads_array ih) (reads_braces ih))

/-! ### Lines -/

/-- The values in a line are sound, and a header opens a section without pairs. -/
def Line.Sound : Line → Prop
  | .blank => True
  | .pair p => p.item.value.Sound
  | .header s => s.pairs = []

theorem reads_header : Reads (fun s => s.pairs = []) header :=
  .after fun _ => .pure rfl

theorem reads_line : Reads Line.Sound line := by
  refine .after fun _ => .after fun next => ?_
  split
  · exact .failure
  · exact reads_header.bind fun s opened => .after fun _ => .pure opened
  · exact .after fun _ => .after fun _ => .pure trivial
  · exact .after fun _ => .pure trivial
  · exact .after fun _ => .pure trivial
  · exact (reads_pair (reads_value _)).bind fun p sound => .after fun _ => .pure sound

theorem reads_lines : Reads (fun ls => ∀ l ∈ ls, l.Sound) lines :=
  .after fun _ => reads_line.many.bind fun _ sound => .after fun _ => .after fun _ => .pure sound

/-! ### The table of a document -/

theorem sections_sound {ls : List Line} (sound : ∀ l ∈ ls, l.Sound) :
    (∀ p ∈ (sections ls).1, p.item.value.Sound) ∧
      ∀ s ∈ (sections ls).2, ∀ p ∈ s.pairs, p.item.value.Sound := by
  induction ls with
  | nil => exact ⟨nofun, nofun⟩
  | cons l ls ih =>
    obtain ⟨first, rest⟩ := List.forall_mem_cons.1 sound
    obtain ⟨pairs, later⟩ := ih rest
    cases l with
    | blank => exact ⟨pairs, later⟩
    | pair p => exact ⟨List.forall_mem_cons.2 ⟨first, pairs⟩, later⟩
    | header s => exact ⟨nofun, List.forall_mem_cons.2 ⟨pairs, later⟩⟩

theorem build_tidy {ls : List Line} {entries : List Entry} (sound : ∀ l ∈ ls, l.Sound)
    (built : build ls = some entries) : Tidy entries := by
  obtain ⟨pairs, later⟩ := sections_sound sound
  obtain ⟨start, added, rest⟩ := Option.bind_eq_some_iff.1 built
  exact foldlM_tidy (fun _ _ _ tidy sound made => addSection_tidy tidy sound made)
    (addPairs_tidy .nil pairs added) later rest

/-- The table of a document, with all tables in it, has no key twice, and its numbers fit. -/
theorem parse?_tidy {text : String} {entries : List Entry} (document : parse? text = some entries) :
    Tidy entries := by
  obtain ⟨⟨ls, c⟩, read, built⟩ := Option.bind_eq_some_iff.1 document
  exact build_tidy (reads_lines _ ls c read) built

end HostView.Toml
