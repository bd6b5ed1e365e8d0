import HostView.Config.Load

/-!
# Settings from a file

A file that holds a text has the settings of that text, or fails for the same reason as the text
does, with its path in front (`Config.text_file_never_ignored`).  Whatever else is found at the
path stands for the defaults: nothing, a directory, a file that cannot be read, and also a file
whose bytes are no text (`Config.latin_file_ignored`).
-/

namespace HostView.Config

/-! ### Bytes and texts -/

theorem fromUTF8?_eq_some_iff {bytes : ByteArray} {text : String} :
    String.fromUTF8? bytes = some text ↔ text.toUTF8 = bytes := by
  unfold String.fromUTF8?
  constructor
  · intro found
    split at found
    · cases found
      rfl
    · cases found
  · rintro rfl
    exact dif_pos text.isValidUTF8

theorem fromUTF8?_eq_none_iff {bytes : ByteArray} :
    String.fromUTF8? bytes = none ↔ ∀ text : String, text.toUTF8 ≠ bytes := by
  rw [Option.eq_none_iff_forall_ne_some]
  exact forall_congr' fun text => not_congr fromUTF8?_eq_some_iff

/-! ### Texts without settings -/

/-- A text that holds no settings: it is no document, one of its values is refused, or the window
would have no pixels. -/
inductive Refused (text : String) : Prop
  | malformed (unread : Toml.parse? text = none)
  | mismatch {entries : List Toml.Entry} {m : Mismatch} (document : Toml.parse? text = some entries)
      (wrong : decode entries = .error m)
  | emptyWindow {entries : List Toml.Entry} {settings : Settings}
      (document : Toml.parse? text = some entries) (decoded : decode entries = .ok settings)
      (empty : settings.size.isEmpty = true)

theorem ofText_error_iff {text : String} : (∃ f, ofText text = .error f) ↔ Refused text := by
  constructor
  · rintro ⟨f, refused⟩
    unfold ofText at refused
    cases document : Toml.parse? text with
    | none => exact .malformed document
    | some entries =>
      cases decoded : decode entries with
      | error m => exact .mismatch document decoded
      | ok settings =>
        cases empty : settings.size.isEmpty with
        | true => exact .emptyWindow document decoded empty
        | false => simp [document, decoded, empty] at refused
  · intro refused
    cases refused with
    | malformed unread => exact ⟨_, by rw [ofText, unread]⟩
    | @mismatch _ m document wrong =>
      exact ⟨.mismatch text m, by simp [ofText, document, wrong]⟩
    | @emptyWindow _ settings document decoded empty =>
      exact ⟨.emptyWindow settings.size, by simp [ofText, document, decoded, empty]⟩

/-- How the message of an error of the settings begins. -/
def errorPrefix : String := "config error: "

theorem head?_append {word rest : String} {c : Char} (first : word.toList.head? = some c) :
    (word ++ rest).toList.head? = some c := by
  rw [String.toList_append, List.head?_append, first]
  rfl

theorem annotate_begins (text : String) (span : Toml.Span) (message : String) :
    (annotate text span message).toList.head? = some 'T' := by
  unfold annotate
  generalize position text span.start = place
  obtain ⟨line, column⟩ := place
  dsimp -zeta only
  extract_lets content number gutter marks
  repeat refine head?_append ?_
  decide

/-- No reason begins like the message of the error that it is part of. -/
theorem Failure.message_plain (f : Failure) : ¬ errorPrefix.toList <+: f.message.toList := by
  have first : ∃ c, f.message.toList.head? = some c ∧ c ≠ 'c' := by
    cases f with
    | malformed => exact ⟨'T', by decide, by decide⟩
    | mismatch text m =>
      obtain ⟨reason, _ | span⟩ := m
      · refine ⟨'i', head?_append ?_, by decide⟩
        cases reason with
        | wrongKind => exact head?_append (head?_append (head?_append (by decide)))
        | outOfRange => exact head?_append (head?_append (head?_append (by decide)))
      · exact ⟨'T', annotate_begins text span reason.message, by decide⟩
    | emptyWindow size => exact ⟨'w', head?_append (by decide), by decide⟩
  obtain ⟨c, first, other⟩ := first
  rintro ⟨rest, same⟩
  rw [← same] at first
  exact other (Option.some.inj first).symm

/-! ### Files -/

theorem load_of_no_text {path : String} {content : FileContent} (none : content.text? = none) :
    load path content = .ok {} := by
  rw [load, ofFile, none]
  rfl

theorem load_of_text {path : String} {content : FileContent} {text : String}
    (found : content.text? = some text) :
    load path content = (ofText text).mapError (Failure.error (some path)) := by
  rw [load, ofFile, found]

theorem Failure.error_some (path : String) (f : Failure) :
    f.error (some path) = .config (path ++ ": " ++ f.message) := by
  rw [error, Option.map_some, Option.getD_some]

theorem Failure.error_none (f : Failure) : f.error none = .config f.message := by
  rw [error, Option.map_none, Option.getD_none, String.empty_append]

theorem message_config (reason : String) :
    (ViewError.config reason).message = errorPrefix ++ reason := rfl

/-- What is found at a path without being a file that can be read stands for the defaults, and so
does a file whose bytes are no text.  A file that holds a text has the settings of that text, if
there are any.  If not, which is so if and only if the text is refused, the error has the reason
that the text has alone, with the path in front of it, and begins with the prefix of such errors
once. -/
theorem text_file_never_ignored (path : String) :
    (∀ content : FileContent, (∀ bytes, content ≠ .bytes bytes) → load path content = .ok {}) ∧
      ∀ bytes : ByteArray,
        ((∀ text : String, text.toUTF8 ≠ bytes) → load path (.bytes bytes) = .ok {}) ∧
        ∀ text : String, text.toUTF8 = bytes →
          (∀ settings, read text = .ok settings → load path (.bytes bytes) = .ok settings) ∧
          (∀ e, read text = .error e → ∃ reason,
            e.message = errorPrefix ++ reason ∧ ¬ errorPrefix.toList <+: reason.toList ∧
              load path (.bytes bytes) = .error (.config (path ++ ": " ++ reason)) ∧
              (ViewError.config (path ++ ": " ++ reason)).message =
                errorPrefix ++ (path ++ ": " ++ reason)) ∧
          ((∃ e, read text = .error e) ↔ Refused text) := by
  refine ⟨fun content other => load_of_no_text ?_,
    fun bytes => ⟨fun none => ?_, fun text same => ?_⟩⟩
  · cases content with
    | bytes b => exact absurd rfl (other b)
    | _ => rfl
  · exact load_of_no_text (fromUTF8?_eq_none_iff.2 none)
  · have found : (FileContent.bytes bytes).text? = some text := fromUTF8?_eq_some_iff.2 same
    rw [load_of_text found, ← ofText_error_iff, read]
    cases came : ofText text with
    | ok settings => exact ⟨fun s read => read, nofun, iff_of_false nofun nofun⟩
    | error f =>
      refine ⟨nofun, fun e refused => ⟨f.message, ?_, f.message_plain, ?_, message_config _⟩,
        iff_of_true ⟨_, rfl⟩ ⟨f, rfl⟩⟩
      · obtain rfl : f.error none = e := Except.error.inj refused
        rw [f.error_none, message_config]
      · rw [← f.error_some]
        rfl

/-- A file with a width has it; a file with a width of zero is named with what is wrong in it. -/
theorem width_file_read :
    (∃ settings, read "width = 640" = .ok settings ∧ settings.size = ⟨640, 720⟩ ∧
      load "viewer.toml" (.bytes "width = 640".toUTF8) = .ok settings) ∧
      ∃ e, read "width = 0" = .error e ∧ Refused "width = 0" ∧
        load "viewer.toml" (.bytes "width = 0".toUTF8) =
          .error (.config "viewer.toml: window size must be non-zero, got 0x720") := by
  have wide : (match ofText "width = 640" with
      | .ok settings => decide (settings.size = ⟨640, 720⟩)
      | _ => false) = true := by decide +kernel
  have empty : (match ofText "width = 0" with
      | .error f => f.message == "window size must be non-zero, got 0x720"
      | _ => false) = true := by decide +kernel
  obtain ⟨-, files⟩ := text_file_never_ignored "viewer.toml"
  constructor
  · split at wide
    · next settings came =>
      have accepted : read "width = 640" = .ok settings := by rw [read, came]; rfl
      obtain ⟨-, texts⟩ := files "width = 640".toUTF8
      obtain ⟨ok, -⟩ := texts _ rfl
      exact ⟨settings, accepted, of_decide_eq_true wide, ok settings accepted⟩
    · cases wide
  · split at empty
    · next f came =>
      have refused : read "width = 0" = .error (f.error none) := by rw [read, came]; rfl
      obtain ⟨-, texts⟩ := files "width = 0".toUTF8
      obtain ⟨-, error, fails⟩ := texts _ rfl
      obtain ⟨reason, whole, -, loaded, -⟩ := error _ refused
      refine ⟨_, refused, fails.1 ⟨_, refused⟩, ?_⟩
      rw [f.error_none, message_config, eq_of_beq empty, String.append_right_inj] at whole
      rw [loaded, ← whole]
      rfl
    · cases empty

/-- The title of a window in a file of single-byte characters. -/
def latinTitle : ByteArray := ⟨#[116, 105, 116, 108, 101, 32, 61, 32, 34, 99, 97, 102, 233, 34]⟩

/-- A file that is there and holds no text is ignored. -/
theorem latin_file_ignored :
    (∀ text : String, text.toUTF8 ≠ latinTitle) ∧
      load "viewer.toml" (.bytes latinTitle) = .ok {} ∧
      ¬ ∃ reason, load "viewer.toml" (.bytes latinTitle) = .error (.config reason) := by
  have none : String.fromUTF8? latinTitle = none := by decide
  have ignored : load "viewer.toml" (.bytes latinTitle) = .ok {} := load_of_no_text none
  refine ⟨fromUTF8?_eq_none_iff.1 none, ignored, ?_⟩
  rintro ⟨reason, refused⟩
  rw [ignored] at refused
  cases refused

end HostView.Config
