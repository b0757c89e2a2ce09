import TypeSketch.Convert
import TypeSketch.Proofs.Reading
import TypeSketch.Proofs.Runs

/-!
# Checking a text

Reading a text, validating it, converting it and checking it on the command line agree on
whether it is JSON, and on what is wrong with it. The one exception is a blank text: it holds no
value, so it is not read, yet validation does not complain about it. A blank text may consist of
blanks that JSON does not know; none of these begins a value either. The command line takes the
exception back.
-/

namespace TypeSketch

namespace Text

/-- Of a text nothing is left between its blanks just when it is blank. -/
theorem strip_eq_nil_iff (t : Text) : t.strip = [] ↔ t.isBlank = true := by
  rw [strip, List.reverse_eq_nil_iff, List.dropWhile_eq_nil_iff, isBlank, List.all_eq_true]
  simp only [List.mem_reverse]
  constructor
  · intro dropped
    cases found : t.dropWhile CodePoint.isBlank with
    | nil => exact List.dropWhile_eq_nil_iff.mp found
    | cons c rest =>
      have solid := List.head?_dropWhile_not CodePoint.isBlank t
      rw [found] at dropped solid
      exact absurd (dropped c List.mem_cons_self) (Bool.eq_false_iff.mp solid)
  · intro blank
    rw [List.dropWhile_eq_nil_iff.mpr blank]
    exact fun c impossible => absurd impossible List.not_mem_nil

end Text

namespace Document

open Grammar Reader

/-- The text of a tree has a value in it, and no value begins with a blank of any sort. -/
theorem form_filled (form : Padded Tree) : (form.text Tree.text).isBlank = false := by
  have solid : ∀ c ∈ openingMarks, (CodePoint.scalar c).isBlank = false :=
    List.all_iff_forall_prop.mp (by decide)
  obtain ⟨c, opens, rest, begins⟩ := text_begins form.item
  have member : CodePoint.scalar c ∈ form.text Tree.text := by
    simp [Padded.text, begins]
  rw [Text.isBlank, List.all_eq_false]
  exact ⟨_, member, Bool.eq_false_iff.mp (solid c opens)⟩

/-- So a text that is read is not blank. -/
theorem ofText_filled {t : Text} {document : Document} (read : ofText t = .ok document) :
    t.isBlank = false := by
  obtain ⟨form, rfl, _⟩ := ofText_sound read
  exact form_filled form

end Document

/-- A conversion has the faults of reading, and no others of their kind. -/
theorem convert_read_iff {style : Style} {text : Text} {fault : ReadFault} :
    convert style text = .error (.read fault) ↔ Document.ofText text = .error fault := by
  rw [convert, bind_eq_error_iff, mapError_eq_error_iff]
  constructor
  · rintro (⟨own, read, same⟩ | ⟨document, _, further⟩)
    · rw [read, ConvertFault.read.inj same]
    · rcases bind_eq_error_iff.mp further with walked | ⟨registry, _, returned⟩
      · obtain ⟨_, _, impossible⟩ := mapError_eq_error_iff.mp walked
        cases impossible
      · cases returned
  · intro read
    exact .inl ⟨fault, read, rfl⟩

/-- Validation complains about nothing in a blank text and in one that is read. -/
theorem validate_eq_none_iff (text : Text) :
    validate text = none ↔ text.strip = [] ∨ ∃ document, Document.ofText text = .ok document := by
  rw [validate, Text.strip_eq_nil_iff]
  by_cases blank : text.isBlank = true
  · simp [blank]
  · cases Document.ofText text <;> simp [blank]

/-- It complains about what is wrong. -/
theorem validate_eq_some {text message : Text} (complained : validate text = some message) :
    ∃ fault, Document.ofText text = .error fault ∧ fault.message text = message := by
  rw [validate] at complained
  split at complained
  · cases complained
  · cases read : Document.ofText text with
    | ok document => rw [read] at complained; cases complained
    | error fault => rw [read] at complained; exact ⟨fault, rfl, Option.some.inj complained⟩

/-- A blank text is not read. -/
theorem Document.ofText_blank {text : Text} (blank : text.strip = []) :
    ∃ fault, ofText text = .error fault := by
  cases read : ofText text with
  | error fault => exact ⟨fault, rfl⟩
  | ok document =>
    rw [Text.strip_eq_nil_iff, ofText_filled read] at blank
    exact absurd blank Bool.false_ne_true

namespace CommandLine

variable {front : Front}

/-- A check succeeds on what is read. -/
theorem checked_read {text : Text} {document : Document}
    (read : Document.ofText text = .ok document) :
    checked front text = front.reported "Input is valid JSON." := by
  rw [checked, validate, Document.ofText_filled read, read]
  rfl

/-- Otherwise it fails with the fault, and for a blank text with a message of its own. -/
theorem checked_fault {text : Text} {fault : ReadFault}
    (read : Document.ofText text = .error fault) :
    checked front text =
      front.failed (if text.isBlank then "Input is empty." else fault.message text) := by
  rw [checked, validate, read]
  split <;> rfl

/-- So it succeeds on what is read and on nothing else, and prints nothing on standard output. -/
theorem checked_outcome (front : Front) (text : Text) :
    ((checked front text).exitCode = 0 ↔ ∃ document, Document.ofText text = .ok document) ∧
      (checked front text).standardOutput = [] := by
  cases read : Document.ofText text with
  | ok document =>
    rw [checked_read read]
    exact ⟨iff_of_true rfl ⟨document, rfl⟩, rfl⟩
  | error fault =>
    rw [checked_fault read]
    refine ⟨iff_of_false Nat.one_ne_zero ?_, rfl⟩
    rintro ⟨_, impossible⟩
    cases impossible

variable {system : FileSystem} {standardInput : Text}

/-- What a run with a check does follows from its source alone, and it changes no file. -/
theorem run_checks {arguments : List Text} {invocation : Invocation}
    (asked : front.understand arguments = some invocation) (isCheck : invocation.check = true) :
    (run (FileSystem.host front standardInput) arguments).run system =
      (match sourceText front system standardInput invocation with
        | .error outcome => outcome
        | .ok text => checked front text, system) := by
  rw [run_asked asked, isCheck]
  cases sourceText front system standardInput invocation <;> rfl

end CommandLine

/-- Validation, checking and conversion agree with reading. A conversion reports a fault of the
text just when reading does, and the same one. Validation accepts what is read and what is blank,
and otherwise gives the message of that fault; and whatever blanks a blank text has, it is not
read. On the command line, behind any front, a check succeeds just when its source has a text that
is read; it changes no file, prints nothing on standard output, and ends in the same way whatever
the output file and the style. -/
theorem checks_agree_with_reading :
    (∀ text : Text,
      (∀ style fault, convert style text = .error (.read fault) ↔
        Document.ofText text = .error fault) ∧
      (validate text = none ↔
        text.strip = [] ∨ ∃ document, Document.ofText text = .ok document) ∧
      (∀ message, validate text = some message → ∀ style, ∃ fault,
        convert style text = .error (.read fault) ∧
          (ConvertFault.read fault).message text = message) ∧
      (text.strip = [] → ∃ fault, Document.ofText text = .error fault)) ∧
    ∀ (front : Front) (system : FileSystem) (standardInput : Text) (arguments : List Text)
      (invocation : Invocation), front.understand arguments = some invocation →
      invocation.check = true →
      let ended := (CommandLine.run (FileSystem.host front standardInput) arguments).run system
      (ended.1.exitCode = 0 ↔ ∃ text document,
        CommandLine.sourceText front system standardInput invocation = .ok text ∧
          Document.ofText text = .ok document) ∧
      ended.2 = system ∧ ended.1.standardOutput = [] ∧
      ∀ others output style,
        front.understand others = some { invocation with output := output, style := style } →
        (CommandLine.run (FileSystem.host front standardInput) others).run system = ended := by
  constructor
  · intro text
    refine ⟨fun _ _ => convert_read_iff, validate_eq_none_iff text, ?_, Document.ofText_blank⟩
    intro message complained style
    obtain ⟨fault, read, same⟩ := validate_eq_some complained
    exact ⟨fault, convert_read_iff.mpr read, same⟩
  · intro front system standardInput arguments invocation asked isCheck ended
    have checks : ended = _ := CommandLine.run_checks asked isCheck
    have alike : ∀ others output style,
        front.understand others = some { invocation with output := output, style := style } →
        (CommandLine.run (FileSystem.host front standardInput) others).run system = ended := by
      intro others output style askedOther
      exact (CommandLine.run_checks askedOther isCheck).trans checks.symm
    rw [checks] at alike ⊢
    cases given : CommandLine.sourceText front system standardInput invocation with
    | error outcome =>
      obtain ⟨code, nothing⟩ := CommandLine.sourceText_error given
      rw [given] at alike
      refine ⟨?_, rfl, nothing, alike⟩
      simp [code]
    | ok text =>
      obtain ⟨success, nothing⟩ := CommandLine.checked_outcome front text
      rw [given] at alike
      refine ⟨?_, rfl, nothing, alike⟩
      simp [success]

/-- An em space and a file separator: blanks that JSON does not know. -/
def wideBlanks : Text := "\u2003\x1c"

/-- The arguments of a check, without and with what does not matter to it. -/
def checkArguments : List Text := [Text.ofString "--check"]

def longCheckArguments : List Text :=
  [Text.ofString "--output=o.ts", Text.ofString "--config.no-use-interfaces",
    Text.ofString "--check"]

theorem wide_blanks_refused :
    let ended := (CommandLine.run (FileSystem.host .standard wideBlanks) checkArguments).run {}
    validate wideBlanks = none ∧ (∃ fault, Document.ofText wideBlanks = .error fault) ∧
      (∃ fault, convert {} "[0,]" = .error (.read fault) ∧
        (ConvertFault.read fault).message "[0,]" =
          "Invalid JSON: Expecting value: line 1 column 4 (char 3)") ∧
      ended.1.exitCode ≠ 0 ∧ ended.2 = {} ∧
      (CommandLine.run (FileSystem.host .standard wideBlanks) longCheckArguments).run {} = ended := by
  intro ended
  obtain ⟨texts, runs⟩ := checks_agree_with_reading
  obtain ⟨_, accepted, _, refused⟩ := texts wideBlanks
  have blank : wideBlanks.strip = [] := by decide
  have complained : validate "[0,]" =
      some (Text.ofString "Invalid JSON: Expecting value: line 1 column 4 (char 3)") := by
    decide +kernel
  obtain ⟨success, kept, _, alike⟩ :=
    runs .standard {} wideBlanks checkArguments { check := true } (by decide +kernel) rfl
  refine ⟨accepted.mpr (.inl blank), refused blank, (texts "[0,]").2.2.1 _ complained {}, ?_, kept,
    alike longCheckArguments (some (Path.ofText "o.ts")) { useInterfaces := false } ?_⟩
  · intro succeeded
    obtain ⟨text, document, given, read⟩ := success.mp succeeded
    cases given
    obtain ⟨fault, unread⟩ := refused blank
    exact absurd (unread.symm.trans read) (by simp)
  · decide +kernel

end TypeSketch
