import TypeSketch.Proofs.Runs
import TypeSketch.Proofs.StoredText

/-!
# Input that cannot be read

A run whose input is a file may get no text from it: the file is missing, or a directory, or its
path leads through a file, or its bytes are not those of a text. The run ends without printing
anything on standard output and without changing a file. A file that is not opened is reported by
a notice on standard error. Bytes that belong to no text are not: their fault escapes from the run.

That a notice of a fault is a line with its label is a property of the front, and the front of the
program has it.
-/

namespace TypeSketch

namespace Console

/-- Neither a line feed nor a tab. -/
def IsSteady (c : CodePoint) : Prop := c ≠ .scalar '\n' ∧ c ≠ .scalar '\t'

instance (c : CodePoint) : Decidable (IsSteady c) := inferInstanceAs (Decidable (_ ∧ _))

/-- A text in front is kept as it is when no tab and no line feed is in it. -/
theorem expandTabs_append {front : Text} (steady : ∀ c ∈ front, IsSteady c) (cursor : Cursor)
    (rest : Text) :
    expandTabs cursor (front ++ rest) =
      front ++ expandTabs (front.foldl Cursor.pass cursor) rest := by
  induction front generalizing cursor with
  | nil => rfl
  | cons c others inductionHypothesis =>
    obtain ⟨noFeed, noTab⟩ := steady c List.mem_cons_self
    have others : ∀ other ∈ others, IsSteady other := fun other member =>
      steady other (List.mem_cons_of_mem c member)
    have kept := inductionHypothesis others (cursor.pass c)
    rw [List.cons_append, expandTabs, if_neg noFeed, if_neg noTab, kept]
    rfl

end Console

namespace Front

/-- A notice of a fault is a line that begins with the label. -/
def KeepsLabel (front : Front) : Prop :=
  ∀ message, ∃ shown, front.notice errorLabel message = errorLabel ++ " " ++ shown ++ "\n"

theorem standard_keepsLabel : standard.KeepsLabel := by
  intro message
  have steady : ∀ c ∈ errorLabel ++ " ", Console.IsSteady c := by decide
  exact ⟨_, congrArg (· ++ Text.ofString "\n") (Console.expandTabs_append steady {} _)⟩

/-- A fault is reported by such a line. -/
theorem failed_line {front : Front} (keeps : front.KeepsLabel) (message : Text) :
    ∃ shown, front.failed message = .exited 1 [] (errorLabel ++ " " ++ shown ++ "\n") := by
  obtain ⟨shown, line⟩ := keeps message
  exact ⟨shown, congrArg (Outcome.exited 1 []) line⟩

end Front

namespace CommandLine

variable {front : Front} {system : FileSystem} {standardInput : Text}

/-- A file is opened at a path, and its bytes are those of a text. -/
def HoldsText (system : FileSystem) (path : Path) : Prop :=
  ∃ bytes text, system.read path = .ok bytes ∧ Utf8.encode text = .ok bytes

/-- A file does not hold a text if its bytes are those of none. -/
theorem not_holdsText {path : Path} {bytes : List UInt8} (held : system.read path = .ok bytes)
    (noText : ∀ text, Utf8.encode text ≠ .ok bytes) : ¬HoldsText system path := by
  rintro ⟨others, text, holds, encoded⟩
  obtain rfl : bytes = others := Except.ok.inj (held.symm.trans holds)
  exact noText text encoded

/-- A run that gets no text ends with what its source says and leaves all files as they were. -/
theorem run_unread {arguments : List Text} {invocation : Invocation} {outcome : Outcome}
    (asked : front.understand arguments = some invocation)
    (noText : sourceText front system standardInput invocation = .error outcome) :
    (run (FileSystem.host front standardInput) arguments).run system = (outcome, system) := by
  rw [run_asked asked, noText]

/-- A fault of reading escapes from nothing but the source. -/
theorem undecodable_iff (arguments : List Text) (fault : Utf8.DecodeFault) :
    ((run (FileSystem.host front standardInput) arguments).run system).1 =
        .escaped (.undecodable fault) ↔
      ∃ invocation, front.understand arguments = some invocation ∧
        sourceText front system standardInput invocation =
          .error (.escaped (.undecodable fault)) := by
  constructor
  · intro escaped
    have ends : Ends front system standardInput arguments
        ((run (FileSystem.host front standardInput) arguments).run system) := run_ends arguments
    generalize (run (FileSystem.host front standardInput) arguments).run system = ended
      at ends escaped
    cases ends with
    | @unread invocation outcome asked noText =>
      obtain rfl : outcome = .escaped (.undecodable fault) := escaped
      exact ⟨invocation, asked, noText⟩
    | misused => exact nomatch escaped
    | @checked _ text =>
      rw [checked] at escaped
      split at escaped
      · exact nomatch escaped
      · split at escaped <;> exact nomatch escaped
    | unconverted => exact nomatch escaped
    | printed =>
      rw [Front.printed] at escaped
      split at escaped <;> exact nomatch escaped
    | delivered _ _ _ _ _ writes => cases writes <;> exact nomatch escaped
  · rintro ⟨invocation, asked, noText⟩
    rw [run_unread asked noText]

/-- A file gives a text, or it is not opened, or its bytes are faulty. -/
theorem fileText_cases (front : Front) (path : Path) (content : Except FileFault (List UInt8)) :
    (∃ fault, content = .error fault ∧
        fileText front path content = .error (front.failed (unreadable path fault))) ∨
      (∃ bytes fault, content = .ok bytes ∧ Utf8.decode bytes = .error fault ∧
        fileText front path content = .error (.escaped (.undecodable fault))) ∨
      ∃ bytes text, content = .ok bytes ∧ Utf8.decode bytes = .ok text ∧
        fileText front path content = .ok text.unifyLineEnds := by
  cases content with
  | error fault => exact .inl ⟨fault, rfl, rfl⟩
  | ok bytes =>
    cases decoded : Utf8.decode bytes with
    | error fault => exact .inr (.inl ⟨bytes, fault, rfl, decoded, by rw [fileText, decoded]⟩)
    | ok text => exact .inr (.inr ⟨bytes, text, rfl, decoded, by rw [fileText, decoded]⟩)

/-- A run whose input is a file that holds no text ends with exit code 1, prints nothing on standard
output and leaves all files as they were. If the file is not opened, whatever the fault, this is
reported by a notice on standard error, which is a line with the label of faults behind a front that
keeps it, such as that of the program. The fault of a file that is opened escapes from the run
instead, and that happens exactly when the file has bytes that no text has. -/
theorem unreadable_input_reported_unless_opened (front : Front) (system : FileSystem)
    (standardInput : Text) (arguments : List Text) (invocation : Invocation) (path : Path)
    (asked : front.understand arguments = some invocation)
    (noSample : invocation.sample = false) (named : invocation.input = some path) :
    let ended := (run (FileSystem.host front standardInput) arguments).run system
    (¬HoldsText system path →
      ended.1.exitCode = 1 ∧ ended.1.standardOutput = [] ∧ ended.2 = system) ∧
    (∀ fault, system.read path = .error fault →
      ended.1 = front.failed (unreadable path fault) ∧
      (front.KeepsLabel →
        ∃ shown, ended.1 = .exited 1 [] (Front.errorLabel ++ " " ++ shown ++ "\n"))) ∧
    Front.standard.KeepsLabel ∧
    ((∃ fault, ended.1 = .escaped (.undecodable fault)) ↔
      ∃ bytes, system.read path = .ok bytes ∧ ∀ text, Utf8.encode text ≠ .ok bytes) := by
  intro ended
  have source : sourceText front system standardInput invocation =
      fileText front path (system.read path) := sourceText_of_file noSample named
  refine ⟨?_, ?_, Front.standard_keepsLabel, ?_⟩
  · intro noText
    rcases fileText_cases front path (system.read path) with ⟨fault, -, unread⟩ |
      ⟨bytes, fault, -, -, unread⟩ | ⟨bytes, text, held, decoded, -⟩
    · have stopped : ended = _ := run_unread asked (source.trans unread)
      rw [stopped]
      exact ⟨rfl, rfl, rfl⟩
    · have stopped : ended = _ := run_unread asked (source.trans unread)
      rw [stopped]
      exact ⟨rfl, rfl, rfl⟩
    · exact absurd ⟨bytes, text, held, Utf8.decode_eq_ok_iff.mp decoded⟩ noText
  · intro fault refused
    have unread : fileText front path (system.read path) =
        .error (front.failed (unreadable path fault)) := by
      rw [refused, fileText]
    have stopped : ended = _ := run_unread asked (source.trans unread)
    rw [stopped]
    exact ⟨rfl, fun keeps => Front.failed_line keeps _⟩
  · constructor
    · rintro ⟨fault, escaped⟩
      obtain ⟨again, askedAgain, unread⟩ := (undecodable_iff arguments fault).mp escaped
      obtain rfl : again = invocation := Option.some.inj (askedAgain.symm.trans asked)
      rw [source] at unread
      rcases fileText_cases front path (system.read path) with ⟨_, -, other⟩ |
        ⟨bytes, faulty, held, decoded, -⟩ | ⟨_, _, -, -, other⟩
      · exact nomatch other.symm.trans unread
      · exact ⟨bytes, held, Utf8.decode_error_iff.mp ⟨faulty, decoded⟩⟩
      · exact nomatch other.symm.trans unread
    · rintro ⟨bytes, held, noText⟩
      obtain ⟨fault, decoded⟩ := Utf8.decode_error_iff.mpr noText
      refine ⟨fault, (undecodable_iff arguments fault).mpr ⟨invocation, asked, ?_⟩⟩
      rw [source, held, fileText, decoded]

/-- How a run ends whose input is the file at a path. -/
def endedOn (system : FileSystem) (path : Text) : Outcome × FileSystem :=
  (run (FileSystem.host .standard []) [Text.ofString "--input", path]).run system

/-- A file that ends in the midst of a character. -/
def cutFiles : FileSystem := FileSystem.addFile {} [Text.ofString "x.json"] [0x7B, 0x22, 0xC3]

/-- The file itself is read in vain; behind its name there is nothing to be opened. -/
theorem cut_character_escapes :
    (endedOn cutFiles "x.json").1.exitCode = 1 ∧
    (endedOn cutFiles "x.json").1.standardOutput = [] ∧
    (endedOn cutFiles "x.json").2 = cutFiles ∧
    (∃ fault, (endedOn cutFiles "x.json").1 = .escaped (.undecodable fault)) ∧
    (endedOn cutFiles "x.json/y").1 =
      Front.standard.failed (unreadable (Path.ofText "x.json/y") .notADirectory) ∧
    ∃ shown, (endedOn cutFiles "x.json/y").1 =
      .exited 1 [] (Front.errorLabel ++ " " ++ shown ++ "\n") := by
  have noText : ∀ text, Utf8.encode text ≠ .ok [0x7B, 0x22, 0xC3] :=
    Utf8.decode_error_iff.mp ⟨_, rfl⟩
  have held : cutFiles.read (Path.ofText "x.json") = .ok [0x7B, 0x22, 0xC3] := by decide +kernel
  obtain ⟨ends, _, _, escapes⟩ := unreadable_input_reported_unless_opened .standard cutFiles []
    [Text.ofString "--input", "x.json"] { input := some (Path.ofText "x.json") }
    (Path.ofText "x.json") (by decide +kernel) rfl rfl
  obtain ⟨code, nothing, kept⟩ := ends (not_holdsText held noText)
  obtain ⟨_, reported, keeps, _⟩ := unreadable_input_reported_unless_opened .standard cutFiles []
    [Text.ofString "--input", "x.json/y"] { input := some (Path.ofText "x.json/y") }
    (Path.ofText "x.json/y") (by decide +kernel) rfl rfl
  obtain ⟨report, line⟩ := reported .notADirectory (by decide +kernel)
  exact ⟨code, nothing, kept, escapes.mpr ⟨_, held, noText⟩, report, line keeps⟩

/-- A byte that begins no character. -/
def strayByteFiles : FileSystem := FileSystem.addFile {} [Text.ofString "x.json"] [0xFF]

/-- A file that is opened and holds no text is not reported: no line is written, and the fault
escapes. -/
theorem stray_byte_escapes :
    ¬HoldsText strayByteFiles (Path.ofText "x.json") ∧
    (endedOn strayByteFiles "x.json").1 = .escaped (.undecodable ⟨0, 1, 0xFF, .start⟩) ∧
    ∀ code output line, (endedOn strayByteFiles "x.json").1 ≠ .exited code output line := by
  have held : strayByteFiles.read (Path.ofText "x.json") = .ok [0xFF] := by decide +kernel
  have escaped : (endedOn strayByteFiles "x.json").1 =
      .escaped (.undecodable ⟨0, 1, 0xFF, .start⟩) := by decide +kernel
  refine ⟨not_holdsText held (Utf8.decode_error_iff.mp ⟨_, rfl⟩), escaped, ?_⟩
  intro code output line
  rw [escaped]
  simp

end CommandLine

end TypeSketch
