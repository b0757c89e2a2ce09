import TypeSketch.Proofs.Checking
import TypeSketch.Proofs.LineEndReading
import TypeSketch.Proofs.StoredText

/-!
# Files and standard input

A text that comes from a file has a line feed for every line end, and one that comes on standard
input is as it was written. A run does the same with both: reading gives the same value or the
same fault, and only the place of a fault in its text is told differently.
-/

namespace TypeSketch

/-- Whether a text is blank does not depend on its line ends. -/
theorem Text.unifyLineEnds_isBlank (t : Text) : t.unifyLineEnds.isBlank = t.isBlank := by
  have blankReturn : (CodePoint.scalar '\r').isBlank = true := by decide
  have blankFeed : (CodePoint.scalar '\n').isBlank = true := by decide
  unfold isBlank
  fun_induction unifyLineEnds t with
  | case1 => rfl
  | case2 rest inductionHypothesis => simp [blankReturn, blankFeed, inductionHypothesis]
  | case3 rest _ inductionHypothesis => simp [blankReturn, blankFeed, inductionHypothesis]
  | case4 c rest _ _ inductionHypothesis => simp [inductionHypothesis]

/-- The fault of a conversion at the corresponding place. -/
def ConvertFault.unifyLineEnds : ConvertFault → ConvertFault
  | .read fault => .read fault.unifyLineEnds
  | .walk fault => .walk fault

theorem convert_unifyLineEnds (style : Style) (text : Text) :
    convert style text.unifyLineEnds =
      (convert style text).mapError ConvertFault.unifyLineEnds := by
  rw [convert, convert, Document.ofText_unifyLineEnds]
  cases Document.ofText text with
  | error fault => rfl
  | ok document =>
    simp only [Except.mapError, bind, Except.bind]
    cases Generator.declarations style document <;> rfl

/-- Two runs end in the same way, unless they report the fault of a text and the corresponding one
of the text with unified line ends. -/
inductive Outcome.Alike (front : Front) (text : Text) : Outcome → Outcome → Prop where
  | same (outcome : Outcome) : Alike front text outcome outcome
  | misread (fault : ReadFault) (read : Document.ofText text = .error fault) :
      Alike front text (front.failed (fault.message text))
        (front.failed (fault.unifyLineEnds.message text.unifyLineEnds))

namespace Outcome.Alike

variable {front : Front} {text : Text} {left right : Outcome}

theorem exitCode_eq (alike : Alike front text left right) : left.exitCode = right.exitCode := by
  cases alike with
  | same => rfl
  | misread => simp only [Front.failed, exitCode]

theorem standardOutput_eq (alike : Alike front text left right) :
    left.standardOutput = right.standardOutput := by
  cases alike with
  | same => rfl
  | misread => simp only [Front.failed, standardOutput]

end Outcome.Alike

namespace CommandLine

open Outcome

/-- A check ends alike. -/
theorem checked_unifyLineEnds (front : Front) (text : Text) :
    Alike front text (checked front text) (checked front text.unifyLineEnds) := by
  have read := Document.ofText_unifyLineEnds text
  cases readText : Document.ofText text with
  | ok document =>
    rw [readText] at read
    rw [checked_read readText, checked_read read]
    exact .same _
  | error fault =>
    rw [readText] at read
    rw [checked_fault readText, checked_fault read, Text.unifyLineEnds_isBlank]
    split
    · exact .same _
    · exact .misread fault readText

/-- So does a delivery, which leaves the same files. -/
theorem deliver_unifyLineEnds (front : Front) (system : FileSystem) (standardInput : Text)
    (invocation : Invocation) (text : Text) :
    let host := FileSystem.host front standardInput
    Alike front text ((deliver host invocation text).run system).1
        ((deliver host invocation text.unifyLineEnds).run system).1 ∧
      ((deliver host invocation text.unifyLineEnds).run system).2 =
        ((deliver host invocation text).run system).2 := by
  intro host
  have unified := convert_unifyLineEnds invocation.style text
  rw [deliver, deliver]
  cases converted : convert invocation.style text with
  | ok declarations =>
    rw [converted] at unified
    rw [unified]
    exact ⟨.same _, rfl⟩
  | error fault =>
    rw [converted] at unified
    rw [unified]
    cases fault with
    | read fault =>
      refine ⟨.misread fault (convert_read_iff.mp converted), ?_⟩
      change system = system
      rfl
    | walk fault => exact ⟨.same _, rfl⟩

/-- A delivery does not look at where the text came from. -/
theorem deliver_input (front : Front) (standardInput other : Text) (invocation : Invocation)
    (input : Option Path) (text : Text) :
    deliver (FileSystem.host front standardInput) { invocation with input := input } text =
      deliver (FileSystem.host front other) invocation text := rfl

/-- A text that is read from a file is the stored one with unified line ends. -/
theorem sourceText_file {front : Front} {system : FileSystem} {path : Path} {text : Text} {bytes : List UInt8}
    (stored : Utf8.encode text = .ok bytes) (held : system.read path = .ok bytes)
    (standardInput : Text) {invocation : Invocation} (noSample : invocation.sample = false)
    (named : invocation.input = some path) :
    sourceText front system standardInput invocation = .ok text.unifyLineEnds := by
  rw [sourceText_of_file noSample named, held, fileText, Utf8.decode_encode stored]

end CommandLine

open CommandLine

/-- Reading from a file agrees with reading from standard input. A text has the same value with
unified line ends, or the corresponding fault. So when a file holds a text, a run that reads it and
a run that is asked for the same, but is given the text on standard input, end with the same exit
code, print the same on standard output and leave the same files, behind any front; only the places
in a reported fault may differ. -/
theorem file_agrees_with_standard_input :
    (∀ text : Text, Document.ofText text.unifyLineEnds =
      (Document.ofText text).mapError ReadFault.unifyLineEnds) ∧
    ∀ (front : Front) (system : FileSystem) (text other : Text) (bytes : List UInt8) (path : Path)
      (invocation : Invocation) (toFile toInput : List Text),
      Utf8.encode text = .ok bytes → system.read path = .ok bytes →
      front.understand toFile = some { invocation with input := some path } →
      front.understand toInput = some { invocation with input := none } →
      let onFile := (run (FileSystem.host front other) toFile).run system
      let onInput := (run (FileSystem.host front text) toInput).run system
      onFile.1.exitCode = onInput.1.exitCode ∧
        onFile.1.standardOutput = onInput.1.standardOutput ∧ onFile.2 = onInput.2 ∧
        Outcome.Alike front text onInput.1 onFile.1 := by
  refine ⟨Document.ofText_unifyLineEnds, ?_⟩
  intro front system text other bytes path invocation toFile toInput stored held askedFile askedInput
    onFile onInput
  have fileRun : onFile = _ := run_asked askedFile
  have inputRun : onInput = _ := run_asked askedInput
  have alike : Outcome.Alike front text onInput.1 onFile.1 ∧ onFile.2 = onInput.2 := by
    rw [fileRun, inputRun]
    by_cases isSample : invocation.sample = true
    · have sampled (standardInput : Text) (input : Option Path) :
          sourceText front system standardInput { invocation with input := input } =
            .ok sampleText :=
        if_pos isSample
      rw [sampled, sampled]
      dsimp only
      split
      · exact ⟨.same _, rfl⟩
      · rw [deliver_input front other text, deliver_input front text text]
        exact ⟨.same _, rfl⟩
    · rw [Bool.not_eq_true] at isSample
      have fromFile : sourceText front system other { invocation with input := some path } =
          .ok text.unifyLineEnds := sourceText_file stored held other isSample rfl
      have fromInput : sourceText front system text { invocation with input := none } =
          .ok text := by
        rw [sourceText, isSample]
        rfl
      rw [fromFile, fromInput]
      dsimp only
      split
      · exact ⟨checked_unifyLineEnds front text, rfl⟩
      · rw [deliver_input front other text, deliver_input front text text]
        exact deliver_unifyLineEnds front system text invocation text
  exact ⟨alike.1.exitCode_eq.symm, alike.1.standardOutput_eq.symm, alike.2, alike.1⟩

/-- A text with all three line ends. -/
def mixedLinesText : Text := "\x7b\r\n\"a\":\r[1,\n\r2]\x7d"

/-- The text in a file, byte by byte. -/
def mixedLinesFiles : FileSystem :=
  FileSystem.addFile {} [Text.ofString "a.json"]
    [123, 13, 10, 34, 97, 34, 58, 13, 91, 49, 44, 10, 13, 50, 93, 125]

def mixedLinesOutput : Text := "export interface Root \x7b\n  a: number[];\n\x7d\n"

theorem mixed_lines_agree :
    let onFile := (run (FileSystem.host .standard []) [Text.ofString "--input=a.json"]).run
      mixedLinesFiles
    let onInput := (run (FileSystem.host .standard mixedLinesText) []).run mixedLinesFiles
    onInput.1 = .exited 0 mixedLinesOutput [] ∧ onFile.1.exitCode = 0 ∧
      onFile.1.standardOutput = mixedLinesOutput ∧ onFile.2 = onInput.2 := by
  intro onFile onInput
  have input : onInput.1 = .exited 0 mixedLinesOutput [] := by decide +kernel
  obtain ⟨code, printed, files, _⟩ := file_agrees_with_standard_input.2 .standard
    mixedLinesFiles mixedLinesText [] _ (Path.ofText "a.json") {} [Text.ofString "--input=a.json"] []
    rfl (by decide +kernel) (by decide +kernel) (by decide +kernel)
  refine ⟨input, code.trans ?_, printed.trans ?_, files⟩
  · rw [input]
    rfl
  · rw [input]
    rfl

end TypeSketch
