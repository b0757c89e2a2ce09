import TypeSketch.Proofs.Checking
import TypeSketch.Proofs.LoneSurrogates

/-!
# Runs that fail

A run that does not succeed prints nothing on standard output, and it leaves all files as they
were, with one exception: an output file is emptied before the declarations are encoded, and
declarations with a lone surrogate cannot be encoded. The file that was to be written is empty
then, or has come into being without content.
-/

namespace TypeSketch.CommandLine

variable {front : Front} {system : FileSystem} {standardInput : Text} {arguments : List Text}

/-- A text that is printed ends the run well. -/
theorem printed_failed {declarations : Text} (failed : (front.printed declarations).exitCode ≠ 0) :
    (front.printed declarations).standardOutput = [] := by
  rw [Front.printed] at failed ⊢
  split at failed
  · rfl
  · exact absurd rfl failed

/-- The run converts its text to declarations with a lone surrogate and is to write them at a path,
where it can write; so it leaves an empty file there. -/
inductive Empties (front : Front) (system : FileSystem) (standardInput : Text)
    (arguments : List Text) (path : Path) (emptied : FileSystem) : Prop where
  | intro (invocation : Invocation) (text declarations : Text)
      (asked : front.understand arguments = some invocation)
      (given : sourceText front system standardInput invocation = .ok text)
      (noCheck : invocation.check = false)
      (converted : convert invocation.style text = .ok declarations)
      (lone : declarations.hasSurrogate = true)
      (toFile : invocation.output = some path)
      (opened : system.write path [] = .ok emptied)

/-- Declarations have a line feed at the end, with which they can be encoded as well as without. -/
theorem unencodable_iff (declarations : Text) :
    (∃ fault, Utf8.encode (declarations ++ "\n") = .error fault) ↔
      declarations.hasSurrogate = true := by
  have stored := Utf8.encode_ok_iff (declarations ++ "\n")
  rw [Text.hasSurrogate_append, Text.hasSurrogate_ofString, Bool.or_false] at stored
  cases encoded : Utf8.encode (declarations ++ "\n") with
  | error fault => simpa [encoded] using stored
  | ok bytes => simpa [encoded] using stored

/-- A file that can be opened stays empty when the text cannot be encoded. -/
theorem Writes.emptied {path : Path} {text : Text} {ended : Outcome × FileSystem}
    (writes : Writes front system path text ended) {emptied : FileSystem} {fault : Utf8.EncodeFault}
    (opened : system.write path [] = .ok emptied) (unencoded : Utf8.encode text = .error fault) :
    ended = (.escaped (.unencodable fault), emptied) := by
  cases writes with
  | unwritable refused => exact absurd (opened.symm.trans refused) (by simp)
  | unencodable openedFirst unencodedFirst =>
    cases opened.symm.trans openedFirst
    cases unencoded.symm.trans unencodedFirst
    rfl
  | written encoded _ => exact absurd (unencoded.symm.trans encoded) (by simp)

theorem empties_run {path : Path} {emptied : FileSystem}
    (empties : Empties front system standardInput arguments path emptied) :
    ∃ fault, (run (FileSystem.host front standardInput) arguments).run system =
      (.escaped (.unencodable fault), emptied) := by
  obtain ⟨invocation, text, declarations, asked, given, noCheck, converted, lone, toFile,
    opened⟩ := empties
  obtain ⟨fault, unencoded⟩ := (unencodable_iff declarations).mpr lone
  refine ⟨fault, ?_⟩
  rw [run_asked asked, given]
  dsimp only
  rw [noCheck, if_neg Bool.false_ne_true, deliver, converted]
  dsimp only
  rw [toFile]
  exact (writeTo_writes path _).emptied opened unencoded

/-- A run that does not succeed prints nothing on standard output and changes no file, unless it
empties its output file. It does that exactly when the declarations of its text have a lone
surrogate: then nothing but this file is changed, and the fault of the encoding escapes. So it is
behind any front. -/
theorem failed_run_changes_output_at_most (front : Front) (system : FileSystem)
    (standardInput : Text) (arguments : List Text) :
    let ended := (run (FileSystem.host front standardInput) arguments).run system
    (ended.1.exitCode ≠ 0 → ended.1.standardOutput = [] ∧
      (ended.2 = system ∨ ∃ path, Empties front system standardInput arguments path ended.2)) ∧
    ∀ path emptied, Empties front system standardInput arguments path emptied →
      (∃ fault, ended = (.escaped (.unencodable fault), emptied)) ∧
        emptied.read path = .ok [] ∧ ∃ location, system.locate path = .ok location ∧
          ∀ other, other ≠ location → emptied.node? other = system.node? other := by
  intro ended
  refine ⟨?_, ?_⟩
  · intro failed
    have ends : Ends front system standardInput arguments ended := run_ends arguments
    generalize ended = ended at failed ends
    cases ends with
    | misused => exact ⟨rfl, .inl rfl⟩
    | unread _ noText => exact ⟨(sourceText_error noText).2, .inl rfl⟩
    | @checked _ text => exact ⟨(checked_outcome front text).2, .inl rfl⟩
    | unconverted => exact ⟨rfl, .inl rfl⟩
    | printed => exact ⟨printed_failed failed, .inl rfl⟩
    | @delivered invocation text declarations path _ asked given noCheck converted toFile writes =>
      cases writes with
      | unwritable => exact ⟨rfl, .inl rfl⟩
      | unencodable opened unencoded =>
        have lone := (unencodable_iff declarations).mp ⟨_, unencoded⟩
        exact ⟨rfl, .inr ⟨path, invocation, text, declarations, asked, given, noCheck, converted,
          lone, toFile, opened⟩⟩
      | written => exact absurd rfl failed
  · intro path emptied empties
    obtain ⟨_, _, _, _, _, _, _, _, _, opened⟩ := id empties
    exact ⟨empties_run empties, FileSystem.read_written opened, FileSystem.write_elsewhere opened⟩

/-- The arguments of a run that is to write a file. -/
def outputArguments : List Text := [Text.ofString "--output", Text.ofString "o.ts"]

def outputPath : Path := Path.ofText "o.ts"

/-- The file is there already, with some content. -/
def filesWithOutput : FileSystem := FileSystem.addFile {} [Text.ofString "o.ts"] [111, 108, 100]

/-- What is left of it. -/
def filesWithEmptyOutput : FileSystem := FileSystem.addFile {} [Text.ofString "o.ts"] []

theorem lone_key_output_lost :
    let ended := (run (FileSystem.host .standard loneKeyText) outputArguments).run filesWithOutput
    ended.1.exitCode ≠ 0 ∧ ended.1.standardOutput = [] ∧
      Empties .standard filesWithOutput loneKeyText outputArguments outputPath filesWithEmptyOutput ∧
      ended.2 = filesWithEmptyOutput ∧ filesWithEmptyOutput.read outputPath = .ok [] := by
  have kept := failed_run_changes_output_at_most .standard filesWithOutput loneKeyText
    outputArguments
  have converted : (convert {} loneKeyText).toOption = some loneKeyOutput := by decide +kernel
  have empties : Empties .standard filesWithOutput loneKeyText outputArguments outputPath
      filesWithEmptyOutput := by
    refine ⟨{ output := some outputPath }, loneKeyText, loneKeyOutput, ?_, rfl, rfl, ?_, ?_, rfl,
      ?_⟩
    · decide +kernel
    · exact toOption_eq_some_iff.mp converted
    · decide
    · decide
  obtain ⟨⟨fault, ended⟩, noContent, _⟩ := kept.2 outputPath filesWithEmptyOutput empties
  have failed : ((run (FileSystem.host .standard loneKeyText) outputArguments).run
      filesWithOutput).1.exitCode ≠ 0 := by
    rw [ended]
    exact Nat.one_ne_zero
  exact ⟨failed, (kept.1 failed).1, empties, congrArg Prod.snd ended, noContent⟩

/-- A run that fails takes the content of the file, and it leaves an empty file where none was. -/
theorem lone_key_empties_output :
    let overwritten := (run (FileSystem.host .standard loneKeyText) outputArguments).run filesWithOutput
    let created := (run (FileSystem.host .standard loneKeyText) outputArguments).run {}
    (overwritten.1.exitCode = 1 ∧ filesWithOutput.read outputPath = .ok [111, 108, 100] ∧
      overwritten.2.read outputPath = .ok []) ∧
    (created.1.exitCode = 1 ∧ FileSystem.read {} outputPath = .error .noSuchFile ∧
      created.2.read outputPath = .ok []) := by
  decide +kernel

end TypeSketch.CommandLine
