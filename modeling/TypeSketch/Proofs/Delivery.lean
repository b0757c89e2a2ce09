import TypeSketch.Proofs.UnreadableInput

/-!
# Two ways of delivery

Declarations go to standard output or to a file, with a line feed behind them either way. Two runs
that are asked for the same, but for where the declarations go, carry the same text. The one that
prints changes no file, and the one that writes changes no other file than its own. What that file
held before makes no difference: it may be the input itself, as a text is read before any is
written.

This takes a standard output that shows declarations as they are and takes no text that a file
cannot hold. A terminal does not do the one, and an encoding that lets lone surrogates pass does not
do the other. `Front.Plain` is the assumption, and the front of the program meets it.
-/

namespace TypeSketch

/-- The path leads to a file, or to a place where a file may be made. -/
def FileSystem.Writable (system : FileSystem) (path : Path) : Prop :=
  ∃ location, system.locate path = .ok location ∧ system.node? location ≠ some .directory

/-- Standard output is no terminal, and no lone surrogate can be encoded for it. -/
structure Front.Plain (front : Front) : Prop where
  noTerminal : front.highlight? = none
  strict : ∀ text bytes, front.encode text = .ok bytes → text.hasSurrogate = false

theorem Front.standard_plain : Front.standard.Plain where
  noTerminal := rfl
  strict text bytes encoded :=
    (Utf8.encode_ok_iff text).mp ⟨bytes, mapError_eq_ok_iff.mp encoded⟩

/-- What a plain standard output takes are the declarations and a line feed, which a file can hold
as well. -/
theorem Front.Plain.storable {front : Front} (plain : front.Plain) {declarations : Text}
    {bytes : List UInt8} (encoded : front.encode (front.shown declarations) = .ok bytes) :
    front.shown declarations = declarations ++ "\n" ∧
      ∃ stored, Utf8.encode (declarations ++ "\n") = .ok stored := by
  have shown : front.shown declarations = declarations ++ "\n" := by
    rw [Front.shown, plain.noTerminal]
  refine ⟨shown, (Utf8.encode_ok_iff _).mpr ?_⟩
  rw [← shown]
  exact plain.strict _ bytes encoded

namespace CommandLine

variable {front : Front} {system : FileSystem} {standardInput text : Text} {invocation : Invocation}

/-- The text that a run is supplied with. The sample comes before a file, so a file that is named
along with it need not be there, and a file comes before standard input. -/
inductive Supplies (system : FileSystem) (standardInput : Text) (invocation : Invocation) :
    Text → Prop where
  | sample (isSample : invocation.sample = true) :
      Supplies system standardInput invocation sampleText
  | file {path : Path} {bytes : List UInt8} {stored : Text}
      (noSample : invocation.sample = false) (named : invocation.input = some path)
      (held : system.read path = .ok bytes) (encoded : Utf8.encode stored = .ok bytes) :
      Supplies system standardInput invocation stored.unifyLineEnds
  | standardInput (noSample : invocation.sample = false) (unnamed : invocation.input = none) :
      Supplies system standardInput invocation standardInput

/-- Where the declarations go has no part in where the text comes from. -/
theorem Supplies.redirected (supplies : Supplies system standardInput invocation text)
    (output : Option Path) :
    Supplies system standardInput { invocation with output := output } text := by
  cases supplies with
  | sample isSample => exact .sample isSample
  | file noSample named held encoded => exact .file noSample named held encoded
  | standardInput noSample unnamed => exact .standardInput noSample unnamed

theorem supplies_iff :
    Supplies system standardInput invocation text ↔
      sourceText front system standardInput invocation = .ok text := by
  constructor
  · intro supplies
    cases supplies with
    | sample isSample => rw [sourceText, if_pos isSample]
    | file noSample named held encoded =>
      rw [sourceText_of_file noSample named, held, fileText, Utf8.decode_encode encoded]
    | standardInput noSample unnamed =>
      rw [sourceText, noSample, if_neg Bool.false_ne_true, unnamed]
  · intro given
    by_cases isSample : invocation.sample = true
    · rw [sourceText, if_pos isSample] at given
      cases given
      exact .sample isSample
    · rw [Bool.not_eq_true] at isSample
      cases named : invocation.input with
      | none =>
        rw [sourceText, isSample, if_neg Bool.false_ne_true, named] at given
        cases given
        exact .standardInput isSample named
      | some path =>
        rw [sourceText_of_file isSample named] at given
        rcases fileText_cases front path (system.read path) with ⟨_, -, unread⟩ | ⟨_, _, -, -, unread⟩ |
          ⟨bytes, stored, held, decoded, read⟩
        · cases unread.symm.trans given
        · cases unread.symm.trans given
        · cases read.symm.trans given
          exact .file isSample named held (Utf8.decode_eq_ok_iff.mp decoded)

/-- Declarations that are printed well are shown whole, and they have been encoded. -/
theorem printed_well {declarations : Text} (ended : (front.printed declarations).exitCode = 0) :
    front.printed declarations = .exited 0 (front.shown declarations) [] ∧
      ∃ bytes, front.encode (front.shown declarations) = .ok bytes := by
  cases encoded : front.encode (front.shown declarations) with
  | error reason =>
    rw [Front.printed, encoded] at ended
    exact absurd ended Nat.one_ne_zero
  | ok bytes => exact ⟨by rw [Front.printed, encoded], bytes, rfl⟩

/-- A run that converts and ends well without a file to write shows the declarations of its text
and leaves all files as they are. -/
theorem run_prints {arguments : List Text}
    (asked : front.understand arguments = some invocation)
    (noCheck : invocation.check = false) (toOutput : invocation.output = none)
    (ended : ((run (FileSystem.host front standardInput) arguments).run system).1.exitCode = 0) :
    ∃ text declarations, Supplies system standardInput invocation text ∧
      convert invocation.style text = .ok declarations ∧
      (∃ bytes, front.encode (front.shown declarations) = .ok bytes) ∧
      (run (FileSystem.host front standardInput) arguments).run system =
        (.exited 0 (front.shown declarations) [], system) := by
  have ends : Ends front system standardInput arguments
      ((run (FileSystem.host front standardInput) arguments).run system) := run_ends arguments
  generalize (run (FileSystem.host front standardInput) arguments).run system = whole at ends ended ⊢
  cases ends with
  | misused refused => exact nomatch refused.symm.trans asked
  | unread _ noText =>
    exact absurd ended (by rw [(sourceText_error noText).1]; exact Nat.one_ne_zero)
  | checked askedAgain _ isCheck =>
    cases asked.symm.trans askedAgain
    exact nomatch noCheck.symm.trans isCheck
  | unconverted => exact absurd ended Nat.one_ne_zero
  | printed askedAgain given _ converted _ =>
    cases asked.symm.trans askedAgain
    obtain ⟨whole, encoded⟩ := printed_well ended
    exact ⟨_, _, supplies_iff.mpr given, converted, encoded, by rw [whole]⟩
  | delivered askedAgain _ _ _ toFile _ =>
    cases asked.symm.trans askedAgain
    exact nomatch toOutput.symm.trans toFile

/-- A text that can be stored is written where something can be written. -/
theorem writes_stored {path : Path} {bytes : List UInt8} {ended : Outcome × FileSystem}
    (writes : Writes front system path text ended) (writable : system.Writable path)
    (encoded : Utf8.encode text = .ok bytes) :
    system.write path bytes = .ok ended.2 ∧ ended.1.exitCode = 0 ∧ ended.1.standardOutput = [] := by
  obtain ⟨location, located, noDirectory⟩ := writable
  cases writes with
  | unwritable refused =>
    have opened : system.write path [] = .ok (system.put location (.file [])) :=
      FileSystem.write_eq_ok_iff.mpr ⟨location, located, noDirectory, rfl⟩
    exact nomatch refused.symm.trans opened
  | unencodable _ unencoded => exact nomatch unencoded.symm.trans encoded
  | written encodedAgain stored =>
    cases encoded.symm.trans encodedAgain
    exact ⟨stored, rfl, rfl⟩

/-- A run with a file to write puts the declarations there, and there only. -/
theorem run_writes {arguments : List Text} {path : Path} {declarations : Text} {bytes : List UInt8}
    (asked : front.understand arguments = some invocation)
    (noCheck : invocation.check = false) (toFile : invocation.output = some path)
    (writable : system.Writable path) (supplied : Supplies system standardInput invocation text)
    (converted : convert invocation.style text = .ok declarations)
    (encoded : Utf8.encode (declarations ++ "\n") = .ok bytes) :
    let ended := (run (FileSystem.host front standardInput) arguments).run system
    system.write path bytes = .ok ended.2 ∧ ended.1.exitCode = 0 ∧ ended.1.standardOutput = [] := by
  intro ended
  have delivered : ended =
      (writeTo (FileSystem.host front standardInput) path (declarations ++ "\n")).run system := by
    change (run (FileSystem.host front standardInput) arguments).run system = _
    rw [run_asked asked, supplies_iff.mp supplied]
    dsimp only
    rw [noCheck, if_neg Bool.false_ne_true, deliver, converted]
    dsimp only
    rw [toFile]
  rw [delivered]
  exact writes_stored (writeTo_writes path _) writable encoded

/-- Both ways of delivery carry the same text, and all of it, behind every front with a plain
standard output. When a run that is to print its declarations ends well, what it prints are the
declarations of its text and a line feed, and no file has changed. The run that is to write them to
a file ends well too, prints nothing and leaves just what the other one prints in the file, whatever
was there; nothing else has changed. -/
theorem deliveries_agree (front : Front) (plain : front.Plain) (system : FileSystem)
    (standardInput printedText : Text) (toOutput toFile : List Text) (invocation : Invocation)
    (path : Path)
    (askedOutput : front.understand toOutput = some { invocation with output := none })
    (askedFile : front.understand toFile = some { invocation with output := some path })
    (noCheck : invocation.check = false) (writable : system.Writable path) :
    let onOutput := (run (FileSystem.host front standardInput) toOutput).run system
    let onFile := (run (FileSystem.host front standardInput) toFile).run system
    onOutput.1.exitCode = 0 → onOutput.1.standardOutput = printedText →
    ((∃ text declarations, Supplies system standardInput invocation text ∧
        convert invocation.style text = .ok declarations ∧ printedText = declarations ++ "\n") ∧
      onOutput.2 = system) ∧
    (onFile.1.exitCode = 0 ∧ onFile.1.standardOutput = []) ∧
    (∃ bytes, Utf8.encode printedText = .ok bytes ∧ onFile.2.read path = .ok bytes) ∧
    ∃ location, system.locate path = .ok location ∧
      ∀ other, other ≠ location → onFile.2.node? other = system.node? other := by
  intro onOutput onFile endedWell isPrinted
  obtain ⟨text, declarations, supplied, converted, ⟨_, taken⟩, ended⟩ :=
    run_prints askedOutput noCheck rfl endedWell
  obtain ⟨shown, bytes, encoded⟩ := plain.storable taken
  have whole : onOutput = (.exited 0 (declarations ++ "\n") [], system) := by rw [← shown, ← ended]
  rw [whole] at isPrinted
  have same : declarations ++ "\n" = printedText := isPrinted
  obtain ⟨written, exits, nothing⟩ := run_writes askedFile noCheck rfl writable
    (supplied.redirected (some path)) converted encoded
  refine ⟨⟨⟨text, declarations, supplied.redirected invocation.output, converted, same.symm⟩, ?_⟩,
    ⟨exits, nothing⟩, ⟨bytes, same ▸ encoded, FileSystem.read_written written⟩,
    FileSystem.write_elsewhere written⟩
  rw [whole]

/-- A document in the file that is to be written, with another file beside it. -/
def overwrittenFiles : FileSystem :=
  FileSystem.addFile (FileSystem.addFile {} [Text.ofString "a"] [0x7B, 0x7D])
    [Text.ofString "b"] [0xFF]

def overwrittenOutput : Text := "export interface Root \x7b\n\x7d\n"

/-- The input is overwritten with its own declarations, and the file beside it stays. -/
theorem input_overwritten_with_declarations :
    let reading := (run (FileSystem.host .standard []) [Text.ofString "--input=a"]).run
      overwrittenFiles
    let overwriting := (run (FileSystem.host .standard [])
      [Text.ofString "--output=a", Text.ofString "--input=a"]).run overwrittenFiles
    reading.1 = .exited 0 overwrittenOutput [] ∧ overwriting.1.exitCode = 0 ∧
      (∃ bytes, Utf8.encode overwrittenOutput = .ok bytes ∧
        overwriting.2.read (Path.ofText "a") = .ok bytes) ∧
      overwriting.2.node? [Text.ofString "b"] = some (.file [0xFF]) := by
  intro reading overwriting
  have isPrinted : reading.1 = .exited 0 overwrittenOutput [] := by decide +kernel
  have located : overwrittenFiles.locate (Path.ofText "a") = .ok [Text.ofString "a"] := by
    decide +kernel
  have writable : overwrittenFiles.Writable (Path.ofText "a") :=
    ⟨_, located, by decide +kernel⟩
  obtain ⟨_, ⟨exits, _⟩, holds, location, locatedAgain, elsewhere⟩ :=
    deliveries_agree .standard Front.standard_plain overwrittenFiles [] overwrittenOutput
      [Text.ofString "--input=a"]
      [Text.ofString "--output=a", Text.ofString "--input=a"]
      { input := some (Path.ofText "a") } (Path.ofText "a")
      (by decide +kernel) (by decide +kernel) rfl writable
      (congrArg Outcome.exitCode isPrinted) (congrArg Outcome.standardOutput isPrinted)
  obtain rfl := Except.ok.inj (located.symm.trans locatedAgain)
  have beside : overwrittenFiles.node? [Text.ofString "b"] = some (.file [0xFF]) := by
    decide +kernel
  exact ⟨isPrinted, exits, holds, (elsewhere _ (by decide +kernel)).trans beside⟩

end CommandLine

end TypeSketch
