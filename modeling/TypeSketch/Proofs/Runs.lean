import TypeSketch.CommandLine.Run
import TypeSketch.Proofs.Content
import TypeSketch.Proofs.Fallible

/-!
# Runs on a tree of files

What a run does on the host that a tree of files and a standard input make behind a front. A run
ends in one of six ways, told by `Ends` from what its arguments ask for, what its source holds and
what the conversion gives. Only the last way leaves other files than there were, and those differ
at one location. Nothing is assumed of the front: arguments may be understood in any way, notices
may be laid out in any way, and standard output may have any encoding or be a terminal.

Writing goes in two steps, as a file is emptied before the text is encoded. The first step
changes no directory, so the second one finds the same place.
-/

namespace TypeSketch

namespace Entries

/-- Of two values put under a key the second one counts. -/
theorem put_put {κ α : Type} [BEq κ] [LawfulBEq κ] (key : κ) (first second : α)
    (entries : List (κ × α)) :
    put (· == ·) key second (put (· == ·) key first entries) =
      put (· == ·) key second entries := by
  induction entries with
  | nil => simp [put]
  | cons entry rest inductionHypothesis =>
    obtain ⟨other, old⟩ := entry
    by_cases same : other = key
    · simp [put, same]
    · simp [put, same, inductionHypothesis]

end Entries

namespace FileSystem

variable {system after : FileSystem} {path : Path} {bytes : List UInt8}

theorem host_toFront (front : Front) (standardInput : Text) :
    (host front standardInput).toFront = front := rfl

theorem put_put (system : FileSystem) (location : Location) (first second : Node) :
    (system.put location first).put location second = system.put location second := by
  simp only [put, Entries.put_put]

/-- What is put where no directory was is found there. -/
theorem node?_put_self {location : Location} (noDirectory : system.node? location ≠ some .directory)
    (node : Node) : (system.put location node).node? location = some node := by
  rw [node?] at noDirectory ⊢
  split at noDirectory
  · exact absurd rfl noDirectory
  · next outside =>
    rw [put, if_neg outside, Entries.lookup_put, beq_self_eq_true, if_pos rfl]

/-- Nothing else changes. -/
theorem node?_put_other {location other : Location} (different : other ≠ location) (node : Node) :
    (system.put location node).node? other = system.node? other := by
  rw [node?, node?, put, Entries.lookup_put, beq_eq_false_iff_ne.mpr different]
  rfl

/-- A path that leads somewhere goes through directories, so it leads there still when a file
is put where no directory was. -/
theorem follow_put {location there : Location}
    (noDirectory : system.node? location ≠ some .directory) (node : Node) {here : Location}
    {parts : List Text} (followed : system.follow here parts = .ok there) :
    (system.put location node).follow here parts = .ok there := by
  fun_induction follow system here parts with
  | case1 here => exact followed
  | case2 here rest inductionHypothesis =>
    rw [follow, if_pos rfl]
    exact inductionHypothesis followed
  | case3 here part rest noDots ended =>
    rw [follow, if_neg noDots, if_pos ended]
    exact followed
  | case4 here part rest noDots more isDirectory inductionHypothesis =>
    have different : here ++ [part] ≠ location := by
      rintro rfl
      exact noDirectory isDirectory
    rw [follow, if_neg noDots, if_neg more, node?_put_other different, isDirectory]
    exact inductionHypothesis followed
  | case5 => exact absurd followed (by simp)
  | case6 => exact absurd followed (by simp)

/-- Bytes are written where a path leads, unless a directory is there. -/
theorem write_eq_ok_iff : system.write path bytes = .ok after ↔
    ∃ location, system.locate path = .ok location ∧
      system.node? location ≠ some .directory ∧ after = system.put location (.file bytes) := by
  rw [write, bind_eq_ok_iff]
  constructor
  · rintro ⟨location, located, written⟩
    refine ⟨location, located, ?_⟩
    split at written
    · exact absurd written (by simp [throw, throwThe, MonadExceptOf.throw])
    · next noDirectory => exact ⟨noDirectory, (Except.ok.inj written).symm⟩
  · rintro ⟨location, located, noDirectory, rfl⟩
    refine ⟨location, located, ?_⟩
    split
    · next isDirectory => exact absurd isDirectory noDirectory
    · rfl

/-- A path leads to the same place when something was written there. -/
theorem locate_put {location : Location} (located : system.locate path = .ok location)
    (noDirectory : system.node? location ≠ some .directory) (node : Node) :
    (system.put location node).locate path = .ok location :=
  follow_put noDirectory node located

/-- What is written at a path is read there. -/
theorem read_written (written : system.write path bytes = .ok after) :
    after.read path = .ok bytes := by
  obtain ⟨location, located, noDirectory, rfl⟩ := write_eq_ok_iff.mp written
  rw [read, locate_put located noDirectory]
  simp only [bind, Except.bind, node?_put_self noDirectory]
  rfl

/-- All other places are as they were. -/
theorem write_elsewhere (written : system.write path bytes = .ok after) :
    ∃ location, system.locate path = .ok location ∧
      ∀ other, other ≠ location → after.node? other = system.node? other := by
  obtain ⟨location, located, noDirectory, rfl⟩ := write_eq_ok_iff.mp written
  refine ⟨location, located, ?_⟩
  intro other different
  exact node?_put_other different _

/-- Writing once more replaces what was written first. -/
theorem write_again (written : system.write path bytes = .ok after) (others : List UInt8) :
    ∃ again, system.write path others = .ok again ∧ after.write path others = .ok again := by
  obtain ⟨location, located, noDirectory, rfl⟩ := write_eq_ok_iff.mp written
  refine ⟨system.put location (.file others), ?_, ?_⟩
  · exact write_eq_ok_iff.mpr ⟨location, located, noDirectory, rfl⟩
  · refine write_eq_ok_iff.mpr ⟨location, locate_put located noDirectory _, ?_, ?_⟩
    · rw [node?_put_self noDirectory]
      simp
    · rw [put_put]

end FileSystem

namespace CommandLine

/-- The text that an invocation asks for, in a tree of files and with a standard input. -/
def sourceText (front : Front) (system : FileSystem) (standardInput : Text)
    (invocation : Invocation) : Except Outcome Text :=
  if invocation.sample then .ok sampleText
  else match invocation.input with
    | some path => fileText front path (system.read path)
    | none => .ok standardInput

variable {front : Front} {system after : FileSystem} {standardInput : Text}

/-- The source of a run whose input is a file. -/
theorem sourceText_of_file {invocation : Invocation} {path : Path}
    (noSample : invocation.sample = false) (named : invocation.input = some path) :
    sourceText front system standardInput invocation = fileText front path (system.read path) := by
  rw [sourceText, noSample, if_neg Bool.false_ne_true, named]

/-- A source without a text is reported on standard error, or its fault escapes. -/
theorem sourceText_error {invocation : Invocation} {outcome : Outcome}
    (noText : sourceText front system standardInput invocation = .error outcome) :
    outcome.exitCode = 1 ∧ outcome.standardOutput = [] := by
  rw [sourceText] at noText
  split at noText
  · cases noText
  · split at noText
    · next path _ =>
      rw [fileText.eq_def] at noText
      split at noText
      · cases noText
        exact ⟨rfl, rfl⟩
      · split at noText
        · cases noText
          exact ⟨rfl, rfl⟩
        · cases noText
    · cases noText

theorem source_run (invocation : Invocation) :
    (source (FileSystem.host front standardInput) invocation).run system =
      (sourceText front system standardInput invocation, system) := by
  rw [source, sourceText]
  by_cases isSample : invocation.sample = true
  · rw [if_pos isSample, if_pos isSample]
    rfl
  · rw [if_neg isSample, if_neg isSample]
    cases invocation.input <;> rfl

/-- What comes behind an action goes on with what the action gave and left. -/
theorem run_then {α β : Type} {action : StateM FileSystem α} {value : α}
    (ran : action.run system = (value, after)) (next : α → StateM FileSystem β) :
    (action >>= next).run system = (next value).run after := by
  rw [StateT.run_bind, ran]
  rfl

/-- A file that cannot be written leaves all files as they are. -/
theorem writeFile_run (path : Path) (bytes : List UInt8) :
    ((FileSystem.host front standardInput).writeFile path bytes).run system =
      match system.write path bytes with
      | .error fault => (.error fault, system)
      | .ok after => (.ok (), after) := by
  change (match system.write path bytes with
    | .error fault => pure (.error fault)
    | .ok after => do set after; return .ok () : StateM FileSystem (Except FileFault Unit)).run
      system = _
  cases system.write path bytes <;> rfl

/-- How writing a text to a file ends, and which files there are then. -/
inductive Writes (front : Front) (system : FileSystem) (path : Path) (text : Text) :
    Outcome × FileSystem → Prop where
  | unwritable {fault : FileFault} (refused : system.write path [] = .error fault) :
      Writes front system path text (.escaped (.unwritable path fault), system)
  | unencodable {emptied : FileSystem} {fault : Utf8.EncodeFault}
      (opened : system.write path [] = .ok emptied) (unencoded : Utf8.encode text = .error fault) :
      Writes front system path text (.escaped (.unencodable fault), emptied)
  | written {bytes : List UInt8} {after : FileSystem} (encoded : Utf8.encode text = .ok bytes)
      (stored : system.write path bytes = .ok after) :
      Writes front system path text (front.reported ("Wrote declarations to " ++ path.text), after)

theorem writeTo_writes (path : Path) (text : Text) :
    Writes front system path text ((writeTo (FileSystem.host front standardInput) path text).run system) := by
  have first : ((FileSystem.host front standardInput).writeFile path []).run system = _ :=
    writeFile_run path []
  cases opened : system.write path [] with
  | error fault =>
    rw [opened] at first
    rw [writeTo, run_then first]
    exact .unwritable opened
  | ok emptied =>
    rw [opened] at first
    rw [writeTo, run_then first]
    dsimp only
    cases encoded : Utf8.encode text with
    | error fault => exact .unencodable opened encoded
    | ok bytes =>
      obtain ⟨again, stored, storedAgain⟩ := FileSystem.write_again opened bytes
      have second : ((FileSystem.host front standardInput).writeFile path bytes).run emptied = _ :=
        writeFile_run path bytes
      rw [storedAgain] at second
      dsimp only
      rw [run_then second]
      exact .written encoded stored

/-- A run whose arguments are understood looks for its text, and then checks or delivers it. -/
theorem run_asked {arguments : List Text} {invocation : Invocation}
    (asked : front.understand arguments = some invocation) :
    (run (FileSystem.host front standardInput) arguments).run system =
      match sourceText front system standardInput invocation with
      | .error outcome => (outcome, system)
      | .ok text =>
        if invocation.check then (checked front text, system)
        else (deliver (FileSystem.host front standardInput) invocation text).run system := by
  rw [run, FileSystem.host_toFront, asked]
  dsimp only
  rw [perform, run_then (source_run invocation)]
  cases sourceText front system standardInput invocation with
  | error outcome => rfl
  | ok text =>
    dsimp only
    split <;> rfl

/-- How a run ends, and which files there are then. -/
inductive Ends (front : Front) (system : FileSystem) (standardInput : Text)
    (arguments : List Text) : Outcome × FileSystem → Prop where
  | misused (refused : front.understand arguments = none) :
      Ends front system standardInput arguments (.misused, system)
  | unread {invocation : Invocation} {outcome : Outcome}
      (asked : front.understand arguments = some invocation)
      (noText : sourceText front system standardInput invocation = .error outcome) :
      Ends front system standardInput arguments (outcome, system)
  | checked {invocation : Invocation} {text : Text}
      (asked : front.understand arguments = some invocation)
      (given : sourceText front system standardInput invocation = .ok text)
      (isCheck : invocation.check = true) :
      Ends front system standardInput arguments (checked front text, system)
  | unconverted {invocation : Invocation} {text : Text} {fault : ConvertFault}
      (asked : front.understand arguments = some invocation)
      (given : sourceText front system standardInput invocation = .ok text)
      (noCheck : invocation.check = false)
      (failed : convert invocation.style text = .error fault) :
      Ends front system standardInput arguments (front.failed (fault.message text), system)
  | printed {invocation : Invocation} {text declarations : Text}
      (asked : front.understand arguments = some invocation)
      (given : sourceText front system standardInput invocation = .ok text)
      (noCheck : invocation.check = false)
      (converted : convert invocation.style text = .ok declarations)
      (toOutput : invocation.output = none) :
      Ends front system standardInput arguments (front.printed declarations, system)
  | delivered {invocation : Invocation} {text declarations : Text} {path : Path}
      {ended : Outcome × FileSystem}
      (asked : front.understand arguments = some invocation)
      (given : sourceText front system standardInput invocation = .ok text)
      (noCheck : invocation.check = false)
      (converted : convert invocation.style text = .ok declarations)
      (toFile : invocation.output = some path)
      (writes : Writes front system path (declarations ++ "\n") ended) :
      Ends front system standardInput arguments ended

/-- Every run ends in one of these ways. -/
theorem run_ends (arguments : List Text) :
    Ends front system standardInput arguments
      ((run (FileSystem.host front standardInput) arguments).run system) := by
  cases asked : front.understand arguments with
  | none =>
    rw [run, FileSystem.host_toFront, asked]
    exact .misused asked
  | some invocation =>
    rw [run_asked asked]
    cases given : sourceText front system standardInput invocation with
    | error outcome => exact .unread asked given
    | ok text =>
      dsimp only
      split
      · next isCheck => exact .checked asked given isCheck
      · next noCheck =>
        rw [Bool.not_eq_true] at noCheck
        rw [deliver]
        cases converted : convert invocation.style text with
        | error fault => exact .unconverted asked given noCheck converted
        | ok declarations =>
          dsimp only
          split
          · next path toFile =>
            exact .delivered asked given noCheck converted toFile (writeTo_writes path _)
          · next toOutput => exact .printed asked given noCheck converted toOutput

end CommandLine

end TypeSketch
