import TypeSketch.CommandLine.Run

/-!
# The program

Carries out a run of the command line on the real files and the standard streams.
-/

namespace TypeSketch.Program

/-- The characters of a text. Arguments of a program hold no lone surrogates. -/
def stringOf (t : Text) : String :=
  String.ofList (t.filterMap fun | .scalar c => some c | .surrogate _ => none)

/-- The number of a system error; some calls give it with the opposite sign. -/
def numberOf (code : UInt32) : Nat := code.toInt32.toInt.natAbs

/-- The fault that an error of the system stands for. -/
def faultOf : IO.Error → FileFault
  | .noFileOrDirectory _ _ _ => .noSuchFile
  | .inappropriateType _ code details =>
    if numberOf code = FileFault.notADirectory.number then .notADirectory
    else if numberOf code = FileFault.isADirectory.number then .isADirectory
    else .other (numberOf code) details
  | .permissionDenied _ code details => .other (numberOf code) details
  | .invalidArgument _ code details => .other (numberOf code) details
  | .resourceExhausted _ code details => .other (numberOf code) details
  | error => .other 5 error.toString

/-- The outcome of an action on a file. -/
def observed {α : Type} (action : IO α) : IO (Except FileFault α) := do
  try return .ok (← action)
  catch error => return .error (faultOf error)

/-- Standard input as text. -/
def standardInput : IO Text := do
  let bytes ← (← IO.getStdin).readBinToEnd
  match Utf8.decode bytes.toList with
  | .ok text => return text
  | .error fault => throw (IO.userError (stringOf fault.message))

/-- The real files and streams. Nothing is highlighted on a terminal. -/
def host : Host IO where
  toFront := .standard
  standardInput := standardInput
  readFile path := observed do return (← IO.FS.readBinFile (stringOf path.text)).toList
  writeFile path bytes := observed (IO.FS.writeBinFile (stringOf path.text) bytes.toByteArray)

/-- Writes a text to a stream. -/
def put (stream : IO.FS.Stream) (text : Text) : IO Unit := do
  match Utf8.encode text with
  | .ok bytes => stream.write bytes.toByteArray; stream.flush
  | .error fault => throw (IO.userError (stringOf fault.message))

/-- What is said about misused arguments. -/
def usage : Text :=
  "usage: [--input PATH] [--output PATH] [--[no-]sample] [--[no-]check] " ++
    "[--config.[no-]use-interfaces] [--config.[no-]use-optional-fields]\n"

/-- What is said on standard error about a run. -/
def messages : Outcome → Text
  | .misused => usage
  | .exited _ _ standardError => standardError
  | .escaped fault => fault.message ++ "\n"

end TypeSketch.Program

/-- Carries out the run that the arguments ask for, and gives its exit code. -/
def main (arguments : List String) : IO UInt32 := do
  let outcome ← TypeSketch.CommandLine.run TypeSketch.Program.host
    (arguments.map TypeSketch.Text.ofString)
  TypeSketch.Program.put (← IO.getStdout) outcome.standardOutput
  TypeSketch.Program.put (← IO.getStderr) (TypeSketch.Program.messages outcome)
  return UInt32.ofNat outcome.exitCode
