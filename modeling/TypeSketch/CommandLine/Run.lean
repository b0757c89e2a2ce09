import TypeSketch.CommandLine.FileSystem
import TypeSketch.CommandLine.Invocation
import TypeSketch.Console.Notice
import TypeSketch.Convert
import TypeSketch.Sample
import TypeSketch.Text.Utf8

/-!
# Runs of the command line

A run takes its text from the sample, a file or standard input, in this order of
precedence. It checks the text, or converts it and delivers the declarations to a file
or to standard output. What a run does with files goes through a host, so the same run
is described on a value that stands for the files and carried out on real ones.

A check that succeeds, a file that is written and a fault of the input are reported by a
notice on standard error, and so is a file that cannot be opened for reading. Bytes that
are no UTF-8, an output file that cannot be opened, and declarations that cannot be encoded
are not reported but escape from the run.

How arguments are understood, how a notice is laid out, and what becomes of a text on
standard output is no concern of a run: it is described for whatever front there is. The
program has the front `Front.standard`.
-/

namespace TypeSketch

/-- The front of a run: what is done for it on the way in and on the way out. -/
structure Front where
  /-- What arguments ask for; none if they are misused. -/
  understand : List Text → Option Invocation
  /-- The text of a notice, made of a label and a message. -/
  notice : (label message : Text) → Text
  /-- What is shown of declarations if standard output is a terminal. -/
  highlight? : Option (Text → Text)
  /-- The bytes of a text in the encoding of standard output, or what is said about a text
  that has none. -/
  encode : Text → Except Text (List UInt8)

/-- The front of the program. Its standard output is no terminal and takes UTF-8. -/
def Front.standard : Front where
  understand := Invocation.ofArguments
  notice := Console.notice
  highlight? := none
  encode text := (Utf8.encode text).mapError Utf8.EncodeFault.message

/-- What a run needs from its surroundings. -/
structure Host (m : Type → Type) extends Front where
  /-- The whole of standard input. -/
  standardInput : m Text
  /-- The bytes of a file. -/
  readFile : Path → m (Except FileFault (List UInt8))
  /-- Puts bytes in place of the content of a file, which is created if need be. -/
  writeFile : Path → List UInt8 → m (Except FileFault Unit)

/-- The fault of a run that reports nothing. -/
inductive EscapedFault where
  | undecodable (fault : Utf8.DecodeFault)
  | unencodable (fault : Utf8.EncodeFault)
  /-- Standard output does not take the text, for the reason that its encoding gives. -/
  | unprintable (reason : Text)
  | unwritable (path : Path) (fault : FileFault)
deriving DecidableEq, Repr

def EscapedFault.message : EscapedFault → Text
  | .undecodable fault => fault.message
  | .unencodable fault => fault.message
  | .unprintable reason => reason
  | .unwritable path fault => fault.message path

/-- How a run ends. -/
inductive Outcome where
  /-- The arguments are misused. -/
  | misused
  | exited (code : Nat) (standardOutput standardError : Text)
  | escaped (fault : EscapedFault)
deriving DecidableEq, Repr

namespace Outcome

/-- The exit code of a run. Misused arguments have a code of their own. -/
def exitCode : Outcome → Nat
  | .misused => 2
  | .exited code _ _ => code
  | .escaped _ => 1

/-- What a run prints on standard output. -/
def standardOutput : Outcome → Text
  | .exited _ standardOutput _ => standardOutput
  | .misused | .escaped _ => []

end Outcome

namespace Front

variable (front : Front)

/-- The label of a notice of a fault. -/
def errorLabel : Text := "(json2ts) Error:"

/-- The label of a notice of a success. -/
def statusLabel : Text := "(json2ts)"

/-- The run reports a fault. -/
def failed (message : Text) : Outcome := .exited 1 [] (front.notice errorLabel message)

/-- The run reports a success. -/
def reported (message : Text) : Outcome := .exited 0 [] (front.notice statusLabel message)

/-- What standard output gets of declarations: a terminal shows them in its own way, and
otherwise they are followed by a line feed. -/
def shown (declarations : Text) : Text :=
  match front.highlight? with
  | some highlight => highlight declarations
  | none => declarations ++ "\n"

/-- How a run that prints declarations ends. -/
def printed (declarations : Text) : Outcome :=
  match front.encode (front.shown declarations) with
  | .error reason => .escaped (.unprintable reason)
  | .ok _ => .exited 0 (front.shown declarations) []

end Front

namespace CommandLine

/-- What a file that cannot be opened is reported as. -/
def unreadable (path : Path) (fault : FileFault) : Text :=
  "Could not read " ++ path.text ++ ": " ++ fault.message path

/-- The text of a file: its bytes as UTF-8, with one line feed for every line end. -/
def fileText (front : Front) (path : Path) : Except FileFault (List UInt8) → Except Outcome Text
  | .error fault => .error (front.failed (unreadable path fault))
  | .ok bytes => match Utf8.decode bytes with
    | .error fault => .error (.escaped (.undecodable fault))
    | .ok text => .ok text.unifyLineEnds

/-- How a check of a text ends. -/
def checked (front : Front) (text : Text) : Outcome :=
  if text.isBlank then front.failed "Input is empty."
  else match validate text with
    | some message => front.failed message
    | none => front.reported "Input is valid JSON."

variable {m : Type → Type} [Monad m]

/-- The text that an invocation asks for. -/
def source (host : Host m) (invocation : Invocation) : m (Except Outcome Text) :=
  if invocation.sample then return .ok sampleText
  else match invocation.input with
    | some path => return fileText host.toFront path (← host.readFile path)
    | none => return .ok (← host.standardInput)

/-- Writes a text to a file. The file is emptied before the text is encoded, so a text
that cannot be encoded leaves an empty file. -/
def writeTo (host : Host m) (path : Path) (text : Text) : m Outcome := do
  match ← host.writeFile path [] with
  | .error fault => return .escaped (.unwritable path fault)
  | .ok () =>
    match Utf8.encode text with
    | .error fault => return .escaped (.unencodable fault)
    | .ok bytes =>
      match ← host.writeFile path bytes with
      | .error fault => return .escaped (.unwritable path fault)
      | .ok () => return host.reported ("Wrote declarations to " ++ path.text)

/-- Delivers the declarations of a text: to a file with a line feed at the end, or to standard
output. -/
def deliver (host : Host m) (invocation : Invocation) (text : Text) : m Outcome :=
  match convert invocation.style text with
  | .error fault => return host.failed (fault.message text)
  | .ok declarations =>
    match invocation.output with
    | some path => writeTo host path (declarations ++ "\n")
    | none => return host.printed declarations

/-- Does what an invocation asks for. -/
def perform (host : Host m) (invocation : Invocation) : m Outcome := do
  match ← source host invocation with
  | .error outcome => return outcome
  | .ok text =>
    if invocation.check then return checked host.toFront text else deliver host invocation text

/-- Does what the arguments ask for. -/
def run (host : Host m) (arguments : List Text) : m Outcome :=
  match host.understand arguments with
  | none => return .misused
  | some invocation => perform host invocation

end CommandLine

/-- The host that a tree of files and a text on standard input make, behind a front. -/
def FileSystem.host (front : Front) (standardInput : Text) : Host (StateM FileSystem) where
  toFront := front
  standardInput := return standardInput
  readFile path := return (← get).read path
  writeFile path bytes := do
    match (← get).write path bytes with
    | .error fault => return .error fault
    | .ok system => set system; return .ok ()

end TypeSketch
