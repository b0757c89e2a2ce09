import TypeSketch.CommandLine.Path
import TypeSketch.Declaration
import TypeSketch.Text.Alphabetic
import TypeSketch.Text.Ascii
import TypeSketch.Text.Fields

/-!
# Invocations

The arguments of a run are flags, which stand alone, and settings, which name a path in
the next argument or after an equals sign. Of several arguments for the same thing the
last one counts. Inside the name of an option a low line counts as a hyphen, and a
setting whose value is the word None is taken back. What follows a flag and an equals
sign is an argument of its own. Two hyphens alone may end the arguments. Anything else is
misuse.
-/

namespace TypeSketch

/-- What a run is asked to do. -/
structure Invocation where
  /-- The file to read; standard input is read if there is none. -/
  input : Option Path := none
  /-- The file to write; standard output is written if there is none. -/
  output : Option Path := none
  /-- The sample document is taken instead of any input. -/
  sample : Bool := false
  /-- The input is only checked. -/
  check : Bool := false
  style : Style := {}
deriving DecidableEq, Repr

namespace Invocation

/-- The options that stand alone, with what they change. -/
def flags : List (Text × (Invocation → Invocation)) :=
  [("--sample", fun i => { i with sample := true }),
    ("--no-sample", fun i => { i with sample := false }),
    ("--check", fun i => { i with check := true }),
    ("--no-check", fun i => { i with check := false }),
    ("--config.use-interfaces", fun i => { i with style.useInterfaces := true }),
    ("--config.no-use-interfaces", fun i => { i with style.useInterfaces := false }),
    ("--config.use-optional-fields", fun i => { i with style.useOptionalFields := true }),
    ("--config.no-use-optional-fields", fun i => { i with style.useOptionalFields := false })]

/-- The options that take a path, with what they change. -/
def settings : List (Text × (Option Path → Invocation → Invocation)) :=
  [("--input", fun path i => { i with input := path }),
    ("--output", fun path i => { i with output := path })]

/-- The path that a value names. -/
def pathOf (value : Text) : Option Path :=
  if value = Text.ofString "None" then none else some (Path.ofText value)

/-- A text cut at its first equals sign, if it has one. -/
def cut? (token : Text) : Option (Text × Text) :=
  match token.span (· != .scalar '=') with
  | (_, []) => none
  | (name, _ :: value) => some (name, value)

/-- The name of an option with hyphens for low lines, except at its start. -/
def hyphenated : Text → Text
  | .scalar '-' :: .scalar '-' :: name =>
    let low := name.takeWhile (· == .scalar '_')
    "--" ++ low ++ (name.drop low.length).map fun c => if c = .scalar '_' then .scalar '-' else c
  | name => name

/-- The plain arguments for one that begins with a name and has these fields behind its
equals signs: names have their hyphens, and a flag stands apart from what follows it. -/
def unfolded (name : Text) : List Text → List Text
  | [] => [hyphenated name]
  | field :: later =>
    if (flags.lookup (hyphenated name)).isSome then hyphenated name :: unfolded field later
    else [hyphenated name ++ (field :: later).flatMap (.scalar '=' :: ·)]

/-- The plain arguments for an argument. -/
def plain (argument : Text) : List Text :=
  let (name, fields) := argument.fields (.scalar '=')
  unfolded name fields

/-- The words for numbers that no digits spell. -/
def numberWords : List Text := ["inf", "infinity", "nan"]

/-- Whether an argument is a minus sign and a word for a number, up to its first equals sign.
Capitals count as small letters, and blanks around the word do not count. -/
def spellsNumber : Text → Bool
  | .scalar '-' :: rest =>
    let word := rest.takeWhile (· != .scalar '=')
    numberWords.contains ((Text.strip word).map CodePoint.toLower)
  | _ => false

/-- Whether an argument looks like an option: its hyphens, one or more, are followed by a
letter, and it does not spell a number. -/
def looksLikeOption (token : Text) : Bool :=
  let name := token.dropWhile (· == .scalar '-')
  token.head? == some (.scalar '-') && name.head?.any CodePoint.isAlphabetic && !spellsNumber token

/-- The argument that ends the options. -/
def terminator : Text := "--"

/-- Whether an argument can be the value of the setting before it. -/
def isValue (token : Text) : Bool := !looksLikeOption token && token != terminator

/-- The invocation that the arguments make of another one. -/
def apply : List Text → Invocation → Option Invocation
  | [], invocation => some invocation
  | token :: rest, invocation =>
    if token = terminator then (if rest.isEmpty then some invocation else none)
    else match flags.lookup token, settings.lookup token, rest with
      | some change, _, rest => apply rest (change invocation)
      | none, some change, value :: rest =>
        if isValue value then apply rest (change (pathOf value) invocation) else none
      | none, some _, [] => none
      | none, none, rest =>
        match cut? token with
        | none => none
        | some (name, value) =>
          match settings.lookup name with
          | none => none
          | some change => apply rest (change (pathOf value) invocation)

/-- The invocation that the arguments ask for; none if they are misused. -/
def ofArguments (arguments : List Text) : Option Invocation := apply (arguments.flatMap plain) {}

end Invocation

end TypeSketch
