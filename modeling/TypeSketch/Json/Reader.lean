import TypeSketch.Entries
import TypeSketch.Json.Basic
import TypeSketch.Json.NumberLiteral
import TypeSketch.Json.StringLiteral
import TypeSketch.Nesting
import TypeSketch.Text.Blank

/-!
# Reading documents

The reader descends through the grammar of JSON and gives the value it has read
together with the text that remains. The depth it may still descend bounds the nesting,
and the length of the whole text bounds the items of one container, as each takes at
least one code point. A key that an object repeats keeps its first place and gets the
last value.
-/

namespace TypeSketch.Reader

def skipBlanks (t : Text) : Text := t.dropWhile CodePoint.isJsonBlank

/-- The words that stand for values, and those that are refused because JSON has no such
numbers. -/
def words : List (Text × Except ReadFault Document) :=
  [("null", .ok .null), ("true", .ok (.bool true)), ("false", .ok (.bool false)),
    ("NaN", .error (.constant "NaN")), ("Infinity", .error (.constant "Infinity")),
    ("-Infinity", .error (.constant "-Infinity"))]

/-- The outcome of the word that the text begins with, and what follows the word. -/
def word? (t : Text) : Option (Except ReadFault Document × Text) :=
  words.findSome? fun (word, outcome) => (word.isPrefixOf? t).map (outcome, ·)

/-- A word or a number. -/
def wordOrNumber (t : Text) : Except ReadFault (Document × Text) :=
  match word? t with
  | some (outcome, rest) => outcome.map (·, rest)
  | none => match NumberLiteral.read? t with
    | some (literal, rest) => literal.number.map (.number ·, rest)
    | none => .error (.malformed .value t)

/-- Items with commas between them, up to the closing mark. There is at least one item,
and a comma is followed by another. The number bounds how many items there may be; it is
never reached when it is at least the length of the text. -/
def items {α : Type} (close : Char) (item : Text → Except ReadFault (α × Text)) :
    Nat → Text → Except ReadFault (List α × Text)
  | 0, t => .error (.malformed .comma t)
  | bound + 1, t => do
    let (first, rest) ← item t
    match skipBlanks rest with
    | .scalar c :: rest =>
      if c = close then return ([first], rest)
      else if c = ',' then
        let (others, rest) ← items close item bound (skipBlanks rest)
        return (first :: others, rest)
      else .error (.malformed .comma (.scalar c :: rest))
    | rest => .error (.malformed .comma rest)

/-- The items of a container whose opening mark is past. -/
def container {α : Type} (bound : Nat) (close : Char)
    (item : Text → Except ReadFault (α × Text)) (t : Text) : Except ReadFault (List α × Text) :=
  match skipBlanks t with
  | .scalar c :: rest =>
    if c = close then .ok ([], rest) else items close item bound (.scalar c :: rest)
  | rest => items close item bound rest

/-- A key, a colon and a value. -/
def member (value : Text → Except ReadFault (Document × Text)) (t : Text) :
    Except ReadFault ((Text × Document) × Text) :=
  match t with
  | .scalar '"' :: body => do
    let (key, rest) ← StringLiteral.read t body
    match skipBlanks rest with
    | .scalar ':' :: rest =>
      let (value, rest) ← value (skipBlanks rest)
      return ((key, value), rest)
    | rest => .error (.malformed .colon rest)
  | _ => .error (.malformed .propertyName t)

/-- The value that the text begins with, and what follows it. The bound is for the items of
each container, and the depth counts the containers that may still be entered. -/
def value (bound : Nat) : (depth : Nat) → Text → Except ReadFault (Document × Text)
  | _, .scalar '"' :: body => do
    let (text, rest) ← StringLiteral.read (.scalar '"' :: body) body
    return (.string text, rest)
  | 0, .scalar '[' :: _ => .error .tooDeep
  | 0, .scalar '{' :: _ => .error .tooDeep
  | depth + 1, .scalar '[' :: rest => do
    let (elements, rest) ← container bound ']' (value bound depth) rest
    return (.array elements, rest)
  | depth + 1, .scalar '{' :: rest => do
    let (members, rest) ← container bound '}' (member (value bound depth)) rest
    return (.object (Entries.ofPairs (· == ·) members), rest)
  | _, t => wordOrNumber t

/-- The value of a text: blanks, one value, blanks. -/
def text (t : Text) : Except ReadFault Document :=
  if t.head? = some (.ofNat 0xFEFF) then .error (.malformed .byteOrderMark t)
  else do
    let (document, rest) ← value t.length Nesting.frames (skipBlanks t)
    match skipBlanks rest with
    | [] => return document
    | extra => .error (.malformed .extraData extra)

end TypeSketch.Reader

namespace TypeSketch

/-- The document of a text, if it reads well and is not nested too deeply. -/
def Document.ofText (t : Text) : Except ReadFault Document := do
  let document ← Reader.text t
  if document.admissibleWithin Nesting.frames then return document else .error .tooDeep

end TypeSketch
