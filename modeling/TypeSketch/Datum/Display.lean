import TypeSketch.Datum.Basic
import TypeSketch.Json.Fault
import TypeSketch.Nesting
import TypeSketch.Number.Shortest
import TypeSketch.Text.Quoted

/-!
# The display of host data

Messages show the datum they are about. Texts and bytes stand between quotes, a sequence
between brackets of its kind, and a JSON value names its kind and its content. A datum
nested more deeply than the frames allow has no display, and neither has one in which an
integer has more digits than are written; the first of these faults from left to right
decides.
-/

namespace TypeSketch

/-- Whether the number is an integer with more digits than are written. -/
def Number.isLong : Number → Bool
  | .int n => maxIntegerDigits < (Text.numeral n.natAbs).length
  | .float _ => false

namespace Datum

/-- Why a datum has no display. -/
inductive DisplayFault where
  /-- More containers inside each other than there are frames. -/
  | tooDeep
  /-- An integer with more digits than are written. -/
  | longInteger
deriving DecidableEq, Repr

/-- What is said about an integer that is not written; a fault for depth has no words of its own. -/
def DisplayFault.message? : DisplayFault → Option Text
  | .tooDeep => Option.none
  | .longInteger => some ("Exceeds the limit (" ++ Text.numeral maxIntegerDigits ++
      " digits) for integer string conversion; " ++
      "use sys.set_int_max_str_digits() to increase the limit")

/-- Parts with commas between them, between two marks. -/
def enclosed (start finish : Text) (parts : List Text) : Text :=
  start ++ Text.join ", " parts ++ finish

/-- Bytes between quotes: printable ASCII as it is, the rest by letter or number. -/
def bytesText (bytes : List UInt8) : Text :=
  let mark := Text.quoteMark (bytes.map fun b => .scalar (Char.ofNat b.toNat))
  let spelling (b : UInt8) : Text :=
    if b < 0x80 then Text.quotedCodePoint mark (.scalar (Char.ofNat b.toNat))
    else "\\x" ++ Text.hexadecimal 2 b.toNat
  "b" ++ [mark] ++ bytes.flatMap spelling ++ [mark]

def boolText (value : Bool) : Text := if value then "True" else "False"

/-- The items of a sequence between round brackets; a lone item is followed by a comma. -/
def tupleText (parts : List Text) : Text :=
  match parts with
  | [only] => "(" ++ only ++ ",)"
  | _ => enclosed "(" ")" parts

/-- The display of a number. -/
def numberText (value : Number) : Except DisplayFault Text :=
  if value.isLong then .error .longInteger else .ok value.text

mutual

/-- The display of a datum, if the frames allow for its nesting. -/
def displayWithin : Nat → Datum → Except DisplayFault Text
  | _, .none => .ok "None"
  | _, .bool value => .ok (boolText value)
  | _, .number value => numberText value
  | _, .text value => .ok value.quoted
  | _, .bytes value => .ok (bytesText value)
  | _, .instanceOf typeName => .ok ("<" ++ typeName ++ ">")
  | _, .set [] => .ok "set()"
  | 0, _ => .error .tooDeep
  | frames + 1, .list items => enclosed "[" "]" <$> items.mapM (displayWithin frames)
  | frames + 1, .tuple items => tupleText <$> items.mapM (displayWithin frames)
  | frames + 1, .set items => enclosed "\x7b" "\x7d" <$> items.mapM (displayWithin frames)
  | frames + 1, .mapping items =>
    enclosed "\x7b" "\x7d" <$> items.mapM fun ((key, value) : Datum × Datum) => do
      let key ← displayWithin frames key
      let value ← displayWithin frames value
      return key ++ ": " ++ value
  | frames + 1, .json value => displayJsonWithin frames value

/-- The display of a JSON value, if the frames allow for its nesting. -/
def displayJsonWithin : Nat → Json Datum → Except DisplayFault Text
  | _, .null => .ok "JsonNull()"
  | _, .bool value => .ok ("JsonBool(value=" ++ boolText value ++ ")")
  | _, .number value => (fun shown => "JsonNumber(value=" ++ shown ++ ")") <$> numberText value
  | _, .string value => .ok ("JsonString(value=" ++ value.quoted ++ ")")
  | 0, _ => .error .tooDeep
  | frames + 1, .array elements =>
    (fun parts => "JsonArray(elements=" ++ tupleText parts ++ ")") <$>
      elements.mapM (displayJsonWithin frames)
  | frames + 1, .object members =>
    (fun parts => "JsonObject(members=" ++ enclosed "\x7b" "\x7d" parts ++ ")") <$>
      members.mapM fun ((key, value) : Text × Json Datum) => do
        let value ← displayJsonWithin frames value
        return key.quoted ++ ": " ++ value
  | frames + 1, .foreign value => displayWithin frames value

end

/-- The display of a datum within the nesting limit. -/
def display (datum : Datum) : Except DisplayFault Text := displayWithin Nesting.frames datum

end Datum

end TypeSketch
