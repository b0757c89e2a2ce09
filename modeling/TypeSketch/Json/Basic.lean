import TypeSketch.Number.Basic
import TypeSketch.Text.CodePoint

/-!
# JSON values

A JSON value is a scalar, an array or an object; the members of an object keep their
order. A value built by hand may hold members that are no JSON values, and such a
foreign member is carried along uninspected: `Json ρ` has foreign members of type `ρ`.
A document read from text has none of them, so it is a `Json Empty`.
-/

namespace TypeSketch

/-- A JSON value with foreign members of a type. -/
inductive Json (ρ : Type) where
  | null
  | bool (value : Bool)
  | number (value : Number)
  | string (value : Text)
  | array (elements : List (Json ρ))
  | object (members : List (Text × Json ρ))
  | foreign (value : ρ)
deriving Inhabited

/-- The members of an object in order. -/
abbrev Members (ρ : Type) := List (Text × Json ρ)

/-- A value without foreign members. -/
abbrev Document := Json Empty

/-- The category of a JSON value; a string is a string whatever it spells. -/
inductive CoarseKind where
  | object
  | array
  | string
  | number
  | boolean
  | null
deriving DecidableEq, Repr

def CoarseKind.text : CoarseKind → Text
  | .object => "object"
  | .array => "array"
  | .string => "string"
  | .number => "number"
  | .boolean => "boolean"
  | .null => "null"

namespace Json

variable {ρ : Type}

/-- The category of a value. A foreign member has none and is given back. -/
def coarseKind : Json ρ → Except ρ CoarseKind
  | .null => .ok .null
  | .bool _ => .ok .boolean
  | .number _ => .ok .number
  | .string _ => .ok .string
  | .array _ => .ok .array
  | .object _ => .ok .object
  | .foreign value => .error value

/-- Whether admitting the value stays within a budget of frames: an array takes two and
an object one. -/
def admissibleWithin : Nat → Json ρ → Bool
  | frames + 2, .array elements => elements.all (admissibleWithin frames)
  | _, .array _ => false
  | frames + 1, .object members => members.all fun (_, value) => admissibleWithin frames value
  | _, .object _ => false
  | _, _ => true

end Json

end TypeSketch
