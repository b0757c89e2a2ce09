import TypeSketch.Json.Basic
import TypeSketch.Text.Ascii
import TypeSketch.TypeExpr

/-!
# The primitive type of a value

A scalar has the primitive type of its kind, except that a string which begins with a
date and a time of day is a date. Containers have no primitive type of their own and
count as any.
-/

namespace TypeSketch

/-- The shape of a date and a time of day, where a zero stands for any digit. -/
def timestampShape : Text := "0000-00-00T00:00:00"

/-- Whether the text begins with the shape. -/
def Text.beginsWithShape : (shape t : Text) → Bool
  | [], _ => true
  | _ :: _, [] => false
  | mark :: shape, c :: rest =>
    (if mark = .scalar '0' then c.isDigit else c == mark) && beginsWithShape shape rest

/-- Whether the text begins with a date and a time of day; anything may follow. -/
def Text.isTimestamp (t : Text) : Bool := beginsWithShape timestampShape t

namespace Json

variable {ρ : Type}

/-- The primitive type of a value. -/
def primitive : Json ρ → Primitive
  | .null => .null
  | .bool _ => .boolean
  | .number _ => .number
  | .string value => if value.isTimestamp then .date else .string
  | .array _ | .object _ | .foreign _ => .any

end Json

end TypeSketch
