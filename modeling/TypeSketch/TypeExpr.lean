import TypeSketch.Text.CodePoint

/-!
# Types

The type of a property is a primitive, the name of a declaration, an array of a type, or
a union of primitives. A union stands only as the element type of an array and is
written between round brackets, however few members it has.
-/

namespace TypeSketch

/-- A type that needs no declaration. -/
inductive Primitive where
  | null
  | boolean
  | number
  | string
  | date
  | any
deriving DecidableEq, Repr

def Primitive.text : Primitive → Text
  | .null => "null"
  | .boolean => "boolean"
  | .number => "number"
  | .string => "string"
  | .date => "Date"
  | .any => "any"

/-- The type of a property. -/
inductive TypeExpr where
  | primitive (type : Primitive)
  | named (name : Text)
  | array (element : TypeExpr)
  | union (members : List Primitive)
deriving DecidableEq, Repr

def TypeExpr.text : TypeExpr → Text
  | .primitive type => type.text
  | .named name => name
  | .array element => element.text ++ "[]"
  | .union members => "(" ++ Text.join " | " (members.map Primitive.text) ++ ")"

end TypeSketch
