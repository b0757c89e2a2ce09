import TypeSketch.PropertyName
import TypeSketch.TypeExpr

/-!
# Declarations

A declaration gives a name to the properties of an object. It is written as an exported
interface or as an exported type alias, one property to a line in the order of the
object's members.
-/

namespace TypeSketch

/-- How declarations are written. -/
structure Style where
  /-- Interfaces rather than type aliases. -/
  useInterfaces : Bool := true
  /-- Every property is marked as optional. -/
  useOptionalFields : Bool := false
deriving DecidableEq, Repr

/-- A name and the properties it stands for, in order. -/
structure Declaration where
  name : Text
  properties : List (Text × TypeExpr)
deriving DecidableEq, Repr

namespace Style

/-- The line that opens a declaration. -/
def opening (style : Style) (name : Text) : Text :=
  if style.useInterfaces then "export interface " ++ name ++ " \x7b"
  else "export type " ++ name ++ " = \x7b"

/-- The line that closes a declaration. -/
def closing (style : Style) : Text := if style.useInterfaces then "\x7d" else "\x7d;"

/-- The line of a property, given its key and the text of its type. -/
def propertyLine (style : Style) (key type : Text) : Text :=
  "  " ++ PropertyName.ofKey key ++ (if style.useOptionalFields then "?" else "") ++ ": " ++ type ++
    ";"

/-- The text of a declaration, given its properties with the texts of their types. -/
def declaration (style : Style) (name : Text) (properties : List (Text × Text)) : Text :=
  Text.join "\n"
    ([style.opening name] ++ properties.map (fun (key, type) => style.propertyLine key type) ++
      [style.closing])

end Style

namespace Declaration

/-- The text of a declaration in a style. -/
def text (style : Style) (declaration : Declaration) : Text :=
  style.declaration declaration.name
    (declaration.properties.map fun (key, type) => (key, type.text))

end Declaration

end TypeSketch
