import TypeSketch.Text.Ascii
import TypeSketch.Text.Runs

/-!
# Names of declarations

The objects found under a key are declared by a name made from the key: its singular,
split into words where a character cannot stand in an identifier, the words joined with
capitals, and a low line in front of a digit. A key without any usable character gives
the fallback name.
-/

namespace TypeSketch.TypeName

/-- The name of a document that is an object. -/
def root : Text := "Root"

/-- The name of objects that are found under no key, or under one that gives no name. -/
def fallback : Text := "Item"

/-- The singular of a key by its ending; the first rule that applies counts. -/
def singularize (key : Text) : Text :=
  if Text.ofString "ies" <:+ key then key.take (key.length - 3) ++ "y"
  else if Text.ofString "es" <:+ key then key.take (key.length - 2)
  else if Text.ofString "s" <:+ key ∧ ¬Text.ofString "ss" <:+ key then key.take (key.length - 1)
  else key

/-- Whether a code point can stand in an identifier. -/
def isPart (c : CodePoint) : Bool :=
  c.isLetter || c.isDigit || c == .scalar '_' || c == .scalar '$'

/-- The word with a capital in front. -/
def capitalize : Text → Text
  | [] => []
  | c :: rest => c.toUpper :: rest

/-- The words run together, each but the first with a capital. -/
def joinWords : List Text → Text
  | [] => []
  | first :: others => first ++ (others.map capitalize).flatten

/-- The name with a low line in front, should it begin with a digit. -/
def guardDigit : Text → Text
  | [] => []
  | c :: rest => if c.isDigit then .scalar '_' :: c :: rest else c :: rest

/-- The name that a key suggests for the objects under it. -/
def suggest (key : Text) : Text :=
  match capitalize (guardDigit (joinWords ((singularize key).runs isPart))) with
  | [] => fallback
  | name => name

end TypeSketch.TypeName
