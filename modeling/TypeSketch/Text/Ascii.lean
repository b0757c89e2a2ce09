import TypeSketch.Text.CodePoint

/-!
# ASCII letters and digits

Names of declarations and bare property names are made of ASCII characters; whatever
lies outside ASCII is neither a letter nor a digit here.
-/

namespace TypeSketch.CodePoint

def isDigit : CodePoint → Bool
  | .scalar c => '0' ≤ c && c ≤ '9'
  | .surrogate _ => false

def isLetter : CodePoint → Bool
  | .scalar c => ('a' ≤ c && c ≤ 'z') || ('A' ≤ c && c ≤ 'Z')
  | .surrogate _ => false

/-- The capital of a small letter; any other code point is its own. -/
def toUpper : CodePoint → CodePoint
  | .scalar c => .scalar (if 'a' ≤ c && c ≤ 'z' then Char.ofNat (c.toNat - 32) else c)
  | .surrogate s => .surrogate s

/-- The small letter of a capital; any other code point is its own. -/
def toLower : CodePoint → CodePoint
  | .scalar c => .scalar (if 'A' ≤ c && c ≤ 'Z' then Char.ofNat (c.toNat + 32) else c)
  | .surrogate s => .surrogate s

end TypeSketch.CodePoint
