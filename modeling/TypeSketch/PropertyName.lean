import TypeSketch.Text.Ascii

/-!
# Property names

A key that is a plain identifier is a property name as it stands. Any other key is
written as a literal between single quotes. In the literal the quote, the backslash,
controls and the two separators of lines and paragraphs are escaped: some by a letter,
the others by four hexadecimal digits.
-/

namespace TypeSketch.PropertyName

/-- Whether the key is an identifier of letters, digits and low lines, not led by a
digit. -/
def isBare : Text → Bool
  | [] => false
  | c :: rest =>
    (c.isLetter || c == .scalar '_') &&
      rest.all fun c => c.isLetter || c.isDigit || c == .scalar '_'

/-- Whether a code point is spelled by number inside the quotes. -/
def isControl (c : CodePoint) : Bool :=
  let n := c.toNat
  n < 0x20 || (0x7F ≤ n && n < 0xA0) || n == 0x2028 || n == 0x2029

/-- The spelling of a code point inside the quotes. -/
def escaped (c : CodePoint) : Text :=
  if c = .scalar '\\' then "\\\\"
  else if c = .scalar '\'' then "\\'"
  else if c = .scalar '\n' then "\\n"
  else if c = .scalar '\r' then "\\r"
  else if c = .scalar '\t' then "\\t"
  else if isControl c then "\\u" ++ Text.hexadecimal 4 c.toNat
  else [c]

/-- The property name that denotes a key. -/
def ofKey (key : Text) : Text :=
  if isBare key then key else "'" ++ key.flatMap escaped ++ "'"

end TypeSketch.PropertyName
