import TypeSketch.Text.Printable

/-!
# Quoted text

Names and paths in messages stand between quotes. The mark is a single quote, or a
double one when that saves escaping: the text has single quotes and no double ones.
Between the marks the backslash and the mark itself follow a backslash, three line
and tab controls have letters, and what is not printable is spelled by its number
in two, four or eight hexadecimal digits.
-/

namespace TypeSketch.Text

/-- The mark that quotes a text. -/
def quoteMark (t : Text) : CodePoint :=
  if t.contains (.scalar '\'') && !t.contains (.scalar '"') then .scalar '"' else .scalar '\''

/-- The spelling of a code point by its number. -/
def numbered (c : CodePoint) : Text :=
  let n := c.toNat
  if n < 0x100 then "\\x" ++ hexadecimal 2 n
  else if n < 0x10000 then "\\u" ++ hexadecimal 4 n
  else "\\U" ++ hexadecimal 8 n

/-- The spelling of a code point between two marks. -/
def quotedCodePoint (mark c : CodePoint) : Text :=
  if c = .scalar '\\' || c = mark then [.scalar '\\', c]
  else if c = .scalar '\n' then "\\n"
  else if c = .scalar '\r' then "\\r"
  else if c = .scalar '\t' then "\\t"
  else if c.isPrintable then [c]
  else numbered c

/-- The text between quotes. -/
def quoted (t : Text) : Text :=
  let mark := quoteMark t
  [mark] ++ t.flatMap (quotedCodePoint mark) ++ [mark]

end TypeSketch.Text
