import TypeSketch.Text.CodePoint

/-!
# Blank text

A blank code point is a white space, a separator of lines or one of the four
information separators. A text of blanks alone counts as empty input, and the
blanks at both ends of a text are dropped by `strip`. The blanks that a JSON
document may put between its tokens are four of these.
-/

namespace TypeSketch

/-- The blank code points, as ranges with both ends included. -/
def blankRanges : List (Nat × Nat) :=
  [(0x09, 0x0D), (0x1C, 0x20), (0x85, 0x85), (0xA0, 0xA0), (0x1680, 0x1680), (0x2000, 0x200A),
    (0x2028, 0x2029), (0x202F, 0x202F), (0x205F, 0x205F), (0x3000, 0x3000)]

namespace CodePoint

/-- Whether a number lies in one of the ranges, both ends included. -/
def inRanges (ranges : List (Nat × Nat)) (n : Nat) : Bool :=
  ranges.any fun (first, last) => first ≤ n && n ≤ last

def isBlank (c : CodePoint) : Bool := inRanges blankRanges c.toNat

/-- The blanks between the tokens of a JSON document: space, tab, line feed and
carriage return. -/
def isJsonBlank (c : CodePoint) : Bool :=
  c == .scalar ' ' || c == .scalar '\t' || c == .scalar '\n' || c == .scalar '\r'

end CodePoint

namespace Text

/-- Whether the text holds nothing but blanks. -/
def isBlank (t : Text) : Bool := t.all CodePoint.isBlank

/-- The text without the blanks at its two ends. -/
def strip (t : Text) : Text :=
  ((t.dropWhile CodePoint.isBlank).reverse.dropWhile CodePoint.isBlank).reverse

end Text

end TypeSketch
