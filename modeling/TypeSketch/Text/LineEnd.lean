import TypeSketch.Text.CodePoint

/-!
# Lines

A text read from a file ends its lines with a line feed, a carriage return, or both
in that order; `unifyLineEnds` writes a line feed for each. A place in a text is
told by its line and column, which count from one and know the line feed alone.
-/

namespace TypeSketch.Text

/-- The text with one line feed for every way to end a line. -/
def unifyLineEnds : Text → Text
  | [] => []
  | .scalar '\r' :: .scalar '\n' :: rest => .scalar '\n' :: unifyLineEnds rest
  | .scalar '\r' :: rest => .scalar '\n' :: unifyLineEnds rest
  | c :: rest => c :: unifyLineEnds rest

/-- The line of an offset: one more than the line feeds before it. -/
def lineAt (t : Text) (offset : Nat) : Nat := 1 + (t.take offset).count (.scalar '\n')

/-- The column of an offset: one more than the code points since the last line feed. -/
def columnAt (t : Text) (offset : Nat) : Nat :=
  1 + ((t.take offset).reverse.takeWhile (· != .scalar '\n')).length

end TypeSketch.Text
