import TypeSketch.Console.Cells

/-!
# Cursor and tabs

A cursor moves over a line by the cells of its code points. A joiner draws the code point
behind it into the one before, so that it takes no cells; a picture selector draws the sign
before it as a picture. A tab is a space and fills its line with more of them up to the next
tab stop; the stops are eight cells apart.
-/

namespace TypeSketch.Console

/-- The zero width joiner. -/
def joiner : CodePoint := .ofNat 0x200D

/-- The variation selector that asks for a picture. -/
def pictureSelector : CodePoint := .ofNat 0xFE0F

/-- A place on a line. -/
structure Cursor where
  column : Nat := 0
  /-- The last code point with cells, as long as no picture selector follows it. -/
  last : Option CodePoint := none
  /-- The code point before is a joiner. -/
  joining : Bool := false
deriving DecidableEq, Repr

namespace Cursor

/-- The cursor behind a code point. -/
def pass (cursor : Cursor) (c : CodePoint) : Cursor :=
  if cursor.joining then { cursor with joining := false }
  else if c = joiner then { cursor with joining := true }
  else if c = pictureSelector then
    let widened := cursor.last.any CodePoint.isPictureSign
    { cursor with column := cursor.column + widened.toNat, last := none }
  else if c.cells = 0 then cursor
  else { cursor with column := cursor.column + c.cells, last := some c }

end Cursor

/-- The cells between neighbouring tab stops. -/
def tabWidth : Nat := 8

/-- The cells from a column to the next tab stop; none if it is a tab stop itself. -/
def cellsToTabStop (column : Nat) : Nat := (tabWidth - column % tabWidth) % tabWidth

/-- The text with spaces for its tabs, from a cursor on. -/
def expandTabs (cursor : Cursor) : Text → Text
  | [] => []
  | c :: rest =>
    if c = .scalar '\n' then c :: expandTabs {} rest
    else if c = .scalar '\t' then
      let column := (cursor.pass (.scalar ' ')).column
      let more := cellsToTabStop column
      List.replicate (more + 1) (.scalar ' ') ++ expandTabs { column := column + more } rest
    else c :: expandTabs (cursor.pass c) rest

end TypeSketch.Console
