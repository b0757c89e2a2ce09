import TypeSketch.Text.Runs

/-!
# Paths

A path is kept in its plain form: without empty parts and without parts that are a lone
dot. A part of two dots stays, as what it leads to depends on the files there are. One
slash in front makes a path absolute, and so do three or more; two slashes are kept.
-/

namespace TypeSketch

/-- The slashes in front, and the parts. -/
structure Path where
  root : Text
  parts : List Text
deriving DecidableEq, Repr

namespace Path

def slash : CodePoint := .scalar '/'

/-- The slashes that a path of so many leading ones keeps. -/
def rootOf : Nat → Text
  | 0 => []
  | 2 => [slash, slash]
  | _ => [slash]

/-- The path that a text spells. -/
def ofText (t : Text) : Path :=
  ⟨rootOf (t.takeWhile (· == slash)).length, (t.runs (· != slash)).filter (· != ".")⟩

/-- The text of a path; the empty path is a dot. -/
def text (path : Path) : Text :=
  if path.root.isEmpty && path.parts.isEmpty then "."
  else path.root ++ Text.join "/" path.parts

end Path

end TypeSketch
