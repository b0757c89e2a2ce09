import TypeSketch.Number.Binary64

/-!
# Numbers

A number of a document is an integer of any size, or a binary number of sixty-four
bits where the literal has a fraction or an exponent.
-/

namespace TypeSketch

inductive Number where
  | int (value : Int)
  | float (value : Binary64)
deriving DecidableEq, Repr, Inhabited

namespace Number

/-- Whether the two denote the same number, whichever way they are kept. -/
def sameNumber : Number → Number → Bool
  | .int m, .int n => m == n
  | .int m, .float y => y.toInt? == some m
  | .float x, .int n => x.toInt? == some n
  | .float x, .float y => x.sameNumber y

end Number

end TypeSketch
