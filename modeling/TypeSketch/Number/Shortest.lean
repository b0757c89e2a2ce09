import TypeSketch.Number.Basic
import TypeSketch.Text.CodePoint

/-!
# The text of a number in messages

A binary number is written with the fewest decimal digits that read back to it, and
of several such decimals with the nearest. The decimals that read back lie between
the halfway points to both neighbours, and on these points if the significand is
even. The powers of ten are tried from the greatest downward; the first that has a
multiple in that interval decides.
-/

namespace TypeSketch

/-- A decimal: `digits` times ten to the `exponent`. -/
structure Decimal where
  digits : Nat
  exponent : Int
deriving DecidableEq, Repr

/-- The decisions of a format: which exponents of the leading digit are written
positionally, and how many digits an exponent has at least. -/
structure DecimalFormat where
  plainFrom : Int
  plainBelow : Int
  exponentWidth : Nat

namespace Binary64

/-- Whether the number below is only half as far away as the number above. -/
def isNarrowBelow (x : Binary64) : Bool := x.rank % binade == 0 && 2 * binade ≤ x.rank

/-- The multiple of ten to the `exponent` that reads back to a positive finite number:
one of its two neighbours on that grid, the nearer if both do. -/
def onGrid? (x : Binary64) (exponent : Int) : Option Decimal :=
  let unit := Nat.pow 10 (-exponent).toNat <<< x.scale.toNat
  let grid := Nat.pow 10 exponent.toNat <<< (-x.scale).toNat
  let low := (4 * x.significand - if x.isNarrowBelow then 1 else 2) * unit
  let high := (4 * x.significand + 2) * unit
  let reads (d : Nat) : Bool :=
    if x.significand % 2 = 0 then low ≤ 4 * d * grid && 4 * d * grid ≤ high
    else low < 4 * d * grid && 4 * d * grid < high
  let below := x.significand * unit / grid
  let nearest := roundRatio (x.significand * unit) grid
  if reads nearest then some ⟨nearest, exponent⟩
  else if reads below then some ⟨below, exponent⟩
  else if reads (below + 1) then some ⟨below + 1, exponent⟩
  else none

/-- The shortest decimal that reads back to a positive finite number. -/
def shortest (x : Binary64) : Decimal :=
  ((List.range 660).findSome? fun (i : Nat) => x.onGrid? (309 - i)).getD
    ⟨(x.significand * Nat.pow 5 (-x.scale).toNat) <<< x.scale.toNat, min 0 x.scale⟩

end Binary64

namespace Decimal

/-- The text of a decimal in a format. -/
def text (format : DecimalFormat) (d : Decimal) : Text :=
  let digits := Text.numeral d.digits
  let leading := d.exponent + digits.length - 1
  let zeros (n : Int) : Text := List.replicate n.toNat (.scalar '0')
  if format.plainFrom ≤ leading ∧ leading < format.plainBelow then
    if 0 ≤ d.exponent then digits ++ zeros d.exponent ++ ".0"
    else if 0 ≤ leading then
      digits.take (leading + 1).toNat ++ "." ++ digits.drop (leading + 1).toNat
    else "0." ++ zeros (-leading - 1) ++ digits
  else
    let exponent := Text.numeral leading.natAbs
    digits.take 1 ++ (if digits.length ≤ 1 then [] else ([.scalar '.'] : Text) ++ digits.drop 1) ++
      (if leading < 0 then "e-" else "e+") ++
      zeros (format.exponentWidth - exponent.length) ++ exponent

end Decimal

namespace Number

/-- Numbers in messages are positional from a ten-thousandth to below ten to the sixteenth,
and an exponent has two digits at least. -/
def messageFormat : DecimalFormat := ⟨-4, 16, 2⟩

/-- The text of an integer. -/
def intText (n : Int) : Text :=
  if n < 0 then "-" ++ Text.numeral n.natAbs else Text.numeral n.natAbs

def floatText (x : Binary64) : Text :=
  if x.isNaN then ("nan" : Text)
  else (if x.negative then "-" else "") ++
    if !x.isFinite then ("inf" : Text)
    else if x.rank = 0 then ("0.0" : Text)
    else x.shortest.text messageFormat

def text : Number → Text
  | .int n => intText n
  | .float x => floatText x

end Number

end TypeSketch
