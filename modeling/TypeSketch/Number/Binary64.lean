/-!
# Numbers of sixty-four bits

A decimal with a fraction or an exponent denotes the nearest number of the binary
format of sixty-four bits, and of two equally near ones the one with an even
significand. Rounding is done on exact fractions of natural numbers. A number is
kept as its sign and its rank: the non-negative numbers of the format are numbered
upward from zero, infinity follows the greatest finite one, and what follows
infinity is not a number.
-/

namespace TypeSketch

/-- A sign, and the rank of the magnitude. -/
structure Binary64 where
  negative : Bool
  rank : Nat
deriving DecidableEq, Repr, Inhabited

namespace Binary64

/-- How many numbers of one sign share an exponent. -/
def binade : Nat := 1 <<< 52

/-- The rank of infinity: the subnormals and 2046 full exponents come before it. -/
def infinityRank : Nat := 2047 * binade

def isFinite (x : Binary64) : Bool := x.rank < infinityRank

def isNaN (x : Binary64) : Bool := infinityRank < x.rank

def zero : Binary64 := ⟨false, 0⟩

def infinity : Binary64 := ⟨false, infinityRank⟩

/-- The one value that is not a number. -/
def nan : Binary64 := ⟨false, infinityRank + binade / 2⟩

/-- The significand of a finite number: its magnitude is this times two to the `scale`. -/
def significand (x : Binary64) : Nat :=
  if x.rank < binade then x.rank else binade + x.rank % binade

/-- The binary exponent that goes with the significand. -/
def scale (x : Binary64) : Int :=
  if x.rank < binade then -1074 else (x.rank / binade : Nat) - 1075

/-- The sixty-four bits as a number: the sign, then the rank. -/
def bits (x : Binary64) : Nat := (if x.negative then 1 <<< 63 else 0) + x.rank

/-- The nearest natural number to a fraction; a half goes to the even neighbour. -/
def roundRatio (num den : Nat) : Nat :=
  let below := num / den
  match compare (2 * (num % den)) den with
  | .lt => below
  | .eq => below + below % 2
  | .gt => below + 1

/-- The greatest power of two, by its exponent, that a positive fraction reaches. -/
def ratioLog2 (num den : Nat) : Int :=
  let estimate : Int := num.log2 - den.log2
  if den <<< estimate.toNat ≤ num <<< (-estimate).toNat then estimate else estimate - 1

/-- The rank of the number nearest to a fraction. The significand has fifty-three bits,
or fewer at the least exponent. -/
def rankOfRatio (num den : Nat) : Nat :=
  if num = 0 then 0
  else
    let scale := max (-1074) (ratioLog2 num den - 52)
    let significand := roundRatio (num <<< (-scale).toNat) (den <<< scale.toNat)
    min infinityRank ((scale + 1074).toNat * binade + significand)

/-- The number nearest to `digits` times ten to the `exponent`. A positive integer is at
least one and has no more decimal than binary digits, so an exponent far out settles the
answer before any power of ten is formed. -/
def ofDecimal (negative : Bool) (digits : Nat) (exponent : Int) : Binary64 :=
  if digits = 0 then ⟨negative, 0⟩
  else if 310 < exponent then ⟨negative, infinityRank⟩
  else if exponent + digits.log2 + 1 < -330 then ⟨negative, 0⟩
  else ⟨negative, rankOfRatio (digits * Nat.pow 10 exponent.toNat) (Nat.pow 10 (-exponent).toNat)⟩

/-- The integer that a finite number is, if it is one. -/
def toInt? (x : Binary64) : Option Int :=
  if x.isFinite then
    let numerator := x.significand <<< x.scale.toNat
    let denominator := 1 <<< (-x.scale).toNat
    let magnitude : Int := (numerator / denominator : Nat)
    if numerator % denominator = 0 then some (if x.negative then -magnitude else magnitude)
    else none
  else none

/-- Equality of numbers: the two zeros are equal, and what is not a number equals nothing. -/
def sameNumber (x y : Binary64) : Bool :=
  !x.isNaN && !y.isNaN && x.rank == y.rank && (x.rank == 0 || x.negative == y.negative)

end Binary64

end TypeSketch
