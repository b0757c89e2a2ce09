import TypeSketch.Json.Fault
import TypeSketch.Number.Basic

/-!
# Number literals

A number literal is the longest beginning of a text that has an optional minus sign, a
whole part without superfluous zeros, and perhaps a fraction and an exponent. What looks
like the start of a fraction or exponent but has no digits is not part of the literal. A
literal of a whole part alone denotes an integer, any other a binary number.
-/

namespace TypeSketch

/-- The parts of a number literal. -/
structure NumberLiteral where
  negative : Bool
  whole : List (Fin 10)
  /-- The digits after the point, if there is one. -/
  fraction : Option (List (Fin 10))
  /-- Whether the exponent is negative, and its digits. -/
  exponent : Option (Bool × List (Fin 10))
deriving DecidableEq, Repr

namespace NumberLiteral

/-- The value of a decimal digit; only the ten digits of ASCII count. -/
def digit? : CodePoint → Option (Fin 10)
  | .surrogate _ => none
  | .scalar c => if '0' ≤ c ∧ c ≤ '9' then some (Fin.ofNat 10 (c.toNat - '0'.toNat)) else none

/-- The digits at the start of a text, and what follows them. -/
def takeDigits : Text → List (Fin 10) × Text
  | [] => ([], [])
  | c :: rest => match digit? c with
    | none => ([], c :: rest)
    | some d => let (digits, rest) := takeDigits rest; (d :: digits, rest)

/-- The number that digits denote, the leading one first. -/
def digitsValue (digits : List (Fin 10)) : Nat := digits.foldl (fun n d => 10 * n + d.val) 0

/-- A whole part: a lone zero, or digits that do not begin with zero. -/
def takeWhole? : Text → Option (List (Fin 10) × Text)
  | .scalar '0' :: rest => some ([0], rest)
  | t => match takeDigits t with
    | ([], _) => none
    | found => some found

/-- A point with digits after it, if the text begins so. -/
def takeFraction : Text → Option (List (Fin 10)) × Text
  | .scalar '.' :: rest => match takeDigits rest with
    | ([], _) => (none, .scalar '.' :: rest)
    | (digits, rest) => (some digits, rest)
  | t => (none, t)

/-- The sign of an exponent: whether it is negative, and what follows. -/
def takeSign : Text → Bool × Text
  | .scalar '+' :: rest => (false, rest)
  | .scalar '-' :: rest => (true, rest)
  | t => (false, t)

/-- A mark, an optional sign and digits, if the text begins so. -/
def takeExponent : Text → Option (Bool × List (Fin 10)) × Text
  | .scalar c :: rest =>
    if c = 'e' ∨ c = 'E' then
      let (negative, unsigned) := takeSign rest
      match takeDigits unsigned with
      | ([], _) => (none, .scalar c :: rest)
      | (digits, rest) => (some (negative, digits), rest)
    else (none, .scalar c :: rest)
  | t => (none, t)

/-- A minus sign, if the text begins so. -/
def takeMinus : Text → Bool × Text
  | .scalar '-' :: rest => (true, rest)
  | t => (false, t)

/-- The literal that the text begins with, and what follows it. -/
def read? (t : Text) : Option (NumberLiteral × Text) := do
  let (negative, unsigned) := takeMinus t
  let (whole, rest) ← takeWhole? unsigned
  let (fraction, rest) := takeFraction rest
  let (exponent, rest) := takeExponent rest
  return (⟨negative, whole, fraction, exponent⟩, rest)

/-- The power of ten that an exponent denotes. -/
def power : Option (Bool × List (Fin 10)) → Int
  | none => 0
  | some (negative, digits) => if negative then -(digitsValue digits : Int) else digitsValue digits

/-- The number that a literal denotes. An integer literal must not be too long. -/
def number (literal : NumberLiteral) : Except ReadFault Number :=
  if literal.fraction.isNone && literal.exponent.isNone then
    if maxIntegerDigits < literal.whole.length then .error (.longInteger literal.whole.length)
    else
      let magnitude : Int := digitsValue literal.whole
      .ok (.int (if literal.negative then -magnitude else magnitude))
  else
    let places := literal.fraction.getD []
    .ok (.float (.ofDecimal literal.negative (digitsValue (literal.whole ++ places))
      (power literal.exponent - places.length)))

end NumberLiteral

end TypeSketch
