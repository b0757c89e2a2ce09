/-!
# Code points and text

A document may spell a surrogate by an escape without its partner, so a text is a
sequence of code points rather than of characters. A code point is a character or
a lone surrogate. Numbering loses nothing: `ofNat_toNat` reads a code point back
from its number, and `toNat_ofNat` holds below the end of the code space.
-/

namespace TypeSketch

/-- A Unicode scalar value, or one of the 2048 surrogates standing alone. -/
inductive CodePoint where
  | scalar (c : Char)
  | surrogate (offset : Fin 0x800)
deriving DecidableEq, Repr, Inhabited

namespace CodePoint

/-- The position of a code point in the code space; surrogates start at D800. -/
def toNat : CodePoint → Nat
  | .scalar c => c.toNat
  | .surrogate offset => 0xD800 + offset.val

/-- The code point of a position in the code space. -/
def ofNat (n : Nat) : CodePoint :=
  if inside : 0xD800 ≤ n ∧ n < 0xE000 then .surrogate ⟨n - 0xD800, by omega⟩
  else .scalar (Char.ofNat n)

/-- A scalar value lies below the surrogates or above them. -/
theorem scalar_range (c : Char) : c.toNat < 0xD800 ∨ (0xE000 ≤ c.toNat ∧ c.toNat < 0x110000) := by
  rcases c.valid with low | ⟨above, below⟩
  · exact Or.inl low
  · exact Or.inr ⟨by simp only [Char.toNat, UInt32.toNat] at *; omega, below⟩

theorem ofNat_toNat (c : CodePoint) : ofNat c.toNat = c := by
  cases c with
  | scalar c =>
    have range := scalar_range c
    have outside : ¬(0xD800 ≤ c.toNat ∧ c.toNat < 0xE000) := by omega
    simp [ofNat, toNat, outside]
  | surrogate offset =>
    have bound := offset.isLt
    have inside : 0xD800 ≤ 0xD800 + offset.val ∧ 0xD800 + offset.val < 0xE000 := by omega
    simp [ofNat, toNat, inside]

theorem toNat_ofNat {n : Nat} (bound : n < 0x110000) : (ofNat n).toNat = n := by
  unfold ofNat
  split
  · simp only [toNat]; omega
  · have valid : n.isValidChar := by
      simp only [Nat.isValidChar]; omega
    have same : Char.ofNat n = Char.ofNatAux n valid := dif_pos valid
    exact congrArg Char.toNat same

/-- Whether the code point is half of a pair left without its other half. -/
def isSurrogate : CodePoint → Bool
  | .scalar _ => false
  | .surrogate _ => true

end CodePoint

/-- A text: code points in order. -/
abbrev Text := List CodePoint

namespace Text

/-- The code points of a string; none of them is a surrogate. -/
def ofString (s : String) : Text := s.toList.map .scalar

instance : Coe String Text := ⟨ofString⟩

/-- The decimal numeral of a number, without leading zeros. -/
def numeral (n : Nat) : Text := (Nat.toDigits 10 n).map .scalar

/-- The hexadecimal numeral of a number in lower case, filled with zeros to a width. -/
def hexadecimal (width n : Nat) : Text :=
  let digits := (Nat.toDigits 16 n).map CodePoint.scalar
  List.replicate (width - digits.length) (.scalar '0') ++ digits

/-- Whether some surrogate of the text stands alone. -/
def hasSurrogate (t : Text) : Bool := t.any CodePoint.isSurrogate

theorem hasSurrogate_ofString (s : String) : (ofString s).hasSurrogate = false := by
  simp [hasSurrogate, ofString, CodePoint.isSurrogate]

/-- The texts in order, with a separator between neighbours. -/
def join (separator : Text) (parts : List Text) : Text := (parts.intersperse separator).flatten

theorem join_single (separator part : Text) : join separator [part] = part := by
  simp [join]

theorem join_cons_cons (separator first second : Text) (rest : List Text) :
    join separator (first :: second :: rest) =
      first ++ (separator ++ join separator (second :: rest)) := by
  simp [join]

/-- Texts that are joined are the first one and the others, each behind a separator. -/
theorem join_cons (separator first : Text) (rest : List Text) :
    join separator (first :: rest) = first ++ rest.flatMap (separator ++ ·) := by
  induction rest generalizing first with
  | nil => rw [join_single, List.flatMap_nil, List.append_nil]
  | cons second others inductionHypothesis =>
    rw [join_cons_cons, inductionHypothesis, List.flatMap_cons, List.append_assoc]

/-- Whether a text stands before another or is equal to it, by code points. -/
def precedes : Text → Text → Bool
  | [], _ => true
  | _ :: _, [] => false
  | a :: as, b :: bs => a.toNat < b.toNat || (a == b && precedes as bs)

end Text

end TypeSketch
