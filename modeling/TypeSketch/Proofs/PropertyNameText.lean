import TypeSketch.Json.StringLiteral
import TypeSketch.PropertyName

/-!
# Reading property names

A property name is a bare identifier or a literal between single quotes. A literal is read
code point by code point: a backslash with a letter or mark after it stands for one code
point, a backslash with `u` and four hexadecimal digits for the one of that number, and
any other code point for itself, but a control or a separator of lines cannot stand in a
literal. Whatever text comes behind it, the property name made from a key is read as this key.
-/

namespace TypeSketch.PropertyName

/-- Whether a code point can stand in a bare name. -/
def isBarePart (c : CodePoint) : Bool := c.isLetter || c.isDigit || c == .scalar '_'

/-- What a letter or mark stands for after a backslash. -/
def unescaped? : CodePoint → Option CodePoint
  | .scalar '\\' => some (.scalar '\\')
  | .scalar '\'' => some (.scalar '\'')
  | .scalar 'n' => some (.scalar '\n')
  | .scalar 'r' => some (.scalar '\r')
  | .scalar 't' => some (.scalar '\t')
  | _ => none

/-- Puts a code point in front of a key that is read. -/
def withFirst (c : CodePoint) : Text × Text → Text × Text
  | (key, rest) => (c :: key, rest)

/-- The key that a literal denotes whose opening quote is past, and what follows the closing
quote. -/
def readLiteral? : Text → Option (Text × Text)
  | [] => none
  | .scalar '\'' :: rest => some ([], rest)
  | .scalar '\\' :: .scalar 'u' :: a :: b :: c :: d :: rest =>
    match StringLiteral.unit? a b c d with
    | some unit => (readLiteral? rest).map (withFirst (.ofNat unit.val))
    | none => none
  | .scalar '\\' :: c :: rest =>
    match unescaped? c with
    | some plain => (readLiteral? rest).map (withFirst plain)
    | none => none
  | c :: rest => if isControl c then none else (readLiteral? rest).map (withFirst c)

/-- The key that a property name denotes at the start of a text, and what follows the name. -/
def read? : Text → Option (Text × Text)
  | .scalar '\'' :: rest => readLiteral? rest
  | t =>
    let name := t.takeWhile isBarePart
    if isBare name then some (name, t.dropWhile isBarePart) else none

/-- The numbers of the controls and separators. -/
def controlNumbers : List Nat := List.range 0xA0 ++ [0x2028, 0x2029]

theorem mem_controlNumbers {c : CodePoint} (control : isControl c = true) :
    c.toNat ∈ controlNumbers := by
  simp only [isControl, Bool.or_eq_true, Bool.and_eq_true, decide_eq_true_eq,
    beq_iff_eq] at control
  simp only [controlNumbers, List.mem_append, List.mem_range, List.mem_cons, List.not_mem_nil,
    or_false]
  omega

/-- The number that four hexadecimal digits spell. -/
def spelledNumber? : Text → Option Nat
  | [a, b, c, d] => (StringLiteral.unit? a b c d).map Fin.val
  | _ => none

/-- Four hexadecimal digits spell each of these numbers. -/
theorem unit?_hexadecimal {n : Nat} (member : n ∈ controlNumbers) :
    ∃ a b c d, Text.hexadecimal 4 n = [a, b, c, d] ∧
      (StringLiteral.unit? a b c d).map Fin.val = some n := by
  have spelled : ∀ m ∈ controlNumbers, spelledNumber? (Text.hexadecimal 4 m) = some m := by
    decide +kernel
  have spelling := spelled n member
  rw [spelledNumber?.eq_def] at spelling
  split at spelling
  · next a b c d digits => exact ⟨a, b, c, d, digits, spelling⟩
  · exact absurd spelling (by simp)

/-- The marks that follow a backslash, with the characters that they spell. -/
def escapeMarks : List (Char × Char) :=
  [('\\', '\\'), ('\'', '\''), ('n', '\n'), ('r', '\r'), ('t', '\t')]

/-- Inside the quotes a code point is spelled by a mark, by its number, or by itself. -/
theorem escaped_cases (c : CodePoint) :
    (∃ escape ∈ escapeMarks, c = .scalar escape.2 ∧
      escaped c = [.scalar '\\', .scalar escape.1]) ∨
    (isControl c = true ∧ escaped c = "\\u" ++ Text.hexadecimal 4 c.toNat) ∨
    (isControl c = false ∧ c ≠ .scalar '\\' ∧ c ≠ .scalar '\'' ∧ escaped c = [c]) := by
  by_cases marked : ∃ escape ∈ escapeMarks, c = .scalar escape.2
  · obtain ⟨escape, known, rfl⟩ := marked
    have spelled : ∀ escape ∈ escapeMarks,
        escaped (.scalar escape.2) = [.scalar '\\', .scalar escape.1] := by decide
    exact .inl ⟨escape, known, rfl, spelled escape known⟩
  · have unmarked : c ≠ .scalar '\\' ∧ c ≠ .scalar '\'' ∧ c ≠ .scalar '\n' ∧ c ≠ .scalar '\r' ∧
        c ≠ .scalar '\t' := by simpa [escapeMarks] using marked
    obtain ⟨noBackslash, noQuote, noFeed, noReturn, noTab⟩ := unmarked
    rw [escaped, if_neg noBackslash, if_neg noQuote, if_neg noFeed, if_neg noReturn, if_neg noTab]
    cases control : isControl c with
    | true => exact .inr (.inl ⟨rfl, rfl⟩)
    | false => exact .inr (.inr ⟨rfl, noBackslash, noQuote, rfl⟩)

/-- No control and no separator stands in the spelling of a code point. -/
theorem escaped_plain (c : CodePoint) : ∀ d ∈ escaped c, isControl d = false := by
  have digits : ∀ n ∈ controlNumbers, ∀ d ∈ Text.hexadecimal 4 n, isControl d = false := by
    decide +kernel
  have letters : ∀ d ∈ Text.ofString "\\u", isControl d = false := by decide
  have marks : ∀ escape ∈ escapeMarks,
      ∀ d ∈ [CodePoint.scalar '\\', CodePoint.scalar escape.1], isControl d = false := by decide
  rcases escaped_cases c with ⟨escape, known, rfl, spelled⟩ | ⟨control, spelled⟩ | plain
  · rw [spelled]
    exact marks escape known
  · rw [spelled]
    intro d member
    rcases List.mem_append.mp member with letter | digit
    · exact letters d letter
    · exact digits _ (mem_controlNumbers control) d digit
  · obtain ⟨noControl, _, _, spelled⟩ := plain
    rw [spelled]
    intro d member
    rwa [List.mem_singleton.mp member]

/-- The spelling of a code point inside the quotes is read as this code point. -/
theorem readLiteral?_escaped (c : CodePoint) (t : Text) :
    readLiteral? (escaped c ++ t) = (readLiteral? t).map (withFirst c) := by
  rcases escaped_cases c with ⟨escape, known, rfl, spelled⟩ | ⟨control, spelled⟩ | plain
  · rw [spelled]
    simp only [escapeMarks, List.mem_cons, List.not_mem_nil, or_false] at known
    rcases known with rfl | rfl | rfl | rfl | rfl <;> rfl
  · obtain ⟨x, y, z, w, digits, read⟩ := unit?_hexadecimal (mem_controlNumbers control)
    obtain ⟨unit, found, value⟩ := Option.map_eq_some_iff.mp read
    rw [spelled, digits]
    change readLiteral? (.scalar '\\' :: .scalar 'u' :: x :: y :: z :: w :: t) = _
    rw [readLiteral?, found]
    dsimp only
    rw [value, CodePoint.ofNat_toNat]
  · obtain ⟨noControl, noBackslash, noQuote, spelled⟩ := plain
    rw [spelled, List.singleton_append, readLiteral?, if_neg (Bool.eq_false_iff.mp noControl)]
    · exact noQuote
    · intro _ _ _ _ _ backslash
      exact absurd backslash noBackslash
    · intro _ _ backslash
      exact absurd backslash noBackslash

/-- A literal is read up to its closing quote as the key it was made from. -/
theorem readLiteral?_key (key rest : Text) :
    readLiteral? (key.flatMap escaped ++ .scalar '\'' :: rest) = some (key, rest) := by
  induction key with
  | nil => rfl
  | cons c others inductionHypothesis =>
    rw [List.flatMap_cons, List.append_assoc, readLiteral?_escaped, inductionHypothesis]
    rfl

/-- A bare name is not empty and consists of letters, digits and low lines. -/
theorem isBare_parts {key : Text} (bare : isBare key = true) :
    key ≠ [] ∧ ∀ c ∈ key, isBarePart c = true := by
  cases key with
  | nil => exact absurd bare Bool.false_ne_true
  | cons c rest =>
    rw [isBare, Bool.and_eq_true, List.all_eq_true] at bare
    refine ⟨List.cons_ne_nil c rest, ?_⟩
    intro other member
    rcases List.mem_cons.mp member with rfl | later
    · have lead := bare.1
      rw [Bool.or_eq_true] at lead
      rcases lead with letter | lowLine <;> simp [isBarePart, *]
    · exact bare.2 other later

/-- The property name made from a key is read as this key, if no bare name could go on behind
it. -/
theorem read?_ofKey (key : Text) {c : CodePoint} (ended : isBarePart c = false) (rest : Text) :
    read? (ofKey key ++ c :: rest) = some (key, c :: rest) := by
  rw [ofKey]
  by_cases bare : isBare key = true
  · obtain ⟨filled, parts⟩ := isBare_parts bare
    have front : (key ++ c :: rest).takeWhile isBarePart = key := by
      rw [List.takeWhile_append_of_pos parts, List.takeWhile_cons, ended]
      exact List.append_nil key
    have behind : (key ++ c :: rest).dropWhile isBarePart = c :: rest := by
      rw [List.dropWhile_append_of_pos parts, List.dropWhile_cons, ended]
      rfl
    rw [if_pos bare, read?, front, behind]
    · exact if_pos bare
    · intro later quoted
      obtain ⟨first, others, rfl⟩ := List.exists_cons_of_ne_nil filled
      have quote : isBarePart (.scalar '\'') = true :=
        (List.cons.inj quoted).1 ▸ parts first List.mem_cons_self
      exact absurd quote (by decide)
  · have mark : Text.ofString "'" = [.scalar '\''] := rfl
    rw [if_neg bare, mark, List.append_assoc, List.append_assoc, List.singleton_append,
      List.singleton_append, read?]
    exact readLiteral?_key key (c :: rest)

/-- No property name breaks its line. -/
theorem ofKey_unbroken (key : Text) : CodePoint.scalar '\n' ∉ ofKey key := by
  have spelling (c : CodePoint) : CodePoint.scalar '\n' ∉ escaped c := by
    intro broken
    exact absurd (escaped_plain c _ broken) (by decide)
  rw [ofKey]
  split
  · next bare =>
    intro broken
    exact absurd ((isBare_parts bare).2 _ broken) (by decide)
  · simp only [List.mem_append, List.mem_flatMap, not_or, not_exists, not_and]
    exact ⟨⟨by decide, fun c _ => spelling c⟩, by decide⟩

end TypeSketch.PropertyName
