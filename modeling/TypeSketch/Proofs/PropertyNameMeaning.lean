import TypeSketch.Proofs.PropertyNameText

/-!
# What a property name denotes

A property name is the key itself if that is a plain identifier. Any other key is put between
single quotes, and reading this literal gives the key back, code point by code point. Inside the
quotes every backslash takes the code point behind it with it, and neither a quote nor a backslash
is left over; nor does a control or a separator stand there as it is. A reader who knows what
follows a name reads keys of both sorts, so that different keys have different names.
-/

namespace TypeSketch.PropertyName

/-- A code point in `[A-Za-z_]`. -/
def IsLead : CodePoint → Prop
  | .scalar c => ('A' ≤ c ∧ c ≤ 'Z') ∨ ('a' ≤ c ∧ c ≤ 'z') ∨ c = '_'
  | .surrogate _ => False

/-- A code point in `[0-9]`. -/
def IsDecimal : CodePoint → Prop
  | .scalar c => '0' ≤ c ∧ c ≤ '9'
  | .surrogate _ => False

/-- A key spelled `[A-Za-z_][A-Za-z0-9_]*`. -/
def IsPlain (key : Text) : Prop :=
  ∃ first rest, key = first :: rest ∧ IsLead first ∧ ∀ c ∈ rest, IsLead c ∨ IsDecimal c

/-- What is left of the inside of a literal when every backslash is taken out of it together with
the code point that it escapes. A backslash with nothing behind it escapes nothing. -/
def outsideEscapes : Text → Text
  | [] => []
  | .scalar '\\' :: _ :: rest => outsideEscapes rest
  | c :: rest => c :: outsideEscapes rest

theorem isLead_iff (c : CodePoint) : (c.isLetter || c == .scalar '_') = true ↔ IsLead c := by
  cases c with
  | surrogate s => simp [IsLead, CodePoint.isLetter]
  | scalar c =>
    simp only [IsLead, CodePoint.isLetter, Bool.or_eq_true, Bool.and_eq_true, decide_eq_true_eq,
      beq_iff_eq, CodePoint.scalar.injEq]
    rw [or_comm (a := 'a' ≤ c ∧ c ≤ 'z'), or_assoc]

theorem isDecimal_iff (c : CodePoint) : c.isDigit = true ↔ IsDecimal c := by
  cases c <;> simp [IsDecimal, CodePoint.isDigit]

/-- The keys that stand as they are are the plain identifiers. -/
theorem isBare_iff (key : Text) : isBare key = true ↔ IsPlain key := by
  have part (c : CodePoint) :
      (c.isLetter || c.isDigit || c == .scalar '_') = true ↔ IsLead c ∨ IsDecimal c := by
    rw [← isLead_iff, ← isDecimal_iff, Bool.or_right_comm, Bool.or_eq_true]
  cases key with
  | nil => simp [isBare, IsPlain]
  | cons first rest =>
    rw [isBare, Bool.and_eq_true, isLead_iff, List.all_eq_true]
    simp only [part]
    constructor
    · rintro ⟨lead, others⟩
      exact ⟨first, rest, rfl, lead, others⟩
    · rintro ⟨_, _, same, lead, others⟩
      obtain ⟨rfl, rfl⟩ := List.cons.inj same
      exact ⟨lead, others⟩

/-- Code points other than the backslash are left, in front of what is left behind them. -/
theorem outsideEscapes_append {front : Text} (plain : CodePoint.scalar '\\' ∉ front)
    (rest : Text) : outsideEscapes (front ++ rest) = front ++ outsideEscapes rest := by
  induction front with
  | nil => rfl
  | cons c others inductionHypothesis =>
    rw [List.mem_cons, not_or] at plain
    rw [List.cons_append, outsideEscapes, inductionHypothesis plain.2, List.cons_append]
    intro _ _ backslash
    exact absurd backslash.symm plain.1

/-- Of the spelling of a code point there is left what is neither a quote nor a backslash. -/
theorem outsideEscapes_escaped (c : CodePoint) (rest : Text) :
    ∃ left : Text, outsideEscapes (escaped c ++ rest) = left ++ outsideEscapes rest ∧
      CodePoint.scalar '\'' ∉ left ∧ CodePoint.scalar '\\' ∉ left := by
  have digits : ∀ n ∈ controlNumbers, CodePoint.scalar '\'' ∉ Text.hexadecimal 4 n ∧
      CodePoint.scalar '\\' ∉ Text.hexadecimal 4 n := by decide +kernel
  rcases escaped_cases c with ⟨escape, known, rfl, spelled⟩ | ⟨control, spelled⟩ | plain
  · rw [spelled]
    exact ⟨[], rfl, List.not_mem_nil, List.not_mem_nil⟩
  · obtain ⟨noQuote, noBackslash⟩ := digits _ (mem_controlNumbers control)
    refine ⟨Text.hexadecimal 4 c.toNat, ?_, noQuote, noBackslash⟩
    rw [spelled, List.append_assoc]
    exact outsideEscapes_append noBackslash rest
  · obtain ⟨_, isNoBackslash, isNoQuote, spelled⟩ := plain
    have noBackslash : CodePoint.scalar '\\' ∉ [c] := by simpa using Ne.symm isNoBackslash
    have noQuote : CodePoint.scalar '\'' ∉ [c] := by simpa using Ne.symm isNoQuote
    rw [spelled]
    exact ⟨[c], outsideEscapes_append noBackslash rest, noQuote, noBackslash⟩

/-- No quote and no backslash inside a literal stands for itself. -/
theorem outsideEscapes_key (key : Text) :
    CodePoint.scalar '\'' ∉ outsideEscapes (key.flatMap escaped) ∧
      CodePoint.scalar '\\' ∉ outsideEscapes (key.flatMap escaped) := by
  induction key with
  | nil => exact ⟨List.not_mem_nil, List.not_mem_nil⟩
  | cons c rest inductionHypothesis =>
    obtain ⟨left, divided, noQuote, noBackslash⟩ :=
      outsideEscapes_escaped c (rest.flatMap escaped)
    rw [List.flatMap_cons, divided, List.mem_append, List.mem_append, not_or, not_or]
    exact ⟨⟨noQuote, inductionHypothesis.1⟩, noBackslash, inductionHypothesis.2⟩

/-- A code point that is not spelled by number is outside the ranges of controls and is none of
the two separators. -/
theorem isControl_eq_false_iff (c : CodePoint) : isControl c = false ↔
    ¬c.toNat ≤ 0x1F ∧ ¬(0x7F ≤ c.toNat ∧ c.toNat ≤ 0x9F) ∧
      c.toNat ≠ 0x2028 ∧ c.toNat ≠ 0x2029 := by
  simp only [isControl, Bool.or_eq_false_iff, Bool.and_eq_false_iff, decide_eq_false_iff_not,
    beq_eq_false_iff_ne]
  omega

/-- Different keys have different names: a name with a colon behind it is read as its key. -/
theorem ofKey_inj {key other : Text} : ofKey other = ofKey key ↔ other = key := by
  constructor
  · intro same
    have read := read?_ofKey key (c := .scalar ':') (by decide) []
    rw [← same, read?_ofKey other (by decide) []] at read
    exact (Prod.mk.inj (Option.some.inj read)).1
  · rintro rfl
    rfl

/-- A property name denotes its key. It is the key itself just when this is a plain identifier.
Otherwise it is a literal between single quotes that is read as the key, with its end where the
literal ends, whatever follows; inside, every quote and every backslash belongs to an escape, and
no control or separator stands as it is. So different keys have different names. -/
theorem name_denotes_key (key : Text) :
    (IsPlain key ∧ ofKey key = key ∨
      ¬IsPlain key ∧ ∃ inside : Text,
        ofKey key = .scalar '\'' :: (inside ++ [.scalar '\'']) ∧
        (∀ rest, readLiteral? (inside ++ .scalar '\'' :: rest) = some (key, rest)) ∧
        CodePoint.scalar '\'' ∉ outsideEscapes inside ∧
        CodePoint.scalar '\\' ∉ outsideEscapes inside ∧
        ∀ c ∈ inside, ¬c.toNat ≤ 0x1F ∧ ¬(0x7F ≤ c.toNat ∧ c.toNat ≤ 0x9F) ∧
          c.toNat ≠ 0x2028 ∧ c.toNat ≠ 0x2029) ∧
    ∀ other, ofKey other = ofKey key ↔ other = key := by
  refine ⟨?_, fun other => ofKey_inj⟩
  rw [ofKey, ← isBare_iff]
  by_cases bare : isBare key = true
  · exact .inl ⟨bare, if_pos bare⟩
  · obtain ⟨noQuote, noBackslash⟩ := outsideEscapes_key key
    rw [if_neg bare]
    refine .inr ⟨bare, key.flatMap escaped, rfl, readLiteral?_key key, noQuote, noBackslash, ?_⟩
    intro c member
    obtain ⟨source, _, spelled⟩ := List.mem_flatMap.mp member
    exact (isControl_eq_false_iff c).mp (escaped_plain source c spelled)

/-- A key with a quote, a separator, and a backslash that would begin an escape. -/
def trickyKey : Text := "it's \\u0041\u2028"

/-- What stands between the quotes of its name. -/
def trickyInside : Text := "it\\'s \\\\u0041\\u2028"

theorem tricky_key_denoted :
    ofKey trickyKey = .scalar '\'' :: (trickyInside ++ [.scalar '\'']) ∧
    readLiteral? (trickyInside ++ .scalar '\'' :: Text.ofString ": string;") =
      some (trickyKey, Text.ofString ": string;") ∧
    outsideEscapes trickyInside = "its u00412028" ∧
    CodePoint.scalar '\'' ∉ outsideEscapes trickyInside ∧
    CodePoint.scalar '\\' ∈ trickyInside ∧ ¬(CodePoint.scalar '\\').toNat ≤ 0x1F ∧
    ofKey "it's A\u2028" ≠ ofKey trickyKey := by
  obtain ⟨denoted, distinct⟩ := name_denotes_key trickyKey
  rcases denoted with ⟨plain, _⟩ | ⟨_, inside, quoted, read, noQuote, _, noControl⟩
  · exact absurd ((isBare_iff trickyKey).mpr plain) (by decide)
  · have spelled : ofKey trickyKey = .scalar '\'' :: (trickyInside ++ [.scalar '\'']) := by
      decide +kernel
    obtain rfl : inside = trickyInside :=
      List.append_cancel_right (List.cons.inj (quoted.symm.trans spelled)).2
    have escaping : CodePoint.scalar '\\' ∈ trickyInside := by decide
    refine ⟨quoted, read _, by decide +kernel, noQuote, escaping, (noControl _ escaping).1, ?_⟩
    rw [Ne, distinct]
    decide

end TypeSketch.PropertyName
