import TypeSketch.Proofs.FreeName
import TypeSketch.TypeExpr
import TypeSketch.TypeName

/-!
# Names are words

Whatever its key, a suggested name begins with a capital, a low line or a dollar sign and
goes on with letters, digits and these two signs. More generally it is a word: nothing in
it belongs to the text of an array or a union, and it does not begin with a small letter as
the primitive types do, all but `Date`. A number behind a word changes nothing about this,
so a walk that begins with a word declares nothing but words.
-/

namespace TypeSketch.TypeName

/-- Whether a code point can begin a name: it can stand in one, and is neither a digit nor a
small letter. -/
def isLead (c : CodePoint) : Bool := isPart c && !c.isDigit && c.toUpper == c

/-- Whether a text is an identifier that does not begin with a small letter. -/
def isProper : Text → Bool
  | [] => false
  | c :: rest => isLead c && rest.all isPart

/-- The capital of a small letter is another letter. -/
theorem toUpper_small {c : Char} (small : 'a' ≤ c ∧ c ≤ 'z') :
    isLead (CodePoint.scalar c).toUpper = true := by
  have table : ∀ n < 26, isLead (.scalar (Char.ofNat (97 + n - 32))) = true := by decide
  have low : 97 ≤ c.toNat := small.1
  have high : c.toNat ≤ 122 := small.2
  have entry := table (c.toNat - 97) (by omega)
  rw [Nat.add_sub_cancel' low] at entry
  simpa [CodePoint.toUpper, small.1, small.2] using entry

/-- The capital of what can stand in a name, but is no digit, can begin one. -/
theorem isLead_toUpper {c : CodePoint} (part : isPart c = true) (noDigit : c.isDigit = false) :
    isLead c.toUpper = true := by
  cases c with
  | surrogate offset => exact absurd part (by simp [isPart, CodePoint.isLetter, CodePoint.isDigit])
  | scalar c =>
    by_cases small : 'a' ≤ c ∧ c ≤ 'z'
    · exact toUpper_small small
    · have same : (CodePoint.scalar c).toUpper = .scalar c := by
        simp only [CodePoint.toUpper, Bool.and_eq_true, decide_eq_true_eq, if_neg small]
      rw [same, isLead, part, noDigit, same]
      exact beq_self_eq_true _

/-- Capitals stand where their letters can. -/
theorem isPart_toUpper {c : CodePoint} (part : isPart c = true) : isPart c.toUpper = true := by
  by_cases digit : c.isDigit = true
  · cases c with
    | surrogate offset => exact part
    | scalar c =>
      have notSmall : ¬('a' ≤ c ∧ c ≤ 'z') := by
        intro small
        have high : c ≤ '9' := by simpa [CodePoint.isDigit] using And.right (by
          simpa [CodePoint.isDigit] using digit)
        exact absurd (Char.le_trans small.1 high) (by decide)
      simpa [CodePoint.toUpper, notSmall] using part
  · have lead := isLead_toUpper part (by simpa using digit)
    simp only [isLead, Bool.and_eq_true] at lead
    exact lead.1.1

theorem capitalize_parts {word : Text} (parts : word.all isPart = true) :
    (capitalize word).all isPart = true := by
  cases word with
  | nil => rfl
  | cons c rest =>
    rw [List.all_cons, Bool.and_eq_true] at parts
    rw [capitalize, List.all_cons, isPart_toUpper parts.1, parts.2]
    rfl

/-- Words run together hold nothing but their own code points and capitals of these. -/
theorem joinWords_parts {words : List Text} (parts : ∀ word ∈ words, word.all isPart = true) :
    (joinWords words).all isPart = true := by
  cases words with
  | nil => rfl
  | cons first others =>
    rw [joinWords, List.all_append, parts first List.mem_cons_self, Bool.true_and,
      List.all_eq_true]
    intro c inside
    obtain ⟨word, member, within⟩ := List.mem_flatten.mp inside
    obtain ⟨original, other, rfl⟩ := List.mem_map.mp member
    exact List.all_eq_true.mp (capitalize_parts (parts original (List.mem_cons_of_mem _ other))) c
      within

/-- With a low line in front of a digit, and a capital after that, what remains is a name
unless nothing does. -/
theorem capitalize_guardDigit {word : Text} (parts : word.all isPart = true) (filled : word ≠ []) :
    isProper (capitalize (guardDigit word)) = true := by
  obtain ⟨c, rest, rfl⟩ := List.exists_cons_of_ne_nil filled
  rw [List.all_cons, Bool.and_eq_true] at parts
  rw [guardDigit]
  by_cases digit : c.isDigit = true
  · rw [if_pos digit, capitalize, isProper, List.all_cons, parts.1, parts.2]
    decide
  · rw [if_neg digit, capitalize, isProper, isLead_toUpper parts.1 (by simpa using digit), parts.2]
    rfl

/-- Every key suggests an identifier that does not begin with a small letter. -/
theorem suggest_proper (key : Text) : isProper (suggest key) = true := by
  have parts : (joinWords ((singularize key).runs isPart)).all isPart = true :=
    joinWords_parts fun word member => Text.all_of_mem_runs isPart member
  unfold suggest
  cases joined : joinWords ((singularize key).runs isPart) with
  | nil => decide
  | cons c rest =>
    rw [joined] at parts
    have proper := capitalize_guardDigit parts (List.cons_ne_nil c rest)
    split
    · decide
    · exact proper

theorem numeral_digits (n : Nat) : (Text.numeral n).all CodePoint.isDigit = true := by
  rw [Text.numeral, List.all_map, List.all_eq_true]
  intro c member
  have digit : c.isDigit = true := Nat.isDigit_of_mem_toDigits (by decide) (by decide) member
  simpa [CodePoint.isDigit, Char.isDigit, Char.le_def] using digit

theorem numeral_parts (n : Nat) : (Text.numeral n).all isPart = true := by
  rw [List.all_eq_true]
  intro c member
  have digit : c.isDigit = true := List.all_eq_true.mp (numeral_digits n) c member
  simp [isPart, digit]

/-- Whether a code point can stand in a word: whatever a type is written with beside its
words, brackets and bars and the blanks around these, cannot. -/
def isWordPart (c : CodePoint) : Bool :=
  !(["(", ")", "[", "]", "|", " "].flatMap Text.ofString).contains c

/-- Whether a text is a word that does not begin with a small letter. All identifiers that
begin with a capital, of whatever script, are such words. -/
def isWord : Text → Bool
  | [] => false
  | c :: rest => c.toUpper == c && (c :: rest).all isWordPart

/-- What can stand in a name can stand in a word. -/
theorem isWordPart_of_isPart {c : CodePoint} (part : isPart c = true) : isWordPart c = true := by
  rw [isWordPart, Bool.not_eq_true', List.contains_eq_mem, decide_eq_false_iff_not]
  intro delimiter
  have noParts : ∀ other ∈ ["(", ")", "[", "]", "|", " "].flatMap Text.ofString,
      isPart other = false := by decide
  rw [noParts c delimiter] at part
  exact Bool.false_ne_true part

/-- An identifier has nothing in it that cannot stand in a name. -/
theorem proper_parts {name : Text} (proper : isProper name = true) : name.all isPart = true := by
  cases name with
  | nil => exact absurd proper Bool.false_ne_true
  | cons c rest =>
    simp only [isProper, isLead, Bool.and_eq_true] at proper
    rw [List.all_cons, proper.1.1.1, proper.2]
    rfl

theorem isWord_of_isProper {name : Text} (proper : isProper name = true) : isWord name = true := by
  have parts := List.all_eq_true.mp (proper_parts proper)
  cases name with
  | nil => exact proper
  | cons c rest =>
    simp only [isProper, isLead, Bool.and_eq_true] at proper
    rw [isWord, proper.1.2, Bool.true_and, List.all_eq_true]
    exact fun other inside => isWordPart_of_isPart (parts other inside)

/-- Every key suggests a word. -/
theorem suggest_word (key : Text) : isWord (suggest key) = true :=
  isWord_of_isProper (suggest_proper key)

/-- A number behind an identifier leaves it one. -/
theorem variant_proper (candidate : Text) (proper : isProper candidate = true) (k : Nat) :
    isProper (Registry.variant candidate k) = true := by
  cases k with
  | zero => exact proper
  | succ k =>
    cases candidate with
    | nil => exact absurd proper Bool.false_ne_true
    | cons c rest =>
      rw [isProper, Bool.and_eq_true] at proper
      rw [Registry.variant, List.cons_append, isProper, List.all_append, proper.1, proper.2,
        numeral_parts]
      rfl

/-- A number behind a word leaves it one. -/
theorem variant_word (candidate : Text) (word : isWord candidate = true) (k : Nat) :
    isWord (Registry.variant candidate k) = true := by
  cases k with
  | zero => exact word
  | succ k =>
    cases candidate with
    | nil => exact absurd word Bool.false_ne_true
    | cons c rest =>
      have numeral : (Text.numeral (k + 1)).all isWordPart = true := by
        rw [List.all_eq_true]
        intro digit inside
        exact isWordPart_of_isPart (List.all_eq_true.mp (numeral_parts (k + 1)) digit inside)
      rw [isWord, Bool.and_eq_true] at word
      rw [Registry.variant, List.cons_append, isWord, ← List.cons_append, List.all_append, word.1,
        word.2, numeral]
      rfl

/-- Whether a name ends in a digit, as every variant of a candidate does but the candidate
itself. -/
def isNumbered (name : Text) : Bool := name.getLast?.any CodePoint.isDigit

theorem variant_numbered (candidate : Text) (k : Nat) :
    isNumbered (Registry.variant candidate (k + 1)) = true := by
  obtain ⟨front, last, split⟩ :=
    List.eq_nil_or_concat (Text.numeral (k + 1)) |>.resolve_left (Text.numeral_filled _)
  have digit : last.isDigit = true := by
    refine List.all_eq_true.mp (numeral_digits (k + 1)) last ?_
    rw [split, List.concat_eq_append]
    exact List.mem_append_right front List.mem_cons_self
  rw [isNumbered, Registry.variant, split, List.concat_eq_append, ← List.append_assoc,
    List.getLast?_append_of_ne_nil _ (List.cons_ne_nil last []), List.getLast?_singleton]
  exact digit

/-- A name without a number is given to nothing but a candidate that spells it, and to the
first of these provided that it is free. -/
theorem mem_reserveEach_iff {ε : Type} {name : Text} (plain : isNumbered name = false)
    (candidates : List Text) (registry : Registry ε) :
    name ∈ (registry.reserveEach candidates).1 ↔
      name ∈ candidates ∧ registry.contains name = false := by
  induction candidates generalizing registry with
  | nil => simp [Registry.reserveEach]
  | cons candidate rest inductionHypothesis =>
    have own : registry.freeName candidate = name →
        candidate = name ∧ registry.contains name = false := by
      intro given
      obtain ⟨k, found, free, _⟩ := registry.freeName_least candidate
      cases k with
      | zero => exact ⟨found.symm.trans given, (found.symm.trans given) ▸ free⟩
      | succ k =>
        have numbered := variant_numbered candidate k
        rw [← found, given, plain] at numbered
        exact absurd numbered Bool.false_ne_true
    rw [Registry.reserveEach, List.mem_cons, inductionHypothesis, Registry.contains_reserve,
      Bool.or_eq_false_iff, beq_eq_false_iff_ne, Registry.reserve_fst, List.mem_cons]
    constructor
    · rintro (given | ⟨later, _, free⟩)
      · obtain ⟨same, free⟩ := own given.symm
        exact ⟨.inl same.symm, free⟩
      · exact ⟨.inr later, free⟩
    · rintro ⟨member, free⟩
      by_cases given : name = registry.freeName candidate
      · exact .inl given
      · rcases member with rfl | later
        · exact absurd (Registry.freeName_of_free free).symm given
        · exact .inr ⟨later, given, free⟩

/-- A word that does not begin with a small letter is the text of no primitive type, except
of a date. -/
theorem eq_date_of_word {type : Primitive} (word : isWord type.text = true) : type = .date := by
  cases type with
  | date => rfl
  | null | boolean | number | string | any => exact absurd word (by decide)

theorem word_parts {name : Text} (word : isWord name = true) :
    name ≠ [] ∧ name.all isWordPart = true := by
  cases name with
  | nil => exact absurd word Bool.false_ne_true
  | cons c rest =>
    rw [isWord, Bool.and_eq_true] at word
    exact ⟨List.cons_ne_nil c rest, word.2⟩

end TypeSketch.TypeName
