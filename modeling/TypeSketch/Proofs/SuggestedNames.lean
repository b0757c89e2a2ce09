import TypeSketch.Proofs.Conversion

/-!
# Suggested names keep the letters of a key

A name is suggested for a key by finding its singular, splitting this into words and joining the
words. What comes of it can be said without any words: `letters` passes over the singular once,
keeps what can stand in a name, and makes a capital of each code point that does not directly
follow a kept one. The suggested name is these letters, with a low line in front of a digit, and
the fallback if there are none.

So no letter is lost and none changes its place, and what a walk declares is spelled by the pattern
of `IsIdentifier`, numbers behind names included.
-/

namespace TypeSketch.TypeName

/-- A name spelled `[A-Z_$][A-Za-z0-9_$]*`. -/
def IsIdentifier (name : Text) : Prop :=
  ∃ (first : Char) (rest : List Char), name = (first :: rest).map .scalar ∧
    (('A' ≤ first ∧ first ≤ 'Z') ∨ first = '_' ∨ first = '$') ∧
    ∀ c ∈ rest, ('A' ≤ c ∧ c ≤ 'Z') ∨ ('a' ≤ c ∧ c ≤ 'z') ∨ ('0' ≤ c ∧ c ≤ '9') ∨
      c = '_' ∨ c = '$'

theorem isPart_iff (c : Char) : isPart (.scalar c) = true ↔
    ('A' ≤ c ∧ c ≤ 'Z') ∨ ('a' ≤ c ∧ c ≤ 'z') ∨ ('0' ≤ c ∧ c ≤ '9') ∨ c = '_' ∨ c = '$' := by
  simp only [isPart, CodePoint.isLetter, CodePoint.isDigit, Bool.or_eq_true, Bool.and_eq_true,
    decide_eq_true_eq, beq_iff_eq, CodePoint.scalar.injEq]
  constructor
  · rintro ((((small | capital) | digit) | line) | dollar)
    · exact .inr (.inl small)
    · exact .inl capital
    · exact .inr (.inr (.inl digit))
    · exact .inr (.inr (.inr (.inl line)))
    · exact .inr (.inr (.inr (.inr dollar)))
  · rintro (capital | small | digit | line | dollar)
    · exact .inl (.inl (.inl (.inr capital)))
    · exact .inl (.inl (.inl (.inl small)))
    · exact .inl (.inl (.inr digit))
    · exact .inl (.inr line)
    · exact .inr dollar

/-- What can stand in a name is a character. -/
theorem scalar_of_isPart {c : CodePoint} (part : isPart c = true) : ∃ char, c = .scalar char := by
  cases c with
  | scalar char => exact ⟨char, rfl⟩
  | surrogate offset => exact absurd part (by simp [isPart, CodePoint.isLetter, CodePoint.isDigit])

/-- A small letter is not its own capital. -/
theorem toUpper_ne_of_small {c : Char} (small : 'a' ≤ c ∧ c ≤ 'z') :
    (CodePoint.scalar c).toUpper ≠ .scalar c := by
  have low : 97 ≤ c.toNat := small.1
  have high : c.toNat ≤ 122 := small.2
  intro same
  have equal : Char.ofNat (c.toNat - 32) = c := by
    simpa [CodePoint.toUpper, small.1, small.2] using same
  have valid : (c.toNat - 32).isValidChar := .inl (by omega)
  have value : (Char.ofNat (c.toNat - 32)).toNat = c.toNat - 32 :=
    congrArg Char.toNat (dif_pos valid)
  rw [equal] at value
  omega

/-- What begins a name is a capital or one of the two signs. -/
theorem lead_spelled {c : Char} (lead : isLead (.scalar c) = true) :
    ('A' ≤ c ∧ c ≤ 'Z') ∨ c = '_' ∨ c = '$' := by
  simp only [isLead, Bool.and_eq_true, Bool.not_eq_true', beq_iff_eq] at lead
  obtain ⟨⟨part, noDigit⟩, own⟩ := lead
  rcases (isPart_iff c).mp part with capital | small | digit | sign
  · exact .inl capital
  · exact absurd own (toUpper_ne_of_small small)
  · simp [CodePoint.isDigit, digit.1, digit.2] at noDigit
  · exact .inr sign

/-- What can stand in a name, code point by code point, is a row of characters. -/
theorem exists_chars_of_parts {parts : Text} (all : parts.all isPart = true) :
    ∃ chars : List Char, parts = chars.map .scalar ∧ ∀ c ∈ chars, isPart (.scalar c) = true := by
  induction parts with
  | nil => exact ⟨[], rfl, by simp⟩
  | cons c rest inductionHypothesis =>
    rw [List.all_cons, Bool.and_eq_true] at all
    obtain ⟨char, rfl⟩ := scalar_of_isPart all.1
    obtain ⟨chars, rfl, each⟩ := inductionHypothesis all.2
    exact ⟨char :: chars, rfl, List.forall_mem_cons.mpr ⟨all.1, each⟩⟩

/-- An identifier in the sense of `isProper` is spelled as the pattern says. -/
theorem isIdentifier_of_isProper {name : Text} (proper : isProper name = true) :
    IsIdentifier name := by
  cases name with
  | nil => exact absurd proper Bool.false_ne_true
  | cons c rest =>
    obtain ⟨chars, spelled, each⟩ := exists_chars_of_parts (proper_parts proper)
    cases chars with
    | nil => exact absurd spelled (List.cons_ne_nil c rest)
    | cons first others =>
      obtain ⟨rfl, rfl⟩ := List.cons.inj spelled
      rw [isProper, Bool.and_eq_true] at proper
      rw [List.forall_mem_cons] at each
      refine ⟨first, others, rfl, lead_spelled proper.1, ?_⟩
      intro c inside
      exact (isPart_iff c).mp (each.2 c inside)

/-- An identifier is an ASCII text. -/
theorem IsIdentifier.ascii {name : Text} (identifier : IsIdentifier name) :
    ∀ c ∈ name, c.toNat < 128 := by
  obtain ⟨first, rest, rfl, lead, others⟩ := identifier
  have bound (c : Char) (spelled : ('A' ≤ c ∧ c ≤ 'Z') ∨ ('a' ≤ c ∧ c ≤ 'z') ∨
      ('0' ≤ c ∧ c ≤ '9') ∨ c = '_' ∨ c = '$') : c.toNat < 128 := by
    rcases spelled with capital | small | digit | rfl | rfl
    · exact Nat.lt_of_le_of_lt capital.2 (by decide)
    · exact Nat.lt_of_le_of_lt small.2 (by decide)
    · exact Nat.lt_of_le_of_lt digit.2 (by decide)
    · decide
    · decide
  intro c inside
  obtain ⟨char, member, rfl⟩ := List.mem_map.mp inside
  rcases List.mem_cons.mp member with rfl | later
  · apply bound
    rcases lead with capital | sign
    · exact .inl capital
    · exact .inr (.inr (.inr sign))
  · exact bound char (others char later)

/-- The words that a program in the emitted language cannot use as a name, those with a meaning
in some places only included. -/
def reservedWords : List Text :=
  ["abstract", "any", "arguments", "as", "asserts", "async", "await", "bigint", "boolean",
    "break", "case", "catch", "class", "const", "constructor", "continue", "debugger", "declare",
    "default", "delete", "do", "else", "enum", "eval", "export", "extends", "false", "finally",
    "for", "from", "function", "get", "global", "if", "implements", "import", "in", "infer",
    "instanceof", "interface", "is", "keyof", "let", "module", "namespace", "never", "new",
    "null", "number", "object", "of", "package", "private", "protected", "public", "readonly",
    "require", "return", "set", "static", "string", "super", "switch", "symbol", "this", "throw",
    "true", "try", "type", "typeof", "undefined", "unique", "unknown", "var", "void", "while",
    "with", "yield"].map Text.ofString

/-- They all begin with a small letter. -/
theorem reserved_improper : ∀ word ∈ reservedWords, isProper word = false := by decide +kernel

/-- The code points of a text that can stand in a name, in order. Each that does not directly
follow another one is made a capital. -/
def letters : (inRun : Bool) → Text → Text
  | _, [] => []
  | inRun, c :: rest =>
    if isPart c then (if inRun then c else c.toUpper) :: letters true rest else letters false rest

/-- A run that goes on keeps its letters, and one that begins gets a capital. -/
theorem letters_leadingRun (t : Text) :
    letters true t = (Text.leadingRun isPart t).1 ++
        ((Text.leadingRun isPart t).2.map capitalize).flatten ∧
      letters false t = capitalize (Text.leadingRun isPart t).1 ++
        ((Text.leadingRun isPart t).2.map capitalize).flatten := by
  induction t with
  | nil => exact ⟨rfl, rfl⟩
  | cons c rest inductionHypothesis =>
    by_cases part : isPart c = true
    · simp [letters, Text.leadingRun, part, inductionHypothesis.1, capitalize]
    · have broken : letters false rest =
          ((if (Text.leadingRun isPart rest).1.isEmpty then (Text.leadingRun isPart rest).2
            else (Text.leadingRun isPart rest).1 ::
              (Text.leadingRun isPart rest).2).map capitalize).flatten := by
        rw [inductionHypothesis.2]
        cases (Text.leadingRun isPart rest).1 <;> rfl
      simp [letters, Text.leadingRun, part, broken, capitalize]

/-- The letters are the runs of what can stand in a name, each with a capital. -/
theorem letters_runs (t : Text) : letters false t = ((t.runs isPart).map capitalize).flatten := by
  rw [(letters_leadingRun t).2, Text.runs]
  rcases Text.leadingRun isPart t with ⟨run, later⟩
  cases run <;> rfl

/-- A digit is its own capital, and no other capital is a digit. -/
theorem isDigit_toUpper {c : CodePoint} (part : isPart c = true) :
    c.toUpper.isDigit = c.isDigit ∧ (c.isDigit = true → c.toUpper = c) := by
  obtain ⟨char, rfl⟩ := scalar_of_isPart part
  by_cases digit : (CodePoint.scalar char).isDigit = true
  · have notSmall : ¬('a' ≤ char ∧ char ≤ 'z') := by
      intro small
      simp only [CodePoint.isDigit, Bool.and_eq_true, decide_eq_true_eq] at digit
      exact absurd (Char.le_trans small.1 digit.2) (by decide)
    have own : (CodePoint.scalar char).toUpper = .scalar char := by
      simp only [CodePoint.toUpper, Bool.and_eq_true, decide_eq_true_eq, if_neg notSmall]
    exact ⟨by rw [own], fun _ => own⟩
  · have lead := isLead_toUpper part ((Bool.not_eq_true _).mp digit)
    simp only [isLead, Bool.and_eq_true, Bool.not_eq_true'] at lead
    exact ⟨lead.1.2.trans ((Bool.not_eq_true _).mp digit).symm, fun isDigit => absurd isDigit digit⟩

/-- Words joined with capitals, guarded and begun with a capital are their letters, guarded. -/
theorem capitalize_joinWords {words : List Text} (filled : ∀ word ∈ words, word ≠ [])
    (parts : ∀ word ∈ words, word.all isPart = true) :
    capitalize (guardDigit (joinWords words)) = guardDigit (words.map capitalize).flatten := by
  cases words with
  | nil => rfl
  | cons first others =>
    obtain ⟨c, rest, rfl⟩ := List.exists_cons_of_ne_nil (filled first List.mem_cons_self)
    have part : isPart c = true := List.all_eq_true.mp (parts _ List.mem_cons_self) c
      List.mem_cons_self
    obtain ⟨sameDigit, own⟩ := isDigit_toUpper part
    by_cases digit : c.isDigit = true
    · simp [joinWords, capitalize, guardDigit, digit, own digit]
      rfl
    · simp [joinWords, capitalize, guardDigit, digit, sameDigit]

/-- A key suggests the letters of its singular. -/
theorem suggest_letters (key : Text) :
    suggest key = if letters false (singularize key) = [] then fallback
      else guardDigit (letters false (singularize key)) := by
  have joined := capitalize_joinWords
    (fun word member => Text.filled_of_mem_runs isPart member)
    (fun word member => Text.all_of_mem_runs isPart (t := singularize key) member)
  rw [← letters_runs] at joined
  rw [suggest, joined]
  cases letters false (singularize key) with
  | nil => rfl
  | cons c rest =>
    rw [if_neg (List.cons_ne_nil c rest), guardDigit]
    by_cases digit : c.isDigit = true
    · rw [if_pos digit]
    · rw [if_neg digit]

/-- There is one letter for each code point that can stand in a name. -/
theorem letters_length (inRun : Bool) (t : Text) :
    (letters inRun t).length = (t.filter isPart).length := by
  induction t generalizing inRun with
  | nil => rfl
  | cons c rest inductionHypothesis =>
    by_cases part : isPart c = true
    · simp only [letters, part, if_true, List.length_cons, List.filter_cons_of_pos part,
        inductionHypothesis]
    · simp only [letters, part, Bool.false_eq_true, if_false, List.filter_cons_of_neg part,
        inductionHypothesis]

/-- The first letter is the capital of the first code point that can stand in a name. -/
theorem letters_head? (t : Text) :
    (letters false t).head? = (t.filter isPart).head?.map CodePoint.toUpper := by
  induction t with
  | nil => rfl
  | cons c rest inductionHypothesis =>
    by_cases part : isPart c = true
    · simp [letters, part]
    · simp [letters, part, inductionHypothesis]

/-- The low line is put in front if what is kept begins with a digit. -/
theorem guardDigit_letters {t : Text} (filled : letters false t ≠ []) :
    guardDigit (letters false t) =
      (if (t.filter isPart).head?.any CodePoint.isDigit then ("_" : Text) else "") ++
        letters false t := by
  have head := letters_head? t
  obtain ⟨letter, others, spelled⟩ := List.exists_cons_of_ne_nil filled
  rw [spelled] at head ⊢
  obtain ⟨c, first, isLetter⟩ := Option.map_eq_some_iff.mp head.symm
  have part : isPart c = true := (List.mem_filter.mp (List.mem_of_head? first)).2
  rw [guardDigit, ← isLetter, (isDigit_toUpper part).1, first, Option.any_some]
  by_cases digit : c.isDigit = true
  · rw [if_pos digit, if_pos digit]
    rfl
  · rw [if_neg digit, if_neg digit]
    rfl

/-- Letters behind some others: whether they go on with a run is a matter of the last code point
before them. -/
theorem letters_append (inRun : Bool) (before rest : Text) :
    letters inRun (before ++ rest) =
      letters inRun before ++ letters ((before.getLast?.map isPart).getD inRun) rest := by
  induction before generalizing inRun with
  | nil => rfl
  | cons c others inductionHypothesis =>
    have last : (((c :: others).getLast?.map isPart).getD inRun) =
        (others.getLast?.map isPart).getD (isPart c) := by
      rw [List.getLast?_cons]
      cases others.getLast? <;> rfl
    rw [last, List.cons_append]
    by_cases part : isPart c = true
    · simp [letters, part, inductionHypothesis]
    · simp [letters, part, inductionHypothesis]

/-- A code point that can stand in a name is found among the letters behind those before it, as a
capital unless it directly follows another one. -/
theorem letters_at {t before after : Text} {c : CodePoint} (split : t = before ++ c :: after)
    (part : isPart c = true) :
    (letters false t)[(before.filter isPart).length]? =
      some (if before.getLast?.any isPart then c else c.toUpper) := by
  have follows : (before.getLast?.map isPart).getD false = before.getLast?.any isPart := by
    cases before.getLast? <;> rfl
  rw [split, letters_append, ← letters_length false before, follows,
    List.getElem?_append_right (Nat.le_refl _), Nat.sub_self, letters, if_pos part]
  rfl

/-- Every key suggests an identifier in ASCII, which is no reserved word. If the singular of the
key has nothing that can stand in a name, this is the fallback. Otherwise the name is what can
stand in a name there, each in its place, as a capital exactly where it does not directly follow
another one, and with a low line in front if the first of these is a digit. Hence all names that a
text is converted to, numbers behind them included, are such identifiers. -/
theorem suggestion_keeps_letters (key : Text) :
    IsIdentifier (suggest key) ∧ (∀ c ∈ suggest key, c.toNat < 128) ∧
    suggest key ∉ reservedWords ∧
    (if (singularize key).filter isPart = [] then suggest key = "Item"
      else ∃ kept : Text,
        suggest key = (if ((singularize key).filter isPart).head?.any CodePoint.isDigit
          then ("_" : Text) else "") ++ kept ∧
        kept.length = ((singularize key).filter isPart).length ∧
        ∀ before c after, singularize key = before ++ c :: after → isPart c = true →
          kept[(before.filter isPart).length]? =
            some (if before.getLast?.any isPart then c else c.toUpper)) ∧
    ∀ style text output, convert style text = .ok output →
      ∃ document registry, Document.ofText text = .ok document ∧
        Generator.declarations style document = .ok registry ∧ output = registry.text ∧
        ∀ name ∈ registry.names, IsIdentifier name := by
  have identifier := isIdentifier_of_isProper (suggest_proper key)
  refine ⟨identifier, identifier.ascii, ?_, ?_, ?_⟩
  · intro reserved
    have improper := reserved_improper _ reserved
    rw [suggest_proper key] at improper
    exact Bool.false_ne_true improper.symm
  · have many := letters_length false (singularize key)
    rw [suggest_letters]
    by_cases nothing : (singularize key).filter isPart = []
    · have noLetters : letters false (singularize key) = [] := by
        rwa [nothing, List.length_nil, List.length_eq_zero_iff] at many
      rw [if_pos nothing, if_pos noLetters]
      rfl
    · have filled : letters false (singularize key) ≠ [] := by
        intro noLetters
        rw [noLetters, List.length_nil, eq_comm, List.length_eq_zero_iff] at many
        exact nothing many
      rw [if_neg nothing, if_neg filled]
      refine ⟨letters false (singularize key), guardDigit_letters filled, many, ?_⟩
      intro before c after split part
      exact letters_at split part
  · intro style text output returned
    obtain ⟨document, registry, read, walked, rendered⟩ := convert_iff.mp returned
    refine ⟨document, registry, read, walked, rendered, ?_⟩
    intro name declared
    exact isIdentifier_of_isProper (Generator.declarations_proper walked name declared)

/-- A key that begins with a digit and has breaks of several kinds in it. -/
def ordinalKey : Text := "2nd état-categories"

/-- A text with an object under this key, and with two that get the same suggestion. -/
def ordinalText : Text :=
  "\x7b\"2nd état-categories\": \x7b\x7d, \"tags\": \x7b\x7d, \"tag\": \x7b\x7d\x7d"

def ordinalMembers : Members Empty :=
  [(ordinalKey, .object []), ("tags", .object []), ("tag", .object [])]

theorem ordinal_key_kept :
    suggest ordinalKey = "_2ndTatCategory" ∧ IsIdentifier (suggest ordinalKey) ∧
    suggest ordinalKey ∉ reservedWords ∧
    (∃ kept : Text, suggest ordinalKey = "_" ++ kept ∧ kept[3]? = some (.scalar 'T')) ∧
    ∃ registry : Registry Entry, convert {} ordinalText = .ok registry.text ∧
      Generator.declarations {} (.object ordinalMembers) = .ok registry ∧
      registry.names = ["_2ndTatCategory", "Tag", "Tag1", "Root"] ∧
      ∀ name ∈ registry.names, IsIdentifier name := by
  have read : Document.ofText ordinalText = .ok (.object ordinalMembers) := rfl
  have typed : (Generator.runOn .empty
      (Generator.generate {} TypeName.root (.object ordinalMembers))).1.toOption =
        some (.named TypeName.root) := by decide +kernel
  have listed : (Generator.runOn .empty
      (Generator.generate {} TypeName.root (.object ordinalMembers))).2.names =
        ["_2ndTatCategory", "Tag", "Tag1", "Root"] := by decide +kernel
  obtain ⟨registry, walked⟩ := Generator.runOn_returns typed
  rw [walked] at listed
  have declared := Generator.declarations_iff.mpr ⟨_, walked⟩
  have returned : convert {} ordinalText = .ok registry.text :=
    convert_iff.mpr ⟨_, registry, read, declared, rfl⟩
  obtain ⟨identifier, _, unreserved, keeps, names⟩ := suggestion_keeps_letters ordinalKey
  rw [if_neg (by decide)] at keeps
  obtain ⟨kept, suggested, _, places⟩ := keeps
  rw [if_pos (by decide +kernel)] at suggested
  obtain ⟨document, result, readAgain, walkedAgain, _, identifiers⟩ :=
    names {} ordinalText _ returned
  have same : document = .object ordinalMembers := Except.ok.inj (readAgain.symm.trans read)
  subst same
  have sameResult : result = registry := Except.ok.inj (walkedAgain.symm.trans declared)
  subst sameResult
  refine ⟨by decide +kernel, identifier, unreserved, ⟨kept, suggested, ?_⟩, result, returned,
    declared, listed, identifiers⟩
  exact places "2nd é" (.scalar 't') "at-category" (by decide +kernel) (by decide)

end TypeSketch.TypeName
