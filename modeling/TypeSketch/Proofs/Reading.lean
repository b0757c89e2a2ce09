import Mathlib.Data.Fintype.Basic
import Mathlib.Tactic.FinCases
import TypeSketch.Proofs.ReadingContainers

/-!
# Reading JSON

The reader and the grammar agree. From the text of a tree the reader gets what the tree
stands for, by induction on the depth that is left, and with the length of the whole text
as a bound for the items of each container. And whatever the reader accepts is the text of
a tree, by the same induction.

Hence a text that is not nested too deeply is read exactly when it is JSON without integer
literals that are too long.
-/

namespace TypeSketch.Reader

open Grammar NumberLiteral

/-! ### Words and numbers -/

theorem word?_text (word : Word) (rest : Text) :
    word? (word.text ++ rest) = some (.ok word.meaning, rest) := by
  cases word <;> rfl

theorem word?_sound {t rest : Text} {document : Document}
    (found : word? t = some (.ok document, rest)) :
    ∃ word : Word, word.meaning = document ∧ t = word.text ++ rest := by
  obtain ⟨⟨word, outcome⟩, member, isPrefix⟩ := List.exists_of_findSome?_eq_some found
  obtain ⟨behind, split, same⟩ := Option.map_eq_some_iff.mp isPrefix
  obtain ⟨rfl, rfl⟩ := Prod.mk.inj same
  rw [List.isPrefixOf?_eq_some_iff_append_eq] at split
  rw [← split]
  simp only [words, List.mem_cons, Prod.mk.injEq, List.not_mem_nil, or_false] at member
  rcases member with ⟨rfl, ok⟩ | ⟨rfl, ok⟩ | ⟨rfl, ok⟩ | ⟨_, error⟩ | ⟨_, error⟩ | ⟨_, error⟩
  · exact ⟨.null, (Except.ok.inj ok).symm, rfl⟩
  · exact ⟨.true, (Except.ok.inj ok).symm, rfl⟩
  · exact ⟨.false, (Except.ok.inj ok).symm, rfl⟩
  all_goals exact absurd error (by simp)

/-- The text of a number begins with a digit, or with a minus sign and a digit. -/
theorem numberText_begins (form : NumberForm) : ∃ (digit : Fin 10) (t : Text),
    form.text = signText form.literal.negative false ++ .scalar (Nat.digitChar digit) :: t := by
  obtain ⟨lead, others, filled, _⟩ := form.wellFormed.whole
  rw [NumberForm.text, filled]
  exact ⟨lead, _, rfl⟩

/-- So it begins with no word. -/
theorem word?_number (form : NumberForm) (rest : Text) : word? (form.text ++ rest) = none := by
  obtain ⟨digit, t, begins⟩ := numberText_begins form
  rw [begins]
  cases form.literal.negative <;> fin_cases digit <;> rfl

theorem wordOrNumber_word (word : Word) (rest : Text) :
    wordOrNumber (word.text ++ rest) = .ok (word.meaning, rest) := by
  rw [wordOrNumber, word?_text]
  rfl

theorem wordOrNumber_number (form : NumberForm) {rest : Text} (closed : Closed rest) :
    wordOrNumber (form.text ++ rest) = (form.literal.number.map .number).map (·, rest) := by
  rw [wordOrNumber, word?_number, read?_text form closed]
  dsimp only
  cases form.literal.number <;> rfl

theorem wordOrNumber_sound {t rest : Text} {document : Document}
    (read : wordOrNumber t = .ok (document, rest)) :
    ∃ tree : Tree, (∀ depth, tree.meaning depth = .ok document) ∧ t = tree.text ++ rest := by
  rw [wordOrNumber] at read
  split at read
  · next outcome behind found =>
    cases outcome with
    | error fault => exact absurd read (by simp [Except.map])
    | ok value =>
      obtain ⟨rfl, rfl⟩ := Prod.mk.inj (Except.ok.inj read)
      obtain ⟨word, rfl, split⟩ := word?_sound found
      exact ⟨.word word, fun depth => by rw [Tree.meaning], split⟩
  · split at read
    · next literal behind found =>
      cases number : literal.number with
      | error fault => rw [number] at read; exact absurd read (by simp [Except.map])
      | ok value =>
        rw [number] at read
        obtain ⟨rfl, rfl⟩ := Prod.mk.inj (Except.ok.inj read)
        obtain ⟨form, rfl, split⟩ := read?_sound found
        refine ⟨.number form, ?_, split⟩
        intro depth
        rw [Tree.meaning, number]
        rfl
    · exact absurd read (by simp)

/-! ### Values -/

theorem wordText_plain (word : Word) : ∃ c ∈ plainMarks, ∃ t, word.text = .scalar c :: t := by
  cases word <;> exact ⟨_, by decide, _, rfl⟩

theorem numberText_plain (form : NumberForm) :
    ∃ c ∈ plainMarks, ∃ t, form.text = .scalar c :: t := by
  have digits : ∀ digit : Fin 10, Nat.digitChar digit ∈ plainMarks := by decide
  obtain ⟨digit, t, begins⟩ := numberText_begins form
  rw [begins]
  cases form.literal.negative with
  | true => exact ⟨'-', by decide, _, rfl⟩
  | false => exact ⟨_, digits digit, _, rfl⟩

/-- They begin no string and no container. -/
theorem plainMarks_other : ∀ c ∈ plainMarks, c ∉ ['"', '[', '\x7b'] :=
  List.all_iff_forall_prop.mp (by decide)

theorem text_begins (tree : Tree) : Begins tree.text := by
  cases tree with
  | word word =>
    obtain ⟨c, plain, t, begins⟩ := wordText_plain word
    exact ⟨c, List.mem_append_right _ plain, t, begins⟩
  | number form =>
    obtain ⟨c, plain, t, begins⟩ := numberText_plain form
    exact ⟨c, List.mem_append_right _ plain, t, begins⟩
  | string characters => exact ⟨'"', by decide, _, rfl⟩
  | array gap elements => exact ⟨'[', by decide, _, rfl⟩
  | object gap members => exact ⟨'\x7b', by decide, _, rfl⟩

/-- What begins with no mark of a string or container is a word or a number. -/
theorem value_plain (bound depth : Nat) {t : Text}
    (plain : ∀ mark ∈ ['"', '[', '\x7b'], t.head? ≠ some (.scalar mark)) :
    value bound depth t = wordOrNumber t := by
  simp only [List.mem_cons, List.not_mem_nil, or_false, forall_eq_or_imp, forall_eq] at plain
  obtain ⟨noQuote, noBracket, noBrace⟩ := plain
  rw [value.eq_def]
  split
  · exact absurd rfl noQuote
  · exact absurd rfl noBracket
  · exact absurd rfl noBrace
  · exact absurd rfl noBracket
  · exact absurd rfl noBrace
  · rfl

theorem value_other (bound depth : Nat) {c : Char} (plain : c ∈ plainMarks) (t : Text) :
    value bound depth (.scalar c :: t) = wordOrNumber (.scalar c :: t) := by
  apply value_plain
  intro mark isMark same
  cases Option.some.inj same
  exact plainMarks_other c plain isMark

theorem value_word (bound depth : Nat) (word : Word) (rest : Text) :
    value bound depth (word.text ++ rest) = .ok (word.meaning, rest) := by
  have read := wordOrNumber_word word rest
  obtain ⟨c, plain, t, begins⟩ := wordText_plain word
  rw [begins] at read ⊢
  exact (value_other bound depth plain _).trans read

theorem value_number (bound depth : Nat) (form : NumberForm) {rest : Text} (closed : Closed rest) :
    value bound depth (form.text ++ rest) =
      (form.literal.number.map .number).map (·, rest) := by
  have read := wordOrNumber_number form closed
  obtain ⟨c, plain, t, begins⟩ := numberText_plain form
  rw [begins] at read ⊢
  exact (value_other bound depth plain _).trans read

theorem value_string (bound depth : Nat) (characters : List Character) (rest : Text) :
    value bound depth (stringText characters ++ rest) =
      .ok (.string (stringMeaning characters), rest) := by
  have split : stringText characters ++ rest =
      .scalar '"' :: (characters.flatMap Character.text ++ .scalar '"' :: rest) := by
    simp [stringText]
  rw [split, value, StringLiteral.read_characters]
  rfl

/-- With the commas, a list of items is as long as there are many of them, and it is as long as
each of them. -/
theorem listText_length {ε : Type} (spell : ε → Text) (gap : Blanks) (items : List (Padded ε)) :
    items.length ≤ (listText gap (items.map (Padded.text spell))).length + 1 ∧
      ∀ padded ∈ items,
        (spell padded.item).length ≤ (listText gap (items.map (Padded.text spell))).length := by
  have joined (items : List (Padded ε)) :
      items.length ≤ (Text.join "," (items.map (Padded.text spell))).length + 1 ∧
        ∀ padded ∈ items,
          (spell padded.item).length ≤ (Text.join "," (items.map (Padded.text spell))).length := by
    induction items with
    | nil => simp
    | cons first rest inductionHypothesis =>
      have own : (spell first.item).length ≤ (first.text spell).length := by
        simp only [Padded.text, List.length_append]
        omega
      cases rest with
      | nil => simpa [Text.join_single] using own
      | cons second others =>
        have longer : (Text.join "," ((first :: second :: others).map (Padded.text spell))).length =
            (first.text spell).length + 1 +
              (Text.join "," ((second :: others).map (Padded.text spell))).length := by
          rw [List.map_cons, List.map_cons, Text.join_cons_cons, List.length_append,
            List.length_append, Nat.add_assoc]
          rfl
        rw [longer, List.length_cons, List.forall_mem_cons]
        refine ⟨by omega, by omega, ?_⟩
        intro padded member
        have inner := inductionHypothesis.2 padded member
        omega
  have whole : (Text.join "," (items.map (Padded.text spell))).length ≤
      (listText gap (items.map (Padded.text spell))).length := by
    rw [listText, List.length_append]
    omega
  exact ⟨(joined items).1.trans (Nat.succ_le_succ whole),
    fun padded member => ((joined items).2 padded member).trans whole⟩

/-- A value is read from its text as what it stands for, whatever ends it. -/
theorem value_text {bound : Nat} : ∀ (depth : Nat) (tree : Tree), tree.text.length ≤ bound →
    Reads (value bound depth) Tree.text (Tree.meaning depth) tree
  | depth, .word word, _ => by
    refine ⟨text_begins _, fun rest _ => ?_⟩
    rw [Tree.text, Tree.meaning, value_word]
    rfl
  | depth, .number form, _ => by
    refine ⟨text_begins _, fun rest closed => ?_⟩
    rw [Tree.text, Tree.meaning, value_number bound depth form closed]
  | depth, .string characters, _ => by
    refine ⟨text_begins _, fun rest _ => ?_⟩
    rw [Tree.text, Tree.meaning, value_string]
    rfl
  | 0, .array _ _, _ => ⟨text_begins _, fun _ _ => rfl⟩
  | 0, .object _ _, _ => ⟨text_begins _, fun _ _ => rfl⟩
  | depth + 1, .array gap elements, enough => by
    refine ⟨text_begins _, fun rest _ => ?_⟩
    have split : (Tree.array gap elements).text ++ rest = .scalar '[' ::
        (listText gap (elements.map (Padded.text Tree.text)) ++ .scalar ']' :: rest) := by
      simp [Tree.text, elementTexts_eq]
    simp only [Tree.text, elementTexts_eq, List.length_cons, List.length_append] at enough
    obtain ⟨many, long⟩ := listText_length Tree.text gap elements
    have each : ∀ element ∈ elements,
        Reads (value bound depth) Tree.text (Tree.meaning depth) element.item := by
      intro element member
      have shorter := long element member
      exact value_text depth element.item (by omega)
    rw [split, value, container_text (by decide) gap elements each (by omega) rest, Tree.meaning]
    cases elements.mapM fun element => element.item.meaning depth <;> rfl
  | depth + 1, .object gap members, enough => by
    refine ⟨text_begins _, fun rest _ => ?_⟩
    have split : (Tree.object gap members).text ++ rest = .scalar '\x7b' ::
        (listText gap (members.map (Padded.text (Keyed.text Tree.text))) ++
          .scalar '\x7d' :: rest) := by
      simp [Tree.text, memberTexts_eq]
    simp only [Tree.text, memberTexts_eq, List.length_cons, List.length_append] at enough
    obtain ⟨many, long⟩ := listText_length (Keyed.text Tree.text) gap members
    have each : ∀ padded ∈ members, Reads (member (value bound depth)) (Keyed.text Tree.text)
        (Keyed.meaning (Tree.meaning depth)) padded.item := by
      intro padded isMember
      have shorter := long padded isMember
      have inner : padded.item.item.text.length ≤ (padded.item.text Tree.text).length := by
        simp only [Keyed.text, List.length_append, List.length_cons]
        omega
      exact member_text (value_text depth padded.item.item (by omega))
    rw [split, value, container_text (by decide) gap members each (by omega) rest, Tree.meaning]
    cases members.mapM fun padded => padded.item.meaning (Tree.meaning depth) <;> rfl

/-- Every value that is read is spelled by a tree that stands for it. -/
theorem value_sound (bound depth : Nat) :
    SoundItem (value bound depth) Tree.text (Tree.meaning depth) := by
  induction depth using Nat.strong_induction_on with
  | _ depth inductionHypothesis =>
    intro t rest document read
    rw [value.eq_def] at read
    split at read
    · obtain ⟨⟨string, behind⟩, readString, same⟩ := bind_eq_ok_iff.mp read
      obtain ⟨rfl, rfl⟩ := Prod.mk.inj (Except.ok.inj same)
      obtain ⟨characters, rfl, rfl⟩ := StringLiteral.read_sound readString
      refine ⟨.string characters, by rw [Tree.meaning], ?_⟩
      simp [Tree.text, stringText]
    · exact absurd read (by simp)
    · exact absurd read (by simp)
    · next lower _ =>
      obtain ⟨⟨documents, behind⟩, readElements, same⟩ := bind_eq_ok_iff.mp read
      obtain ⟨rfl, rfl⟩ := Prod.mk.inj (Except.ok.inj same)
      obtain ⟨gap, elements, meant, rfl⟩ :=
        container_sound (inductionHypothesis lower (Nat.lt_succ_self lower)) readElements
      refine ⟨.array gap elements, ?_, ?_⟩
      · rw [Tree.meaning, meant]
        rfl
      · simp [Tree.text, elementTexts_eq]
    · next lower _ =>
      obtain ⟨⟨documents, behind⟩, readMembers, same⟩ := bind_eq_ok_iff.mp read
      obtain ⟨rfl, rfl⟩ := Prod.mk.inj (Except.ok.inj same)
      obtain ⟨gap, members, meant, rfl⟩ :=
        container_sound (member_sound (inductionHypothesis lower (Nat.lt_succ_self lower)))
          readMembers
      refine ⟨.object gap members, ?_, ?_⟩
      · rw [Tree.meaning, meant]
        rfl
      · simp [Tree.text, memberTexts_eq]
    · obtain ⟨tree, meant, split⟩ := wordOrNumber_sound read
      exact ⟨tree, meant depth, split⟩

/-! ### Texts -/

/-- A number may end with the text, or with blanks behind which it ends. -/
theorem closed_end (blanks : Blanks) : Closed blanks.text := by
  have ends : ∀ other ∈ blankMarks, continuesNumber other = false := by decide
  intro c first
  exact ends c (blanks.blank c (List.mem_of_mem_head? first))

/-- No value and no blank begins with a byte order mark. -/
theorem text_unmarked (form : Padded Tree) :
    (form.text Tree.text).head? ≠ some (.ofNat 0xFEFF) := by
  have blankOther : ∀ c ∈ blankMarks, c ≠ .ofNat 0xFEFF := by decide
  have openingOther : ∀ c ∈ openingMarks, CodePoint.scalar c ≠ .ofNat 0xFEFF :=
    List.all_iff_forall_prop.mp (by decide)
  obtain ⟨before, tree, after⟩ := form
  obtain ⟨c, opens, t, begins⟩ := text_begins tree
  intro marked
  rw [Padded.text, begins] at marked
  cases found : before.text with
  | nil =>
    rw [found] at marked
    exact openingOther c opens (Option.some.inj marked)
  | cons blank others =>
    rw [found] at marked
    have isBlank := before.blank blank (found ▸ List.mem_cons_self)
    exact blankOther blank isBlank (Option.some.inj marked)

/-- The text of a tree between blanks is read as what the tree stands for. -/
theorem text_reads (form : Padded Tree) :
    text (form.text Tree.text) = form.item.meaning Nesting.frames := by
  have begun : skipBlanks (form.text Tree.text) = form.item.text ++ form.after.text :=
    skipBlanks_begins form.before (text_begins form.item) form.after.text
  have long : form.item.text.length ≤ (form.text Tree.text).length := by
    simp only [Padded.text, List.length_append]
    omega
  have read := (value_text Nesting.frames form.item long).reads form.after.text
    (closed_end form.after)
  have ended : skipBlanks form.after.text = [] := by
    have skipped := skipBlanks_blanks form.after (t := []) (by simp)
    rwa [List.append_nil] at skipped
  rw [text, if_neg (text_unmarked form), begun, read]
  cases form.item.meaning Nesting.frames with
  | error fault => rfl
  | ok document =>
    simp only [Except.map, bind, Except.bind, ended]
    rfl

/-- Every text that is read is that of a tree between blanks. -/
theorem text_sound {t : Text} {document : Document} (read : text t = .ok document) :
    ∃ form : Padded Tree, form.text Tree.text = t ∧
      form.item.meaning Nesting.frames = .ok document := by
  rw [text] at read
  split at read
  · exact absurd read (by simp)
  · obtain ⟨⟨found, behind⟩, readValue, further⟩ := bind_eq_ok_iff.mp read
    obtain ⟨tree, meant, split⟩ := value_sound _ _ readValue
    obtain ⟨before, skipped⟩ := exists_blanks t
    obtain ⟨after, skippedEnd⟩ := exists_blanks behind
    dsimp only at further
    split at further
    · next ended =>
      refine ⟨⟨before, tree, after⟩, ?_, ?_⟩
      · rw [ended, List.append_nil] at skippedEnd
        rw [skipped, split, skippedEnd, Padded.text]
      · rw [meant]
        exact further
    · exact absurd further (by simp)

end TypeSketch.Reader

namespace TypeSketch.Document

open Grammar

/-- The document of a text is what its tree stands for. -/
theorem ofText_sound {t : Text} {document : Document} (read : ofText t = .ok document) :
    ∃ form : Padded Tree, form.text Tree.text = t ∧
      form.item.meaning Nesting.frames = .ok document := by
  obtain ⟨found, readText, admitted⟩ := bind_eq_ok_iff.mp read
  split at admitted
  · cases admitted
    exact Reader.text_sound readText
  · exact absurd admitted (by simp)

/-- The text of a tree without long integer literals has a document unless it is nested too
deeply. -/
theorem ofText_text {form : Padded Tree} (short : form.item.Short)
    (shallow : ofText (form.text Tree.text) ≠ .error .tooDeep) :
    ∃ document, ofText (form.text Tree.text) = .ok document := by
  rw [ofText, Reader.text_reads] at shallow ⊢
  cases meant : form.item.meaning Nesting.frames with
  | error fault =>
    rw [meant, Tree.meaning_fault _ _ short meant] at shallow
    exact absurd rfl shallow
  | ok document =>
    rw [meant] at shallow
    by_cases admissible : document.admissibleWithin Nesting.frames = true
    · exact ⟨document, if_pos admissible⟩
    · exact absurd (if_neg admissible) shallow

/-- Reading accepts JSON and nothing else: unless a text is nested too deeply, it is read if and
only if it is JSON with no integer literal of more than 4300 digits, and any other text is
refused for another reason. -/
theorem reads_exactly_json {t : Text} (shallow : ofText t ≠ .error .tooDeep) :
    ((∃ document, ofText t = .ok document) ↔ IsShortJson t) ∧
      (¬IsShortJson t → ∃ fault, ofText t = .error fault ∧ fault ≠ .tooDeep) := by
  have accepted : (∃ document, ofText t = .ok document) ↔ IsShortJson t := by
    constructor
    · rintro ⟨document, read⟩
      obtain ⟨form, split, meant⟩ := ofText_sound read
      exact ⟨form, split, Tree.short_of_meaning meant⟩
    · rintro ⟨form, rfl, short⟩
      exact ofText_text short shallow
  refine ⟨accepted, ?_⟩
  intro other
  cases read : ofText t with
  | ok document => exact absurd (accepted.mp ⟨document, read⟩) other
  | error fault =>
    refine ⟨fault, rfl, ?_⟩
    rintro rfl
    exact shallow read

/-- A text with blanks, a repeated key, escapes in both cases and a lone surrogate. -/
def mingledText : Text :=
  "\t[-0, 12.50E+3, \"\\u00e9\\/\\uD83D\", \x7b\"\" : [ ], \"\": null\x7d]\n"

/-- A text with a comma in front of the closing mark. -/
def trailingText : Text := "[0,]"

theorem mingled_is_json :
    (∃ document, ofText mingledText = .ok document) ∧ IsShortJson mingledText ∧
      ofText trailingText = .error (.malformed .value "]") ∧ ¬IsShortJson trailingText := by
  have found : (ofText mingledText).toOption.isSome = true := by decide +kernel
  have refused : ofText trailingText = .error (.malformed .value "]") := rfl
  have noDocument : ¬∃ document, ofText trailingText = .ok document := by
    rintro ⟨document, read⟩
    exact absurd (refused.symm.trans read) (by simp)
  cases read : ofText mingledText with
  | error fault =>
    rw [read] at found
    exact absurd found (by simp [Except.toOption])
  | ok document =>
    have isJson := (reads_exactly_json (t := mingledText) (by simp [read])).1.mp ⟨document, read⟩
    have noJson := (reads_exactly_json (t := trailingText) (by simp [refused])).1.not.mp noDocument
    exact ⟨⟨document, rfl⟩, isJson, refused, noJson⟩

end TypeSketch.Document
