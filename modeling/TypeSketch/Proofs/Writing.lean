import TypeSketch.Proofs.Content
import TypeSketch.Proofs.Reading

/-!
# Reading undoes writing

Content is written by choosing a parse tree for it and blanks around the tree. The choices are
those of the grammar: blanks between tokens, and for each code point of a string whether it
stands for itself, follows a backslash as a mark, or is spelled by number, where a code point
beyond sixteen bits takes two numbers.

Whatever is chosen, reading gives the value of the content. Only surrogates need an argument: a
unit by number is joined with the one behind it exactly if the two were chosen for one code
point, provided that the text itself has no high surrogate in front of a low one.
-/

namespace TypeSketch.Grammar

/-- The numbers that spell a code point: its own, or two surrogates for one beyond sixteen
bits. -/
def units (c : CodePoint) : List Nat :=
  if c.toNat < 0x10000 then [c.toNat]
  else [0xD800 + (c.toNat - 0x10000) / 0x400, 0xDC00 + (c.toNat - 0x10000) % 0x400]

/-- The number that a character spells, if it spells one. -/
def Character.unit? : Character → Option Nat
  | .unit a b c d =>
    some (0x1000 * a.value.val + 0x100 * b.value.val + 0x10 * c.value.val + d.value.val)
  | .raw _ _ | .short _ _ => none

/-- The ways of spelling a code point. -/
inductive Spells (c : CodePoint) : List Character → Prop where
  | raw (plain : 0x20 ≤ c.toNat ∧ c ≠ .scalar '"' ∧ c ≠ .scalar '\\') : Spells c [.raw c plain]
  | short {mark meant : Char} (known : (mark, meant) ∈ shortEscapes) (same : c = .scalar meant) :
      Spells c [.short (mark, meant) known]
  | numbered {characters : List Character}
      (spelled : characters.map Character.unit? = (units c).map some) : Spells c characters

/-- The ways of spelling a text, each code point for itself. -/
inductive SpellsText : Text → List Character → Prop where
  | nil : SpellsText [] []
  | cons {c : CodePoint} {t : Text} {front later : List Character} (head : Spells c front)
      (tail : SpellsText t later) : SpellsText (c :: t) (front ++ later)

/-- A number form is that of an integer: there is no fraction and no exponent, and the digits are
the decimal numeral of the magnitude. -/
structure NumberForm.IsInteger (form : NumberForm) (integer : ShortInteger) : Prop where
  sign : form.literal.negative = integer.negative
  digits : digitsText form.literal.whole = Text.numeral integer.magnitude
  whole : form.literal.fraction = none ∧ form.literal.exponent = none

mutual

/-- The parse trees that write content. -/
inductive Writes : Content → Tree → Prop where
  | null : Writes .null (.word .null)
  | true : Writes (.bool Bool.true) (.word .true)
  | false : Writes (.bool Bool.false) (.word .false)
  | integer {integer : ShortInteger} {form : NumberForm} (same : form.IsInteger integer) :
      Writes (.integer integer) (.number form)
  | string {passage : Passage} {characters : List Character}
      (spelled : SpellsText passage.text characters) :
      Writes (.string passage) (.string characters)
  | array {gap : Blanks} {contents : List Content} {elements : List (Padded Tree)}
      (each : WritesElements contents elements) : Writes (.array contents) (.array gap elements)
  | object {gap : Blanks} {contents : List (Passage × Content)}
      {members : List (Padded (Keyed Tree))} (each : WritesMembers contents members) :
      Writes (.object contents) (.object gap members)

inductive WritesElements : List Content → List (Padded Tree) → Prop where
  | nil : WritesElements [] []
  | cons {content : Content} {padded : Padded Tree} {contents : List Content}
      {elements : List (Padded Tree)} (head : Writes content padded.item)
      (tail : WritesElements contents elements) :
      WritesElements (content :: contents) (padded :: elements)

inductive WritesMembers : List (Passage × Content) → List (Padded (Keyed Tree)) → Prop where
  | nil : WritesMembers [] []
  | cons {key : Passage} {content : Content} {padded : Padded (Keyed Tree)}
      {contents : List (Passage × Content)} {members : List (Padded (Keyed Tree))}
      (spelled : SpellsText key.text padded.item.key) (head : Writes content padded.item.item)
      (tail : WritesMembers contents members) :
      WritesMembers ((key, content) :: contents) (padded :: members)

end

/-! ### Strings -/

theorem Character.piece_of_unit? {character : Character} {n : Nat}
    (spelled : character.unit? = some n) :
    ∃ unit : Fin 0x10000, character.piece = .unit unit ∧ unit.val = n := by
  cases character with
  | raw c plain => exact absurd spelled (by simp [unit?])
  | short escape known => exact absurd spelled (by simp [unit?])
  | unit a b c d =>
    refine ⟨_, rfl, ?_⟩
    rw [← Option.some.inj spelled]
    dsimp only
    omega

/-- Every code point lies in the code space. -/
theorem toNat_lt (c : CodePoint) : c.toNat < 0x110000 := by
  cases c with
  | scalar c =>
    have range := CodePoint.scalar_range c
    rw [CodePoint.toNat]
    omega
  | surrogate offset =>
    rw [CodePoint.toNat]
    omega

/-- What spells a code point by number is its own unit, or a high surrogate and a low one. -/
theorem pieces_numbered {c : CodePoint} {characters : List Character}
    (spelled : characters.map Character.unit? = (units c).map some) :
    (∃ unit : Fin 0x10000, characters.map Character.piece = [.unit unit] ∧ unit.val = c.toNat) ∨
      ∃ high low : Fin 0x10000, characters.map Character.piece = [.unit high, .unit low] ∧
        0x10000 ≤ c.toNat ∧ high.val = 0xD800 + (c.toNat - 0x10000) / 0x400 ∧
        low.val = 0xDC00 + (c.toNat - 0x10000) % 0x400 := by
  rw [units] at spelled
  split at spelled
  · obtain ⟨only, rfl⟩ : ∃ only, characters = [only] :=
      List.length_eq_one_iff.mp (by simpa using congrArg List.length spelled)
    obtain ⟨unit, piece, value⟩ := Character.piece_of_unit? (List.cons.inj spelled).1
    exact .inl ⟨unit, by rw [List.map_singleton, piece], value⟩
  · next beyond =>
    obtain ⟨first, second, rfl⟩ : ∃ first second, characters = [first, second] :=
      List.length_eq_two.mp (by simpa using congrArg List.length spelled)
    obtain ⟨spelledFirst, others⟩ := List.cons.inj spelled
    obtain ⟨high, pieceHigh, valueHigh⟩ := Character.piece_of_unit? spelledFirst
    obtain ⟨low, pieceLow, valueLow⟩ := Character.piece_of_unit? (List.cons.inj others).1
    refine .inr ⟨high, low, ?_, by omega, valueHigh, valueLow⟩
    rw [List.map_cons, List.map_singleton, pieceHigh, pieceLow]

open StringLiteral in
/-- The spelling of a text begins with a low surrogate by number only if the text begins with
one. -/
theorem spellsText_low {t : Text} {characters : List Character} (spells : SpellsText t characters)
    {unit : Fin 0x10000} {others : List Piece}
    (first : characters.map Character.piece = .unit unit :: others)
    (isLow : 0xDC00 ≤ unit.val ∧ unit.val < 0xE000) :
    ∃ c rest, t = c :: rest ∧ 0xDC00 ≤ c.toNat ∧ c.toNat < 0xE000 := by
  cases spells with
  | nil => exact absurd first (by simp)
  | @cons c rest front later head tail =>
    refine ⟨c, rest, rfl, ?_⟩
    rw [List.map_append] at first
    cases head with
    | raw plain => exact absurd first (by simp [Character.piece])
    | short known same => exact absurd first (by simp [Character.piece])
    | numbered spelled =>
      have bound := toNat_lt c
      rcases pieces_numbered spelled with ⟨own, pieces, value⟩ | ⟨high, low, pieces, _, value, _⟩
      · rw [pieces] at first
        have same : own = unit := Piece.unit.inj (List.cons.inj first).1
        rwa [← value, same]
      · rw [pieces] at first
        have same : high = unit := Piece.unit.inj (List.cons.inj first).1
        rw [← same] at isLow
        omega

open StringLiteral in
/-- A unit that makes no pair with what follows it stands alone. -/
theorem denote_alone {unit : Fin 0x10000} {pieces : List Piece}
    (alone : ∀ low others, pieces = .unit low :: others →
      ¬((0xD800 ≤ unit.val ∧ unit.val < 0xDC00) ∧ 0xDC00 ≤ low.val ∧ low.val < 0xE000)) :
    denote (.unit unit :: pieces) = .ofNat unit.val :: denote pieces := by
  cases pieces with
  | nil => rfl
  | cons next others =>
    cases next with
    | literal c => rfl
    | unit low =>
      have noPair := alone low others rfl
      rw [denote]
      refine if_neg ?_
      simpa [isHighSurrogate, isLowSurrogate, and_assoc] using noPair

open StringLiteral in
/-- Two units for a code point beyond sixteen bits are joined. -/
theorem denote_pair {c : CodePoint} {high low : Fin 0x10000} (beyond : 0x10000 ≤ c.toNat)
    (valueHigh : high.val = 0xD800 + (c.toNat - 0x10000) / 0x400)
    (valueLow : low.val = 0xDC00 + (c.toNat - 0x10000) % 0x400) (pieces : List Piece) :
    denote (.unit high :: .unit low :: pieces) = c :: denote pieces := by
  have bound := toNat_lt c
  have isPair : (isHighSurrogate high.val && isLowSurrogate low.val) = true := by
    simp only [isHighSurrogate, isLowSurrogate, Bool.and_eq_true, decide_eq_true_eq]
    omega
  have number : 0x10000 + (high.val - 0xD800) * 0x400 + (low.val - 0xDC00) = c.toNat := by omega
  rw [denote, if_pos isPair, number, CodePoint.ofNat_toNat]

/-- A string stands for the text that it spells. By induction on the text: whether a unit is
joined with the one behind it is settled by the code point that comes next. -/
theorem stringMeaning_spelled {t : Text} {characters : List Character}
    (spells : SpellsText t characters) (parted : t.Parted) : stringMeaning characters = t := by
  rw [stringMeaning]
  induction spells with
  | nil => rfl
  | @cons c rest front later head tail inductionHypothesis =>
    have behind := inductionHypothesis (List.IsChain.of_cons parted)
    rw [List.map_append]
    cases head with
    | raw plain => exact congrArg (c :: ·) behind
    | short known same =>
      rw [same]
      exact congrArg (_ :: ·) behind
    | numbered spelled =>
      rcases pieces_numbered spelled with
        ⟨unit, pieces, value⟩ | ⟨high, low, pieces, beyond, valueHigh, valueLow⟩
      · rw [pieces, List.singleton_append, denote_alone, value, CodePoint.ofNat_toNat, behind]
        rintro low others first ⟨isHigh, isLow⟩
        obtain ⟨next, more, rfl, isLowNext⟩ := spellsText_low tail first isLow
        rw [value] at isHigh
        exact (List.isChain_cons_cons.mp parted).1 ⟨isHigh, isLowNext⟩
      · rw [pieces]
        exact (denote_pair beyond valueHigh valueLow _).trans (congrArg (c :: ·) behind)

/-! ### Integers -/

theorem digitsText_eq (digits : List (Fin 10)) :
    digitsText digits = digits.map fun digit : Fin 10 => .scalar (Nat.digitChar digit.val) := by
  induction digits with
  | nil => rfl
  | cons digit rest inductionHypothesis =>
    rw [List.map_cons, ← inductionHypothesis]
    rfl

/-- Digits that are the numeral of a number have it as their value. -/
theorem digitsValue_numeral {digits : List (Fin 10)} {n : Nat}
    (same : digitsText digits = Text.numeral n) : NumberLiteral.digitsValue digits = n := by
  have marks : digits.map (fun digit : Fin 10 => Nat.digitChar digit.val) = Nat.toDigits 10 n := by
    refine List.map_inj_right (fun _ _ equal => CodePoint.scalar.inj equal) |>.mp ?_
    rw [List.map_map]
    exact (digitsText_eq digits).symm.trans same
  have digitValue : ∀ digit : Fin 10, (Nat.digitChar digit.val).toNat - '0'.toNat = digit.val := by
    decide
  rw [← Nat.ofDigitChars_ten_toDigits (n := n), ← marks, Nat.ofDigitChars, List.foldl_map]
  simp only [digitValue]
  rfl

/-- An integer is read exactly, and as it is not too long it is read at all. -/
theorem number_integer {form : NumberForm} {integer : ShortInteger}
    (same : form.IsInteger integer) :
    form.literal.number = .ok (.int integer.value) := by
  have length : form.literal.whole.length = (Text.numeral integer.magnitude).length := by
    rw [← same.digits, digitsText_eq, List.length_map]
  have short : ¬maxIntegerDigits < form.literal.whole.length :=
    Nat.not_lt.mpr (length ▸ integer.short)
  rw [NumberLiteral.number, same.whole.1, same.whole.2, if_pos (by rfl), if_neg short,
    digitsValue_numeral same.digits, same.sign]
  rfl

/-! ### Trees -/

/-- The outcome of reading content with so many containers left to enter. -/
def within {α : Type} (depth limit : Nat) (found : α) : Except ReadFault α :=
  if depth ≤ limit then .ok found else .error .tooDeep

theorem within_succ {α β : Type} (depth limit : Nat) (found : α) (wrap : α → β) :
    (do let inner ← within depth limit found; return wrap inner) =
      within (depth + 1) (limit + 1) (wrap found) := by
  simp only [within, Nat.add_le_add_iff_right]
  split <;> rfl

/-- Two outcomes in turn. -/
theorem within_max {α β γ : Type} (first second limit : Nat) (a : α) (b : β) (join : α → β → γ) :
    (do let x ← within first limit a
        let y ← within second limit b
        return join x y) = within (max first second) limit (join a b) := by
  simp only [within, Nat.max_le]
  by_cases fitsFirst : first ≤ limit
  · by_cases fitsSecond : second ≤ limit
    · simp [fitsFirst, fitsSecond, bind, Except.bind, pure, Except.pure]
    · simp [fitsFirst, fitsSecond, bind, Except.bind]
  · simp [fitsFirst, bind, Except.bind]

mutual

/-- A tree stands for the value of the content that it writes, unless there are too many
containers inside each other. -/
theorem writes_meaning {content : Content} {tree : Tree} (written : Writes content tree)
    (limit : Nat) : tree.meaning limit = within content.depth limit content.value := by
  match written with
  | .null | .true | .false =>
    rw [Tree.meaning]
    rfl
  | .integer same =>
    rw [Tree.meaning, number_integer same]
    rfl
  | @Writes.string passage characters spelled =>
    rw [Tree.meaning, stringMeaning_spelled spelled passage.parted]
    rfl
  | .array each =>
    cases limit with
    | zero => rfl
    | succ limit =>
      rw [Tree.meaning, writesElements_meaning each limit, Content.depth]
      exact within_succ _ _ _ _
  | .object each =>
    cases limit with
    | zero => rfl
    | succ limit =>
      rw [Tree.meaning, writesMembers_meaning each limit, Content.depth, Content.value,
        ← Entries.ofPairs_eq_lastOfEach]
      exact within_succ _ _ _ fun members => Json.object (Entries.ofPairs (· == ·) members)

theorem writesElements_meaning {contents : List Content} {elements : List (Padded Tree)}
    (written : WritesElements contents elements) (limit : Nat) :
    (elements.mapM fun element => element.item.meaning limit) =
      within (Content.elementsDepth contents) limit (Content.elementValues contents) := by
  match written with
  | .nil => rfl
  | .cons head tail =>
    rw [List.mapM_cons, writes_meaning head limit, writesElements_meaning tail limit]
    exact within_max _ _ _ _ _ _

theorem writesMembers_meaning {contents : List (Passage × Content)}
    {members : List (Padded (Keyed Tree))} (written : WritesMembers contents members)
    (limit : Nat) :
    (members.mapM fun member => member.item.meaning (Tree.meaning limit)) =
      within (Content.membersDepth contents) limit (Content.memberValues contents) := by
  match written with
  | .nil => rfl
  | @WritesMembers.cons key content padded contents members spelled head tail =>
    rw [List.mapM_cons, writesMembers_meaning tail limit, Keyed.meaning, writes_meaning head limit,
      stringMeaning_spelled spelled key.parted, bind_assoc]
    exact within_max _ _ _ _ _ fun value others => (key.text, value) :: others

end

/-- A text is a way of writing content. -/
def Written (content : Content) (t : Text) : Prop :=
  ∃ form : Padded Tree, form.text Tree.text = t ∧ Writes content form.item

end TypeSketch.Grammar

namespace TypeSketch.Document

open Grammar

/-- Reading undoes writing. In whatever way content is written, reading gives its value: integers
exactly, with zero for either sign, texts code point by code point, elements in order, and every
key once, in its first place and with its last value. Only content beyond the nesting limit is
refused, and for no other reason. -/
theorem reading_undoes_writing {content : Content} {t : Text} (written : Written content t) :
    ofText t = if content.Shallow then .ok content.value else .error .tooDeep := by
  obtain ⟨form, rfl, writes⟩ := written
  rw [ofText, Reader.text_reads, writes_meaning writes, within]
  by_cases readable : content.depth ≤ Nesting.frames
  · by_cases admissible : content.value.weight ≤ Nesting.frames
    · rw [if_pos readable, if_pos ⟨readable, admissible⟩]
      exact if_pos ((Json.admissibleWithin_iff _ _).mpr admissible)
    · rw [if_pos readable, if_neg fun both => admissible both.2]
      exact if_neg fun admitted => admissible ((Json.admissibleWithin_iff _ _).mp admitted)
  · rw [if_neg readable, if_neg fun both => readable both.1]
    rfl

/-- Content with a negative zero, a repeated key, and a surrogate in front of a code point that is
written as a pair of them. -/
def doubledContent : Content :=
  .array [.integer ⟨true, 0, by decide⟩,
    .object [(⟨"k", by decide⟩, .null),
      (⟨"k", by decide⟩, .string ⟨[.surrogate 0x3D, .scalar '😀'], by decide⟩)]]

def doubledText : Text := "[-0, \x7b\"k\":null,\"\\u006b\" :\t\"\\ud83d\\uD83D\\uDE00\"\x7d]\n"

/-- The repeated key is written by number once, and the numbers are in both cases. -/
theorem doubled_written : Written doubledContent doubledText := by
  let zero : NumberForm :=
    ⟨⟨true, [0], none, none⟩, false, false, ⟨⟨0, [], rfl, fun _ => rfl⟩, nofun, nofun⟩⟩
  let raw : List Character := [.raw (.scalar 'k') (by decide)]
  let numbered : List Character := [.unit ⟨0, false⟩ ⟨0, false⟩ ⟨6, false⟩ ⟨11, false⟩]
  let lone : List Character := [.unit ⟨13, false⟩ ⟨8, false⟩ ⟨3, false⟩ ⟨13, false⟩]
  let pair : List Character := [.unit ⟨13, true⟩ ⟨8, false⟩ ⟨3, false⟩ ⟨13, true⟩,
    .unit ⟨13, true⟩ ⟨14, true⟩ ⟨0, false⟩ ⟨0, false⟩]
  have key : SpellsText "k" raw := .cons (.raw (by decide)) .nil
  have letter : Spells (.scalar 'k') numbered := .numbered rfl
  have keyByNumber : SpellsText "k" numbered := .cons letter .nil
  have surrogate : Spells (.surrogate 0x3D) lone := .numbered rfl
  have astral : Spells (.scalar '😀') pair := .numbered rfl
  have string : SpellsText [.surrogate 0x3D, .scalar '😀'] (lone ++ pair) :=
    .cons surrogate (.cons astral .nil)
  let members : List (Padded (Keyed Tree)) :=
    [⟨Blanks.none, ⟨raw, Blanks.none, Blanks.none, .word .null⟩, Blanks.none⟩,
      ⟨Blanks.none, ⟨numbered, ⟨" ", by decide⟩, ⟨"\t", by decide⟩, .string (lone ++ pair)⟩,
        Blanks.none⟩]
  refine ⟨⟨Blanks.none, .array Blanks.none [⟨Blanks.none, .number zero, Blanks.none⟩,
    ⟨⟨" ", by decide⟩, .object Blanks.none members, Blanks.none⟩], ⟨"\n", by decide⟩⟩, rfl, ?_⟩
  have number : Writes (.integer ⟨true, 0, by decide⟩) (.number zero) :=
    .integer ⟨rfl, rfl, rfl, rfl⟩
  exact .array (.cons number
    (.cons (.object (.cons key .null (.cons keyByNumber (.string string) .nil))) .nil))

theorem doubled_reads : Written doubledContent doubledText ∧
    ofText doubledText = .ok (.array [.number (.int 0),
      .object [("k", .string [.surrogate 0x3D, .scalar '😀'])]]) := by
  have shallow : doubledContent.Shallow := by decide
  have read := reading_undoes_writing doubled_written
  rw [if_pos shallow] at read
  exact ⟨doubled_written, read⟩

end TypeSketch.Document
