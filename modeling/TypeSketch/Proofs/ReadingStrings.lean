import TypeSketch.Proofs.Grammar

/-!
# Reading string literals

Digits and escapes are finite tables on both sides, so that reading a mark and spelling it
are inverse is a matter of going through them. Character by character a literal is then
read as what it stands for, up to the first quote that is no escape; and since a character
that is read spells the text it was read from, nothing else is accepted.
-/

namespace TypeSketch.StringLiteral

open Grammar

theorem hexDigit?_mark (digit : HexDigit) : hexDigit? digit.mark = some digit.value := by
  obtain ⟨value, capital⟩ := digit
  decide +revert

/-- A hexadecimal digit is spelled by its marks only. -/
theorem exists_mark_of_hexDigit? {c : CodePoint} {value : Fin 16}
    (found : hexDigit? c = some value) :
    ∃ digit : HexDigit, c = digit.mark ∧ digit.value = value := by
  have table : ∀ n < 103, ∀ value, hexDigit? (.scalar (Char.ofNat n)) = some value →
      ∃ capital, CodePoint.scalar (Char.ofNat n) = (HexDigit.mk value capital).mark := by
    decide +kernel
  cases c with
  | surrogate offset => exact absurd found (by simp [hexDigit?])
  | scalar c =>
    have low : c.toNat < 103 := by
      rw [hexDigit?] at found
      split at found
      · next range => exact Nat.lt_of_le_of_lt range.2 (by decide)
      split at found
      · next range => exact Nat.lt_of_le_of_lt range.2 (by decide)
      split at found
      · next range => exact Nat.lt_of_le_of_lt range.2 (by decide)
      · exact absurd found (by simp)
    rw [← Char.ofNat_toNat c] at found ⊢
    obtain ⟨capital, same⟩ := table _ low value found
    exact ⟨⟨value, capital⟩, same, rfl⟩

theorem unit?_marks (a b c d : HexDigit) :
    (unit? a.mark b.mark c.mark d.mark).map Piece.unit = some (Character.unit a b c d).piece := by
  simp only [unit?, hexDigit?_mark]
  rfl

theorem exists_marks_of_unit? {a b c d : CodePoint} {unit : Fin 0x10000}
    (found : unit? a b c d = some unit) :
    ∃ x y z w : HexDigit, [a, b, c, d] = [x.mark, y.mark, z.mark, w.mark] ∧
      (Character.unit x y z w).piece = .unit unit := by
  obtain ⟨x, readX, found⟩ := Option.bind_eq_some_iff.mp found
  obtain ⟨y, readY, found⟩ := Option.bind_eq_some_iff.mp found
  obtain ⟨z, readZ, found⟩ := Option.bind_eq_some_iff.mp found
  obtain ⟨w, readW, found⟩ := Option.bind_eq_some_iff.mp found
  obtain ⟨x, rfl, rfl⟩ := exists_mark_of_hexDigit? readX
  obtain ⟨y, rfl, rfl⟩ := exists_mark_of_hexDigit? readY
  obtain ⟨z, rfl, rfl⟩ := exists_mark_of_hexDigit? readZ
  obtain ⟨w, rfl, rfl⟩ := exists_mark_of_hexDigit? readW
  exact ⟨x, y, z, w, rfl, congrArg Piece.unit (Option.some.inj found)⟩

theorem shortEscape?_known {escape : Char × Char} (known : escape ∈ shortEscapes) :
    shortEscape? (.scalar escape.1) = some escape.2 := by
  have table : ∀ escape ∈ shortEscapes, shortEscape? (.scalar escape.1) = some escape.2 := by decide
  exact table escape known

theorem exists_known_of_shortEscape? {c : CodePoint} {meant : Char}
    (found : shortEscape? c = some meant) :
    ∃ mark, c = .scalar mark ∧ (mark, meant) ∈ shortEscapes := by
  rw [shortEscape?.eq_def] at found
  split at found
  all_goals cases found
  all_goals exact ⟨_, rfl, by decide⟩

/-- A character at the start of a literal is read as what it stands for. -/
theorem pieces_character (opening : Text) (character : Character) {t : Text} (behind : t ≠ []) :
    pieces opening (character.text ++ t) =
      (pieces opening t).map fun (others, rest) => (character.piece :: others, rest) := by
  cases character with
  | raw c plain =>
    obtain ⟨noControl, noQuote, noBackslash⟩ := plain
    change pieces opening (c :: t) = _
    rw [pieces, if_neg (Nat.not_lt.mpr noControl)]
    · rfl
    · exact noQuote
    · intro backslash
      exact absurd backslash noBackslash
    · intro _ _ _ _ _ _ backslash
      exact absurd backslash noBackslash
    · intro _ backslash
      exact absurd backslash noBackslash
    · intro _ _ backslash
      exact absurd backslash noBackslash
  | short escape known =>
    obtain ⟨mark, meant⟩ := escape
    have noUnit : CodePoint.scalar mark ≠ .scalar 'u' := by
      rintro ⟨⟩
      have unknown : ∀ other ∈ shortEscapes, other.1 ≠ 'u' := by decide
      exact unknown _ known rfl
    change pieces opening (.scalar '\\' :: .scalar mark :: t) = _
    rw [pieces, shortEscape?_known known]
    · rfl
    · intro _ _ _ _ _ _ unit
      exact absurd unit noUnit
    · exact noUnit
  | unit a b c d =>
    obtain ⟨next, others, rfl⟩ := List.exists_cons_of_ne_nil behind
    obtain ⟨unit, read, same⟩ := Option.map_eq_some_iff.mp (unit?_marks a b c d)
    change pieces opening (.scalar '\\' :: .scalar 'u' :: a.mark :: b.mark :: c.mark :: d.mark ::
      next :: others) = _
    rw [pieces, read, ← same]
    rfl

/-- Characters are read up to the closing quote. -/
theorem pieces_characters (opening : Text) (characters : List Character) (rest : Text) :
    pieces opening (characters.flatMap Character.text ++ .scalar '"' :: rest) =
      .ok (characters.map Character.piece, rest) := by
  induction characters with
  | nil => rfl
  | cons character others inductionHypothesis =>
    rw [List.flatMap_cons, List.append_assoc, pieces_character, inductionHypothesis]
    · rfl
    · exact List.append_ne_nil_of_right_ne_nil _ (List.cons_ne_nil _ _)

/-- What is read up to a closing quote is spelled by characters. -/
theorem pieces_sound {opening t rest : Text} {found : List Piece}
    (read : pieces opening t = .ok (found, rest)) :
    ∃ characters : List Character, characters.map Character.piece = found ∧
      t = characters.flatMap Character.text ++ .scalar '"' :: rest := by
  -- What a step returns is one piece and those of the text behind it.
  have spelled (character : Character) {t : Text} {found : List Piece}
      (later : ∀ {others : List Piece}, pieces opening t = .ok (others, rest) →
        ∃ characters : List Character, characters.map Character.piece = others ∧
          t = characters.flatMap Character.text ++ .scalar '"' :: rest)
      (read : (do
        let (tail, rest) ← pieces opening t
        return (character.piece :: tail, rest)) = Except.ok (found, rest)) :
      ∃ characters : List Character, characters.map Character.piece = found ∧
        character.text ++ t = characters.flatMap Character.text ++ .scalar '"' :: rest := by
    obtain ⟨⟨others, behind⟩, readOthers, same⟩ := bind_eq_ok_iff.mp read
    obtain ⟨rfl, rfl⟩ := Prod.mk.inj (Except.ok.inj same)
    obtain ⟨characters, rfl, rfl⟩ := later readOthers
    refine ⟨character :: characters, rfl, ?_⟩
    rw [List.flatMap_cons, List.append_assoc]
  fun_induction pieces opening t generalizing found with
  | case2 behind =>
    obtain ⟨rfl, rfl⟩ := Prod.mk.inj (Except.ok.inj read)
    exact ⟨[], rfl, rfl⟩
  | case4 a b c d next others unit isUnit inductionHypothesis =>
    obtain ⟨x, y, z, w, marks, piece⟩ := exists_marks_of_unit? isUnit
    rw [← piece] at read
    obtain ⟨characters, found, split⟩ := spelled (.unit x y z w) inductionHypothesis read
    refine ⟨characters, found, ?_⟩
    rw [← split]
    exact congrArg (fun digits => .scalar '\\' :: .scalar 'u' :: (digits ++ next :: others)) marks
  | case7 c others _ _ meant isEscape inductionHypothesis =>
    obtain ⟨mark, rfl, known⟩ := exists_known_of_shortEscape? isEscape
    exact spelled (.short (mark, meant) known) inductionHypothesis read
  | case10 c others noQuote noEnd _ _ noEscape noControl inductionHypothesis =>
    have noBackslash : c ≠ .scalar '\\' := by
      intro backslash
      cases others with
      | nil => exact noEnd backslash rfl
      | cons next later => exact noEscape next later backslash rfl
    exact spelled (.raw c ⟨Nat.not_lt.mp noControl, noQuote, noBackslash⟩) inductionHypothesis read
  | _ => exact absurd read (by simp)

/-- A literal is read as what it stands for. -/
theorem read_characters (opening : Text) (characters : List Character) (rest : Text) :
    read opening (characters.flatMap Character.text ++ .scalar '"' :: rest) =
      .ok (stringMeaning characters, rest) := by
  rw [read, pieces_characters]
  rfl

theorem read_sound {opening t rest meant : Text} (found : read opening t = .ok (meant, rest)) :
    ∃ characters : List Character, stringMeaning characters = meant ∧
      t = characters.flatMap Character.text ++ .scalar '"' :: rest := by
  obtain ⟨⟨units, behind⟩, taken, same⟩ := bind_eq_ok_iff.mp found
  obtain ⟨rfl, rfl⟩ := Prod.mk.inj (Except.ok.inj same)
  obtain ⟨characters, rfl, split⟩ := pieces_sound taken
  exact ⟨characters, rfl, split⟩

end TypeSketch.StringLiteral
