import TypeSketch.Proofs.ReadingNumbers
import TypeSketch.Proofs.ReadingStrings
import TypeSketch.Text.LineEnd

/-!
# Tokens and line ends

A text may have a line feed written for every line end. No word, number or string goes over
the end of a line: a code point of theirs ends no line, or the token is refused at it. A token
is therefore taken apart alike in both texts, with the same outcome, and what is behind it
corresponds.
-/

namespace TypeSketch

namespace Text

theorem eq_cons_of_head? {t : Text} {c : CodePoint} (first : t.head? = some c) :
    t = c :: t.tail := List.eq_cons_of_mem_head? first

theorem unifyLineEnds_cons {c : CodePoint} (other : c ≠ .scalar '\r') (rest : Text) :
    unifyLineEnds (c :: rest) = c :: unifyLineEnds rest := by
  rw [unifyLineEnds]
  · intro later return_
    exact absurd return_ other
  · exact other

/-- A carriage return becomes a line feed, alone or with the line feed behind it. -/
theorem unifyLineEnds_return (rest : Text) :
    ∃ later, unifyLineEnds (.scalar '\r' :: rest) = .scalar '\n' :: unifyLineEnds later := by
  cases rest with
  | nil => exact ⟨[], rfl⟩
  | cons c others =>
    by_cases feed : c = .scalar '\n'
    · subst feed
      exact ⟨others, rfl⟩
    · refine ⟨c :: others, ?_⟩
      rw [unifyLineEnds]
      intro later same
      exact feed (List.cons.inj same).1

/-- A text is empty, or begins with a code point that stays, or with a carriage return. -/
theorem unifyLineEnds_cases (t : Text) :
    t = [] ∨ (∃ (c : CodePoint) (rest : Text), t = c :: rest ∧ c ≠ .scalar '\r' ∧
        t.unifyLineEnds = c :: rest.unifyLineEnds) ∨
      ∃ rest later : Text, t = .scalar '\r' :: rest ∧
        t.unifyLineEnds = .scalar '\n' :: later.unifyLineEnds := by
  cases t with
  | nil => exact .inl rfl
  | cons c rest =>
    by_cases isReturn : c = .scalar '\r'
    · subst isReturn
      obtain ⟨later, unified⟩ := unifyLineEnds_return rest
      exact .inr (.inr ⟨rest, later, rfl, unified⟩)
    · exact .inr (.inl ⟨c, rest, rfl, isReturn, unifyLineEnds_cons isReturn rest⟩)

/-- A text begins with a mark that ends no line just when the other text does, and then what is
behind the mark corresponds. -/
theorem unifyLineEnds_head? (mark : CodePoint)
    (inLine : mark ≠ .scalar '\r' ∧ mark ≠ .scalar '\n') (t : Text) :
    t.unifyLineEnds.head? = some mark ↔ t.head? = some mark := by
  rcases unifyLineEnds_cases t with rfl | ⟨c, rest, rfl, _, unified⟩ | ⟨_, _, rfl, unified⟩
  · exact Iff.rfl
  · rw [unified]
    exact Iff.rfl
  · rw [unified]
    constructor
    · exact fun first => absurd (Option.some.inj first).symm inLine.2
    · exact fun first => absurd (Option.some.inj first).symm inLine.1

theorem unifyLineEnds_tail {t : Text} {mark : CodePoint} (first : t.head? = some mark)
    (inLine : mark ≠ .scalar '\r') : t.unifyLineEnds.tail = unifyLineEnds t.tail := by
  rw [eq_cons_of_head? first, unifyLineEnds_cons inLine]
  rfl

theorem unifyLineEnds_eq_nil_iff (t : Text) : t.unifyLineEnds = [] ↔ t = [] := by
  rcases unifyLineEnds_cases t with rfl | ⟨c, rest, rfl, _, unified⟩ | ⟨rest, later, rfl, unified⟩
  · exact Iff.rfl
  · simp [unified]
  · simp [unified]

theorem unifyLineEnds_length (t : Text) : t.unifyLineEnds.length ≤ t.length := by
  fun_induction unifyLineEnds t with
  | case1 => exact Nat.le_refl 0
  | case2 rest inductionHypothesis => simp only [List.length_cons]; omega
  | case3 rest _ inductionHypothesis => simpa using inductionHypothesis
  | case4 c rest _ _ inductionHypothesis => simpa using inductionHypothesis

/-- A word without line ends stands at the start of a text just when it stands at the start of
the other, with corresponding texts behind it. -/
theorem isPrefixOf?_unifyLineEnds {word : Text}
    (plain : ∀ c ∈ word, c ≠ .scalar '\r' ∧ c ≠ .scalar '\n') (t : Text) :
    word.isPrefixOf? t.unifyLineEnds = (word.isPrefixOf? t).map unifyLineEnds := by
  induction word generalizing t with
  | nil => rfl
  | cons mark others inductionHypothesis =>
    rw [List.forall_mem_cons] at plain
    obtain ⟨⟨noReturn, noFeed⟩, plain⟩ := plain
    rcases unifyLineEnds_cases t with
      rfl | ⟨c, rest, rfl, _, unified⟩ | ⟨rest, later, rfl, unified⟩
    · rfl
    · rw [unified, List.isPrefixOf?, List.isPrefixOf?, inductionHypothesis plain]
      split <;> rfl
    · rw [unified, List.isPrefixOf?, List.isPrefixOf?, if_neg (by simpa using noFeed),
        if_neg (by simpa using noReturn)]
      rfl

/-- So a text begins with such a word just when the other text does. -/
theorem unifyLineEnds_eq_append_iff {word : Text}
    (plain : ∀ c ∈ word, c ≠ .scalar '\r' ∧ c ≠ .scalar '\n') {t behind : Text} :
    t.unifyLineEnds = word ++ behind ↔
      ∃ rest : Text, t = word ++ rest ∧ rest.unifyLineEnds = behind := by
  have begins (t behind : Text) : t = word ++ behind ↔ word.isPrefixOf? t = some behind := by
    rw [List.isPrefixOf?_eq_some_iff_append_eq, eq_comm]
  rw [begins, isPrefixOf?_unifyLineEnds plain, Option.map_eq_some_iff]
  simp only [begins]

end Text

namespace NumberLiteral

open Text

/-- No digit ends a line. -/
theorem takeDigits_unifyLineEnds (t : Text) :
    takeDigits t.unifyLineEnds = Prod.map id unifyLineEnds (takeDigits t) := by
  fun_induction takeDigits t with
  | case1 => rfl
  | case2 c rest noDigit =>
    rcases unifyLineEnds_cases (c :: rest) with
      impossible | ⟨first, others, same, _, unified⟩ | ⟨_, later, _, unified⟩
    · exact absurd impossible (List.cons_ne_nil c rest)
    · obtain ⟨rfl, rfl⟩ := List.cons.inj same
      rw [unified, takeDigits, noDigit, Prod.map_apply, unified]
      rfl
    · rw [Prod.map_apply, unified]
      rfl
  | case3 c rest digit isDigit digits behind taken inductionHypothesis =>
    have noReturn : c ≠ .scalar '\r' := by
      rintro rfl
      exact absurd isDigit (by simp [digit?])
    rw [taken] at inductionHypothesis
    rw [unifyLineEnds_cons noReturn, takeDigits, isDigit, inductionHypothesis]
    rfl

/-! Each part of a number is told by the code point it begins with, and none begins with the
end of a line. -/

theorem takeMinus_eq (t : Text) : takeMinus t =
    if t.head? = some (.scalar '-') then (true, t.tail) else (false, t) := by
  rw [takeMinus.eq_def]
  split
  · rfl
  · next unsigned => rw [if_neg fun first => unsigned t.tail (eq_cons_of_head? first)]

theorem takeSign_eq (t : Text) : takeSign t =
    if t.head? = some (.scalar '+') then (false, t.tail) else takeMinus t := by
  rw [takeSign.eq_def]
  split
  · rfl
  · rfl
  · next noPlus noMinus =>
    rw [if_neg fun first => noPlus t.tail (eq_cons_of_head? first), takeMinus_eq,
      if_neg fun first => noMinus t.tail (eq_cons_of_head? first)]

theorem takeWhole?_eq (t : Text) : takeWhole? t =
    if t.head? = some (.scalar '0') then some ([0], t.tail)
    else if (takeDigits t).1 = [] then none else some (takeDigits t) := by
  rw [takeWhole?.eq_def]
  split
  · rfl
  · next noZero =>
    rw [if_neg fun first => noZero t.tail (eq_cons_of_head? first)]
    split
    · next taken => rw [taken]; rfl
    · next filled =>
      rw [if_neg fun none => filled (takeDigits t).2 (Prod.ext none rfl)]

theorem takeFraction_eq (t : Text) : takeFraction t =
    if t.head? = some (.scalar '.') ∧ (takeDigits t.tail).1 ≠ [] then
      (some (takeDigits t.tail).1, (takeDigits t.tail).2)
    else (none, t) := by
  rw [takeFraction.eq_def]
  split
  · next rest =>
    rw [List.tail_cons]
    split
    · next taken => rw [taken]; rfl
    · next filled taken => rw [taken, if_pos ⟨rfl, filled⟩]
  · next noPoint =>
    rw [if_neg fun pointed => noPoint t.tail (eq_cons_of_head? pointed.1)]

theorem takeExponent_eq (t : Text) : takeExponent t =
    if (t.head? = some (.scalar 'e') ∨ t.head? = some (.scalar 'E')) ∧
        (takeDigits (takeSign t.tail).2).1 ≠ [] then
      (some ((takeSign t.tail).1, (takeDigits (takeSign t.tail).2).1),
        (takeDigits (takeSign t.tail).2).2)
    else (none, t) := by
  rw [takeExponent.eq_def]
  split
  · next c rest =>
    rw [List.tail_cons]
    by_cases mark : c = 'e' ∨ c = 'E'
    · have marked : (CodePoint.scalar c :: rest).head? = some (.scalar 'e') ∨
          (CodePoint.scalar c :: rest).head? = some (.scalar 'E') := by
        rcases mark with rfl | rfl
        · exact .inl rfl
        · exact .inr rfl
      rw [if_pos mark]
      dsimp only
      split
      · next taken => rw [taken, if_neg fun filled => filled.2 rfl]
      · next filled taken => rw [taken, if_pos ⟨marked, filled⟩]
    · rw [if_neg mark, if_neg]
      rintro ⟨marked, _⟩
      exact mark (by simpa using marked)
  · next noMark =>
    rw [if_neg]
    rintro ⟨marked | marked, _⟩
    · exact noMark _ _ (eq_cons_of_head? marked)
    · exact noMark _ _ (eq_cons_of_head? marked)

theorem takeMinus_unifyLineEnds (t : Text) :
    takeMinus t.unifyLineEnds = Prod.map id unifyLineEnds (takeMinus t) := by
  have minus := unifyLineEnds_head? (.scalar '-') (by decide) t
  simp only [takeMinus_eq, minus]
  split
  · next first => rw [unifyLineEnds_tail first (by decide)]; rfl
  · rfl

theorem takeSign_unifyLineEnds (t : Text) :
    takeSign t.unifyLineEnds = Prod.map id unifyLineEnds (takeSign t) := by
  have plus := unifyLineEnds_head? (.scalar '+') (by decide) t
  simp only [takeSign_eq, plus, takeMinus_unifyLineEnds]
  split
  · next first => rw [unifyLineEnds_tail first (by decide)]; rfl
  · rfl

theorem takeWhole?_unifyLineEnds (t : Text) :
    takeWhole? t.unifyLineEnds = (takeWhole? t).map (Prod.map id unifyLineEnds) := by
  have zero := unifyLineEnds_head? (.scalar '0') (by decide) t
  simp only [takeWhole?_eq, zero, takeDigits_unifyLineEnds]
  split
  · next first => rw [unifyLineEnds_tail first (by decide)]; rfl
  · dsimp only [Prod.map_fst, id]
    split <;> rfl

theorem takeFraction_unifyLineEnds (t : Text) :
    takeFraction t.unifyLineEnds = Prod.map id unifyLineEnds (takeFraction t) := by
  have point := unifyLineEnds_head? (.scalar '.') (by decide) t
  simp only [takeFraction_eq, point]
  by_cases first : t.head? = some (.scalar '.')
  · rw [unifyLineEnds_tail first (by decide), takeDigits_unifyLineEnds]
    dsimp only [Prod.map_fst, Prod.map_snd, id]
    split <;> rfl
  · rw [if_neg fun pointed => first pointed.1, if_neg fun pointed => first pointed.1]
    rfl

theorem takeExponent_unifyLineEnds (t : Text) :
    takeExponent t.unifyLineEnds = Prod.map id unifyLineEnds (takeExponent t) := by
  have small := unifyLineEnds_head? (.scalar 'e') (by decide) t
  have capital := unifyLineEnds_head? (.scalar 'E') (by decide) t
  simp only [takeExponent_eq, small, capital]
  by_cases marked : t.head? = some (.scalar 'e') ∨ t.head? = some (.scalar 'E')
  · have behind : t.unifyLineEnds.tail = unifyLineEnds t.tail := by
      rcases marked with first | first
      · exact unifyLineEnds_tail first (by decide)
      · exact unifyLineEnds_tail first (by decide)
    rw [behind, takeSign_unifyLineEnds, Prod.map_snd, takeDigits_unifyLineEnds]
    dsimp only [Prod.map_fst, Prod.map_snd, id]
    split <;> rfl
  · rw [if_neg fun exponent => marked exponent.1, if_neg fun exponent => marked exponent.1]
    rfl

/-- A number literal is read alike from both texts. -/
theorem read?_unifyLineEnds (t : Text) :
    read? t.unifyLineEnds = (read? t).map (Prod.map id unifyLineEnds) := by
  rw [read?_eq, read?_eq, takeMinus_unifyLineEnds, Prod.map_snd, takeWhole?_unifyLineEnds]
  cases takeWhole? (takeMinus t).2 with
  | none => rfl
  | some taken =>
    simp only [Option.map_some, Option.bind_some, Prod.map_fst, Prod.map_snd, id,
      takeFraction_unifyLineEnds, takeExponent_unifyLineEnds, Prod.map_apply]

end NumberLiteral

/-- The fault at the corresponding place of the text with unified line ends. -/
def ReadFault.unifyLineEnds : ReadFault → ReadFault
  | .malformed complaint remaining => .malformed complaint remaining.unifyLineEnds
  | .constant word => .constant word
  | .longInteger digits => .longInteger digits
  | .tooDeep => .tooDeep

/-- What is read from the text with unified line ends, given what is read from a text. -/
def Reader.unified {α : Type} : Except ReadFault (α × Text) → Except ReadFault (α × Text)
  | .ok (value, rest) => .ok (value, rest.unifyLineEnds)
  | .error fault => .error fault.unifyLineEnds

namespace StringLiteral

open Grammar Reader Text

/-- The unit that four digits at the start of a text spell, if there is text behind them. -/
def unitAhead? : Text → Option (Fin 0x10000 × Text)
  | a :: b :: c :: d :: next :: rest => (unit? a b c d).map (·, next :: rest)
  | _ => none

theorem unitAhead?_eq_some_iff {t rest : Text} {unit : Fin 0x10000} :
    unitAhead? t = some (unit, rest) ↔
      ∃ a b c d, t = [a, b, c, d] ++ rest ∧ unit? a b c d = some unit ∧ rest ≠ [] := by
  constructor
  · intro found
    rw [unitAhead?.eq_def] at found
    split at found
    · next a b c d next later =>
      obtain ⟨_, isUnit, same⟩ := Option.map_eq_some_iff.mp found
      obtain ⟨rfl, rfl⟩ := Prod.mk.inj same
      exact ⟨a, b, c, d, rfl, isUnit, List.cons_ne_nil next later⟩
    · exact absurd found (by simp)
  · rintro ⟨a, b, c, d, rfl, isUnit, filled⟩
    obtain ⟨next, later, rfl⟩ := List.exists_cons_of_ne_nil filled
    change (unit? a b c d).map (·, next :: later) = _
    rw [isUnit]
    rfl

/-- No hexadecimal digit ends a line. -/
theorem hexDigit_inLine {a b c d : CodePoint} {unit : Fin 0x10000}
    (isUnit : unit? a b c d = some unit) :
    ∀ mark ∈ [a, b, c, d], mark ≠ .scalar '\r' ∧ mark ≠ .scalar '\n' := by
  have digits : ∀ (value : Fin 16) (capital : Bool),
      (HexDigit.mk value capital).mark ≠ .scalar '\r' ∧
        (HexDigit.mk value capital).mark ≠ .scalar '\n' := by decide
  obtain ⟨x, y, z, w, marks, _⟩ := exists_marks_of_unit? isUnit
  intro mark member
  rw [marks] at member
  simp only [List.mem_cons, List.not_mem_nil, or_false] at member
  rcases member with rfl | rfl | rfl | rfl
  all_goals exact digits _ _

theorem unitAhead?_unifyLineEnds (t : Text) :
    unitAhead? t.unifyLineEnds = (unitAhead? t).map (Prod.map id unifyLineEnds) := by
  ext ⟨unit, behind⟩
  rw [Option.map_eq_some_iff, unitAhead?_eq_some_iff]
  constructor
  · rintro ⟨a, b, c, d, begins, isUnit, filled⟩
    obtain ⟨rest, rfl, rfl⟩ := (unifyLineEnds_eq_append_iff (hexDigit_inLine isUnit)).mp begins
    refine ⟨(unit, rest), ?_, rfl⟩
    rw [unitAhead?_eq_some_iff]
    exact ⟨a, b, c, d, rfl, isUnit, fun none => filled ((unifyLineEnds_eq_nil_iff rest).mpr none)⟩
  · rintro ⟨⟨_, rest⟩, found, same⟩
    obtain ⟨rfl, rfl⟩ := Prod.mk.inj same
    obtain ⟨a, b, c, d, rfl, isUnit, filled⟩ := unitAhead?_eq_some_iff.mp found
    have begins := (unifyLineEnds_eq_append_iff (hexDigit_inLine isUnit)).mpr ⟨rest, rfl, rfl⟩
    exact ⟨a, b, c, d, begins, isUnit, fun none => filled ((unifyLineEnds_eq_nil_iff rest).mp none)⟩

/-- Behind a backslash and a `u` there must be a unit. -/
theorem pieces_unit (opening t : Text) :
    pieces opening (.scalar '\\' :: .scalar 'u' :: t) =
      match unitAhead? t with
      | some (unit, rest) =>
        (pieces opening rest).map fun (tail, rest) => (.unit unit :: tail, rest)
      | none => .error (.malformed .unicodeEscape (.scalar 'u' :: t)) := by
  fun_cases unitAhead? t with
  | case1 a b c d next rest =>
    rw [pieces]
    cases unit? a b c d <;> rfl
  | case2 _ short =>
    rw [pieces]
    exact fun a b c d next rest same => short a b c d next rest same

/-- Behind a backslash and anything else there must be a short escape. -/
theorem pieces_escape {c : CodePoint} (noUnit : c ≠ .scalar 'u') (opening t : Text) :
    pieces opening (.scalar '\\' :: c :: t) =
      match shortEscape? c with
      | some e => (pieces opening t).map fun (tail, rest) => (.literal (.scalar e) :: tail, rest)
      | none => .error (.malformed .escape (.scalar '\\' :: c :: t)) := by
  rw [pieces]
  · cases shortEscape? c <;> rfl
  · exact fun _ _ _ _ _ _ same => absurd same noUnit
  · exact noUnit

/-- Any other code point stands for itself, unless it is a control. -/
theorem pieces_plain {c : CodePoint} (noQuote : c ≠ .scalar '"') (noBackslash : c ≠ .scalar '\\')
    (opening t : Text) :
    pieces opening (c :: t) =
      if c.toNat < 0x20 then .error (.malformed .controlCharacter (c :: t))
      else (pieces opening t).map fun (tail, rest) => (.literal c :: tail, rest) := by
  rw [pieces]
  · rfl
  · exact noQuote
  · exact fun same => absurd same noBackslash
  · exact fun _ _ _ _ _ _ same => absurd same noBackslash
  · exact fun _ same => absurd same noBackslash
  · exact fun _ _ same => absurd same noBackslash

/-- A string literal is taken apart alike in both texts. -/
theorem pieces_unifyLineEnds (opening t : Text) :
    pieces opening.unifyLineEnds t.unifyLineEnds = unified (pieces opening t) := by
  have backslash : CodePoint.scalar '\\' ≠ .scalar '\r' := by decide
  have letter : CodePoint.scalar 'u' ≠ .scalar '\r' := by decide
  fun_induction pieces opening t with
  | case1 => rfl
  | case2 rest =>
    rw [unifyLineEnds_cons (by decide), pieces]
    rfl
  | case3 => rfl
  | case4 a b c d next rest unit isUnit inductionHypothesis =>
    have ahead : unitAhead? (a :: b :: c :: d :: next :: rest) = some (unit, next :: rest) := by
      rw [unitAhead?, isUnit]
      rfl
    rw [unifyLineEnds_cons backslash, unifyLineEnds_cons letter, pieces_unit,
      unitAhead?_unifyLineEnds, ahead]
    dsimp only [Option.map_some, Prod.map_apply, id]
    rw [inductionHypothesis]
    cases pieces opening (next :: rest) <;> rfl
  | case5 a b c d next rest noUnit =>
    have ahead : unitAhead? (a :: b :: c :: d :: next :: rest) = none := by
      rw [unitAhead?, noUnit]
      rfl
    rw [unifyLineEnds_cons backslash, unifyLineEnds_cons letter, pieces_unit,
      unitAhead?_unifyLineEnds, ahead, unified, ReadFault.unifyLineEnds, unifyLineEnds_cons letter]
    rfl
  | case6 rest short =>
    have ahead : unitAhead? rest = none := by
      rw [unitAhead?]
      intro a b c d next later same
      exact short a b c d next later same
    rw [unifyLineEnds_cons backslash, unifyLineEnds_cons letter, pieces_unit,
      unitAhead?_unifyLineEnds, ahead, unified, ReadFault.unifyLineEnds, unifyLineEnds_cons letter]
    rfl
  | case7 c rest _ noUnit meant isEscape inductionHypothesis =>
    have noReturn : c ≠ .scalar '\r' := by
      rintro rfl
      exact absurd isEscape (by simp [shortEscape?])
    rw [unifyLineEnds_cons backslash, unifyLineEnds_cons noReturn, pieces_escape noUnit, isEscape]
    dsimp only
    rw [inductionHypothesis]
    cases pieces opening rest <;> rfl
  | case8 c rest _ noUnit noEscape =>
    rw [unified, ReadFault.unifyLineEnds, unifyLineEnds_cons backslash]
    rcases unifyLineEnds_cases (c :: rest) with
      impossible | ⟨_, _, same, _, unified⟩ | ⟨_, later, _, unified⟩
    · exact absurd impossible (List.cons_ne_nil c rest)
    · obtain ⟨rfl, rfl⟩ := List.cons.inj same
      rw [unified, pieces_escape noUnit, noEscape]
    · rw [unified, pieces_escape (by decide)]
      rfl
  | case9 c rest noQuote noEnd _ _ noEscape control =>
    have noBackslash : c ≠ .scalar '\\' := by
      rintro rfl
      exact absurd control (by decide)
    rw [unified, ReadFault.unifyLineEnds]
    rcases unifyLineEnds_cases (c :: rest) with
      impossible | ⟨_, _, same, _, unified⟩ | ⟨_, later, _, unified⟩
    · exact absurd impossible (List.cons_ne_nil c rest)
    · obtain ⟨rfl, rfl⟩ := List.cons.inj same
      rw [unified, pieces_plain noQuote noBackslash, if_pos control]
    · rw [unified, pieces_plain (by decide) (by decide)]
      rfl
  | case10 c rest noQuote noEnd _ _ noEscape noControl inductionHypothesis =>
    have noBackslash : c ≠ .scalar '\\' := by
      intro same
      cases rest with
      | nil => exact noEnd same rfl
      | cons next later => exact noEscape next later same rfl
    have noReturn : c ≠ .scalar '\r' := by
      rintro rfl
      exact noControl (by decide)
    rw [unifyLineEnds_cons noReturn, pieces_plain noQuote noBackslash, if_neg noControl,
      inductionHypothesis]
    cases pieces opening rest <;> rfl

theorem read_unifyLineEnds (opening body : Text) :
    read opening.unifyLineEnds body.unifyLineEnds = unified (read opening body) := by
  rw [read, read, pieces_unifyLineEnds]
  cases pieces opening body <;> rfl

end StringLiteral

end TypeSketch
