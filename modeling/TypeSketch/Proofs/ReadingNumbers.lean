import TypeSketch.Proofs.Grammar

/-!
# Reading number literals

Each part of a number literal is read from its text as it was put in, provided that what
comes behind cannot be taken for more of it: no digit behind digits, and neither a point
nor the mark of an exponent where the literal has none. Conversely, what is read off a
text is spelled by it, with some choice of mark and sign. Parts that are absent are no
exception, as they have an empty text.
-/

namespace TypeSketch.NumberLiteral

open Grammar

theorem digit?_mark (digit : Fin 10) : digit? (.scalar (Nat.digitChar digit)) = some digit := by
  decide +revert

/-- A digit is spelled by its mark only. -/
theorem eq_mark_of_digit? {c : CodePoint} {digit : Fin 10} (found : digit? c = some digit) :
    c = .scalar (Nat.digitChar digit) := by
  cases c with
  | surrogate offset => exact absurd found (by simp [digit?])
  | scalar c =>
    rw [digit?] at found
    split at found
    · next range =>
      have low : 48 ≤ c.toNat := range.1
      have high : c.toNat ≤ 57 := range.2
      have value : digit.val = c.toNat - 48 := by
        rw [← Option.some.inj found]
        exact Nat.mod_eq_of_lt (show c.toNat - 48 < 10 by omega)
      rw [value, CodePoint.scalar.injEq]
      apply Char.toNat_inj.mp
      rw [Nat.toNat_digitChar_of_lt_ten (by omega)]
      omega
    · exact absurd found (by simp)

/-- No digit stands at the start of a text. -/
def NoDigit (t : Text) : Prop := ∀ c, t.head? = some c → digit? c = none

theorem takeDigits_digits (digits : List (Fin 10)) {rest : Text} (ended : NoDigit rest) :
    takeDigits (digitsText digits ++ rest) = (digits, rest) := by
  induction digits with
  | nil =>
    cases rest with
    | nil => rfl
    | cons c others =>
      change takeDigits (c :: others) = _
      rw [takeDigits, ended c rfl]
  | cons digit others inductionHypothesis =>
    change takeDigits (.scalar (Nat.digitChar digit) :: (digitsText others ++ rest)) = _
    rw [takeDigits, digit?_mark, inductionHypothesis]

/-- Whether a number could go on with a code point. -/
def continuesNumber (c : CodePoint) : Bool :=
  (digit? c).isSome || ['.', 'e', 'E'].any (.scalar · == c)

/-- A text that a number in front of it ends at. -/
def Closed (t : Text) : Prop := ∀ c, t.head? = some c → continuesNumber c = false

theorem Closed.noDigit {t : Text} (closed : Closed t) : NoDigit t := by
  intro c first
  have ends := closed c first
  rw [continuesNumber, Bool.or_eq_false_iff] at ends
  cases found : digit? c with
  | none => rfl
  | some digit => rw [found] at ends; exact absurd ends.1 (by simp)

theorem Closed.noMark {t : Text} (closed : Closed t) :
    ∀ mark ∈ ['.', 'e', 'E'], t.head? ≠ some (.scalar mark) := by
  intro mark member first
  have ends := closed _ first
  rw [continuesNumber, Bool.or_eq_false_iff, List.any_eq_false] at ends
  exact ends.2 mark member (beq_self_eq_true _)

/-- What is taken and what is left make the text. -/
theorem takeDigits_whole (t : Text) : digitsText (takeDigits t).1 ++ (takeDigits t).2 = t := by
  induction t with
  | nil => rfl
  | cons c rest inductionHypothesis =>
    rw [takeDigits]
    split
    · rfl
    · next digit found =>
      rw [eq_mark_of_digit? found]
      exact congrArg (_ :: ·) inductionHypothesis

theorem takeMinus_text (negative : Bool) {t : Text} (unsigned : t.head? ≠ some (.scalar '-')) :
    takeMinus (signText negative false ++ t) = (negative, t) := by
  cases negative with
  | true => rfl
  | false =>
    change takeMinus t = _
    rw [takeMinus]
    intro rest signed
    exact unsigned (signed ▸ rfl)

theorem takeMinus_whole (t : Text) : signText (takeMinus t).1 false ++ (takeMinus t).2 = t := by
  rw [takeMinus.eq_def]
  split <;> rfl

/-- No digit is the mark of anything else in a number. -/
theorem mark_ne {c : CodePoint} (noDigit : digit? c = none) (digit : Fin 10) :
    CodePoint.scalar (Nat.digitChar digit) ≠ c := by
  rintro rfl
  rw [digit?_mark] at noDigit
  exact absurd noDigit (by simp)

theorem takeWhole?_text {whole : List (Fin 10)} {rest : Text}
    (shape : IsWhole whole) (ended : NoDigit rest) :
    takeWhole? (digitsText whole ++ rest) = some (whole, rest) := by
  obtain ⟨lead, others, rfl, alone⟩ := shape
  by_cases zero : lead.val = 0
  · obtain rfl : lead = 0 := Fin.ext zero
    rw [alone zero]
    rfl
  · rw [takeWhole?, takeDigits_digits _ ended]
    intro later begins
    have same : CodePoint.scalar (Nat.digitChar lead) = .scalar '0' := (List.cons.inj begins).1
    have read := digit?_mark lead
    rw [same] at read
    exact zero (congrArg Fin.val (Option.some.inj read)).symm

theorem takeWhole?_sound {t rest : Text} {whole : List (Fin 10)}
    (found : takeWhole? t = some (whole, rest)) :
    t = digitsText whole ++ rest ∧ IsWhole whole := by
  rw [takeWhole?.eq_def] at found
  split at found
  · obtain ⟨rfl, rfl⟩ := Prod.mk.inj (Option.some.inj found)
    exact ⟨rfl, _, _, rfl, fun _ => rfl⟩
  · next noZero =>
    have split := takeDigits_whole t
    split at found
    · exact absurd found (by simp)
    · next none =>
      rw [Option.some.inj found] at split none
      refine ⟨split.symm, ?_⟩
      cases whole with
      | nil => exact absurd rfl (none rest)
      | cons lead others =>
        refine ⟨lead, others, rfl, ?_⟩
        intro zero
        obtain rfl : lead = 0 := Fin.ext zero
        exact absurd split.symm (noZero _)

theorem takeFraction_text {fraction : Option (List (Fin 10))} {rest : Text}
    (filled : fraction ≠ some []) (ended : NoDigit rest)
    (noPoint : rest.head? ≠ some (.scalar '.')) :
    takeFraction (fractionText fraction ++ rest) = (fraction, rest) := by
  cases fraction with
  | none =>
    change takeFraction rest = _
    rw [takeFraction]
    intro later pointed
    exact noPoint (pointed ▸ rfl)
  | some digits =>
    change takeFraction (.scalar '.' :: (digitsText digits ++ rest)) = _
    rw [takeFraction, takeDigits_digits _ ended]
    cases digits with
    | nil => exact absurd rfl filled
    | cons digit others => rfl

theorem takeFraction_whole (t : Text) :
    fractionText (takeFraction t).1 ++ (takeFraction t).2 = t ∧ (takeFraction t).1 ≠ some [] := by
  rw [takeFraction.eq_def]
  split
  · next rest =>
    have whole := takeDigits_whole rest
    split
    · exact ⟨rfl, by simp⟩
    · next digits later filled found =>
      rw [found] at whole
      refine ⟨?_, fun none => filled (Option.some.inj none)⟩
      change CodePoint.scalar '.' :: (digitsText digits ++ later) = _
      exact congrArg (CodePoint.scalar '.' :: ·) whole
  · exact ⟨rfl, by simp⟩

/-- The sign of an exponent stands in front of a digit. -/
theorem takeSign_text (negative plus : Bool) (digit : Fin 10) (t : Text) :
    takeSign (signText negative plus ++ .scalar (Nat.digitChar digit) :: t) =
      (negative, .scalar (Nat.digitChar digit) :: t) := by
  cases negative with
  | true => rfl
  | false =>
    cases plus with
    | true => rfl
    | false =>
      change takeSign (.scalar (Nat.digitChar digit) :: t) = _
      rw [takeSign]
      · intro rest signed
        exact mark_ne (by decide) digit (List.cons.inj signed).1
      · intro rest signed
        exact mark_ne (by decide) digit (List.cons.inj signed).1

theorem takeSign_whole (t : Text) : ∃ plus, signText (takeSign t).1 plus ++ (takeSign t).2 = t := by
  rw [takeSign.eq_def]
  split
  · exact ⟨true, rfl⟩
  · exact ⟨false, rfl⟩
  · exact ⟨false, rfl⟩

theorem takeExponent_text (capital plus : Bool) {exponent : Option (Bool × List (Fin 10))}
    {rest : Text} (filled : ∀ negative, exponent ≠ some (negative, [])) (closed : Closed rest) :
    takeExponent (exponentText capital plus exponent ++ rest) = (exponent, rest) := by
  cases exponent with
  | none =>
    change takeExponent rest = _
    rw [takeExponent.eq_def]
    split
    · next c others =>
      have noExponent : ¬(c = 'e' ∨ c = 'E') := by
        rintro (rfl | rfl)
        · exact closed.noMark 'e' (by simp) rfl
        · exact closed.noMark 'E' (by simp) rfl
      rw [if_neg noExponent]
    · rfl
  | some parts =>
    obtain ⟨negative, digits⟩ := parts
    cases digits with
    | nil => exact absurd rfl (filled negative)
    | cons digit others =>
      have marked : (if capital then 'E' else 'e') = 'e' ∨
          (if capital then 'E' else 'e') = 'E' := by cases capital <;> decide
      have signed : takeSign (signText negative plus ++ (digitsText (digit :: others) ++ rest)) =
          (negative, digitsText (digit :: others) ++ rest) := takeSign_text negative plus digit _
      rw [exponentText, List.cons_append, List.append_assoc, takeExponent, if_pos marked, signed]
      dsimp only
      rw [takeDigits_digits _ closed.noDigit]

theorem takeExponent_whole (t : Text) :
    ∃ capital plus, exponentText capital plus (takeExponent t).1 ++ (takeExponent t).2 = t ∧
      ∀ negative, (takeExponent t).1 ≠ some (negative, []) := by
  rw [takeExponent.eq_def]
  split
  · next c rest =>
    split
    · next mark =>
      obtain ⟨plus, signed⟩ := takeSign_whole rest
      have digits := takeDigits_whole (takeSign rest).2
      dsimp only
      split
      · exact ⟨false, false, rfl, by simp⟩
      · next found later filled taken =>
        rw [taken] at digits
        refine ⟨decide (c = 'E'), plus, ?_, ?_⟩
        · have spelled : (if decide (c = 'E') then 'E' else 'e') = c := by
            rcases mark with rfl | rfl <;> decide
          change CodePoint.scalar (if decide (c = 'E') then 'E' else 'e') ::
            (signText (takeSign rest).1 plus ++ digitsText found ++ later) = _
          rw [spelled, List.append_assoc, digits, signed]
        · intro negative none
          exact filled (Prod.mk.inj (Option.some.inj none)).2
    · exact ⟨false, false, rfl, by simp⟩
  · exact ⟨false, false, rfl, by simp⟩

/-- The fraction of a number ends where its exponent begins, or with the number. -/
theorem exponentText_noDigit (capital plus : Bool) (exponent : Option (Bool × List (Fin 10)))
    {rest : Text} (closed : Closed rest) :
    NoDigit (exponentText capital plus exponent ++ rest) ∧
      (exponentText capital plus exponent ++ rest).head? ≠ some (.scalar '.') := by
  cases exponent with
  | none => exact ⟨closed.noDigit, closed.noMark '.' List.mem_cons_self⟩
  | some parts =>
    have mark : (exponentText capital plus (some parts) ++ rest).head? =
        some (.scalar (if capital then 'E' else 'e')) := rfl
    rw [NoDigit, mark]
    cases capital <;> simp [digit?]

theorem fractionText_noDigit (fraction : Option (List (Fin 10))) {rest : Text}
    (ended : NoDigit rest) : NoDigit (fractionText fraction ++ rest) := by
  cases fraction with
  | none => exact ended
  | some digits =>
    intro c first
    cases Option.some.inj first
    rfl

/-- The literal of a form is read from its text, if nothing behind it goes on with the number. -/
theorem read?_text (form : NumberForm) {rest : Text} (closed : Closed rest) :
    read? (form.text ++ rest) = some (form.literal, rest) := by
  obtain ⟨⟨negative, whole, fraction, exponent⟩, capital, plus, shape, filled, filledExponent⟩ :=
    form
  obtain ⟨noDigit, noPoint⟩ := exponentText_noDigit capital plus exponent closed
  have unsigned : (digitsText whole ++ (fractionText fraction ++
      (exponentText capital plus exponent ++ rest))).head? ≠ some (.scalar '-') := by
    obtain ⟨lead, others, rfl, _⟩ := shape
    exact fun first => mark_ne (by decide) lead (Option.some.inj first)
  simp only [read?, NumberForm.text, List.append_assoc, takeMinus_text negative unsigned,
    takeWhole?_text shape (fractionText_noDigit fraction noDigit), Option.bind_eq_bind,
    Option.bind_some, takeFraction_text filled noDigit noPoint,
    takeExponent_text capital plus filledExponent closed]
  rfl

theorem read?_eq (t : Text) : read? t = (takeWhole? (takeMinus t).2).bind fun taken =>
    some (⟨(takeMinus t).1, taken.1, (takeFraction taken.2).1,
      (takeExponent (takeFraction taken.2).2).1⟩, (takeExponent (takeFraction taken.2).2).2) := rfl

/-- A literal that is read is that of a form, and the text begins with the text of this form. -/
theorem read?_sound {t rest : Text} {literal : NumberLiteral}
    (found : read? t = some (literal, rest)) :
    ∃ form : NumberForm, form.literal = literal ∧ t = form.text ++ rest := by
  rw [read?_eq] at found
  obtain ⟨⟨whole, behind⟩, taken, found⟩ := Option.bind_eq_some_iff.mp found
  obtain ⟨rfl, rfl⟩ := Prod.mk.inj (Option.some.inj found)
  obtain ⟨digits, shape⟩ := takeWhole?_sound taken
  obtain ⟨fraction, filled⟩ := takeFraction_whole behind
  obtain ⟨capital, plus, exponent, filledExponent⟩ := takeExponent_whole (takeFraction behind).2
  refine ⟨⟨_, capital, plus, shape, filled, filledExponent⟩, rfl, ?_⟩
  simp only [NumberForm.text, List.append_assoc]
  rw [exponent, fraction, ← digits, takeMinus_whole]

end TypeSketch.NumberLiteral
