import TypeSketch.Text.CodePoint

/-!
# Fields

The fields of a text are what its separators divide it into, empty fields among them: a
field stands before the first separator and one behind each. `fields_join` puts the text
together again, so nothing is lost.
-/

namespace TypeSketch.Text

/-- The field before the first separator, and those behind each separator. -/
def fields (separator : CodePoint) : Text → Text × List Text
  | [] => ([], [])
  | c :: rest =>
    let (field, later) := fields separator rest
    if c = separator then ([], field :: later) else (c :: field, later)

/-- A text without a separator is a single field. -/
theorem fields_unbroken {separator : CodePoint} {field : Text} (unbroken : separator ∉ field) :
    fields separator field = (field, []) := by
  induction field with
  | nil => rfl
  | cons c rest inductionHypothesis =>
    rw [List.mem_cons, not_or] at unbroken
    rw [fields, inductionHypothesis unbroken.2]
    exact if_neg (Ne.symm unbroken.1)

/-- A field ends at the first separator. -/
theorem fields_append {separator : CodePoint} {field : Text} (unbroken : separator ∉ field)
    (rest : Text) :
    fields separator (field ++ separator :: rest) =
      (field, (fields separator rest).1 :: (fields separator rest).2) := by
  induction field with
  | nil => exact if_pos rfl
  | cons c others inductionHypothesis =>
    rw [List.mem_cons, not_or] at unbroken
    rw [List.cons_append, fields, inductionHypothesis unbroken.2]
    exact if_neg (Ne.symm unbroken.1)

/-- No field holds a separator. -/
theorem fields_parts (separator : CodePoint) (t : Text) :
    ∀ field ∈ (fields separator t).1 :: (fields separator t).2, separator ∉ field := by
  induction t with
  | nil => simp [fields]
  | cons c rest inductionHypothesis =>
    rw [List.forall_mem_cons] at inductionHypothesis
    by_cases separates : c = separator
    · simpa [fields, separates] using inductionHypothesis
    · simpa [fields, separates, Ne.symm separates] using inductionHypothesis

/-- The fields with their separators are the text. -/
theorem fields_join (separator : CodePoint) (t : Text) :
    (fields separator t).1 ++ (fields separator t).2.flatMap (separator :: ·) = t := by
  induction t with
  | nil => rfl
  | cons c rest inductionHypothesis =>
    by_cases separates : c = separator
    · simp [fields, separates, inductionHypothesis]
    · simp [fields, separates, inductionHypothesis]

end TypeSketch.Text
