import TypeSketch.Proofs.Identifier
import TypeSketch.Proofs.References

/-!
# Reading the text of a type

In a text a primitive type and the name of a declaration are both just words. A type that
ends in a pair of square brackets is an array, one that begins with a round bracket is a
union of the words in it, and anything else is a word. Reading back the text of a type gives
its structure, provided that the names in it are words; which words are declared is left
open here.
-/

namespace TypeSketch

/-- The structure of a type as far as its text shows it. -/
inductive TypeText where
  | word (name : Text)
  | array (element : TypeText)
  | union (words : List Text)
deriving Repr

namespace TypeText

/-- Reads a type that is no array. -/
def ofAtom : Text → TypeText
  | .scalar '(' :: rest => .union (Text.runs TypeName.isWordPart rest)
  | name => .word name

/-- Reads a type from its end. -/
def ofReversed : Text → TypeText
  | .scalar ']' :: .scalar '[' :: rest => .array (ofReversed rest)
  | text => ofAtom text.reverse

/-- Reads the text of a type. -/
def ofText (text : Text) : TypeText := ofReversed text.reverse

theorem ofText_array (element : Text) : ofText (element ++ "[]") = .array (ofText element) := by
  rw [ofText, List.reverse_append]
  rfl

/-- A type is read as a whole unless it ends like an array. -/
theorem ofText_atom {text : Text} {last : CodePoint} (ending : last ≠ .scalar ']') :
    ofText (text ++ [last]) = ofAtom (text ++ [last]) := by
  rw [ofText, List.reverse_append, List.reverse_singleton, List.singleton_append]
  have whole : ofReversed (last :: text.reverse) = ofAtom (last :: text.reverse).reverse := by
    cases reversed : text.reverse with
    | nil => rw [ofReversed]; intro rest same; exact absurd same (by simp)
    | cons c rest =>
      rw [ofReversed]
      intro later same
      exact ending (List.cons.inj same).1
  rw [whole, List.reverse_cons, List.reverse_reverse]

end TypeText

/-- The structure that the text of a type shows. -/
def TypeExpr.written : TypeExpr → TypeText
  | .primitive type => .word type.text
  | .named name => .word name
  | .array element => .array element.written
  | .union members => .union (members.map Primitive.text)

namespace TypeText

/-- A word is read as itself. -/
theorem ofText_word {name : Text} (filled : name ≠ [])
    (parts : name.all TypeName.isWordPart = true) : ofText name = .word name := by
  have noBracket : TypeName.isWordPart (.scalar ']') = false := by decide
  obtain ⟨front, last, rfl⟩ := List.eq_nil_or_concat name |>.resolve_left filled
  rw [List.concat_eq_append] at parts ⊢
  have lastPart : TypeName.isWordPart last = true := by
    rw [List.all_append, Bool.and_eq_true] at parts
    simpa using parts.2
  have ending : last ≠ .scalar ']' := by
    rintro rfl
    rw [noBracket] at lastPart
    exact Bool.false_ne_true lastPart
  rw [ofText_atom ending]
  cases whole : front ++ [last] with
  | nil => rfl
  | cons c rest =>
    rw [ofAtom]
    intro later same
    have opening : TypeName.isWordPart c = true := by
      rw [whole, List.all_cons, Bool.and_eq_true] at parts
      exact parts.1
    rw [(List.cons.inj same).1] at opening
    exact absurd opening (by decide)

theorem primitive_parts (type : Primitive) :
    type.text ≠ [] ∧ type.text.all TypeName.isWordPart = true := by
  cases type <;> decide

/-- The words of a union are the runs in its text. -/
theorem runs_join (members : List Primitive) :
    Text.runs TypeName.isWordPart (Text.join " | " (members.map Primitive.text) ++ [.scalar ')']) =
      members.map Primitive.text := by
  have bracket : TypeName.isWordPart (.scalar ')') = false := by decide
  have blank : TypeName.isWordPart (.scalar ' ') = false := by decide
  have bar : TypeName.isWordPart (.scalar '|') = false := by decide
  induction members with
  | nil => decide
  | cons type rest inductionHypothesis =>
    obtain ⟨filled, parts⟩ := primitive_parts type
    have single := Text.runs_word TypeName.isWordPart filled parts
    cases rest with
    | nil =>
      rw [List.map_singleton, Text.join_single, Text.runs_append_break _ bracket, single]
      rfl
    | cons second others =>
      rw [List.map_cons, List.map_cons, Text.join_cons_cons, List.append_assoc, List.append_assoc]
      -- The separator is three breaks, with nothing between them.
      change Text.runs TypeName.isWordPart (type.text ++ .scalar ' ' :: ([] ++ .scalar '|' ::
        ([] ++ .scalar ' ' :: (Text.join " | " ((second :: others).map Primitive.text) ++
          [.scalar ')'])))) = _
      rw [Text.runs_append_break _ blank, Text.runs_append_break _ bar,
        Text.runs_append_break _ blank, inductionHypothesis, single]
      rfl

/-- Reading undoes writing when every name in the type is a word. -/
theorem ofText_text {type : TypeExpr}
    (words : ∀ name ∈ type.references, TypeName.isWord name = true) :
    ofText type.text = type.written := by
  induction type with
  | primitive type =>
    obtain ⟨filled, parts⟩ := primitive_parts type
    exact ofText_word filled parts
  | named name =>
    obtain ⟨filled, parts⟩ := TypeName.word_parts (words name List.mem_cons_self)
    exact ofText_word filled parts
  | array element inductionHypothesis =>
    rw [TypeExpr.text, ofText_array, inductionHypothesis words]
    rfl
  | union members =>
    have bracket : CodePoint.scalar ')' ≠ .scalar ']' := by decide
    have whole : TypeExpr.text (.union members) =
        (.scalar '(' :: Text.join " | " (members.map Primitive.text)) ++ [.scalar ')'] := rfl
    rw [whole, ofText_atom bracket, List.cons_append, ofAtom, runs_join]
    rfl

end TypeText

end TypeSketch
