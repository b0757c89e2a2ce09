import Mathlib.Data.List.Basic
import TypeSketch.Entries
import TypeSketch.Json.Basic
import TypeSketch.Json.NumberLiteral
import TypeSketch.Json.StringLiteral
import TypeSketch.Proofs.Fallible

/-!
# The grammar of JSON

The grammar is given by its parse trees. A tree keeps all that a text can choose: the
blanks around tokens, the spelling of each code point of a string, the case of hexadecimal
digits and of the mark of an exponent, and the plus sign in front of one. It keeps the
proofs of what the grammar demands as well, so every tree has a text, and a text is JSON
if it is the text of a tree between blanks. Nothing of this refers to how texts are read.

A tree stands for a document unless its containers are nested too deeply or one of its
integer literals is too long. Members whose key is repeated are apart in the tree.
-/

namespace TypeSketch.Grammar

/-- The code points that may stand between tokens: space, tab, line feed and carriage
return. -/
def blankMarks : Text := " \t\n\r"

/-- A text of blanks, perhaps empty. -/
structure Blanks where
  text : Text
  blank : ∀ c ∈ text, c ∈ blankMarks

/-- A hexadecimal digit, in one of two cases if it is a letter. -/
structure HexDigit where
  value : Fin 16
  capital : Bool

def HexDigit.mark (digit : HexDigit) : CodePoint :=
  .scalar (if digit.capital then (Nat.digitChar digit.value).toUpper
    else Nat.digitChar digit.value)

/-- The marks that may follow a backslash, with what they stand for. -/
def shortEscapes : List (Char × Char) :=
  [('"', '"'), ('\\', '\\'), ('/', '/'), ('b', '\x08'), ('f', '\x0c'), ('n', '\n'), ('r', '\r'),
    ('t', '\t')]

/-- One character of a string literal: a code point that stands for itself, a backslash with
a mark, or a unit of sixteen bits by number. -/
inductive Character where
  | raw (c : CodePoint) (plain : 0x20 ≤ c.toNat ∧ c ≠ .scalar '"' ∧ c ≠ .scalar '\\')
  | short (escape : Char × Char) (known : escape ∈ shortEscapes)
  | unit (a b c d : HexDigit)

namespace Character

def text : Character → Text
  | .raw c _ => [c]
  | .short (mark, _) _ => [.scalar '\\', .scalar mark]
  | .unit a b c d => [.scalar '\\', .scalar 'u', a.mark, b.mark, c.mark, d.mark]

/-- What a character stands for. -/
def piece : Character → StringLiteral.Piece
  | .raw c _ => .literal c
  | .short (_, meant) _ => .literal (.scalar meant)
  | .unit a b c d => .unit
    ⟨((a.value.val * 16 + b.value.val) * 16 + c.value.val) * 16 + d.value.val, by omega⟩

end Character

/-- A string literal with its quotes. -/
def stringText (characters : List Character) : Text :=
  .scalar '"' :: (characters.flatMap Character.text ++ [.scalar '"'])

/-- What a string literal stands for. -/
def stringMeaning (characters : List Character) : Text :=
  StringLiteral.denote (characters.map Character.piece)

/-- Decimal digits in order. -/
def digitsText (digits : List (Fin 10)) : Text :=
  digits.map fun digit => .scalar (Nat.digitChar digit)

/-- There are digits, and they do not begin with zero unless there is only one. -/
def IsWhole (digits : List (Fin 10)) : Prop :=
  ∃ lead rest, digits = lead :: rest ∧ (lead.val = 0 → rest = [])

/-- Whether the parts of a literal are as the grammar wants them: there are digits where
digits are due, and no zero in front of other digits of the whole part. -/
structure WellFormed (literal : NumberLiteral) : Prop where
  whole : IsWhole literal.whole
  fraction : literal.fraction ≠ some []
  exponent : ∀ negative, literal.exponent ≠ some (negative, [])

/-- A number literal, with the choices for the mark of its exponent and the sign behind it. -/
structure NumberForm where
  literal : NumberLiteral
  capital : Bool
  plus : Bool
  wellFormed : WellFormed literal

/-- A sign; a number that is not negative may have a plus sign where the grammar has one. -/
def signText (negative plus : Bool) : Text :=
  if negative then [.scalar '-'] else if plus then [.scalar '+'] else []

def fractionText : Option (List (Fin 10)) → Text
  | none => []
  | some digits => .scalar '.' :: digitsText digits

def exponentText (capital plus : Bool) : Option (Bool × List (Fin 10)) → Text
  | none => []
  | some (negative, digits) =>
    .scalar (if capital then 'E' else 'e') ::
      (signText negative plus ++ digitsText digits)

def NumberForm.text (form : NumberForm) : Text :=
  signText form.literal.negative false ++
    (digitsText form.literal.whole ++
      (fractionText form.literal.fraction ++
        exponentText form.capital form.plus form.literal.exponent))

/-- Something between blanks. -/
structure Padded (α : Type) where
  before : Blanks
  item : α
  after : Blanks

/-- A key and something behind it, with the blanks around the colon. -/
structure Keyed (α : Type) where
  key : List Character
  afterKey : Blanks
  beforeItem : Blanks
  item : α

def Padded.text {α : Type} (spell : α → Text) (padded : Padded α) : Text :=
  padded.before.text ++ (spell padded.item ++ padded.after.text)

def Keyed.text {α : Type} (spell : α → Text) (keyed : Keyed α) : Text :=
  stringText keyed.key ++
    (keyed.afterKey.text ++ .scalar ':' :: (keyed.beforeItem.text ++ spell keyed.item))

/-- The words that are values. -/
inductive Word where
  | null
  | true
  | false

def Word.text : Word → Text
  | .null => "null"
  | .true => "true"
  | .false => "false"

def Word.meaning : Word → Document
  | .null => .null
  | .true => .bool Bool.true
  | .false => .bool Bool.false

/-- A parse tree of a value. The gap of a container is behind its opening mark, and is all there
is between the marks of an empty one. -/
inductive Tree where
  | word (word : Word)
  | number (form : NumberForm)
  | string (characters : List Character)
  | array (gap : Blanks) (elements : List (Padded Tree))
  | object (gap : Blanks) (members : List (Padded (Keyed Tree)))

/-- What stands between the marks of a container: items with commas between them. -/
def listText (gap : Blanks) (items : List Text) : Text := gap.text ++ Text.join "," items

mutual

/-- The text of a value. -/
def Tree.text : Tree → Text
  | .word word => word.text
  | .number form => form.text
  | .string characters => stringText characters
  | .array gap elements => .scalar '[' :: (listText gap (elementTexts elements) ++ [.scalar ']'])
  | .object gap members => .scalar '{' :: (listText gap (memberTexts members) ++ [.scalar '}'])

def elementTexts : List (Padded Tree) → List Text
  | [] => []
  | ⟨before, tree, after⟩ :: rest =>
    Padded.text id ⟨before, tree.text, after⟩ :: elementTexts rest

def memberTexts : List (Padded (Keyed Tree)) → List Text
  | [] => []
  | ⟨before, ⟨key, afterKey, beforeItem, tree⟩, after⟩ :: rest =>
    Padded.text (Keyed.text id) ⟨before, ⟨key, afterKey, beforeItem, tree.text⟩, after⟩ ::
      memberTexts rest

end

/-! ### Texts of containers -/

theorem elementTexts_eq (elements : List (Padded Tree)) :
    elementTexts elements = elements.map (Padded.text Tree.text) := by
  induction elements with
  | nil => rfl
  | cons element rest inductionHypothesis =>
    rw [elementTexts, inductionHypothesis]
    rfl

theorem memberTexts_eq (members : List (Padded (Keyed Tree))) :
    memberTexts members = members.map (Padded.text (Keyed.text Tree.text)) := by
  induction members with
  | nil => rfl
  | cons member rest inductionHypothesis =>
    rw [memberTexts, inductionHypothesis]
    rfl

/-! ### What trees stand for -/

/-- What a key stands for, with what the thing behind it stands for. -/
def Keyed.meaning {α β : Type} (denote : α → Except ReadFault β) (keyed : Keyed α) :
    Except ReadFault (Text × β) := do
  let value ← denote keyed.item
  return (stringMeaning keyed.key, value)

/-- The document that a tree stands for, if it has no more than so many containers inside each
other and none of its integer literals is too long; otherwise what is wrong first. -/
def Tree.meaning : (depth : Nat) → Tree → Except ReadFault Document
  | _, .word value => .ok value.meaning
  | _, .number form => form.literal.number.map .number
  | _, .string characters => .ok (.string (stringMeaning characters))
  | 0, .array _ _ => .error .tooDeep
  | 0, .object _ _ => .error .tooDeep
  | depth + 1, .array _ elements => do
    let values ← elements.mapM fun element => meaning depth element.item
    return .array values
  | depth + 1, .object _ members => do
    let values ← members.mapM fun member => member.item.meaning (meaning depth)
    return .object (Entries.ofPairs (· == ·) values)

namespace Tree

/-- A number literal stands somewhere in a tree. -/
inductive HasNumber (literal : NumberLiteral) : Tree → Prop where
  | here {form : NumberForm} (same : form.literal = literal) : HasNumber literal (.number form)
  | element {gap : Blanks} {elements : List (Padded Tree)} {padded : Padded Tree}
      (member : padded ∈ elements) (inner : HasNumber literal padded.item) :
      HasNumber literal (.array gap elements)
  | member {gap : Blanks} {members : List (Padded (Keyed Tree))} {padded : Padded (Keyed Tree)}
      (member : padded ∈ members) (inner : HasNumber literal padded.item.item) :
      HasNumber literal (.object gap members)

/-- No literal without a fraction and an exponent has more than 4300 digits. -/
def Short (tree : Tree) : Prop :=
  ∀ literal, tree.HasNumber literal → literal.fraction = none → literal.exponent = none →
    literal.whole.length ≤ 4300

/-- A literal denotes a number if it has a fraction or an exponent or is not too long. -/
theorem number_ok_iff (literal : NumberLiteral) : (∃ number, literal.number = .ok number) ↔
    (literal.fraction = none → literal.exponent = none → literal.whole.length ≤ 4300) := by
  obtain ⟨negative, whole, fraction, exponent⟩ := literal
  cases fraction with
  | some digits => simp [NumberLiteral.number]
  | none =>
    cases exponent with
    | some parts => simp [NumberLiteral.number]
    | none =>
      by_cases long : 4300 < whole.length
      · simp [NumberLiteral.number, maxIntegerDigits, long]
      · simp [NumberLiteral.number, maxIntegerDigits, long, Nat.not_lt.mp long]

/-- Whatever stands for a document has no integer literal that is too long. -/
theorem short_of_meaning {tree : Tree} {depth : Nat} {document : Document}
    (meant : tree.meaning depth = .ok document) : tree.Short := by
  intro literal has
  induction has generalizing depth document with
  | @here form same =>
    rw [meaning] at meant
    cases number : form.literal.number with
    | error fault => rw [number] at meant; exact absurd meant (by simp [Except.map])
    | ok value => exact same ▸ (number_ok_iff form.literal).mp ⟨value, number⟩
  | element member inner inductionHypothesis =>
    cases depth with
    | zero => exact absurd meant (by simp [meaning])
    | succ depth =>
      rw [meaning] at meant
      obtain ⟨values, elements, _⟩ := bind_eq_ok_iff.mp meant
      obtain ⟨value, found⟩ := ok_of_mapM_ok elements _ member
      exact inductionHypothesis found
  | member member inner inductionHypothesis =>
    cases depth with
    | zero => exact absurd meant (by simp [meaning])
    | succ depth =>
      rw [meaning] at meant
      obtain ⟨values, members, _⟩ := bind_eq_ok_iff.mp meant
      obtain ⟨value, found⟩ := ok_of_mapM_ok members _ member
      obtain ⟨value, found, _⟩ := bind_eq_ok_iff.mp found
      exact inductionHypothesis found

/-- If there is none, a tree stands for a document unless it has too many containers inside
each other. -/
theorem meaning_fault {fault : ReadFault} : ∀ (depth : Nat) (tree : Tree), tree.Short →
    tree.meaning depth = .error fault → fault = .tooDeep
  | depth, .word value, _, failed => absurd failed (by simp [meaning])
  | depth, .string characters, _, failed => absurd failed (by simp [meaning])
  | depth, .number form, short, failed => by
    obtain ⟨value, number⟩ := (number_ok_iff form.literal).mpr (short _ (.here rfl))
    rw [meaning, number] at failed
    exact absurd failed (by simp [Except.map])
  | 0, .array _ _, _, failed => (Except.error.inj failed).symm
  | 0, .object _ _, _, failed => (Except.error.inj failed).symm
  | depth + 1, .array gap elements, short, failed => by
    rw [meaning] at failed
    rcases bind_eq_error_iff.mp failed with fails | ⟨_, _, impossible⟩
    · obtain ⟨element, isElement, fails⟩ := error_of_mapM_error fails
      have shorter : element.item.Short := fun literal has => short literal (.element isElement has)
      exact meaning_fault depth element.item shorter fails
    · exact absurd impossible (by simp [pure, Except.pure])
  | depth + 1, .object gap members, short, failed => by
    rw [meaning] at failed
    rcases bind_eq_error_iff.mp failed with fails | ⟨_, _, impossible⟩
    · obtain ⟨member, isMember, fails⟩ := error_of_mapM_error fails
      have shorter : member.item.item.Short := fun literal has =>
        short literal (.member isMember has)
      rcases bind_eq_error_iff.mp fails with fails | ⟨_, _, impossible⟩
      · exact meaning_fault depth member.item.item shorter fails
      · exact absurd impossible (by simp [pure, Except.pure])
    · exact absurd impossible (by simp [pure, Except.pure])

end Tree

/-- Whether a text is JSON with no integer literal of more than 4300 digits. -/
def IsShortJson (t : Text) : Prop := ∃ form : Padded Tree, form.text Tree.text = t ∧ form.item.Short

end TypeSketch.Grammar
