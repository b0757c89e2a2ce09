import TypeSketch.Proofs.Conversion
import TypeSketch.Proofs.PropertyNameText
import TypeSketch.Proofs.StoredText

/-!
# Lone surrogates in the output

A key may hold a surrogate without its partner, as a document can spell one by an escape. The
names of declarations drop it, since it stands in no identifier, and types have no other names
than these. A property name keeps it: between the quotes controls are spelled by their numbers,
but a surrogate stands for itself. The output therefore has a lone surrogate, and cannot be
stored, exactly when a key of a declared object has one.

Which keys are declared is told by the shape of the value, where each object that is visited
is a record.
-/

namespace TypeSketch

variable {ρ : Type}

/-- Two tests that agree on the elements of a list agree on whether one of them passes. -/
theorem any_congr_mem {α : Type} {list : List α} {test other : α → Bool}
    (same : ∀ a ∈ list, test a = other a) : list.any test = list.any other := by
  rw [Bool.eq_iff_iff, List.any_eq_true, List.any_eq_true]
  refine exists_congr fun a => and_congr_right fun member => ?_
  rw [same a member]

/-- Surrogates have a range of numbers to themselves. -/
theorem CodePoint.surrogate_range {c : CodePoint} (lone : c.isSurrogate = true) :
    0xD800 ≤ c.toNat ∧ c.toNat < 0xE000 := by
  cases c with
  | scalar => exact absurd lone Bool.false_ne_true
  | surrogate offset =>
    rw [toNat]
    omega

namespace Text

theorem hasSurrogate_append (t u : Text) :
    (t ++ u).hasSurrogate = (t.hasSurrogate || u.hasSurrogate) := List.any_append

/-- A separator without surrogates brings none in. -/
theorem hasSurrogate_join {separator : Text} (plain : separator.hasSurrogate = false)
    (parts : List Text) : (join separator parts).hasSurrogate = parts.any hasSurrogate := by
  cases parts with
  | nil => rfl
  | cons first rest =>
    rw [join_cons, hasSurrogate_append, List.any_cons]
    congr 1
    induction rest with
    | nil => rfl
    | cons second others inductionHypothesis =>
      rw [List.flatMap_cons, hasSurrogate_append, hasSurrogate_append, plain,
        inductionHypothesis, List.any_cons, Bool.false_or]

/-- No blank is a surrogate. -/
theorem isSurrogate_of_isBlank {c : CodePoint} (blank : c.isBlank = true) :
    c.isSurrogate = false := by
  rw [Bool.eq_false_iff]
  intro lone
  have range := CodePoint.surrogate_range lone
  simp only [CodePoint.isBlank, CodePoint.inRanges, blankRanges, List.any_cons, List.any_nil,
    Bool.or_eq_true, Bool.and_eq_true, decide_eq_true_eq, Bool.or_false] at blank
  omega

/-- None is stripped. -/
theorem hasSurrogate_strip (t : Text) : t.strip.hasSurrogate = t.hasSurrogate := by
  have dropped (t : Text) : hasSurrogate (t.dropWhile CodePoint.isBlank) = t.hasSurrogate := by
    induction t with
    | nil => rfl
    | cons c rest inductionHypothesis =>
      by_cases blank : c.isBlank = true
      · rw [List.dropWhile_cons_of_pos blank, inductionHypothesis, hasSurrogate, hasSurrogate,
          List.any_cons, isSurrogate_of_isBlank blank, Bool.false_or]
      · rw [List.dropWhile_cons_of_neg blank]
  have reversed (t : Text) : hasSurrogate t.reverse = t.hasSurrogate := List.any_reverse
  rw [strip, reversed, dropped, reversed, dropped]

theorem hasSurrogate_hexadecimal (width n : Nat) : (hexadecimal width n).hasSurrogate = false := by
  simp [hexadecimal, hasSurrogate, CodePoint.isSurrogate]

end Text

namespace PropertyName

/-- Nothing is escaped into a surrogate, and no surrogate is escaped. -/
theorem escaped_hasSurrogate (c : CodePoint) : (escaped c).hasSurrogate = c.isSurrogate := by
  rcases escaped_cases c with ⟨_, _, rfl, spelled⟩ | ⟨control, spelled⟩ | ⟨_, _, _, spelled⟩
  · rw [spelled]
    rfl
  · have noSurrogate : c.isSurrogate = false := by
      rw [Bool.eq_false_iff]
      intro lone
      have range := CodePoint.surrogate_range lone
      simp only [isControl, Bool.or_eq_true, Bool.and_eq_true, decide_eq_true_eq,
        beq_iff_eq] at control
      omega
    rw [spelled, Text.hasSurrogate_append, Text.hasSurrogate_hexadecimal, noSurrogate]
    rfl
  · rw [spelled]
    exact Bool.or_false _

/-- A property name has the lone surrogates of its key. -/
theorem ofKey_hasSurrogate (key : Text) : (ofKey key).hasSurrogate = key.hasSurrogate := by
  have spelled : Text.hasSurrogate (key.flatMap escaped) = key.hasSurrogate := by
    rw [Text.hasSurrogate, List.any_flatMap]
    exact congrArg key.any (funext escaped_hasSurrogate)
  rw [ofKey]
  split
  · rfl
  · rw [Text.hasSurrogate_append, Text.hasSurrogate_append, spelled, Text.hasSurrogate_ofString,
      Bool.false_or, Bool.or_false]

end PropertyName

/-- An identifier has none. -/
theorem TypeName.proper_hasSurrogate {name : Text} (proper : isProper name = true) :
    name.hasSurrogate = false := by
  have parts := List.all_eq_true.mp (proper_parts proper)
  rw [Text.hasSurrogate, List.any_eq_false]
  intro c member
  have part := parts c member
  cases c with
  | scalar => exact Bool.false_ne_true
  | surrogate offset => exact absurd part Bool.false_ne_true

/-- A type has none when the names in it have none. -/
theorem TypeExpr.text_hasSurrogate {type : TypeExpr}
    (names : ∀ used ∈ type.references, used.hasSurrogate = false) :
    type.text.hasSurrogate = false := by
  have primitives (type : Primitive) : type.text.hasSurrogate = false := by
    cases type <;> decide
  induction type with
  | primitive type => exact primitives type
  | named name => exact names name List.mem_cons_self
  | array element inductionHypothesis =>
    rw [text, Text.hasSurrogate_append, inductionHypothesis names]
    rfl
  | union members =>
    have inside : (Text.join " | " (members.map Primitive.text)).hasSurrogate = false := by
      rw [Text.hasSurrogate_join (by decide), List.any_map, List.any_eq_false]
      intro member _
      rw [Function.comp_apply, primitives member]
      exact Bool.false_ne_true
    rw [text, Text.hasSurrogate_append, Text.hasSurrogate_append, inside]
    rfl

namespace Declaration

/-- The keys of the object. -/
def keys (declaration : Declaration) : List Text := declaration.properties.map Prod.fst

/-- A declaration has the lone surrogates of its keys, when the names in it have none. -/
theorem text_hasSurrogate {declaration : Declaration}
    (named : declaration.name.hasSurrogate = false)
    (names : ∀ used ∈ declaration.references, used.hasSurrogate = false) (style : Style) :
    (declaration.text style).hasSurrogate = declaration.keys.any Text.hasSurrogate := by
  have opening : (style.opening declaration.name).hasSurrogate = false := by
    rw [Style.opening]
    split <;>
      rw [Text.hasSurrogate_append, Text.hasSurrogate_append, named, Text.hasSurrogate_ofString,
        Text.hasSurrogate_ofString, Bool.or_false, Bool.or_false]
  have closing : style.closing.hasSurrogate = false := by
    rw [Style.closing]
    split <;> rfl
  have line : ∀ property ∈ declaration.properties,
      (style.propertyLine property.1 property.2.text).hasSurrogate = property.1.hasSurrogate := by
    rintro ⟨key, type⟩ member
    have typed : type.text.hasSurrogate = false := by
      apply TypeExpr.text_hasSurrogate
      intro used isUsed
      exact names used (List.mem_flatMap.mpr ⟨(key, type), member, isUsed⟩)
    simp only [Style.propertyLine, Text.hasSurrogate_append, PropertyName.ofKey_hasSurrogate, typed,
      Text.hasSurrogate_ofString, Bool.false_or, Bool.or_false]
  have written : declaration.text style = Text.join "\n" ([style.opening declaration.name] ++
      declaration.properties.map (fun property =>
        style.propertyLine property.1 property.2.text) ++ [style.closing]) := by
    rw [text, Style.declaration, List.map_map]
    rfl
  have inside : (declaration.properties.map fun property =>
      style.propertyLine property.1 property.2.text).any Text.hasSurrogate =
        declaration.keys.any Text.hasSurrogate := by
    rw [keys, List.any_map, List.any_map]
    exact any_congr_mem line
  rw [written, Text.hasSurrogate_join (by decide), List.any_append, List.any_append, inside,
    List.any_cons, List.any_cons, opening, closing]
  simp

end Declaration

namespace Shape

mutual

/-- The keys of the records in a shape. -/
def keys : Shape → List Text
  | .primitive _ => []
  | .record fields => fieldKeys fields
  | .array element => element.keys
  | .union members => memberKeys members

def fieldKeys : List (Text × Shape) → List Text
  | [] => []
  | (key, shape) :: rest => key :: (shape.keys ++ fieldKeys rest)

def memberKeys : List Shape → List Text
  | [] => []
  | shape :: rest => shape.keys ++ memberKeys rest

end

/-- Primitives have no keys. -/
theorem memberKeys_primitives (members : List Primitive) :
    memberKeys (members.map .primitive) = [] := by
  induction members with
  | nil => rfl
  | cons first rest inductionHypothesis => exact inductionHypothesis

end Shape

namespace Outline

mutual

/-- Every key of an object is written in its declaration, so the declarations have the keys of
the shape, though in another order. -/
theorem declarations_keys (outline : Outline) :
    (outline.declarations.flatMap Declaration.keys).Perm outline.shape.keys := by
  match outline with
  | .primitive _ => exact List.Perm.refl _
  | .union members => rw [shape, Shape.keys, Shape.memberKeys_primitives]; exact List.Perm.refl _
  | .array element => exact declarations_keys element
  | .record name fields =>
    rw [declarations, shape, Shape.keys, List.flatMap_append, List.flatMap_singleton]
    exact fieldDeclarations_keys fields

theorem fieldDeclarations_keys (fields : List (Text × Outline)) :
    ((fieldDeclarations fields).flatMap Declaration.keys ++ (properties fields).map Prod.fst).Perm
      (Shape.fieldKeys (fieldShapes fields)) := by
  match fields with
  | [] => exact List.Perm.refl _
  | (key, outline) :: rest =>
    have own := declarations_keys outline
    have others := fieldDeclarations_keys rest
    rw [fieldDeclarations, fieldShapes, Shape.fieldKeys, List.flatMap_append, List.append_assoc]
    calc _
      _ = outline.declarations.flatMap Declaration.keys ++
          ((fieldDeclarations rest).flatMap Declaration.keys ++
            key :: (properties rest).map Prod.fst) := rfl
      _ |>.Perm (key :: (outline.declarations.flatMap Declaration.keys ++
          ((fieldDeclarations rest).flatMap Declaration.keys ++
            (properties rest).map Prod.fst))) :=
        (List.perm_middle.append_left _).trans List.perm_middle
      _ |>.Perm _ := (own.append others).cons key

end

end Outline

namespace Generator

/-- Of the declarations of a value those texts have a lone surrogate that write a key with one, and
all keys of its records are written. -/
theorem declarations_hasSurrogate {style : Style} {value : Json ρ} {registry : Registry Entry}
    (returned : declarations style value = .ok registry) :
    registry.text.hasSurrogate = value.shape.keys.any Text.hasSurrogate := by
  let outline := ((value.visited TypeName.root).reserve (.empty : Registry Entry)).1
  have inserted : registry.inserted = outline.declarations.map (Declaration.entry style) :=
    declarations_inserted returned
  have shape : outline.shape = value.shape :=
    (Outline.reserve_shape _ _).trans (Json.outline_shape _ value)
  have each : ∀ declaration ∈ outline.declarations,
      (declaration.text style).hasSurrogate = declaration.keys.any Text.hasSurrogate := by
    intro declaration declared
    obtain ⟨named, names⟩ := declared_proper returned declared
    apply Declaration.text_hasSurrogate
    · exact TypeName.proper_hasSurrogate named
    · exact fun used isUsed => TypeName.proper_hasSurrogate (names used isUsed)
  rw [Registry.text, Text.hasSurrogate_strip, Text.hasSurrogate_join (by decide), inserted,
    ← shape, ← outline.declarations_keys.any_eq, List.any_flatMap, List.map_map, List.any_map]
  exact any_congr_mem each

end Generator

/-- The output has a lone surrogate, and cannot be stored, exactly when a key of a declared object
has one. -/
theorem output_storable_iff (style : Style) (text output : Text)
    (returned : convert style text = .ok output) :
    ∃ document, Document.ofText text = .ok document ∧
      (output.hasSurrogate = true ↔ ∃ key ∈ document.shape.keys, key.hasSurrogate = true) ∧
      ((∃ bytes, Utf8.encode (output ++ "\n") = .ok bytes) ↔
        ∀ key ∈ document.shape.keys, key.hasSurrogate = false) := by
  obtain ⟨document, registry, read, walked, rfl⟩ := convert_iff.mp returned
  have lone := Generator.declarations_hasSurrogate walked
  refine ⟨document, read, ?_, ?_⟩
  · rw [lone, List.any_eq_true]
  · rw [Utf8.encode_ok_iff, Text.hasSurrogate_append, lone, Text.hasSurrogate_ofString,
      Bool.or_false, List.any_eq_false]
    simp

/-- A document with a lone surrogate in a key of a declared object, and another one in a key of an
object in a mixed array, which is not declared. -/
def loneKeysText : Text :=
  "\x7b\"a\": [\x7b\"\\udfff\": null\x7d], \"b\": [\x7b\"\\ud800\": 1\x7d, 2]\x7d"

/-- The keys of the two objects that are declared. -/
def declaredKeys : List Text := [Text.ofString "a", [.ofNat 0xDFFF], Text.ofString "b"]

theorem lone_keys_declared : ∃ output document, convert ⟨true, true⟩ loneKeysText = .ok output ∧
    Document.ofText loneKeysText = .ok document ∧ document.shape.keys = declaredKeys ∧
    ¬∃ bytes, Utf8.encode (output ++ "\n") = .ok bytes := by
  have found : (convert ⟨true, true⟩ loneKeysText).toOption.isSome = true := by decide +kernel
  have declared : (Document.ofText loneKeysText).toOption.map (Shape.keys ∘ Json.shape) =
      some declaredKeys := by decide +kernel
  obtain ⟨output, converted⟩ := Option.isSome_iff_exists.mp found
  have returned := toOption_eq_some_iff.mp converted
  obtain ⟨document, read, _, stored⟩ :=
    output_storable_iff ⟨true, true⟩ loneKeysText output returned
  rw [read] at declared
  have keys : document.shape.keys = declaredKeys := Option.some.inj declared
  refine ⟨output, document, returned, read, keys, ?_⟩
  rw [stored, keys]
  decide

/-- An object with a single key, which is a lone surrogate. -/
def loneKeyText : Text := "\x7b\"\\ud800\": 1\x7d"

/-- Between the quotes stands the surrogate itself. -/
def loneKeyOutput : Text :=
  Text.ofString "export interface Root \x7b\n  '" ++
    .ofNat 0xD800 :: Text.ofString "': number;\n\x7d"

theorem lone_key_unstorable : convert ⟨true, false⟩ loneKeyText = .ok loneKeyOutput ∧
    loneKeyOutput.hasSurrogate = true ∧
    Utf8.encode (loneKeyOutput ++ "\n") = .error ⟨27, 1, .ofNat 0xD800⟩ := by
  have converted : (convert ⟨true, false⟩ loneKeyText).toOption = some loneKeyOutput := by
    decide +kernel
  exact ⟨toOption_eq_some_iff.mp converted, by decide, by decide⟩

end TypeSketch
