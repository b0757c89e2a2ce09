import Mathlib.Data.List.Basic
import TypeSketch.Declaration
import TypeSketch.Proofs.Fallible
import TypeSketch.Proofs.PropertyNameText
import TypeSketch.Text.Fields

/-!
# Reading the text of a declaration

A declaration is read line by line. The first line holds the name between fixed words, the
last one is fixed, and each line between them holds a property: behind the indent its name,
which is read as a key, then the mark of an optional property if the style has it, a colon
and a blank, and the text of the type up to the semicolon at the end of the line.

Keys are arbitrary. None of them can end a line or a property, since a name that is not
bare stands between quotes and its line feeds are escaped; so reading undoes writing for
whatever keys, provided that the name and the types stay on their lines.
-/

namespace TypeSketch

namespace Text

/-- The lines of a text. -/
def lines (t : Text) : List Text :=
  let (first, others) := fields (.scalar '\n') t
  first :: others

/-- Lines that are joined are the lines of the text. -/
theorem lines_join {first : Text} {others : List Text}
    (unbroken : ∀ line ∈ first :: others, CodePoint.scalar '\n' ∉ line) :
    lines (join "\n" (first :: others)) = first :: others := by
  induction others generalizing first with
  | nil =>
    rw [join_single, lines, fields_unbroken (unbroken first List.mem_cons_self)]
  | cons second rest inductionHypothesis =>
    have later := inductionHypothesis fun line member =>
      unbroken line (List.mem_cons_of_mem first member)
    have ended := fields_append (unbroken first List.mem_cons_self)
      (join "\n" (second :: rest))
    rw [join_cons_cons, lines]
    change (fields (.scalar '\n') (first ++ .scalar '\n' :: join "\n" (second :: rest))).1 ::
      (fields (.scalar '\n') (first ++ .scalar '\n' :: join "\n" (second :: rest))).2 = _
    rw [ended]
    exact congrArg (first :: ·) later

end Text

namespace Style

/-- What stands between the name of a property and its colon. -/
def optionalMark (style : Style) : Text :=
  Text.ofString (if style.useOptionalFields then "?" else "")

/-- The key and the text of the type that a line holds. -/
def readProperty? (style : Style) (line : Text) : Option (Text × Text) := do
  let named ← (Text.ofString "  ").isPrefixOf? line
  let (key, marked) ← PropertyName.read? named
  let unmarked ← style.optionalMark.isPrefixOf? marked
  let typed ← (Text.ofString ": ").isPrefixOf? unmarked
  let type ← (Text.ofString ";").isSuffixOf? typed
  return (key, type)

/-- The name that an opening line holds. -/
def readOpening? (style : Style) (line : Text) : Option Text :=
  if style.useInterfaces then do
    let named ← (Text.ofString "export interface ").isPrefixOf? line
    (Text.ofString " \x7b").isSuffixOf? named
  else do
    let named ← (Text.ofString "export type ").isPrefixOf? line
    (Text.ofString " = \x7b").isSuffixOf? named

/-- The name of a declaration with the keys of its properties and the texts of their types. -/
def readDeclaration? (style : Style) (block : Text) :
    Option (Text × List (Text × Text)) :=
  match block.lines with
  | [] => none
  | first :: others => do
    let name ← style.readOpening? first
    let body ← [style.closing].isSuffixOf? others
    let properties ← body.mapM style.readProperty?
    return (name, properties)

theorem isPrefixOf?_append {α : Type} [BEq α] [LawfulBEq α] (front rest : List α) :
    front.isPrefixOf? (front ++ rest) = some rest :=
  List.isPrefixOf?_eq_some_iff_append_eq.mpr rfl

theorem isSuffixOf?_append {α : Type} [BEq α] [LawfulBEq α] (front rest : List α) :
    rest.isSuffixOf? (front ++ rest) = some front :=
  List.isSuffixOf?_eq_some_iff_append_eq.mpr rfl

/-- The name of a property ends at the mark behind it or at the colon. -/
theorem read?_propertyName (style : Style) (key type : Text) :
    PropertyName.read? (PropertyName.ofKey key ++
      (style.optionalMark ++ (Text.ofString ": " ++ (type ++ Text.ofString ";")))) =
      some (key, style.optionalMark ++ (Text.ofString ": " ++ (type ++ Text.ofString ";"))) := by
  rw [optionalMark]
  split
  · exact PropertyName.read?_ofKey key (by decide) _
  · exact PropertyName.read?_ofKey key (by decide) _

/-- A property line is read as the key and the type it was made from. -/
theorem readProperty?_propertyLine (style : Style) (key type : Text) :
    style.readProperty? (style.propertyLine key type) = some (key, type) := by
  have line : style.propertyLine key type = Text.ofString "  " ++ (PropertyName.ofKey key ++
      (style.optionalMark ++ (Text.ofString ": " ++ (type ++ Text.ofString ";")))) := by
    simp only [propertyLine, optionalMark, List.append_assoc]
  simp only [readProperty?, line, isPrefixOf?_append, Option.bind_eq_bind, Option.bind_some,
    read?_propertyName, isSuffixOf?_append]
  rfl

theorem readOpening?_opening (style : Style) (name : Text) :
    style.readOpening? (style.opening name) = some name := by
  rw [readOpening?, opening]
  split
  · rw [List.append_assoc, isPrefixOf?_append]
    exact isSuffixOf?_append name _
  · rw [List.append_assoc, isPrefixOf?_append]
    exact isSuffixOf?_append name _

theorem opening_unbroken (style : Style) {name : Text} (unbroken : CodePoint.scalar '\n' ∉ name) :
    CodePoint.scalar '\n' ∉ style.opening name := by
  rw [opening]
  split
  · simp only [List.mem_append, not_or]
    exact ⟨⟨by decide, unbroken⟩, by decide⟩
  · simp only [List.mem_append, not_or]
    exact ⟨⟨by decide, unbroken⟩, by decide⟩

theorem propertyLine_unbroken (style : Style) (key : Text) {type : Text}
    (unbroken : CodePoint.scalar '\n' ∉ type) :
    CodePoint.scalar '\n' ∉ style.propertyLine key type := by
  have mark : CodePoint.scalar '\n' ∉
      Text.ofString (if style.useOptionalFields then "?" else "") := by split <;> decide
  simp only [propertyLine, List.mem_append, not_or]
  exact ⟨⟨⟨⟨⟨by decide, PropertyName.ofKey_unbroken key⟩, mark⟩, by decide⟩, unbroken⟩, by decide⟩

theorem closing_unbroken (style : Style) : CodePoint.scalar '\n' ∉ style.closing := by
  rw [closing]
  split <;> decide

/-- The lines that a declaration is written on. -/
def declarationLines (style : Style) (name : Text) (properties : List (Text × Text)) : List Text :=
  style.opening name ::
    (properties.map (fun (key, type) => style.propertyLine key type) ++ [style.closing])

/-- A declaration whose name and types stay on their lines has these lines. -/
theorem declaration_lines (style : Style) {name : Text} {properties : List (Text × Text)}
    (unbrokenName : CodePoint.scalar '\n' ∉ name)
    (unbrokenTypes : ∀ property ∈ properties, CodePoint.scalar '\n' ∉ property.2) :
    (style.declaration name properties).lines = style.declarationLines name properties := by
  refine Text.lines_join ?_
  intro line member
  rcases List.mem_cons.mp member with rfl | later
  · exact style.opening_unbroken unbrokenName
  · rcases List.mem_append.mp later with inside | last
    · obtain ⟨property, isProperty, rfl⟩ := List.mem_map.mp inside
      exact style.propertyLine_unbroken property.1 (unbrokenTypes property isProperty)
    · rw [List.mem_singleton.mp last]
      exact style.closing_unbroken

/-- Such a declaration is read as what it was made from, whatever its keys are. -/
theorem readDeclaration?_declaration (style : Style) {name : Text}
    {properties : List (Text × Text)} (unbrokenName : CodePoint.scalar '\n' ∉ name)
    (unbrokenTypes : ∀ property ∈ properties, CodePoint.scalar '\n' ∉ property.2) :
    style.readDeclaration? (style.declaration name properties) = some (name, properties) := by
  have each : (properties.map fun (key, type) => style.propertyLine key type).mapM
      style.readProperty? = some (properties.map id) :=
    mapM_map_eq_some fun (key, type) _ => style.readProperty?_propertyLine key type
  rw [List.map_id] at each
  simp only [readDeclaration?, declaration_lines style unbrokenName unbrokenTypes,
    declarationLines, readOpening?_opening, isSuffixOf?_append, each, Option.bind_eq_bind,
    Option.bind_some]
  rfl

end Style

end TypeSketch
