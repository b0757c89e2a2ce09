import TypeSketch.Proofs.Lockstep
import TypeSketch.Proofs.OutputText

/-!
# What a style decides

A style is about the surface of the output. Walks in two styles mirror each other, so they fail
alike, and when they return they have inserted the same declarations under the same names. What is
different is how these are written: the first and the last line of a declaration, and the mark
behind the name of a property.

The differences can be made in the output itself, without a look at what was converted. An output
is cut into its declarations and these into their lines. The name of a property is read as any
reader of the output would, so marks, braces and words that stand in a key are part of the name and
stay as they are.
-/

namespace TypeSketch

namespace Style

/-- An opening line for another style. Where both styles have the same form of declarations, it
stays as it is; otherwise the words around the name are exchanged. -/
def exchangeOpening? (left right : Style) (line : Text) : Option Text :=
  if left.useInterfaces = right.useInterfaces then some line
  else (left.readOpening? line).map right.opening

/-- A property line for another style. Where both styles mark properties alike, it stays as it is;
otherwise all stays up to the end of the property name, and all behind the mark that may follow. -/
def exchangeMark? (left right : Style) (line : Text) : Option Text :=
  if left.useOptionalFields = right.useOptionalFields then some line
  else do
    let named ← (Text.ofString "  ").isPrefixOf? line
    let (_, marked) ← PropertyName.read? named
    let rest ← left.optionalMark.isPrefixOf? marked
    return line.take (line.length - marked.length) ++ right.optionalMark ++ rest

/-- The text of a declaration for another style. -/
def exchange? (left right : Style) (block : Text) : Option Text :=
  match block.lines with
  | [] => none
  | first :: others => do
    let opening ← left.exchangeOpening? right first
    let body ← [left.closing].isSuffixOf? others
    let properties ← body.mapM (left.exchangeMark? right)
    return Text.join "\n" (opening :: (properties ++ [right.closing]))

/-- An output for another style: each of its declarations is exchanged by itself. -/
def resurface? (left right : Style) (output : Text) : Option Text :=
  if output = [] then some []
  else (output.blocks.mapM (left.exchange? right)).map (Text.join "\n\n")

variable (left right : Style)

theorem exchangeOpening?_opening (name : Text) :
    left.exchangeOpening? right (left.opening name) = some (right.opening name) := by
  rw [exchangeOpening?]
  split
  · next same => rw [opening, opening, same]
  · rw [readOpening?_opening]
    rfl

/-- The name of a property ends where its key has been read, whatever stands in the key. -/
theorem exchangeMark?_propertyLine (key type : Text) :
    left.exchangeMark? right (left.propertyLine key type) =
      some (right.propertyLine key type) := by
  have line (style : Style) : style.propertyLine key type =
      (Text.ofString "  " ++ PropertyName.ofKey key) ++
        (style.optionalMark ++ (Text.ofString ": " ++ (type ++ Text.ofString ";"))) := by
    simp only [propertyLine, optionalMark, List.append_assoc]
  rw [exchangeMark?, line left, line right]
  split
  · next same => rw [optionalMark, optionalMark, same]
  · have indented : (Text.ofString "  ").isPrefixOf? (Text.ofString "  " ++
        PropertyName.ofKey key ++
          (left.optionalMark ++ (Text.ofString ": " ++ (type ++ Text.ofString ";")))) =
        some (PropertyName.ofKey key ++
          (left.optionalMark ++ (Text.ofString ": " ++ (type ++ Text.ofString ";")))) := by
      rw [List.append_assoc, isPrefixOf?_append]
    have front (kept rest : Text) :
        (kept ++ rest).take ((kept ++ rest).length - rest.length) = kept := by
      rw [List.length_append, Nat.add_sub_cancel, List.take_left]
    simp only [indented, Option.bind_eq_bind, Option.bind_some, read?_propertyName,
      isPrefixOf?_append, front]
    exact congrArg some (List.append_assoc _ _ _)

/-- A declaration is exchanged for the same one in the other style. -/
theorem exchange?_declaration {name : Text} {properties : List (Text × Text)}
    (unbrokenName : CodePoint.scalar '\n' ∉ name)
    (unbrokenTypes : ∀ property ∈ properties, CodePoint.scalar '\n' ∉ property.2) :
    left.exchange? right (left.declaration name properties) =
      some (right.declaration name properties) := by
  have each : (properties.map fun (key, type) => left.propertyLine key type).mapM
      (left.exchangeMark? right) =
        some (properties.map fun (key, type) => right.propertyLine key type) :=
    mapM_map_eq_some fun (key, type) _ => left.exchangeMark?_propertyLine right key type
  simp only [exchange?, declaration_lines left unbrokenName unbrokenTypes, declarationLines,
    exchangeOpening?_opening, isSuffixOf?_append, each, Option.bind_eq_bind, Option.bind_some]
  rfl

end Style

/-- The same content as it is written in a style; a text given from outside is as it is. -/
def Entry.restyle (style : Style) : Entry → Entry
  | .verbatim text => .verbatim text
  | .declared _ declaration => .declared style declaration

namespace Registry

variable {left right : Style} {registry another : Registry Entry} {declarations : List Declaration}

theorem restyle_inserted (right : Style)
    (inserted : registry.inserted = declarations.map (Declaration.entry left)) :
    (registry.map (Entry.restyle right)).inserted =
      declarations.map (Declaration.entry right) := by
  rw [map, inserted, List.map_map]
  rfl

/-- The texts of two registries that hold the same declarations in two styles are exchanged for
each other. -/
theorem text_resurfaced
    (inserted : registry.inserted = declarations.map (Declaration.entry left))
    (insertedOther : another.inserted = declarations.map (Declaration.entry right))
    (linear : ∀ declaration ∈ declarations, declaration.Linear) :
    left.resurface? right registry.text = some another.text := by
  by_cases empty : declarations = []
  · rw [(text_eq_nil_iff inserted linear).mpr empty,
      (text_eq_nil_iff insertedOther linear).mpr empty]
    rfl
  · obtain ⟨_, blocks, _⟩ := text_read_back inserted linear empty
    obtain ⟨whole, _, _⟩ := text_read_back insertedOther linear empty
    have each : (declarations.map (Declaration.text left)).mapM (left.exchange? right) =
        some (declarations.map (Declaration.text right)) :=
      mapM_map_eq_some fun declaration member => left.exchange?_declaration right
        (linear declaration member).name (linear declaration member).types
    rw [Style.resurface?, if_neg (mt (text_eq_nil_iff inserted linear).mp empty), blocks,
      texts_of_declared inserted, each, whole, texts_of_declared insertedOther]
    rfl

end Registry

namespace Generator

variable {ρ : Type}

/-- In another style a walk fails at the same place, or inserts the same declarations. -/
theorem declarations_restyled (left right : Style) (value : Json ρ) :
    declarations right value =
      (declarations left value).map (Registry.map (Entry.restyle right)) := by
  have redeclared (declaration : Declaration) :
      Entry.restyle right (.declared left declaration) = .declared right declaration := rfl
  have mirrored := declarations_mirror redeclared (Alike.refl value)
  rwa [WalkFault.map_id, mapError_id] at mirrored

/-- What fails in one style fails in every style, and for the same reason. -/
theorem convert_fails_alike (right : Style) {left : Style} {text : Text} {fault : ConvertFault}
    (failed : convert left text = .error fault) : convert right text = .error fault := by
  rcases bind_eq_error_iff.mp failed with unread | ⟨document, read, further⟩
  · exact bind_eq_error_iff.mpr (.inl unread)
  · refine bind_eq_error_iff.mpr (.inr ⟨document, read, ?_⟩)
    rcases bind_eq_error_iff.mp further with stopped | ⟨_, _, impossible⟩
    · obtain ⟨own, walked, rfl⟩ := mapError_eq_error_iff.mp stopped
      refine bind_eq_error_iff.mpr (.inl (mapError_eq_error_iff.mpr ⟨own, ?_, rfl⟩))
      rw [declarations_restyled left right, walked]
      rfl
    · exact nomatch impossible

/-- A style changes only the surface. For every text, conversions in two styles fail alike or
both return. The outputs are empty together; otherwise the same declarations are read from them in
the same order, with the same names, keys and types. The second output comes from the first one by
exchanging the first and last lines of its declarations and the marks behind the names of
properties, each only where the styles differ in this; so no more than this depends on the
style. -/
theorem style_changes_surface (left right : Style) (text : Text) :
    (∀ fault, convert left text = .error fault ↔ convert right text = .error fault) ∧
    ∀ output, convert left text = .ok output →
      ∃ other, convert right text = .ok other ∧ (output = [] ↔ other = []) ∧
        (output ≠ [] → ∃ listing, output.blocks.mapM left.readDeclaration? = some listing ∧
          other.blocks.mapM right.readDeclaration? = some listing) ∧
        left.resurface? right output = some other := by
  refine ⟨fun fault => ⟨convert_fails_alike right, convert_fails_alike left⟩, ?_⟩
  intro output returned
  obtain ⟨document, registry, read, walked, rfl⟩ := convert_iff.mp returned
  obtain ⟨listed, inserted, linear⟩ := declarations_linear walked
  have walkedOther : declarations right document =
      .ok (registry.map (Entry.restyle right)) := by
    rw [declarations_restyled left right, walked]
    rfl
  have insertedOther := Registry.restyle_inserted right inserted
  have nothing := Registry.text_eq_nil_iff inserted linear
  have nothingOther := Registry.text_eq_nil_iff insertedOther linear
  refine ⟨_, convert_iff.mpr ⟨document, _, read, walkedOther, rfl⟩,
    nothing.trans nothingOther.symm, ?_, Registry.text_resurfaced inserted insertedOther linear⟩
  intro filled
  have some : listed ≠ [] := mt nothing.mpr filled
  obtain ⟨_, _, found⟩ := Registry.text_read_back inserted linear some
  obtain ⟨_, _, foundOther⟩ := Registry.text_read_back insertedOther linear some
  rw [Registry.listing_of_declared inserted] at found
  rw [Registry.listing_of_declared insertedOther] at foundOther
  exact ⟨_, found, foundOther⟩

/-- Keys that look like what the style decides. -/
def curiousText : Text :=
  "\x7b\"a?: b;\\n\x7d\": \x7b\"export type N = \x7b\": true\x7d, \"c\": 1\x7d"

/-- The output of interfaces without marks. -/
def curiousInterfaces : Text :=
  "export interface AB \x7b\n  'export type N = \x7b': boolean;\n\x7d\n\n" ++
    "export interface Root \x7b\n  'a?: b;\\n\x7d': AB;\n  c: number;\n\x7d"

/-- The output of type aliases with marks. -/
def curiousAliases : Text :=
  "export type AB = \x7b\n  'export type N = \x7b'?: boolean;\n\x7d;\n\n" ++
    "export type Root = \x7b\n  'a?: b;\\n\x7d'?: AB;\n  c?: number;\n\x7d;"

theorem curious_text_resurfaced :
    convert ⟨true, false⟩ curiousText = .ok curiousInterfaces ∧
      convert ⟨false, true⟩ curiousText = .ok curiousAliases ∧
      Style.resurface? ⟨true, false⟩ ⟨false, true⟩ curiousInterfaces = some curiousAliases := by
  have interfaces : (convert ⟨true, false⟩ curiousText).toOption = some curiousInterfaces := by
    decide +kernel
  have aliases : (convert ⟨false, true⟩ curiousText).toOption = some curiousAliases := by
    decide +kernel
  rw [toOption_eq_some_iff] at interfaces aliases
  obtain ⟨other, returned, _, _, resurfaced⟩ :=
    (style_changes_surface ⟨true, false⟩ ⟨false, true⟩ curiousText).2 curiousInterfaces interfaces
  obtain rfl : other = curiousAliases := Except.ok.inj (returned.symm.trans aliases)
  exact ⟨interfaces, returned, resurfaced⟩

end Generator

end TypeSketch
