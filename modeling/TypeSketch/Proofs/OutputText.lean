import TypeSketch.Proofs.Conversion
import TypeSketch.Proofs.DeclarationText
import TypeSketch.Proofs.Expansion

/-!
# Reading the output

The output of a conversion is cut at its blank lines, and each block between them is read as
a declaration. No declaration has a blank line in it, and none begins or ends with a blank
code point, so the cuts are where the declarations were put together and nothing is
stripped from the ends. Hence the blocks are the texts in the registry, in their order, and what is
read from them are the names of the declarations with the keys and types of their
properties. Two values that give the same output in one style have the same declarations.
-/

namespace TypeSketch

namespace Text

/-- The block before the first blank line, and those behind each blank line. -/
def cutAtBlankLines : Text → Text × List Text
  | [] => ([], [])
  | .scalar '\n' :: .scalar '\n' :: rest =>
    let (block, later) := cutAtBlankLines rest
    ([], block :: later)
  | c :: rest =>
    let (block, later) := cutAtBlankLines rest
    (c :: block, later)

/-- What a text is divided into by its blank lines. -/
def blocks (t : Text) : List Text :=
  let (block, later) := cutAtBlankLines t
  block :: later

/-- A code point that no line feed precedes, or no line feed follows, stays in its block. -/
theorem cutAtBlankLines_cons {c : CodePoint} {rest : Text}
    (joined : c ≠ .scalar '\n' ∨ rest.head? ≠ some (.scalar '\n')) :
    cutAtBlankLines (c :: rest) = (c :: (cutAtBlankLines rest).1, (cutAtBlankLines rest).2) := by
  rw [cutAtBlankLines]
  intro later first second
  subst first second
  simp at joined

/-- A line stays in one block. -/
theorem cutAtBlankLines_line {line : Text} (unbroken : CodePoint.scalar '\n' ∉ line)
    (rest : Text) :
    cutAtBlankLines (line ++ rest) =
      (line ++ (cutAtBlankLines rest).1, (cutAtBlankLines rest).2) := by
  induction line with
  | nil => rfl
  | cons c others inductionHypothesis =>
    rw [List.mem_cons, not_or] at unbroken
    rw [List.cons_append, cutAtBlankLines_cons (.inl (Ne.symm unbroken.1)),
      inductionHypothesis unbroken.2]
    rfl

/-- So do lines behind single line feeds, unless one of them is empty. -/
theorem cutAtBlankLines_lines {lines : List Text}
    (unbroken : ∀ line ∈ lines, CodePoint.scalar '\n' ∉ line) (filled : ∀ line ∈ lines, line ≠ [])
    (rest : Text) :
    cutAtBlankLines (lines.flatMap (.scalar '\n' :: ·) ++ rest) =
      (lines.flatMap (.scalar '\n' :: ·) ++ (cutAtBlankLines rest).1,
        (cutAtBlankLines rest).2) := by
  induction lines with
  | nil => rfl
  | cons line later inductionHypothesis =>
    have inner := inductionHypothesis
      (fun other member => unbroken other (List.mem_cons_of_mem line member))
      (fun other member => filled other (List.mem_cons_of_mem line member))
    have own := unbroken line List.mem_cons_self
    have noBreak : (line ++ (later.flatMap (.scalar '\n' :: ·) ++ rest)).head? ≠
        some (.scalar '\n') := by
      obtain ⟨c, others, rfl⟩ := List.exists_cons_of_ne_nil (filled line List.mem_cons_self)
      intro same
      exact own (Option.some.inj same ▸ List.mem_cons_self)
    rw [List.flatMap_cons, List.append_assoc, List.cons_append,
      cutAtBlankLines_cons (.inr noBreak), cutAtBlankLines_line own, inner]
    simp only [List.cons_append, List.append_assoc]

/-- Joined texts hold what is in them and in the separator. -/
theorem mem_join {separator : Text} {parts : List Text} {c : CodePoint}
    (member : c ∈ join separator parts) : c ∈ separator ∨ ∃ part ∈ parts, c ∈ part := by
  cases parts with
  | nil => exact absurd member List.not_mem_nil
  | cons first rest =>
    rw [join_cons] at member
    rcases List.mem_append.mp member with inFirst | later
    · exact .inr ⟨first, List.mem_cons_self, inFirst⟩
    · obtain ⟨part, isPart, inside⟩ := List.mem_flatMap.mp later
      rcases List.mem_append.mp inside with inSeparator | inPart
      · exact .inl inSeparator
      · exact .inr ⟨part, List.mem_cons_of_mem first isPart, inPart⟩

/-- A text with no empty line behind its first one stays in one block. -/
theorem cutAtBlankLines_block {block : Text} (filled : ∀ line ∈ block.lines.tail, line ≠ [])
    (rest : Text) :
    cutAtBlankLines (block ++ rest) =
      (block ++ (cutAtBlankLines rest).1, (cutAtBlankLines rest).2) := by
  have whole := fields_join (.scalar '\n') block
  have unbroken := fields_parts (.scalar '\n') block
  rw [List.forall_mem_cons] at unbroken
  conv_lhs => rw [← whole]
  rw [List.append_assoc, cutAtBlankLines_line unbroken.1,
    cutAtBlankLines_lines unbroken.2 filled, ← List.append_assoc, whole]

/-- Such texts with blank lines between them are the blocks of what they make. -/
theorem blocks_join {first : Text} {others : List Text}
    (filled : ∀ block ∈ first :: others, ∀ line ∈ block.lines.tail, line ≠ []) :
    blocks (join "\n\n" (first :: others)) = first :: others := by
  induction others generalizing first with
  | nil =>
    have single := cutAtBlankLines_block (filled first List.mem_cons_self) []
    rw [List.append_nil] at single
    rw [join_single, blocks, single]
    exact congrArg (· :: []) (List.append_nil first)
  | cons second rest inductionHypothesis =>
    have later := inductionHypothesis fun block member =>
      filled block (List.mem_cons_of_mem first member)
    rw [join_cons_cons, blocks, cutAtBlankLines_block (filled first List.mem_cons_self)]
    have cut : cutAtBlankLines ("\n\n" ++ join "\n\n" (second :: rest)) =
        ([], second :: rest) := congrArg (([] : Text), ·) later
    rw [cut]
    exact congrArg (· :: second :: rest) (List.append_nil first)

/-- A text is its own stripped text when it has no blank at its ends. -/
theorem strip_eq_self {t : Text} {first last : CodePoint} (begins : t.head? = some first)
    (noBlank : first.isBlank = false) (ends : t.getLast? = some last)
    (noBlankLast : last.isBlank = false) : strip t = t := by
  have front : t.dropWhile CodePoint.isBlank = t := by
    obtain ⟨rest, rfl⟩ := List.head?_eq_some_iff.mp begins
    exact List.dropWhile_cons_of_neg (Bool.eq_false_iff.mp noBlank)
  have back : t.reverse.dropWhile CodePoint.isBlank = t.reverse := by
    obtain ⟨rest, rfl⟩ := List.getLast?_eq_some_iff.mp ends
    rw [List.reverse_append, List.reverse_singleton, List.singleton_append]
    exact List.dropWhile_cons_of_neg (Bool.eq_false_iff.mp noBlankLast)
  rw [strip, front, back, List.reverse_reverse]

/-- Joined texts end as the last one does. -/
theorem join_getLast? {separator : Text} {parts : List Text} {P : CodePoint → Prop}
    (filled : parts ≠ [])
    (ends : ∀ part ∈ parts, ∃ last, part.getLast? = some last ∧ P last) :
    ∃ last, (join separator parts).getLast? = some last ∧ P last := by
  induction parts with
  | nil => exact absurd rfl filled
  | cons first rest inductionHypothesis =>
    cases rest with
    | nil =>
      rw [join_single]
      exact ends first List.mem_cons_self
    | cons second others =>
      obtain ⟨last, found, holds⟩ := inductionHypothesis (List.cons_ne_nil _ _)
        fun part member => ends part (List.mem_cons_of_mem first member)
      refine ⟨last, ?_, holds⟩
      rw [join_cons_cons, List.getLast?_append, List.getLast?_append, found]
      rfl

end Text

/-- The text of a type stays on one line when the names in it do. -/
theorem TypeExpr.text_unbroken {type : TypeExpr}
    (names : ∀ used ∈ type.references, CodePoint.scalar '\n' ∉ used) :
    CodePoint.scalar '\n' ∉ type.text := by
  have primitives (type : Primitive) : CodePoint.scalar '\n' ∉ type.text := by
    cases type <;> decide
  induction type with
  | primitive type => exact primitives type
  | named name => exact names name List.mem_cons_self
  | array element inductionHypothesis =>
    rw [text, List.mem_append, not_or]
    exact ⟨inductionHypothesis names, by decide⟩
  | union members =>
    intro broken
    rcases List.mem_append.mp broken with inner | bracket
    · rcases List.mem_append.mp inner with bracket | inside
      · exact absurd bracket (by decide)
      · rcases Text.mem_join inside with inSeparator | ⟨part, isMember, inPart⟩
        · exact absurd inSeparator (by decide)
        · obtain ⟨type, _, rfl⟩ := List.mem_map.mp isMember
          exact primitives type inPart
    · exact absurd bracket (by decide)

namespace Style

variable (style : Style)

/-- No line of a declaration is empty or ends in a blank. -/
theorem declarationLines_end (name : Text) (properties : List (Text × Text)) :
    ∀ line ∈ style.declarationLines name properties,
      ∃ last, line.getLast? = some last ∧ last.isBlank = false := by
  intro line member
  rcases List.mem_cons.mp member with rfl | later
  · refine ⟨.scalar '\x7b', ?_, by decide⟩
    rw [opening]
    split <;> exact List.getLast?_append.trans rfl
  · rcases List.mem_append.mp later with inside | last
    · obtain ⟨property, _, rfl⟩ := List.mem_map.mp inside
      exact ⟨.scalar ';', List.getLast?_append.trans rfl, by decide⟩
    · rw [List.mem_singleton.mp last, closing]
      split
      · exact ⟨.scalar '\x7d', rfl, by decide⟩
      · exact ⟨.scalar ';', rfl, by decide⟩

/-- A declaration begins with a letter and does not end in a blank. -/
theorem declaration_ends (name : Text) (properties : List (Text × Text)) :
    (style.declaration name properties).head? = some (.scalar 'e') ∧
      ∃ last, (style.declaration name properties).getLast? = some last ∧ last.isBlank = false := by
  have written : style.declaration name properties =
      Text.join "\n" (style.declarationLines name properties) := rfl
  rw [written]
  constructor
  · rw [declarationLines, Text.join_cons, opening]
    split <;> rfl
  · exact Text.join_getLast? (List.cons_ne_nil _ _) (style.declarationLines_end name properties)

end Style

namespace Declaration

/-- The name and the types of a declaration stay on their lines. -/
structure Linear (declaration : Declaration) : Prop where
  name : CodePoint.scalar '\n' ∉ declaration.name
  types : ∀ property ∈ typeTexts declaration.properties, CodePoint.scalar '\n' ∉ property.2

variable {declaration : Declaration}

/-- The text of such a declaration is read as its name with the keys and types of its
properties. -/
theorem Linear.read (linear : declaration.Linear) (style : Style) :
    style.readDeclaration? (declaration.text style) = some declaration.listed :=
  style.readDeclaration?_declaration linear.name linear.types

/-- No line of this text is empty. -/
theorem Linear.filled (linear : declaration.Linear) (style : Style) :
    ∀ line ∈ (declaration.text style).lines.tail, line ≠ [] := by
  intro line member
  have lines : (declaration.text style).lines = style.declarationLines declaration.name
    (typeTexts declaration.properties) := style.declaration_lines linear.name linear.types
  rw [lines] at member
  obtain ⟨last, ending, _⟩ := style.declarationLines_end _ _ line (List.mem_of_mem_tail member)
  rintro rfl
  exact absurd ending (by simp)

/-- The texts of such declarations are read as their names and properties. -/
theorem mapM_read (style : Style) {declarations : List Declaration}
    (linear : ∀ declaration ∈ declarations, declaration.Linear) :
    (declarations.map (text style)).mapM style.readDeclaration? =
      some (declarations.map listed) :=
  mapM_map_eq_some fun declaration member => (linear declaration member).read style

end Declaration

namespace Outline

theorem mem_fieldNames {fields : List (Text × Outline)} {key name : Text} {outline : Outline}
    (member : (key, outline) ∈ fields) (isName : name ∈ outline.names) :
    name ∈ fieldNames fields := by
  induction fields with
  | nil => exact absurd member List.not_mem_nil
  | cons field rest inductionHypothesis =>
    rw [fieldNames, List.mem_append]
    rcases List.mem_cons.mp member with rfl | later
    · exact .inl isName
    · exact .inr (inductionHypothesis later)

/-- The declaration of an object stays on its lines when its name does and so do all names inside
the object, as its types refer to no others. -/
theorem record_linear {name : Text} {fields : List (Text × Outline)}
    (unbroken : ∀ inside ∈ (record name fields).names, CodePoint.scalar '\n' ∉ inside) :
    Declaration.Linear ⟨name, properties fields⟩ where
  name := unbroken name List.mem_cons_self
  types property isProperty := by
    obtain ⟨_, isTyped, rfl⟩ := List.mem_map.mp isProperty
    obtain ⟨⟨key, outline⟩, member, rfl⟩ := List.mem_map.mp isTyped
    refine TypeExpr.text_unbroken fun used isUsed => unbroken used (List.mem_cons_of_mem name ?_)
    exact mem_fieldNames member (type_references outline isUsed)

mutual

/-- So do all declarations of an outline. -/
theorem declarations_linear (outline : Outline)
    (unbroken : ∀ name ∈ outline.names, CodePoint.scalar '\n' ∉ name) :
    ∀ declaration ∈ outline.declarations, declaration.Linear := by
  match outline with
  | .primitive _ | .union _ => exact fun _ impossible => absurd impossible List.not_mem_nil
  | .array element => exact declarations_linear element unbroken
  | .record name fields =>
    intro declaration member
    rcases List.mem_append.mp member with inside | own
    · exact fieldDeclarations_linear fields
        (fun inner isInner => unbroken inner (List.mem_cons_of_mem name isInner)) declaration inside
    · rw [List.mem_singleton.mp own]
      exact record_linear unbroken

theorem fieldDeclarations_linear (fields : List (Text × Outline))
    (unbroken : ∀ name ∈ fieldNames fields, CodePoint.scalar '\n' ∉ name) :
    ∀ declaration ∈ fieldDeclarations fields, declaration.Linear := by
  match fields with
  | [] => exact fun _ impossible => absurd impossible List.not_mem_nil
  | (_, outline) :: rest =>
    intro declaration member
    rcases List.mem_append.mp member with first | later
    · exact declarations_linear outline
        (fun name isName => unbroken name (List.mem_append_left _ isName)) declaration first
    · exact fieldDeclarations_linear rest
        (fun name isName => unbroken name (List.mem_append_right _ isName)) declaration later

end

end Outline

/-- A name that is an identifier stays on its line. -/
theorem TypeName.unbroken_of_proper {name : Text} (proper : isProper name = true) :
    CodePoint.scalar '\n' ∉ name := by
  intro broken
  exact absurd (List.all_eq_true.mp (proper_parts proper) _ broken) (by decide)

namespace Registry

variable {style : Style} {registry : Registry Entry} {declarations : List Declaration}

theorem texts_of_declared
    (inserted : registry.inserted = declarations.map (Declaration.entry style)) :
    registry.texts.map Prod.snd = declarations.map (Declaration.text style) := by
  rw [texts, inserted, List.map_map, List.map_map]
  rfl

/-- Each text is that of a declaration with what the listing says about it. -/
theorem texts_of_listing
    (inserted : registry.inserted = declarations.map (Declaration.entry style)) :
    registry.texts = registry.listing.map
      fun (name, properties) => (name, style.declaration name properties) := by
  rw [texts, listing_of_declared inserted, inserted, List.map_map, List.map_map]
  rfl

theorem listing_names
    (inserted : registry.inserted = declarations.map (Declaration.entry style)) :
    registry.listing.map Prod.fst = registry.names := by
  rw [names, listing_of_declared inserted, inserted, List.map_map, List.map_map]
  rfl

/-- The text of a registry that holds declarations only, and at least one of them, is theirs
with blank lines in between. Nothing is stripped from its ends, its blocks are their texts,
and from these its listing is read. -/
theorem text_read_back (inserted : registry.inserted = declarations.map (Declaration.entry style))
    (linear : ∀ declaration ∈ declarations, declaration.Linear) (filled : declarations ≠ []) :
    registry.text = Text.join "\n\n" (registry.texts.map Prod.snd) ∧
      registry.text.blocks = registry.texts.map Prod.snd ∧
      registry.text.blocks.mapM style.readDeclaration? = some registry.listing := by
  have texts := texts_of_declared inserted
  obtain ⟨first, rest, rfl⟩ := List.exists_cons_of_ne_nil filled
  have whole : registry.text = Text.join "\n\n" (registry.texts.map Prod.snd) := by
    have begins : (Text.join "\n\n" (registry.texts.map Prod.snd)).head? = some (.scalar 'e') := by
      rw [texts, List.map_cons, Text.join_cons, List.head?_append, Declaration.text,
        (style.declaration_ends _ _).1]
      rfl
    have ends : ∃ last, (Text.join "\n\n" (registry.texts.map Prod.snd)).getLast? = some last ∧
        last.isBlank = false := by
      rw [texts]
      refine Text.join_getLast? (List.cons_ne_nil _ _) ?_
      intro part member
      obtain ⟨declaration, _, rfl⟩ := List.mem_map.mp member
      exact (style.declaration_ends _ _).2
    obtain ⟨last, ending, noBlank⟩ := ends
    have stripped := Text.strip_eq_self begins (by decide) ending noBlank
    rw [Registry.texts, List.map_map] at stripped ⊢
    exact stripped
  have blocks : registry.text.blocks = registry.texts.map Prod.snd := by
    rw [whole, texts, List.map_cons]
    refine Text.blocks_join ?_
    intro block member
    obtain ⟨declaration, isDeclaration, rfl⟩ := List.mem_map.mp (List.map_cons ▸ member)
    exact (linear declaration isDeclaration).filled style
  refine ⟨whole, blocks, ?_⟩
  rw [blocks, texts, listing_of_declared inserted]
  exact Declaration.mapM_read style linear

/-- A registry that holds declarations only has no text just when it holds none. -/
theorem text_eq_nil_iff (inserted : registry.inserted = declarations.map (Declaration.entry style))
    (linear : ∀ declaration ∈ declarations, declaration.Linear) :
    registry.text = [] ↔ declarations = [] := by
  constructor
  · intro noText
    by_contra filled
    obtain ⟨_, _, read⟩ := text_read_back inserted linear filled
    have unread : style.readDeclaration? [] = none := by
      obtain ⟨interfaces, _⟩ := style
      cases interfaces <;> rfl
    rw [noText] at read
    change [[]].mapM style.readDeclaration? = _ at read
    rw [List.mapM_cons, unread] at read
    exact absurd read (by simp)
  · rintro rfl
    rw [text, inserted]
    rfl

end Registry

namespace Generator

variable {ρ : Type}

/-- Whatever the value, its declarations stay on their lines: their names are identifiers, and
their types refer to such names only. -/
theorem declarations_linear {style : Style} {value : Json ρ} {registry : Registry Entry}
    (returned : declarations style value = .ok registry) :
    ∃ listed : List Declaration, registry.inserted = listed.map (Declaration.entry style) ∧
      ∀ declaration ∈ listed, declaration.Linear := by
  exact ⟨_, declarations_inserted returned, Outline.declarations_linear _ fun name isName =>
    TypeName.unbroken_of_proper (reserved_proper value .empty name isName)⟩

/-- Registries with the same text in one style hold the same names with the same texts, keys and
types. -/
theorem declarations_determined {style : Style} {value other : Json ρ}
    {registry another : Registry Entry} (returned : declarations style value = .ok registry)
    (returnedOther : declarations style other = .ok another)
    (same : registry.text = another.text) :
    registry.texts = another.texts ∧ registry.listing = another.listing := by
  obtain ⟨listed, inserted, linear⟩ := declarations_linear returned
  obtain ⟨listedOther, insertedOther, linearOther⟩ := declarations_linear returnedOther
  have nothing := Registry.text_eq_nil_iff inserted linear
  have nothingOther := Registry.text_eq_nil_iff insertedOther linearOther
  by_cases empty : listed = []
  · have emptyOther : listedOther = [] := nothingOther.mp (same ▸ nothing.mpr empty)
    rw [empty] at inserted
    rw [emptyOther] at insertedOther
    have alike : registry.inserted = another.inserted := inserted.trans insertedOther.symm
    rw [Registry.texts, Registry.texts, Registry.listing, Registry.listing, alike]
    exact ⟨rfl, rfl⟩
  · have filledOther : listedOther ≠ [] := fun emptyOther =>
      empty (nothing.mp (same.trans (nothingOther.mpr emptyOther)))
    obtain ⟨_, _, read⟩ := Registry.text_read_back inserted linear empty
    obtain ⟨_, _, readOther⟩ := Registry.text_read_back insertedOther linearOther filledOther
    have alike : registry.listing = another.listing := by
      rw [same] at read
      exact Option.some.inj (read.symm.trans readOther)
    refine ⟨?_, alike⟩
    rw [Registry.texts_of_listing inserted, Registry.texts_of_listing insertedOther, alike]

/-- Whatever is converted, the output is unambiguous. If it is not empty, it consists of the
inserted texts in their order with blank lines between them, with nothing stripped; its blank
lines are these and no others; and from the blocks between them the names of the declarations
are read with the keys and types of their properties. Hence two data with the same output in one
style have the same declarations. -/
theorem output_read_back (style : Style) :
    (∀ (datum : Datum) (output : Text), convertDatum style datum = .ok output → output ≠ [] →
      ∃ value registry, datum.toJson = .ok value ∧ declarations style value = .ok registry ∧
        output = Text.join "\n\n" (registry.texts.map Prod.snd) ∧
        output.blocks = registry.texts.map Prod.snd ∧
        registry.listing.map Prod.fst = registry.names ∧
        output.blocks.mapM style.readDeclaration? = some registry.listing) ∧
    ∀ (datum other : Datum) (output : Text), convertDatum style datum = .ok output →
      convertDatum style other = .ok output →
      ∃ value registry value' registry', datum.toJson = .ok value ∧ other.toJson = .ok value' ∧
        declarations style value = .ok registry ∧ declarations style value' = .ok registry' ∧
        registry.texts = registry'.texts ∧ registry.listing = registry'.listing := by
  constructor
  · intro datum output returned filled
    obtain ⟨value, registry, admitted, walked, rfl⟩ := convertDatum_iff.mp returned
    obtain ⟨listed, inserted, linear⟩ := declarations_linear walked
    have some : listed ≠ [] := fun none =>
      filled ((Registry.text_eq_nil_iff inserted linear).mpr none)
    obtain ⟨whole, blocks, read⟩ := Registry.text_read_back inserted linear some
    refine ⟨value, registry, admitted, walked, whole, blocks, ?_, read⟩
    exact Registry.listing_names inserted
  · intro datum other output returned returnedOther
    obtain ⟨value, registry, admitted, walked, rendered⟩ := convertDatum_iff.mp returned
    obtain ⟨value', registry', admitted', walked', rendered'⟩ :=
      convertDatum_iff.mp returnedOther
    exact ⟨value, registry, value', registry', admitted, admitted', walked, walked',
      declarations_determined walked walked' (rendered.symm.trans rendered')⟩

/-- Host data whose keys have the marks of the output in them. -/
def forgery : Datum :=
  .mapping [(.text "a?: string;\n\x7d\n\nexport interface Root \x7b\n  'b", .mapping
      [(.text "\\\u2028'", .list [.number (.int 1), .none]), (.text "", .bool true)]),
    (.text "\n\n", .text "2025-03-30T12:00:00Z")]

/-- The members that they are admitted as. -/
def forgedMembers : Members Datum :=
  [("a?: string;\n\x7d\n\nexport interface Root \x7b\n  'b", .object
      [("\\\u2028'", .array [.number (.int 1), .null]), ("", .bool true)]),
    ("\n\n", .string "2025-03-30T12:00:00Z")]

/-- What is read from the output. -/
def forgedListing : Listing :=
  [("AStringExportInterfaceRootB", [("\\\u2028'", "(number | null)[]"), ("", "boolean")]),
    ("Root", [("a?: string;\n\x7d\n\nexport interface Root \x7b\n  'b",
      "AStringExportInterfaceRootB"), ("\n\n", "Date")])]

theorem forgery_read_back :
    ∃ output : Text, convertDatum ⟨true, true⟩ forgery = .ok output ∧
      output.blocks.mapM (Style.readDeclaration? ⟨true, true⟩) = some forgedListing := by
  let outcome := runOn .empty (generate ⟨true, true⟩ TypeName.root (.object forgedMembers))
  have admitted : forgery.toJson = .ok (.object forgedMembers) := rfl
  have typed : outcome.1.toOption = some (.named TypeName.root) := by decide +kernel
  have listed : outcome.2.listing = forgedListing := by decide +kernel
  have filled : outcome.2.text ≠ [] := by decide +kernel
  obtain ⟨registry, walked⟩ := runOn_returns typed
  have held : outcome.2 = registry := congrArg Prod.snd walked
  rw [held] at listed filled
  have declared := declarations_iff.mpr ⟨_, walked⟩
  have returned := convertDatum_iff.mpr ⟨_, registry, admitted, declared, rfl⟩
  obtain ⟨value, found, again, walkedAgain, _, _, _, read⟩ :=
    (output_read_back ⟨true, true⟩).1 forgery registry.text returned filled
  have same : value = .object forgedMembers := Except.ok.inj (again.symm.trans admitted)
  subst same
  have alike : found = registry := Except.ok.inj (walkedAgain.symm.trans declared)
  subst alike
  exact ⟨found.text, returned, read.trans (congrArg some listed)⟩

end Generator

end TypeSketch
