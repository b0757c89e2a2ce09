import TypeSketch.Proofs.TypeText

/-!
# Expanding declared names

A listing holds declarations as their texts show them: names with the keys and the texts of
the types of their properties. Expansion reads the text of a type and replaces every listed
name by the record of its properties, round after round, until no listed name is left;
what remains must be primitive.

The listing that a walk adds to a registry expands its type to the structural type of the
value, in as many rounds as there are declarations at most. The argument is on the outline
with the reserved names: they differ from each other, so each finds its own declaration,
and they are no texts of primitive types, unless one of them is `Date`.
-/

namespace TypeSketch

/-- Declared names with the keys of their properties and the texts of their types. -/
abbrev Listing := List (Text × List (Text × Text))

/-- Properties with the texts of their types. -/
def Declaration.typeTexts (properties : List (Text × TypeExpr)) : List (Text × Text) :=
  properties.map fun (key, type) => (key, type.text)

/-- A declaration as its text shows it. -/
def Declaration.listed (declaration : Declaration) : Text × List (Text × Text) :=
  (declaration.name, Declaration.typeTexts declaration.properties)

/-- The inserted names with their texts in order. -/
def Registry.texts (registry : Registry Entry) : List (Text × Text) :=
  registry.inserted.map fun (name, entry) => (name, entry.text)

/-- The declarations of a registry as their texts show them; a text from outside is none. -/
def Registry.listing (registry : Registry Entry) : Listing :=
  registry.inserted.filterMap fun (name, entry) =>
    match entry with
    | .verbatim _ => none
    | .declared _ declaration => some (name, Declaration.typeTexts declaration.properties)

/-- A registry that holds nothing but declarations lists them all. -/
theorem Registry.listing_of_declared {style : Style} {registry : Registry Entry}
    {declarations : List Declaration}
    (inserted : registry.inserted = declarations.map (Declaration.entry style)) :
    registry.listing = declarations.map Declaration.listed := by
  rw [listing, inserted, List.filterMap_map, ← List.filterMap_eq_map]
  rfl

/-- The primitive type that a word stands for. -/
def Primitive.ofText? (word : Text) : Option Primitive :=
  [Primitive.null, .boolean, .number, .string, .date, .any].find? (·.text == word)

theorem Primitive.ofText?_text (type : Primitive) : ofText? type.text = some type := by
  cases type <;> decide

/-- The shape of a type, given the shapes of its words. -/
def TypeText.shape? (word : Text → Option Shape) : TypeText → Option Shape
  | .word name => word name
  | .array element => .array <$> element.shape? word
  | .union words => .union <$> words.mapM word

/-- The shape that a word stands for after so many rounds of replacing listed names by the
records of their properties. There is none while a listed name is left. -/
def expandWord (listing : Listing) : (rounds : Nat) → Text → Option Shape
  | 0, word =>
    match listing.lookup word with
    | some _ => none
    | none => .primitive <$> Primitive.ofText? word
  | rounds + 1, word =>
    match listing.lookup word with
    | some properties => .record <$> properties.mapM fun (key, type) =>
        (key, ·) <$> (TypeText.ofText type).shape? (expandWord listing rounds)
    | none => .primitive <$> Primitive.ofText? word

/-- The shape that the text of a type stands for after so many rounds. -/
def expand (listing : Listing) (rounds : Nat) (type : Text) : Option Shape :=
  (TypeText.ofText type).shape? (expandWord listing rounds)

/-- A primitive type stands for itself unless its word is listed as a name. -/
theorem expandWord_primitive {listing : Listing} {type : Primitive}
    (unlisted : listing.lookup type.text = none) (rounds : Nat) :
    expandWord listing rounds type.text = some (.primitive type) := by
  cases rounds <;> simp only [expandWord, unlisted, Primitive.ofText?_text] <;> rfl

/-- A listed name is replaced by the record of its properties in one round. -/
theorem expandWord_listed {listing : Listing} {name : Text} {properties : List (Text × Text)}
    {fields : List (Text × Shape)} {rounds : Nat}
    (listed : listing.lookup name = some properties)
    (expanded : (properties.mapM fun (key, type) =>
      (key, ·) <$> expand listing rounds type) = some fields) :
    expandWord listing (rounds + 1) name = some (.record fields) := by
  change (properties.mapM fun (key, type) =>
    (key, ·) <$> (TypeText.ofText type).shape? (expandWord listing rounds)) = _ at expanded
  simp only [expandWord, listed, expanded]
  rfl

theorem expand_union {listing : Listing} (unlisted : ∀ type : Primitive,
    listing.lookup type.text = none) (rounds : Nat) (members : List Primitive) :
    (members.map Primitive.text).mapM (expandWord listing rounds) =
      some (members.map .primitive) := by
  induction members with
  | nil => rfl
  | cons type rest inductionHypothesis =>
    rw [List.map_cons, List.mapM_cons, expandWord_primitive (unlisted type), inductionHypothesis]
    rfl

/-- An entry is found under its key when the keys differ from each other. -/
theorem lookup_of_distinct {κ α : Type} [BEq κ] [LawfulBEq κ] {entries : List (κ × α)} {key : κ}
    {value : α} (distinct : (entries.map Prod.fst).Nodup) (member : (key, value) ∈ entries) :
    entries.lookup key = some value := by
  obtain ⟨earlier, later, rfl⟩ := List.append_of_mem member
  rw [List.lookup_eq_some_iff]
  refine ⟨earlier, later, rfl, ?_⟩
  intro other inEarlier
  rw [List.map_append, List.nodup_append] at distinct
  have different := distinct.2.2 other.1 (List.mem_map_of_mem inEarlier) key
    (by rw [List.map_cons]; exact List.mem_cons_self)
  simpa using Ne.symm different

namespace Outline

/-- The type of an outline refers to none but its names. -/
theorem type_references (outline : Outline) {used : Text}
    (isUsed : used ∈ outline.type.references) : used ∈ outline.names := by
  match outline with
  | .primitive _ | .union _ => exact absurd isUsed List.not_mem_nil
  | .array element =>
    rw [names]
    exact type_references element isUsed
  | .record name fields =>
    rw [names, List.mem_singleton.mp isUsed]
    exact List.mem_cons_self

/-- The type of an outline is expanded as it is written when all names are words. -/
theorem expand_written {outline : Outline}
    (words : ∀ name ∈ outline.names, TypeName.isWord name = true) (listing : Listing)
    (rounds : Nat) :
    expand listing rounds outline.type.text =
      outline.type.written.shape? (expandWord listing rounds) := by
  rw [expand, TypeText.ofText_text fun name isUsed => words name (type_references outline isUsed)]

mutual

/-- The type of an outline expands to its shape when each of its declarations is found
under its name, all names are words and no text of a primitive type is listed.
Every round goes one object deeper, and no object lies deeper than there are
declarations. -/
theorem type_expands {listing : Listing} (outline : Outline) (rounds : Nat)
    (found : ∀ declaration ∈ outline.declarations,
      listing.lookup declaration.name = some declaration.listed.2)
    (words : ∀ name ∈ outline.names, TypeName.isWord name = true)
    (unlisted : ∀ type : Primitive, listing.lookup type.text = none)
    (enough : outline.declarations.length ≤ rounds) :
    expand listing rounds outline.type.text = some outline.shape := by
  rw [expand_written words]
  match outline with
  | .primitive type => exact expandWord_primitive (unlisted type) rounds
  | .union members =>
    rw [type, TypeExpr.written, TypeText.shape?, expand_union unlisted]
    rfl
  | .array element =>
    have inner := type_expands element rounds found words unlisted enough
    have reading := @expand_written element words listing rounds
    rw [reading] at inner
    rw [type, TypeExpr.written, TypeText.shape?, inner]
    rfl
  | .record name fields =>
    have own : listing.lookup name = some (Declaration.typeTexts (properties fields)) :=
      found ⟨name, properties fields⟩ (List.mem_append_right _ List.mem_cons_self)
    rw [declarations, List.length_append, List.length_singleton] at enough
    obtain ⟨fewer, rfl⟩ : ∃ fewer, rounds = fewer + 1 := ⟨rounds - 1, by omega⟩
    have inner := fields_expand fields fewer
      (fun declaration member => found declaration (List.mem_append_left _ member))
      (fun inside member => words inside (List.mem_cons_of_mem name member)) unlisted
      (by omega)
    exact expandWord_listed own inner

theorem fields_expand {listing : Listing} (fields : List (Text × Outline)) (rounds : Nat)
    (found : ∀ declaration ∈ fieldDeclarations fields,
      listing.lookup declaration.name = some declaration.listed.2)
    (words : ∀ name ∈ fieldNames fields, TypeName.isWord name = true)
    (unlisted : ∀ type : Primitive, listing.lookup type.text = none)
    (enough : (fieldDeclarations fields).length ≤ rounds) :
    ((Declaration.typeTexts (properties fields)).mapM fun (key, type) =>
      (key, ·) <$> expand listing rounds type) = some (fieldShapes fields) := by
  match fields with
  | [] => rfl
  | (key, outline) :: rest =>
    rw [fieldDeclarations, List.length_append] at enough
    have first := type_expands outline rounds
      (fun declaration member => found declaration (List.mem_append_left _ member))
      (fun inside member => words inside (List.mem_append_left _ member)) unlisted (by omega)
    have others := fields_expand rest rounds
      (fun declaration member => found declaration (List.mem_append_right _ member))
      (fun inside member => words inside (List.mem_append_right _ member)) unlisted (by omega)
    have step : Declaration.typeTexts (properties ((key, outline) :: rest)) =
        (key, outline.type.text) :: Declaration.typeTexts (properties rest) := rfl
    rw [step, List.mapM_cons, others, fieldShapes]
    dsimp only
    rw [first]
    rfl

end

end Outline

variable {ρ : Type}

/-- All candidates of a whole value are words when the given name is one. -/
theorem Json.visited_words {name : Text} (word : TypeName.isWord name = true) (value : Json ρ) :
    ∀ candidate ∈ (value.visited name).names, TypeName.isWord candidate = true :=
  visited_candidates TypeName.suggest_word word (by decide) value

/-- Reserved names are words when their candidates are. -/
theorem Outline.reserve_words {ε : Type} {outline : Outline}
    (words : ∀ candidate ∈ outline.names, TypeName.isWord candidate = true)
    (registry : Registry ε) :
    ∀ name ∈ (outline.reserve registry).1.names, TypeName.isWord name = true :=
  reserve_inherits TypeName.variant_word words registry

namespace Generator

/-- The listing of the declarations that a walk inserts. -/
def listingOf (named : Outline) : Listing := named.declarations.map Declaration.listed

theorem listingOf_names (named : Outline) :
    (listingOf named).map Prod.fst = named.declarations.map Declaration.name := by
  rw [listingOf, List.map_map]
  rfl

/-- The type of an outline with names that differ, are words and are not `Date`
expands to its shape under its own declarations. -/
theorem outline_expands {named : Outline} (distinct : named.names.Nodup)
    (words : ∀ name ∈ named.names, TypeName.isWord name = true)
    (dateless : Primitive.date.text ∉ named.names) {rounds : Nat}
    (enough : (listingOf named).length ≤ rounds) :
    expand (listingOf named) rounds named.type.text = some named.shape := by
  have order := named.declarations_names
  rw [← listingOf_names] at order
  refine named.type_expands rounds ?_ words ?_ (by rwa [listingOf, List.length_map] at enough)
  · intro declaration member
    exact lookup_of_distinct (order.nodup_iff.mpr distinct) (List.mem_map_of_mem member)
  · intro type
    rw [List.lookup_eq_none_iff]
    intro entry member
    have inNames : entry.1 ∈ named.names := order.subset (List.mem_map_of_mem member)
    rw [bne_iff_ne]
    intro same
    have isDate : type = .date :=
      TypeName.eq_date_of_word (same ▸ words entry.1 inNames)
    subst isDate
    exact dateless (same ▸ inNames)

/-- A walk that returns a type, begun with a word that does not begin with a small letter,
inserts under names that were free, and the new names expand from this type to
exactly the structural type of the value. Whatever the registry held before is kept and
plays no part, so no name can be taken for one that resembles it. Only `Date` has to be
kept out, which is the text of a primitive type as well as such a word. -/
theorem expansion_is_structural_type {style : Style} {name : Text} {value : Json ρ}
    {type : TypeExpr} {registry result : Registry Entry}
    (word : TypeName.isWord name = true)
    (returned : runOn registry (generate style name value) = (.ok type, result))
    (dateless : ∀ new ∈ result.names, new ∉ registry.names → new ≠ Primitive.date.text) :
    ∃ listing : Listing,
      result.texts = registry.texts ++ listing.map (fun (new, properties) =>
        (new, style.declaration new properties)) ∧
      (listing.map Prod.fst).Nodup ∧
      (∀ new ∈ listing.map Prod.fst, registry.contains new = false) ∧
      ∀ rounds, listing.length ≤ rounds → expand listing rounds type.text = some value.shape := by
  have performed := generate_performs returned
  obtain ⟨distinct, free⟩ := (value.visited name).reserve_free registry
  let named := ((value.visited name).reserve registry).1
  have order := named.declarations_names
  rw [← listingOf_names] at order
  refine ⟨listingOf named, ?_, order.nodup_iff.mpr distinct, ?_, ?_⟩
  · rw [Registry.texts, performed.inserted_exact, List.map_append, listingOf, List.map_map,
      List.map_map]
    rfl
  · intro new member
    exact free new (order.subset member)
  · intro rounds enough
    have shape : named.shape = value.shape := by
      rw [Outline.reserve_shape]
      exact Json.outline_shape _ value
    rw [performed.type_exact, ← shape]
    refine outline_expands distinct
      (Outline.reserve_words (Json.visited_words word value) registry) ?_ enough
    intro dated
    have inserted : Primitive.date.text ∈ result.names := performed.names_inserted dated
    have fresh : Primitive.date.text ∉ registry.names := by
      intro old
      have taken := (Registry.contains_iff registry _).mpr (Or.inr old)
      rw [free _ dated] at taken
      exact Bool.false_ne_true taken
    exact dateless _ inserted fresh rfl

/-- A registry that holds an external text for `Item` and waits for `Item1`. -/
def occupied : Registry Entry :=
  ⟨[TypeName.fallback ++ "1"], [(TypeName.fallback, .verbatim "type Item = null;")]⟩

/-- An object with two others in it that both ask for `Item`. -/
def rivals : Json Empty :=
  .object [("item", .object [("a", .array [.number (.int 1), .null])]),
    ("items", .array [.object [("b", .string "2025-03-30")], .object []])]

theorem rivals_expand :
    ∃ (result : Registry Entry) (listing : Listing),
      runOn occupied (generate {} TypeName.root rivals) = (.ok (.named TypeName.root), result) ∧
      result.texts = occupied.texts ++ listing.map (fun (new, properties) =>
        (new, ({} : Style).declaration new properties)) ∧
      expand listing listing.length TypeName.root = some rivals.shape := by
  have typed : (runOn occupied (generate {} TypeName.root rivals)).1.toOption =
      some (.named TypeName.root) := by decide +kernel
  have named : (runOn occupied (generate {} TypeName.root rivals)).2.names =
      [TypeName.fallback, TypeName.fallback ++ "2", TypeName.fallback ++ "3", TypeName.root] := by
    decide +kernel
  obtain ⟨result, walked⟩ := runOn_returns typed
  rw [walked] at named
  have noDate : ∀ new ∈ [TypeName.fallback, TypeName.fallback ++ "2", TypeName.fallback ++ "3",
      TypeName.root], new ≠ Primitive.date.text := by decide
  obtain ⟨listing, texts, _, _, expanded⟩ := expansion_is_structural_type (by decide) walked
    (fun new member _ => noDate new (named ▸ member))
  exact ⟨result, listing, walked, texts, expanded _ (Nat.le_refl _)⟩

end Generator

end TypeSketch
