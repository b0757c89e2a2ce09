import TypeSketch.Proofs.OutputText

/-!
# The inhabitants of a type

The text of a type is given a meaning by the declarations it stands beside: a set of JSON
values. The reading is narrow. A primitive type takes the values it is the primitive type
of, so `string` takes no timestamp, and a declared name takes objects with the keys of its
properties in their order. Whatever inhabits a type here does so under any wider reading.

A value inhabits its own shape provided that no array is judged by its first element when
other elements differ from this one in shape. A shape that a type expands to has no other
inhabitants than the type, so a converted object inhabits `Root`, under the declarations that are
read from the output.
-/

namespace TypeSketch

variable {ρ : Type}

/-- The values that a primitive type takes. -/
def Primitive.Accepts : Primitive → Json ρ → Prop
  | .any, _ => True
  | .null, .null => True
  | .boolean, .bool _ => True
  | .number, .number _ => True
  | .date, .string value => value.isTimestamp = true
  | .string, .string value => value.isTimestamp = false
  | _, _ => False

/-- Every value is accepted by its primitive type. -/
theorem Json.primitive_accepts (value : Json ρ) : value.primitive.Accepts value := by
  cases value with
  | null | bool | number | array | object | foreign => exact trivial
  | string value =>
    by_cases timestamp : value.isTimestamp = true
    · rw [primitive, if_pos timestamp]
      exact timestamp
    · rw [primitive, if_neg timestamp]
      exact Bool.eq_false_iff.mpr timestamp

mutual

/-- A value belongs to a type as it is written, given the declarations. -/
inductive Inhabits (listing : Listing) : TypeText → Json ρ → Prop where
  | primitive {name : Text} {type : Primitive} {value : Json ρ}
      (undeclared : listing.lookup name = none) (known : Primitive.ofText? name = some type)
      (accepted : type.Accepts value) : Inhabits listing (.word name) value
  | declared {name : Text} {properties : List (Text × Text)} {members : Members ρ}
      (listed : listing.lookup name = some properties)
      (each : InhabitsAll listing properties members) :
      Inhabits listing (.word name) (.object members)
  | array {element : TypeText} {elements : List (Json ρ)}
      (each : ∀ value ∈ elements, Inhabits listing element value) :
      Inhabits listing (.array element) (.array elements)
  | union {words : List Text} {name : Text} {value : Json ρ} (member : name ∈ words)
      (inner : Inhabits listing (.word name) value) : Inhabits listing (.union words) value

/-- The members of an object have the keys of the properties and belong to their types. -/
inductive InhabitsAll (listing : Listing) : List (Text × Text) → Members ρ → Prop where
  | nil : InhabitsAll listing [] []
  | cons {key type : Text} {value : Json ρ} {properties : List (Text × Text)}
      {members : Members ρ} (head : Inhabits listing (.ofText type) value)
      (tail : InhabitsAll listing properties members) :
      InhabitsAll listing ((key, type) :: properties) ((key, value) :: members)

end

mutual

/-- A value belongs to a shape. -/
inductive Shape.Accepts : Shape → Json ρ → Prop where
  | primitive {type : Primitive} {value : Json ρ} (accepted : type.Accepts value) :
      Accepts (.primitive type) value
  | record {fields : List (Text × Shape)} {members : Members ρ}
      (each : AcceptsAll fields members) : Accepts (.record fields) (.object members)
  | array {element : Shape} {elements : List (Json ρ)}
      (each : ∀ value ∈ elements, element.Accepts value) :
      Accepts (.array element) (.array elements)
  | union {members : List Shape} {shape : Shape} {value : Json ρ} (member : shape ∈ members)
      (inner : shape.Accepts value) : Accepts (.union members) value

/-- The members of an object have the keys of the fields and belong to their shapes. -/
inductive Shape.AcceptsAll : List (Text × Shape) → Members ρ → Prop where
  | nil : AcceptsAll [] []
  | cons {key : Text} {shape : Shape} {value : Json ρ} {fields : List (Text × Shape)}
      {members : Members ρ} (head : shape.Accepts value) (tail : AcceptsAll fields members) :
      AcceptsAll ((key, shape) :: fields) ((key, value) :: members)

end

/-- A value is found in another one, at any depth. -/
inductive Json.Occurs (inner : Json ρ) : Json ρ → Prop where
  | here : Occurs inner inner
  | element {elements : List (Json ρ)} {value : Json ρ} (member : value ∈ elements)
      (within : Occurs inner value) : Occurs inner (.array elements)
  | member {members : Members ρ} {key : Text} {value : Json ρ} (member : (key, value) ∈ members)
      (within : Occurs inner value) : Occurs inner (.object members)

open ArrayType

/-- The first element speaks for all others in shape, unless the sample shows several kinds
and it is not asked alone. -/
def ArrayType.Even (elements : List (Json ρ)) : Prop :=
  elements.Pairwise (fun a b => a.shape = b.shape) ∨
    ∃ a ∈ elements.take sampleSize, ∃ b ∈ elements.take sampleSize, a.kind? ≠ b.kind?

/-- Every array in a value is even. -/
def Json.Even (value : Json ρ) : Prop :=
  ∀ elements, Occurs (.array elements) value → ArrayType.Even elements

namespace ArrayType

/-- In an even array of one kind all elements have the shape of the first. -/
theorem even_uniform {first : Json ρ} {rest : List (Json ρ)} (even : Even (first :: rest))
    (oneKind : OneKind (first :: rest)) : ∀ value ∈ first :: rest, value.shape = first.shape := by
  rcases even with alike | ⟨a, inA, b, inB, different⟩
  · intro value member
    rcases List.mem_cons.mp member with rfl | later
    · rfl
    · exact ((List.pairwise_cons.mp alike).1 value later).symm
  · exact absurd (oneKind a inA b inB) different

/-- Elements of several kinds belong to the union of their primitive types, and anything
belongs to the type that replaces it. -/
theorem mixedShape_accepts {elements : List (Json ρ)} {value : Json ρ} (member : value ∈ elements) :
    (mixedShape elements).Accepts value := by
  rw [mixedShape]
  split
  · exact .primitive trivial
  · refine .union ?_ (.primitive value.primitive_accepts)
    exact List.mem_map_of_mem (mem_memberTypes.mpr ⟨value, member, rfl⟩)

end ArrayType

namespace Json

theorem even_scalar {value : Json ρ} (scalar : value.isScalar = true) : value.Even := by
  intro elements occurs
  cases occurs with
  | here | element | member => exact absurd scalar Bool.false_ne_true

theorem even_array_iff {elements : List (Json ρ)} :
    (Json.array elements).Even ↔ ArrayType.Even elements ∧ ∀ value ∈ elements, value.Even := by
  constructor
  · intro even
    exact ⟨even elements .here, fun value member inner within =>
      even inner (.element member within)⟩
  · rintro ⟨own, each⟩ inner occurs
    cases occurs with
    | here => exact own
    | element member within => exact each _ member inner within

theorem even_object_iff {members : Members ρ} :
    (Json.object members).Even ↔ ∀ member ∈ members, member.2.Even := by
  constructor
  · intro even member inMembers inner within
    exact even inner (.member inMembers within)
  · intro each inner occurs
    cases occurs with
    | member inMembers within => exact each _ inMembers inner within

theorem fieldShapes_accept {members : Members ρ}
    (each : ∀ member ∈ members, member.2.shape.Accepts member.2) :
    Shape.AcceptsAll (fieldShapes members) members := by
  induction members with
  | nil => exact .nil
  | cons member rest inductionHypothesis =>
    exact .cons (each member List.mem_cons_self)
      (inductionHypothesis fun other later => each other (List.mem_cons_of_mem member later))

/-- A value whose arrays are even belongs to its own shape. By induction on the value:
elements and members are even too, and an element of a uniform array belongs to the shape
of the first because that is its own. -/
theorem shape_accepts (value : Json ρ) (even : value.Even) : value.shape.Accepts value := by
  induction value using elimination with
  | null | bool | number | foreign => exact .primitive trivial
  | string text => exact .primitive (primitive_accepts (.string text))
  | array elements inductionHypothesis =>
    have each : ∀ value ∈ elements, value.shape.Accepts value := fun value member =>
      inductionHypothesis value member ((even_array_iff.mp even).2 value member)
    cases elements with
    | nil =>
      refine .array ?_
      intro value impossible
      exact absurd impossible List.not_mem_nil
    | cons first rest =>
      rw [shape]
      split
      · next oneKind =>
        refine .array ?_
        intro value member
        have same := even_uniform (even_array_iff.mp even).1 oneKind value member
        rw [← same]
        exact each value member
      · exact .array fun value member => mixedShape_accepts member
  | object members inductionHypothesis =>
    rw [shape]
    refine .record (fieldShapes_accept ?_)
    intro member inMembers
    exact inductionHypothesis member inMembers (even_object_iff.mp even member inMembers)

end Json

/-- When all entries of a list have results, so have the first and the others. -/
theorem mapM_cons_some {α β : Type} {f : α → Option β} {first : α} {rest : List α}
    {results : List β} (known : (first :: rest).mapM f = some results) :
    ∃ head tail, f first = some head ∧ rest.mapM f = some tail ∧ results = head :: tail := by
  rw [List.mapM_cons] at known
  obtain ⟨head, firstKnown, others⟩ := Option.bind_eq_some_iff.mp known
  obtain ⟨tail, restKnown, same⟩ := Option.bind_eq_some_iff.mp others
  exact ⟨head, tail, firstKnown, restKnown, (Option.some.inj same).symm⟩

theorem mem_of_mapM_some {α β : Type} {f : α → Option β} {entries : List α} {results : List β}
    (known : entries.mapM f = some results) {result : β} (member : result ∈ results) :
    ∃ entry ∈ entries, f entry = some result := by
  induction entries generalizing results with
  | nil =>
    have none : results = [] := (Option.some.inj known).symm
    rw [none] at member
    exact absurd member List.not_mem_nil
  | cons first rest inductionHypothesis =>
    obtain ⟨head, tail, firstKnown, restKnown, rfl⟩ := mapM_cons_some known
    rcases List.mem_cons.mp member with rfl | later
    · exact ⟨first, List.mem_cons_self, firstKnown⟩
    · obtain ⟨entry, inRest, found⟩ := inductionHypothesis restKnown later
      exact ⟨entry, List.mem_cons_of_mem first inRest, found⟩

section Expansion

variable {listing : Listing}

/-- What belongs to the shape of a type belongs to the type, if this holds of words. -/
theorem inhabits_of_shape {meaning : Text → Option Shape}
    (words : ∀ (name : Text) (shape : Shape) (value : Json ρ), meaning name = some shape →
      shape.Accepts value → Inhabits listing (.word name) value)
    {type : TypeText} {shape : Shape} {value : Json ρ} (known : type.shape? meaning = some shape)
    (accepted : shape.Accepts value) : Inhabits listing type value := by
  induction type generalizing shape value with
  | word name => exact words name shape value known accepted
  | array element inductionHypothesis =>
    obtain ⟨inner, elementKnown, rfl⟩ := Option.map_eq_some_iff.mp known
    cases accepted with
    | array each =>
      exact .array fun value member => inductionHypothesis elementKnown (each value member)
  | union names =>
    obtain ⟨shapes, namesKnown, rfl⟩ := Option.map_eq_some_iff.mp known
    cases accepted with
    | union member inner =>
      obtain ⟨name, listed, nameKnown⟩ := mem_of_mapM_some namesKnown member
      exact .union listed (words name _ value nameKnown inner)

/-- The same for the members of an object, property by property. -/
theorem inhabitsAll_of_fields {rounds : Nat}
    (types : ∀ (type : Text) (shape : Shape) (value : Json ρ),
      expand listing rounds type = some shape → shape.Accepts value →
        Inhabits listing (.ofText type) value)
    {properties : List (Text × Text)} {fields : List (Text × Shape)} {members : Members ρ}
    (known : (properties.mapM fun (key, type) => (key, ·) <$> expand listing rounds type) =
      some fields)
    (accepted : Shape.AcceptsAll fields members) : InhabitsAll listing properties members := by
  induction properties generalizing fields members with
  | nil =>
    have none : fields = [] := (Option.some.inj known).symm
    subst none
    cases accepted with
    | nil => exact .nil
  | cons property rest inductionHypothesis =>
    obtain ⟨head, tail, headKnown, tailKnown, rfl⟩ := mapM_cons_some known
    obtain ⟨shape, typeKnown, rfl⟩ := Option.map_eq_some_iff.mp headKnown
    cases accepted with
    | cons first others =>
      exact .cons (types _ _ _ typeKnown first) (inductionHypothesis tailKnown others)

theorem inhabits_of_unlisted {name : Text} {shape : Shape} {value : Json ρ}
    (missing : listing.lookup name = none)
    (known : Shape.primitive <$> Primitive.ofText? name = some shape)
    (accepted : shape.Accepts value) : Inhabits listing (.word name) value := by
  obtain ⟨type, found, rfl⟩ := Option.map_eq_some_iff.mp known
  cases accepted with
  | primitive taken => exact .primitive missing found taken

/-- What belongs to the shape that a word expands to belongs to the word. By induction on
the rounds: a listed name is replaced by a record whose types have one round less. -/
theorem inhabits_of_expandWord (rounds : Nat) (name : Text) (shape : Shape) (value : Json ρ)
    (known : expandWord listing rounds name = some shape) (accepted : shape.Accepts value) :
    Inhabits listing (.word name) value := by
  induction rounds generalizing name shape value with
  | zero =>
    rw [expandWord] at known
    split at known
    · exact absurd known (by simp)
    · next missing => exact inhabits_of_unlisted missing known accepted
  | succ rounds inductionHypothesis =>
    rw [expandWord] at known
    split at known
    · next properties listed =>
      obtain ⟨fields, fieldsKnown, rfl⟩ := Option.map_eq_some_iff.mp known
      cases accepted with
      | record each =>
        refine .declared listed (inhabitsAll_of_fields ?_ fieldsKnown each)
        intro type shape value typeKnown taken
        exact inhabits_of_shape inductionHypothesis typeKnown taken
    · next missing => exact inhabits_of_unlisted missing known accepted

/-- What belongs to the shape that a type expands to belongs to the type. -/
theorem inhabits_of_expand {rounds : Nat} {type : Text} {shape : Shape} {value : Json ρ}
    (known : expand listing rounds type = some shape) (accepted : shape.Accepts value) :
    Inhabits listing (.ofText type) value :=
  inhabits_of_shape (inhabits_of_expandWord rounds) known accepted

end Expansion

namespace Generator

/-- Under the declarations of an object `Root` expands to its shape. -/
theorem declarations_expand {style : Style} {members : Members ρ} {registry : Registry Entry}
    (returned : declarations style (.object members) = .ok registry)
    (dateless : Primitive.date.text ∉ registry.names) :
    expand registry.listing registry.size TypeName.root = some (Json.object members).shape := by
  let candidates := (Json.object members).visited TypeName.root
  let named := (candidates.reserve (.empty : Registry Entry)).1
  obtain ⟨type, walked⟩ := declarations_iff.mp returned
  have performed := generate_performs walked
  have inserted := declarations_inserted returned
  have rootFree : (Registry.empty : Registry Entry).freeName TypeName.root = TypeName.root :=
    Registry.freeName_of_free rfl
  have typed : named.type.text = TypeName.root := rootFree
  have listed : registry.listing = listingOf named := Registry.listing_of_declared inserted
  have size : (listingOf named).length ≤ registry.size := by
    rw [listingOf, Registry.size, inserted, List.length_map, List.length_map]
  have undated : Primitive.date.text ∉ named.names := fun dated =>
    dateless (performed.names_inserted dated)
  have expanded := outline_expands (candidates.reserve_free _).1
    (Outline.reserve_words (Json.visited_words (by decide) _) _) undated size
  rw [listed, ← typed, expanded, Outline.reserve_shape]
  exact congrArg some (Json.outline_shape _ _)

/-- The output for an object is never empty, and its listing is read from its blocks. -/
theorem object_read_back {style : Style} {members : Members ρ} {registry : Registry Entry}
    (returned : declarations style (.object members) = .ok registry) :
    registry.text = Text.join "\n\n" (registry.listing.map
        fun (name, properties) => style.declaration name properties) ∧
      registry.text.blocks.mapM style.readDeclaration? = some registry.listing := by
  obtain ⟨listed, inserted, linear⟩ := declarations_linear returned
  have filled : listed ≠ [] := by
    rintro rfl
    obtain ⟨earlier, properties, root⟩ := declarations_root returned
    exact absurd (inserted.symm.trans root) (by simp)
  obtain ⟨whole, _, read⟩ := Registry.text_read_back inserted linear filled
  rw [Registry.texts_of_listing inserted, List.map_map] at whole
  exact ⟨whole, read⟩

/-- Converting host data that are admitted as an object with even arrays gives declarations
which the object inhabits as `Root`, unless one of them is named `Date`. The declarations are those
in the output: they are its blocks between blank lines, and what they say is read from these. -/
theorem root_inhabited {style : Style} {datum : Datum} {members : Members Datum} {output : Text}
    (admitted : datum.toJson = .ok (.object members)) (even : (Json.object members).Even)
    (returned : convertDatum style datum = .ok output) :
    ∃ registry, declarations style (.object members) = .ok registry ∧
      output = Text.join "\n\n" (registry.listing.map
        fun (name, properties) => style.declaration name properties) ∧
      output.blocks.mapM style.readDeclaration? = some registry.listing ∧
      (Primitive.date.text ∉ registry.names →
        Inhabits registry.listing (.ofText TypeName.root) (.object members)) := by
  obtain ⟨value, registry, admittedAgain, walked, rendered⟩ := convertDatum_iff.mp returned
  have same : value = .object members := Except.ok.inj (admittedAgain.symm.trans admitted)
  subst same rendered
  obtain ⟨whole, read⟩ := object_read_back walked
  refine ⟨registry, walked, whole, read, ?_⟩
  intro dateless
  have belongs := (Json.object members).shape_accepts even
  exact inhabits_of_expand (declarations_expand walked dateless) belongs

/-- Host data with an array of alike objects and an array of several kinds. -/
def mingled : Datum :=
  .mapping [(.text "ids", .list [.mapping [(.text "id", .number (.int 1))],
      .mapping [(.text "id", .number (.int 2))]]),
    (.text "values", .list [.text "2025-03-30T12:00:00Z", .mapping [], .none])]

/-- The members that they are admitted as. -/
def mingledMembers : Members Datum :=
  [("ids", .array [.object [("id", .number (.int 1))], .object [("id", .number (.int 2))]]),
    ("values", .array [.string "2025-03-30T12:00:00Z", .object [], .null])]

theorem mingled_inhabits :
    ∃ (output : Text) (listing : Listing), convertDatum {} mingled = .ok output ∧
      output.blocks.mapM (Style.readDeclaration? {}) = some listing ∧
      Inhabits listing (.ofText TypeName.root) (.object mingledMembers) := by
  have admitted : mingled.toJson = .ok (.object mingledMembers) := rfl
  have even : (Json.object mingledMembers).Even := by
    have alike : ArrayType.Even ([.object [("id", .number (.int 1))],
        .object [("id", .number (.int 2))]] : List (Json Datum)) :=
      .inl (List.pairwise_pair.mpr rfl)
    have several : ArrayType.Even ([.string "2025-03-30T12:00:00Z", .object [], .null] :
        List (Json Datum)) :=
      .inr ⟨.object [], by simp [sampleSize], .null, by simp [sampleSize], by decide⟩
    have one : (Json.number (.int 1) : Json Datum).Even := Json.even_scalar rfl
    have two : (Json.number (.int 2) : Json Datum).Even := Json.even_scalar rfl
    have date : (Json.string "2025-03-30T12:00:00Z" : Json Datum).Even := Json.even_scalar rfl
    have none : (Json.null : Json Datum).Even := Json.even_scalar rfl
    simp [mingledMembers, Json.even_object_iff, Json.even_array_iff, alike, several, one, two,
      date, none]
  have typed : (runOn .empty (generate {} TypeName.root (.object mingledMembers))).1.toOption =
      some (.named TypeName.root) := by decide +kernel
  have named : (runOn .empty (generate {} TypeName.root (.object mingledMembers))).2.names =
      [Text.ofString "Id", TypeName.root] := by decide +kernel
  obtain ⟨registry, walked⟩ := runOn_returns typed
  rw [walked] at named
  have declared := declarations_iff.mpr ⟨_, walked⟩
  have returned := convertDatum_iff.mpr ⟨_, registry, admitted, declared, rfl⟩
  obtain ⟨found, again, _, read, belongs⟩ := root_inhabited admitted even returned
  have same : found = registry := Except.ok.inj (again.symm.trans declared)
  subst same
  refine ⟨found.text, found.listing, returned, read, belongs ?_⟩
  rw [named]
  decide

end Generator

end TypeSketch
