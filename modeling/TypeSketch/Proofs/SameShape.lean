import TypeSketch.Proofs.Lockstep

/-!
# Values of the same shape

The output follows from the shape of a value. All that a walk visits can be read off the shape:
which objects there are, under which keys, and how deep in arrays. So two values of the same shape
have the same outline, the same names are reserved for it, and the same declarations are written.

Some replacements keep the shape: a number for a number, a string that is no timestamp for
another, and an element behind the first one of an array of one kind for another of its kind,
at any place in a value. In these cases no walk sees a difference, so nothing of the outcome
changes, be it an output or a failure.
-/

namespace TypeSketch

variable {ρ σ : Type}

namespace Shape

/-- The primitive type that a shape is, if it is one. -/
def primitive? : Shape → Option Primitive
  | .primitive type => some type
  | .record _ | .array _ | .union _ => none

mutual

/-- The objects in a shape with the names they are candidates for. -/
def outline (name : Text) : Shape → Outline
  | .primitive type => .primitive type
  | .record fields => .record name (fieldOutlines fields)
  | .array element => .array (element.outline name)
  | .union members => .union (members.filterMap primitive?)

def fieldOutlines : List (Text × Shape) → List (Text × Outline)
  | [] => []
  | (key, shape) :: rest => (key, shape.outline (TypeName.suggest key)) :: fieldOutlines rest

end

/-- The name that the objects of a whole value of this shape begin with. -/
def topName (name : Text) : Shape → Text
  | .record _ => name
  | .primitive _ | .array _ | .union _ => TypeName.fallback

end Shape

namespace Json

mutual

/-- Nothing but the shape of a value is in its outline. -/
theorem shape_outline (name : Text) (value : Json ρ) :
    value.shape.outline name = value.outline name := by
  match value with
  | .null | .bool _ | .number _ | .string _ | .foreign _ => rfl
  | .array [] => rfl
  | .array (first :: rest) =>
    rw [shape, outline]
    split
    · rw [Shape.outline, shape_outline name first]
    · rw [Shape.outline, ArrayType.mixedShape, ArrayType.mixedOutline]
      split
      · rfl
      · rw [Shape.outline, List.filterMap_map]
        exact congrArg (Outline.array ∘ Outline.union) List.filterMap_some
  | .object members => rw [shape, outline, Shape.outline, fieldShapes_outline members]

theorem fieldShapes_outline (members : Members ρ) :
    Shape.fieldOutlines (fieldShapes members) = fieldOutlines members := by
  match members with
  | [] => rfl
  | (key, value) :: rest =>
    rw [fieldShapes, fieldOutlines, Shape.fieldOutlines, shape_outline, fieldShapes_outline rest]

end

theorem shape_topName (name : Text) (value : Json ρ) :
    value.shape.topName name = value.topName name := by
  match value with
  | .null | .bool _ | .number _ | .string _ | .foreign _ | .object _ => rfl
  | .array [] => rfl
  | .array (first :: rest) =>
    rw [shape]
    split <;> rfl

/-- Values of the same shape are visited alike. -/
theorem visited_of_shape {value : Json ρ} {other : Json σ} (same : value.shape = other.shape)
    (name : Text) : value.visited name = other.visited name := by
  rw [visited, visited, ← shape_outline, ← shape_outline, ← shape_topName, ← shape_topName, same]

end Json

namespace Generator

/-- Values of the same shape have the same declarations. -/
theorem declarations_of_shape {style : Style} {value : Json ρ} {other : Json σ}
    {registry another : Registry Entry} (same : value.shape = other.shape)
    (returned : declarations style value = .ok registry)
    (returnedOther : declarations style other = .ok another) :
    registry.inserted = another.inserted := by
  rw [declarations_inserted returned, declarations_inserted returnedOther,
    Json.visited_of_shape same]

end Generator

open ArrayType Generator

/-- One part of a value is replaced by another that looks the same: a number by a number, a
string that is no timestamp by another, or an element behind the first one of an array of one kind
by another of its kind. -/
inductive Json.Replaces : Json ρ → Json ρ → Prop where
  | number (old new : Number) : Replaces (.number old) (.number new)
  | string {old new : Text} (plain : old.isTimestamp = false) (plainNew : new.isTimestamp = false) :
      Replaces (.string old) (.string new)
  | element {first old new : Json ρ} {before after : List (Json ρ)} {kind : CoarseKind}
      (oneKind : OneKind (first :: (before ++ old :: after)))
      (isKind : old.coarseKind = .ok kind) (isKindNew : new.coarseKind = .ok kind) :
      Replaces (.array (first :: (before ++ old :: after)))
        (.array (first :: (before ++ new :: after)))
  | inElement {old new : Json ρ} {before after : List (Json ρ)} (inner : Replaces old new) :
      Replaces (.array (before ++ old :: after)) (.array (before ++ new :: after))
  | inMember {key : Text} {old new : Json ρ} {before after : Members ρ}
      (inner : Replaces old new) :
      Replaces (.object (before ++ (key, old) :: after)) (.object (before ++ (key, new) :: after))

namespace ArrayType

/-- Whether a sample is of one kind is a matter of the kinds in their order. -/
theorem oneKind_congr {elements others : List (Json ρ)}
    (same : elements.map Json.kind? = others.map Json.kind?) :
    OneKind elements ↔ OneKind others := by
  have listed (elements : List (Json ρ)) : OneKind elements ↔
      ∀ a ∈ (elements.map Json.kind?).take sampleSize,
        ∀ b ∈ (elements.map Json.kind?).take sampleSize, a = b := by
    rw [OneKind, ← List.map_take, List.forall_mem_map]
    exact forall₂_congr fun a _ => List.forall_mem_map.symm
  rw [listed, listed, same]

/-- Elements that are the same but for one differ from each other at most as this one does. -/
theorem forall₂_replaced {α : Type} {R : α → α → Prop} (reflexive : ∀ a, R a a) {old new : α}
    (here : R old new) (before after : List α) :
    List.Forall₂ R (before ++ old :: after) (before ++ new :: after) := by
  induction before with
  | nil => exact .cons here (List.forall₂_same.mpr fun a _ => reflexive a)
  | cons first rest inductionHypothesis => exact .cons (reflexive first) inductionHypothesis

theorem sameKind_refl (element : Json ρ) : SameKind id element element :=
  (mapError_id element.coarseKind).symm

theorem SameKind.kind? {element other : Json ρ} (same : SameKind id element other) :
    element.kind? = other.kind? := by
  rw [Json.kind?, Json.kind?, same, mapError_id]

end ArrayType

namespace Json

theorem fieldShapes_append (before after : Members ρ) :
    fieldShapes (before ++ after) = fieldShapes before ++ fieldShapes after := by
  induction before with
  | nil => rfl
  | cons member rest inductionHypothesis =>
    obtain ⟨key, value⟩ := member
    rw [List.cons_append, fieldShapes, fieldShapes, inductionHypothesis, List.cons_append]

variable {value other : Json ρ}

/-- A replacement changes neither the kind nor the primitive type of the whole. -/
theorem Replaces.sameKind (replaces : Replaces value other) :
    SameKind id value other ∧ other.primitive = value.primitive := by
  cases replaces with
  | number | element | inElement | inMember => exact ⟨rfl, rfl⟩
  | string plain plainNew =>
    refine ⟨rfl, ?_⟩
    rw [primitive, primitive, plain, plainNew]

/-- No walk sees the difference. -/
theorem Replaces.alike (replaces : Replaces value other) : Alike id value other := by
  induction replaces with
  | number old new => exact .scalar rfl rfl rfl rfl
  | string plain plainNew =>
    have same := Replaces.sameKind (ρ := ρ) (.string plain plainNew)
    exact .scalar rfl rfl same.1 same.2
  | @element first old new before after kind oneKind isKind isKindNew =>
    have here : SameKind id old new := by
      rw [SameKind, isKind, isKindNew]
      rfl
    have each := List.Forall₂.cons (sameKind_refl first)
      (forall₂_replaced sameKind_refl here before after)
    have kinds : (first :: (before ++ old :: after)).map kind? =
        (first :: (before ++ new :: after)).map kind? := by
      simp only [List.map_cons, List.map_append, here.kind?]
    exact .array (settled_oneKind each oneKind ((oneKind_congr kinds).mp oneKind)) (.refl first)
  | @inElement old new before after inner inductionHypothesis =>
    obtain ⟨here, primitive⟩ := inner.sameKind
    have each := forall₂_replaced sameKind_refl here before after
    have primitives : (before ++ new :: after).map Json.primitive =
        (before ++ old :: after).map Json.primitive := by
      simp only [List.map_cons, List.map_append, primitive]
    have settled := settled_sameKind each primitives
    cases before with
    | nil => exact .array settled inductionHypothesis
    | cons first rest => exact .array settled (.refl first)
  | @inMember key old new before after inner inductionHypothesis =>
    have same (members : Members ρ) : AlikeAll id members members := by
      cases Alike.refl (Json.object members) with
      | scalar scalar => exact absurd scalar Bool.false_ne_true
      | object each => exact each
    refine .object ?_
    induction before with
    | nil => exact .cons inductionHypothesis (same after)
    | cons member rest others =>
      obtain ⟨name, value⟩ := member
      exact .cons (.refl value) others

/-- The shape stays the same. -/
theorem Replaces.shape (replaces : Replaces value other) : value.shape = other.shape := by
  induction replaces with
  | number old new => rfl
  | string plain plainNew =>
    rw [Json.shape, Json.shape]
    · rw [primitive, primitive, plain, plainNew]
    all_goals simp
  | @element first old new before after kind oneKind isKind isKindNew =>
    have kinds : (first :: (before ++ old :: after)).map kind? =
        (first :: (before ++ new :: after)).map kind? := by
      simp only [List.map_cons, List.map_append, kind?, isKind, isKindNew]
    rw [Json.shape, Json.shape, if_pos oneKind, if_pos ((oneKind_congr kinds).mp oneKind)]
  | @inElement old new before after inner inductionHypothesis =>
    obtain ⟨here, primitive⟩ := inner.sameKind
    have kinds : (before ++ old :: after).map kind? = (before ++ new :: after).map kind? := by
      simp only [List.map_cons, List.map_append, here.kind?]
    have mixed : mixedShape (before ++ old :: after) = mixedShape (before ++ new :: after) := by
      have found (elements : List (Json ρ)) : elements.filterMap kind? =
          (elements.map kind?).filterMap id := by
        rw [List.filterMap_map, Function.id_comp]
      rw [mixedShape, mixedShape, kindCount, kindCount, found, found, kinds, memberTypes,
        memberTypes]
      simp only [List.map_cons, List.map_append, primitive]
    have alone := oneKind_congr kinds
    cases before with
    | nil =>
      simp only [List.nil_append] at alone mixed ⊢
      rw [Json.shape, Json.shape, inductionHypothesis, mixed]
      simp only [alone]
    | cons first rest =>
      simp only [List.cons_append] at alone mixed ⊢
      rw [Json.shape, Json.shape, mixed]
      simp only [alone]
  | @inMember key old new before after inner inductionHypothesis =>
    rw [Json.shape, Json.shape, fieldShapes_append, fieldShapes_append, fieldShapes, fieldShapes,
      inductionHypothesis]

end Json

namespace Generator

/-- A replacement changes neither the declarations nor the way in which a walk fails. -/
theorem declarations_replaced {value other : Json ρ} (replaces : value.Replaces other)
    (style : Style) : declarations style other = declarations style value := by
  have redeclared (declaration : Declaration) :
      id (Entry.declared style declaration) = .declared style declaration := rfl
  have mirrored := declarations_mirror redeclared replaces.alike
  rw [WalkFault.map_id, Registry.map_id, mapError_id] at mirrored
  rw [mirrored]
  cases declarations style value <;> rfl

/-- Registries with the same insertions have the same text. -/
theorem text_of_inserted {registry another : Registry Entry}
    (same : registry.inserted = another.inserted) : registry.text = another.text := by
  rw [Registry.text, Registry.text, same]

/-- The output depends on nothing but the shape. In every style, two data or two texts that are
converted and whose values have the same shape have the same output. A replacement at any place of
a value keeps the shape, and it changes nothing of the outcome: the output is the same, and so is
the failure where there is none. -/
theorem output_follows_shape (style : Style) :
    (∀ (datum datumOther : Datum) (value other : Json Datum) (output outputOther : Text),
      datum.toJson = .ok value → datumOther.toJson = .ok other → value.shape = other.shape →
        convertDatum style datum = .ok output → convertDatum style datumOther = .ok outputOther →
          output = outputOther) ∧
    (∀ (text textOther : Text) (value other : Document) (output outputOther : Text),
      Document.ofText text = .ok value → Document.ofText textOther = .ok other →
        value.shape = other.shape →
          convert style text = .ok output → convert style textOther = .ok outputOther →
            output = outputOther) ∧
    (∀ (datum datumOther : Datum) (value other : Json Datum),
      datum.toJson = .ok value → datumOther.toJson = .ok other → value.Replaces other →
        value.shape = other.shape ∧ convertDatum style datumOther = convertDatum style datum) ∧
    ∀ (text textOther : Text) (value other : Document),
      Document.ofText text = .ok value → Document.ofText textOther = .ok other →
        value.Replaces other →
          value.shape = other.shape ∧ convert style textOther = convert style text := by
  refine ⟨?_, ?_, ?_, ?_⟩
  · intro datum datumOther value other output outputOther admitted admittedOther same returned
      returnedOther
    obtain ⟨found, registry, again, walked, rfl⟩ := convertDatum_iff.mp returned
    obtain ⟨foundOther, another, againOther, walkedOther, rfl⟩ :=
      convertDatum_iff.mp returnedOther
    obtain rfl := Except.ok.inj (admitted.symm.trans again)
    obtain rfl := Except.ok.inj (admittedOther.symm.trans againOther)
    exact text_of_inserted (declarations_of_shape same walked walkedOther)
  · intro text textOther value other output outputOther read readOther same returned
      returnedOther
    obtain ⟨found, registry, again, walked, rfl⟩ := convert_iff.mp returned
    obtain ⟨foundOther, another, againOther, walkedOther, rfl⟩ := convert_iff.mp returnedOther
    obtain rfl := Except.ok.inj (read.symm.trans again)
    obtain rfl := Except.ok.inj (readOther.symm.trans againOther)
    exact text_of_inserted (declarations_of_shape same walked walkedOther)
  · intro datum datumOther value other admitted admittedOther replaces
    refine ⟨replaces.shape, ?_⟩
    rw [convertDatum, convertDatum, admitted, admittedOther]
    change ((declarations style other).mapError _ >>= _) =
      ((declarations style value).mapError _ >>= _)
    rw [declarations_replaced replaces]
  · intro text textOther value other read readOther replaces
    refine ⟨replaces.shape, ?_⟩
    rw [convert, convert, read, readOther]
    change ((declarations style other).mapError _ >>= _) =
      ((declarations style value).mapError _ >>= _)
    rw [declarations_replaced replaces]

/-- A list whose first element is a record of a number. -/
def tally : Json ρ := .array [.object [("n", .number (.int 1))], .object [("m", .null)]]

/-- A longer list that begins with another number. -/
def recount : Json ρ :=
  .array [.object [("n", .number (.int 30))], .object [], .object [("m", .string "x")]]

/-- The first list with another object behind the first one. -/
def amended : Json ρ := .array [.object [("n", .number (.int 1))], .object []]

def tallyText : Text := "[\x7b\"n\": 1\x7d, \x7b\"m\": null\x7d]"

def recountText : Text := "[\x7b\"n\": 30\x7d, \x7b\x7d, \x7b\"m\": \"x\"\x7d]"

def amendedText : Text := "[\x7b\"n\": 1\x7d, \x7b\x7d]"

/-- What they all declare. -/
def tallyOutput : Text := "export interface Item \x7b\n  n: number;\n\x7d"

theorem tally_recounted :
    ((tally : Json Datum).Replaces amended ∧
      (tally : Json Datum).shape = (recount : Json Datum).shape) ∧
    (convertDatum ⟨true, false⟩ (.json tally) = .ok tallyOutput ∧
      convertDatum ⟨true, false⟩ (.json recount) = .ok tallyOutput ∧
      convertDatum ⟨true, false⟩ (.json amended) = .ok tallyOutput) ∧
    convert ⟨true, false⟩ tallyText = .ok tallyOutput ∧
      convert ⟨true, false⟩ recountText = .ok tallyOutput ∧
      convert ⟨true, false⟩ amendedText = .ok tallyOutput := by
  obtain ⟨data, texts, replacedData, replacedTexts⟩ := output_follows_shape ⟨true, false⟩
  have replaced : (tally : Json Datum).Replaces amended :=
    @Json.Replaces.element _ _ _ _ [] _ _ (by decide) rfl rfl
  have replacedRead : (tally : Document).Replaces amended :=
    @Json.Replaces.element _ _ _ _ [] _ _ (by decide) rfl rfl
  have converted : convertDatum ⟨true, false⟩ (.json tally) = .ok tallyOutput := rfl
  have convertedText : convert ⟨true, false⟩ tallyText = .ok tallyOutput := rfl
  obtain ⟨output, returned⟩ :
      ∃ output, convertDatum ⟨true, false⟩ (.json recount) = .ok output := ⟨_, rfl⟩
  obtain ⟨outputText, returnedText⟩ :
      ∃ output, convert ⟨true, false⟩ recountText = .ok output := ⟨_, rfl⟩
  have same := data (.json tally) (.json recount) tally recount tallyOutput output rfl rfl rfl
    converted returned
  have sameText := texts tallyText recountText tally recount tallyOutput outputText rfl rfl rfl
    convertedText returnedText
  rw [← same] at returned
  rw [← sameText] at returnedText
  obtain ⟨_, amendedData⟩ :=
    replacedData (.json tally) (.json amended) tally amended rfl rfl replaced
  obtain ⟨_, amendedRead⟩ := replacedTexts tallyText amendedText tally amended rfl rfl replacedRead
  exact ⟨⟨replaced, rfl⟩, ⟨converted, returned, amendedData.trans converted⟩, convertedText,
    returnedText, amendedRead.trans convertedText⟩

end Generator

end TypeSketch
