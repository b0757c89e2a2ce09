import TypeSketch.ArrayType

/-!
# The structural type of a value

A shape says what a value looks like without giving names to its objects: a scalar has its
primitive type, an object is the record of its members, and an array has the shape of its
first element when its sample is of one kind. Any other array follows from all its
elements: it mixes their primitive types, or is an array of anything when the kinds are
too many.

Shapes are read off the value alone, with no registry and no order of work. The kinds are
taken as they come, so a foreign member has none; `settled_exact` relates this to the
search that stops at a foreign member.
-/

namespace TypeSketch

variable {ρ : Type}

namespace Json

/-- The category of a value, and none for a foreign member. -/
def kind? (value : Json ρ) : Option CoarseKind := value.coarseKind.toOption

/-- A foreign member, and none for a JSON value. -/
def foreign? : Json ρ → Option ρ
  | .foreign value => some value
  | _ => none

/-- A value has a category unless it is foreign. -/
theorem coarseKind_eq (value : Json ρ) :
    (∃ kind, value.coarseKind = .ok kind ∧ value.kind? = some kind ∧ value.foreign? = none) ∨
      ∃ raw, value = .foreign raw := by
  cases value with
  | foreign raw => exact .inr ⟨raw, rfl⟩
  | null | bool | number | string | array | object => exact .inl ⟨_, rfl, rfl, rfl⟩

theorem genuine_of_kind {value : Json ρ} {kind : CoarseKind} (isKind : value.coarseKind = .ok kind) :
    value.kind? = some kind ∧ value.foreign? = none := by
  rcases value.coarseKind_eq with ⟨own, found, isOwn, genuine⟩ | ⟨raw, rfl⟩
  · obtain rfl : own = kind := Except.ok.inj (found.symm.trans isKind)
    exact ⟨isOwn, genuine⟩
  · exact nomatch isKind

/-- Induction over a value: the elements of an array and the members of an object come
before the value that holds them. -/
@[elab_as_elim]
theorem elimination {motive : Json ρ → Prop} (null : motive .null)
    (bool : ∀ value, motive (.bool value)) (number : ∀ value, motive (.number value))
    (string : ∀ value, motive (.string value))
    (array : ∀ elements, (∀ element ∈ elements, motive element) → motive (.array elements))
    (object : ∀ members, (∀ member ∈ members, motive member.2) → motive (.object members))
    (foreign : ∀ value, motive (.foreign value)) (value : Json ρ) : motive value := by
  match value with
  | .null => exact null
  | .bool value => exact bool value
  | .number value => exact number value
  | .string value => exact string value
  | .array elements =>
    exact array elements fun element _ =>
      elimination null bool number string array object foreign element
  | .object members =>
    exact object members fun member _ =>
      elimination null bool number string array object foreign member.2
  | .foreign value => exact foreign value
termination_by sizeOf value
decreasing_by
  · have smaller := List.sizeOf_lt_of_mem ‹element ∈ elements›
    simp only [Json.array.sizeOf_spec]
    omega
  · have smaller := List.sizeOf_lt_of_mem ‹member ∈ members›
    obtain ⟨key, value⟩ := member
    simp only [Json.object.sizeOf_spec, Prod.mk.sizeOf_spec] at smaller ⊢
    omega

end Json

namespace ArrayType

/-- No two elements of the sample differ in kind. -/
def OneKind (elements : List (Json ρ)) : Prop :=
  ∀ a ∈ elements.take sampleSize, ∀ b ∈ elements.take sampleSize, a.kind? = b.kind?

instance (elements : List (Json ρ)) : Decidable (OneKind elements) :=
  inferInstanceAs (Decidable (∀ a ∈ elements.take sampleSize,
    ∀ b ∈ elements.take sampleSize, a.kind? = b.kind?))

/-- The first foreign element. -/
def firstForeign? (elements : List (Json ρ)) : Option ρ := elements.findSome? Json.foreign?

/-- How many kinds occur among all elements. -/
def kindCount (elements : List (Json ρ)) : Nat :=
  (elements.filterMap Json.kind?).eraseDups.length

/-- The primitive types of all elements in order of first occurrence. -/
def memberTypes (elements : List (Json ρ)) : List Primitive :=
  (elements.map Json.primitive).eraseDups

theorem mem_memberTypes {elements : List (Json ρ)} {type : Primitive} :
    type ∈ memberTypes elements ↔ ∃ element ∈ elements, element.primitive = type := by
  rw [memberTypes, List.mem_eraseDups, List.mem_map]

/-- The element type of an array whose sample is of several kinds. -/
def mixedType (elements : List (Json ρ)) : TypeExpr :=
  if maxUnionKinds < kindCount elements then .primitive .any else .union (memberTypes elements)

end ArrayType

/-- A type in which every object is described in place. -/
inductive Shape where
  | primitive (type : Primitive)
  | record (fields : List (Text × Shape))
  | array (element : Shape)
  | union (members : List Shape)
deriving Repr

open ArrayType

/-- The shape of the elements of an array whose sample is of several kinds. -/
def ArrayType.mixedShape (elements : List (Json ρ)) : Shape :=
  if maxUnionKinds < kindCount elements then .primitive .any
  else .union ((memberTypes elements).map .primitive)

namespace Json

mutual

/-- The structural type of a value. -/
def shape : Json ρ → Shape
  | .object members => .record (fieldShapes members)
  | .array [] => .array (.primitive .any)
  | .array (first :: rest) =>
    if OneKind (first :: rest) then .array first.shape else .array (mixedShape (first :: rest))
  | scalar => .primitive scalar.primitive

/-- The structural types of members in order, each with its key. -/
def fieldShapes : Members ρ → List (Text × Shape)
  | [] => []
  | (key, value) :: rest => (key, value.shape) :: fieldShapes rest

end

end Json

namespace ArrayType

/-- The search for the kinds of elements stops at the first foreign one. If there is none, it finds
the kinds of all. -/
theorem collected_kinds (elements : List (Json ρ)) :
    elements.mapM Json.coarseKind = match firstForeign? elements with
      | some value => .error value
      | none => .ok (elements.filterMap Json.kind?) := by
  induction elements with
  | nil => rfl
  | cons first rest inductionHypothesis =>
    rw [List.mapM_cons, inductionHypothesis]
    rcases first.coarseKind_eq with ⟨kind, found, isKind, genuine⟩ | ⟨raw, rfl⟩
    · have later : firstForeign? (first :: rest) = firstForeign? rest := by
        rw [firstForeign?, List.findSome?_cons, genuine, firstForeign?]
      rw [found, later, List.filterMap_cons_some isKind]
      cases firstForeign? rest <;> rfl
    · rfl

theorem kinds_eq (elements : List (Json ρ)) :
    kinds elements = match firstForeign? elements with
      | some value => .error value
      | none => .ok (elements.filterMap Json.kind?).eraseDups := by
  rw [kinds, collected_kinds]
  cases firstForeign? elements <;> rfl

theorem mem_of_firstForeign {elements : List (Json ρ)} {raw : ρ}
    (found : firstForeign? elements = some raw) : .foreign raw ∈ elements := by
  obtain ⟨element, member, isForeign⟩ := List.exists_of_findSome?_eq_some found
  cases element with
  | foreign value =>
    obtain rfl : value = raw := Option.some.inj isForeign
    exact member
  | null | bool | number | string | array | object => exact nomatch isForeign

/-- A foreign element of the sample is the first one of all. -/
theorem firstForeign_of_sample {elements : List (Json ρ)} {raw : ρ}
    (found : firstForeign? (elements.take sampleSize) = some raw) :
    firstForeign? elements = some raw := by
  rw [firstForeign?, ← List.take_append_drop sampleSize elements, List.findSome?_append,
    ← firstForeign?, found, Option.some_or]

/-- A sample has no foreign element if the array has none. -/
theorem sample_genuine {elements : List (Json ρ)} (genuine : firstForeign? elements = none) :
    firstForeign? (elements.take sampleSize) = none := by
  cases sample : firstForeign? (elements.take sampleSize) with
  | some value => exact genuine ▸ (firstForeign_of_sample sample).symm
  | none => rfl

/-- Where there is no foreign element, every element has a kind. -/
theorem kind_of_genuine {elements : List (Json ρ)} (genuine : firstForeign? elements = none)
    {element : Json ρ} (member : element ∈ elements) :
    ∃ kind, element.coarseKind = .ok kind ∧ element.kind? = some kind := by
  have notForeign := List.findSome?_eq_none_iff.mp genuine element member
  rcases element.coarseKind_eq with ⟨kind, found, isKind, _⟩ | ⟨raw, rfl⟩
  · exact ⟨kind, found, isKind⟩
  · exact absurd notForeign (Option.some_ne_none raw)

/-- A non-empty list keeps a single entry exactly if all its entries are equal. -/
theorem eraseDups_single_iff {α : Type} [BEq α] [LawfulBEq α] {entries : List α}
    (filled : entries ≠ []) :
    entries.eraseDups.length = 1 ↔ ∀ a ∈ entries, ∀ b ∈ entries, a = b := by
  obtain ⟨first, rest, rfl⟩ := List.exists_cons_of_ne_nil filled
  rw [List.eraseDups_cons, List.length_cons, Nat.add_eq_right, List.length_eq_zero_iff]
  constructor
  · intro noOther a inA b inB
    have isFirst (entry : α) (member : entry ∈ first :: rest) : entry = first := by
      rcases List.mem_cons.mp member with same | later
      · exact same
      · refine Classical.byContradiction fun different => ?_
        have kept : entry ∈ (rest.filter fun other => !other == first).eraseDups :=
          List.mem_eraseDups.mpr (List.mem_filter.mpr ⟨later, by simpa using different⟩)
        rw [noOther] at kept
        exact List.not_mem_nil kept
    rw [isFirst a inA, isFirst b inB]
  · intro allEqual
    have noOther : (rest.filter fun other => !other == first) = [] := by
      rw [List.filter_eq_nil_iff]
      intro other member
      simp [allEqual other (List.mem_cons_of_mem _ member) first List.mem_cons_self]
    rw [noOther, List.eraseDups_nil]

/-- The sample of a non-empty array has one kind exactly if no two of its elements differ
in kind. -/
theorem sample_kind_iff {first : Json ρ} {rest : List (Json ρ)}
    (genuine : firstForeign? ((first :: rest).take sampleSize) = none) :
    (((first :: rest).take sampleSize).filterMap Json.kind?).eraseDups.length = 1 ↔
      OneKind (first :: rest) := by
  have kindOf {element : Json ρ} (member : element ∈ (first :: rest).take sampleSize) :=
    kind_of_genuine genuine member
  have sampled : first ∈ (first :: rest).take sampleSize := List.mem_cons_self
  have filled : ((first :: rest).take sampleSize).filterMap Json.kind? ≠ [] := by
    obtain ⟨kind, _, isKind⟩ := kindOf sampled
    exact List.ne_nil_of_mem (List.mem_filterMap.mpr ⟨first, sampled, isKind⟩)
  rw [eraseDups_single_iff filled]
  constructor
  · intro allEqual a inA b inB
    obtain ⟨kindA, _, isA⟩ := kindOf inA
    obtain ⟨kindB, _, isB⟩ := kindOf inB
    rw [isA, isB, allEqual kindA (List.mem_filterMap.mpr ⟨a, inA, isA⟩) kindB
      (List.mem_filterMap.mpr ⟨b, inB, isB⟩)]
  · intro oneKind kindA inA kindB inB
    obtain ⟨a, sampledA, isA⟩ := List.mem_filterMap.mp inA
    obtain ⟨b, sampledB, isB⟩ := List.mem_filterMap.mp inB
    have same := oneKind a sampledA b sampledB
    rw [isA, isB] at same
    exact Option.some.inj same

/-- The array is not empty, and its sample shares one kind: the first element decides the type. -/
def Uniform (elements : List (Json ρ)) : Prop :=
  elements ≠ [] ∧ ∃ kind, ∀ element ∈ elements.take sampleSize, element.coarseKind = .ok kind

theorem uniform_iff {first : Json ρ} {rest : List (Json ρ)} :
    Uniform (first :: rest) ↔
      firstForeign? ((first :: rest).take sampleSize) = none ∧ OneKind (first :: rest) := by
  constructor
  · rintro ⟨_, kind, shared⟩
    have genuine (element : Json ρ) (member : element ∈ (first :: rest).take sampleSize) :=
      Json.genuine_of_kind (shared element member)
    constructor
    · exact List.findSome?_eq_none_iff.mpr fun element member => (genuine element member).2
    · intro a inA b inB
      rw [(genuine a inA).1, (genuine b inB).1]
  · rintro ⟨genuine, oneKind⟩
    have sampled : first ∈ (first :: rest).take sampleSize := List.mem_cons_self
    obtain ⟨kind, _, isKind⟩ := kind_of_genuine genuine sampled
    refine ⟨List.cons_ne_nil first rest, kind, ?_⟩
    intro element member
    obtain ⟨own, found, isOwn⟩ := kind_of_genuine genuine member
    have same := oneKind first sampled element member
    rw [isKind, isOwn] at same
    rw [found, Option.some.inj same]

instance (elements : List (Json ρ)) : Decidable (Uniform elements) :=
  match elements with
  | [] => .isFalse fun uniform => uniform.1 rfl
  | _ :: _ => decidable_of_iff _ uniform_iff.symm

/-- A foreign element in the sample keeps the array from being uniform. -/
theorem not_uniform_of_foreign {first : Json ρ} {rest : List (Json ρ)} {raw : ρ}
    (found : firstForeign? ((first :: rest).take sampleSize) = some raw) :
    ¬Uniform (first :: rest) := by
  intro uniform
  rw [(uniform_iff.mp uniform).1] at found
  cases found

/-- What is settled about a non-empty array before its first element is turned to. If the sample
is not of one kind, all elements are looked at, and the array has the mixed type unless one of them
is foreign. -/
theorem settled_eq (first : Json ρ) (rest : List (Json ρ)) :
    settled? (first :: rest) =
      if Uniform (first :: rest) then .ok none
      else match firstForeign? (first :: rest) with
        | some value => .error value
        | none => .ok (some (mixedType (first :: rest))) := by
  rw [settled?, kinds_eq, kinds_eq]
  cases sample : firstForeign? ((first :: rest).take sampleSize) with
  | some value =>
    rw [if_neg (not_uniform_of_foreign sample), firstForeign_of_sample sample]
    rfl
  | none =>
    by_cases oneKind : OneKind (first :: rest)
    · have single := (sample_kind_iff sample).mpr oneKind
      simp [bind, Except.bind, pure, Except.pure, single, uniform_iff.mpr ⟨sample, oneKind⟩]
    · have several := mt (sample_kind_iff sample).mp oneKind
      have stopped : ¬Uniform (first :: rest) := fun uniform => oneKind (uniform_iff.mp uniform).2
      cases firstForeign? (first :: rest) with
      | some value => simp [bind, Except.bind, several, stopped]
      | none =>
        have count : ((first :: rest).filterMap Json.kind?).eraseDups.length =
            kindCount (first :: rest) := rfl
        simp only [bind, Except.bind, pure, Except.pure, several, stopped, if_false, count,
          mixedType]
        by_cases many : maxUnionKinds < kindCount (first :: rest)
        · rw [if_pos many, if_pos many]
        · rw [if_neg many, if_neg many, memberTypes]

/-- When the sample is of one kind, nothing behind it is looked at. -/
theorem settled_of_oneKind {first : Json ρ} {rest : List (Json ρ)}
    (oneKind : OneKind (first :: rest)) :
    settled? (first :: rest) = (kinds ((first :: rest).take sampleSize)).map fun _ => none := by
  rw [settled_eq, kinds_eq]
  cases sample : firstForeign? ((first :: rest).take sampleSize) with
  | some value =>
    rw [if_neg (not_uniform_of_foreign sample), firstForeign_of_sample sample]
    rfl
  | none =>
    rw [if_pos (uniform_iff.mpr ⟨sample, oneKind⟩)]
    rfl

/-- When no foreign member is met, an array is left to its first element exactly if its
sample is of one kind, and has the mixed type of all its elements otherwise. -/
theorem settled_exact {first : Json ρ} {rest : List (Json ρ)} {answer : Option TypeExpr}
    (settled : settled? (first :: rest) = .ok answer) :
    answer = if OneKind (first :: rest) then none else some (mixedType (first :: rest)) := by
  rw [settled_eq] at settled
  by_cases uniform : Uniform (first :: rest)
  · rw [if_pos uniform] at settled
    rw [if_pos (uniform_iff.mp uniform).2]
    exact (Except.ok.inj settled).symm
  · rw [if_neg uniform] at settled
    cases genuine : firstForeign? (first :: rest) with
    | some value =>
      rw [genuine] at settled
      cases settled
    | none =>
      rw [genuine] at settled
      have several : ¬OneKind (first :: rest) := fun oneKind =>
        uniform (uniform_iff.mpr ⟨sample_genuine genuine, oneKind⟩)
      rw [if_neg several]
      exact (Except.ok.inj settled).symm

end ArrayType

end TypeSketch
