import TypeSketch.Proofs.BuiltInNames
import TypeSketch.Proofs.FirstElements

/-!
# Unions of mixed arrays

An array whose sample is of several kinds has a type that follows from all its elements. With more
than three kinds among them it is an array of anything. Otherwise it is an array of a union that
lists the primitive type of every element once, in order of first occurrence.

Kinds and primitive types do not correspond one to one. Strings are of one kind and have two types,
and arrays and objects are of two kinds and have one type. So three kinds can give four types, and
several kinds can give a single one.
-/

namespace TypeSketch

section FirstOccurrences

variable {α : Type} [BEq α] [LawfulBEq α]

/-- Behind the same first entry, the order of two others is a matter of the rest. -/
theorem idxOf_cons_lt {first a b : α} {entries others : List α}
    (same : first ≠ a → first ≠ b →
      (entries.idxOf a < entries.idxOf b ↔ others.idxOf a < others.idxOf b)) :
    (first :: entries).idxOf a < (first :: entries).idxOf b ↔
      (first :: others).idxOf a < (first :: others).idxOf b := by
  by_cases isB : first = b
  · subst isB
    simp
  · rw [List.idxOf_cons_ne _ isB, List.idxOf_cons_ne _ isB]
    by_cases isA : first = a
    · subst isA
      simp
    · rw [List.idxOf_cons_ne _ isA, List.idxOf_cons_ne _ isA, Nat.succ_lt_succ_iff,
        Nat.succ_lt_succ_iff, same isA isB]

/-- Entries that are kept keep their order of first occurrence. -/
theorem idxOf_filter_lt {p : α → Bool} {entries : List α} {a b : α} (keepsA : p a = true)
    (keepsB : p b = true) :
    (entries.filter p).idxOf a < (entries.filter p).idxOf b ↔
      entries.idxOf a < entries.idxOf b := by
  induction entries with
  | nil => rfl
  | cons first rest inductionHypothesis =>
    by_cases kept : p first = true
    · rw [List.filter_cons_of_pos kept]
      exact idxOf_cons_lt fun _ _ => inductionHypothesis
    · have notA : first ≠ a := fun same => kept (same ▸ keepsA)
      have notB : first ≠ b := fun same => kept (same ▸ keepsB)
      rw [List.filter_cons_of_neg kept, inductionHypothesis, List.idxOf_cons_ne rest notA,
        List.idxOf_cons_ne rest notB, Nat.succ_lt_succ_iff]

/-- Erasing duplicates leaves no entry twice. The entries behind the first one are those that
differ from it. -/
theorem nodup_eraseDups (entries : List α) : entries.eraseDups.Nodup := by
  match entries with
  | [] => exact List.nodup_nil
  | first :: rest =>
    rw [List.eraseDups_cons, List.nodup_cons]
    constructor
    · rw [List.mem_eraseDups]
      simp
    · exact nodup_eraseDups (rest.filter fun entry => !entry == first)
termination_by entries.length
decreasing_by exact Nat.lt_succ_of_le (List.length_filter_le _ _)

/-- Erasing duplicates keeps the order of first occurrence. -/
theorem idxOf_eraseDups_lt (entries : List α) (a b : α) :
    entries.eraseDups.idxOf a < entries.eraseDups.idxOf b ↔
      entries.idxOf a < entries.idxOf b := by
  match entries with
  | [] => rfl
  | first :: rest =>
    rw [List.eraseDups_cons]
    apply idxOf_cons_lt
    intro notA notB
    rw [idxOf_eraseDups_lt (rest.filter fun entry => !entry == first) a b]
    exact idxOf_filter_lt (by simpa using notA.symm) (by simpa using notB.symm)
termination_by entries.length
decreasing_by exact Nat.lt_succ_of_le (List.length_filter_le _ _)

end FirstOccurrences

variable {ρ : Type}

/-- The type of the values of a kind, dates apart. -/
def CoarseKind.plainType : CoarseKind → Primitive
  | .null => .null
  | .boolean => .boolean
  | .number => .number
  | .string => .string
  | .array | .object => .any

theorem CoarseKind.plainType_ne_date (kind : CoarseKind) : kind.plainType ≠ .date := by
  cases kind <;> decide

/-- Different kinds of the same type are those of containers. -/
theorem CoarseKind.plainType_shared {kind other : CoarseKind} (differ : kind ≠ other)
    (same : kind.plainType = other.plainType) : kind.plainType = .any := by
  cases kind with
  | array | object => rfl
  | null | boolean | number | string =>
    cases other <;> first | exact absurd rfl differ | exact nomatch same

namespace Json

/-- A value of a kind has the type of that kind, unless it is a date. -/
theorem primitive_of_kind {value : Json ρ} {kind : CoarseKind}
    (isKind : value.coarseKind = .ok kind) :
    value.primitive = kind.plainType ∨ value.primitive = .date ∧ kind = .string := by
  cases value with
  | foreign raw => exact nomatch isKind
  | string text =>
    obtain rfl : CoarseKind.string = kind := Except.ok.inj isKind
    by_cases dated : text.isTimestamp = true
    · exact .inr ⟨if_pos dated, rfl⟩
    · exact .inl (if_neg dated)
  | null | bool | number | array | object =>
    obtain rfl := Except.ok.inj isKind
    exact .inl rfl

/-- Dates are the strings that begin with a date and a time of day. -/
theorem primitive_eq_date_iff {value : Json ρ} :
    value.primitive = .date ↔ ∃ text, value = .string text ∧ text.isTimestamp = true := by
  cases value with
  | string text => simp [primitive]
  | null | bool | number | array | object | foreign => simp [primitive]

theorem primitive_eq_string_iff {value : Json ρ} :
    value.primitive = .string ↔ ∃ text, value = .string text ∧ text.isTimestamp = false := by
  cases value with
  | string text => simp [primitive]
  | null | bool | number | array | object | foreign => simp [primitive]

/-- Only containers can be anything. -/
theorem container_of_any {value : Json ρ} {kind : CoarseKind} (isKind : value.coarseKind = .ok kind)
    (isAny : value.primitive = .any) :
    (∃ elements, value = .array elements) ∨ ∃ members, value = .object members := by
  cases value with
  | array elements => exact .inl ⟨elements, rfl⟩
  | object members => exact .inr ⟨members, rfl⟩
  | foreign raw => exact nomatch isKind
  | string text =>
    rw [primitive] at isAny
    split at isAny <;> cases isAny
  | null | bool | number => cases isAny

/-- Values of different kinds and the same type are containers. -/
theorem any_of_kinds_differ {value other : Json ρ} {kind kindOther : CoarseKind}
    (isKind : value.coarseKind = .ok kind) (isKindOther : other.coarseKind = .ok kindOther)
    (differ : kind ≠ kindOther) (same : value.primitive = other.primitive) :
    value.primitive = .any := by
  rcases primitive_of_kind isKind with plain | ⟨dated, isString⟩
  · rcases primitive_of_kind isKindOther with plainOther | ⟨datedOther, _⟩
    · rw [plain]
      exact CoarseKind.plainType_shared differ (plain.symm.trans (same.trans plainOther))
    · exact absurd (plain.symm.trans (same.trans datedOther)) kind.plainType_ne_date
  · rcases primitive_of_kind isKindOther with plainOther | ⟨_, isStringOther⟩
    · exact absurd (plainOther.symm.trans (same.symm.trans dated)) kindOther.plainType_ne_date
    · exact absurd (isString.trans isStringOther.symm) differ

end Json

namespace ArrayType

/-- There is at most one type more than there are kinds: the types other than dates are those of
different kinds. -/
theorem memberTypes_length_le {elements : List (Json ρ)}
    (genuine : ∀ element ∈ elements, ∃ kind, element.coarseKind = .ok kind) :
    (memberTypes elements).length ≤ kindCount elements + 1 := by
  have distinct : (memberTypes elements).Nodup := nodup_eraseDups _
  have ofKinds : (memberTypes elements).erase .date ⊆
      (elements.filterMap Json.kind?).eraseDups.map CoarseKind.plainType := by
    intro type member
    obtain ⟨undated, listed⟩ := distinct.mem_erase_iff.mp member
    obtain ⟨element, inside, rfl⟩ := mem_memberTypes.mp listed
    obtain ⟨kind, isKind⟩ := genuine element inside
    have found := (Json.genuine_of_kind isKind).1
    rcases Json.primitive_of_kind isKind with plain | ⟨dated, _⟩
    · rw [plain]
      apply List.mem_map_of_mem
      rw [List.mem_eraseDups]
      exact List.mem_filterMap.mpr ⟨element, inside, found⟩
    · exact absurd dated undated
  have few := (List.subperm_of_subset (distinct.erase _) ofKinds).length_le
  have erased : (memberTypes elements).length - 1 ≤ ((memberTypes elements).erase .date).length :=
    List.le_length_erase
  rw [List.length_map, ← kindCount] at few
  omega

/-- A single type for elements of two kinds is that of containers. -/
theorem containers_of_single {elements : List (Json ρ)}
    (genuine : ∀ element ∈ elements, ∃ kind, element.coarseKind = .ok kind) {a b : Json ρ}
    (inA : a ∈ elements) (inB : b ∈ elements) (differ : a.coarseKind ≠ b.coarseKind)
    (single : (memberTypes elements).length = 1) :
    ∀ element ∈ elements,
      (∃ inner, element = .array inner) ∨ ∃ members, element = .object members := by
  obtain ⟨type, only⟩ := List.length_eq_one_iff.mp single
  have shared (element : Json ρ) (member : element ∈ elements) : element.primitive = type := by
    have listed : element.primitive ∈ memberTypes elements := mem_memberTypes.mpr ⟨_, member, rfl⟩
    rwa [only, List.mem_singleton] at listed
  obtain ⟨kindA, isA⟩ := genuine a inA
  obtain ⟨kindB, isB⟩ := genuine b inB
  rw [isA, isB] at differ
  have anything : a.primitive = .any := Json.any_of_kinds_differ isA isB
    (fun same => differ (congrArg Except.ok same)) ((shared a inA).trans (shared b inB).symm)
  intro element member
  obtain ⟨kind, isKind⟩ := genuine element member
  exact Json.container_of_any isKind ((shared element member).trans ((shared a inA).symm.trans
    anything))

variable {m : Type → Type} [Monad m] [LawfulMonad m]

/-- What an array with two kinds in its sample is typed by is its mixed type. -/
theorem unify_mixed (declare : Text → Members ρ → m Text) (name : Text) {elements : List (Json ρ)}
    (genuine : ∀ element ∈ elements, ∃ kind, element.coarseKind = .ok kind) {a b : Json ρ}
    (inA : a ∈ elements.take sampleSize) (inB : b ∈ elements.take sampleSize)
    (differ : a.coarseKind ≠ b.coarseKind) :
    unify declare name elements = pure (.array (mixedType elements)) := by
  have several : ¬Uniform elements := by
    rintro ⟨_, kind, shared⟩
    exact differ ((shared a inA).trans (shared b inB).symm)
  have noForeign : firstForeign? elements = none := by
    refine List.findSome?_eq_none_iff.mpr fun element member => ?_
    obtain ⟨_, isKind⟩ := genuine element member
    exact (Json.genuine_of_kind isKind).2
  cases elements with
  | nil => exact absurd inA List.not_mem_nil
  | cons first rest =>
    rw [unify_descent, Json.descent, if_neg several, noForeign]
    rfl

/-- An array with two kinds in its sample. If there are more than three kinds among all elements,
it is an array of anything. Otherwise it is written as an array of a union, in which the primitive
type of every element stands once, in order of first occurrence, and nothing else. The union has at
most four members. It has dates and other strings only if there are both, and it has a single
member only if all elements are containers. -/
theorem mixed_array_lists_types (declare : Text → Members ρ → m Text) (name : Text)
    {elements : List (Json ρ)}
    (genuine : ∀ element ∈ elements, ∃ kind, element.coarseKind = .ok kind) {a b : Json ρ}
    (inA : a ∈ elements.take 10) (inB : b ∈ elements.take 10)
    (differ : a.coarseKind ≠ b.coarseKind) :
    if 3 < kindCount elements then
      TypeExpr.text <$> unify declare name elements = pure ("any[]" : Text)
    else ∃ types : List Primitive,
      TypeExpr.text <$> unify declare name elements =
        pure ("(" ++ Text.join " | " (types.map Primitive.text) ++ ")[]") ∧
      (types.map Primitive.text).Nodup ∧
      (∀ type, type ∈ types ↔ ∃ element ∈ elements, element.primitive = type) ∧
      (∀ early late, types.idxOf early < types.idxOf late ↔
        (elements.map Json.primitive).idxOf early < (elements.map Json.primitive).idxOf late) ∧
      types.length ≤ 4 ∧
      (.date ∈ types → .string ∈ types →
        (∃ text, .string text ∈ elements ∧ text.isTimestamp = true) ∧
          ∃ text, .string text ∈ elements ∧ text.isTimestamp = false) ∧
      (types.length = 1 → ∀ element ∈ elements,
        (∃ inner, element = .array inner) ∨ ∃ members, element = .object members) := by
  have typed := unify_mixed declare name genuine inA inB differ
  have limit : maxUnionKinds = 3 := rfl
  rw [typed, map_pure, mixedType, limit]
  by_cases many : 3 < kindCount elements
  · rw [if_pos many, if_pos many]
    rfl
  · rw [if_neg many, if_neg many]
    refine ⟨memberTypes elements, ?_, (nodup_eraseDups _).map fun _ _ => Primitive.text_injective,
      fun _ => mem_memberTypes, idxOf_eraseDups_lt _, ?_, ?_, ?_⟩
    · simp [TypeExpr.text, Text.ofString]
    · have few := memberTypes_length_le genuine
      omega
    · intro dated plain
      obtain ⟨_, inDated, isDate⟩ := mem_memberTypes.mp dated
      obtain ⟨_, inPlain, isString⟩ := mem_memberTypes.mp plain
      obtain ⟨text, rfl, timestamp⟩ := Json.primitive_eq_date_iff.mp isDate
      obtain ⟨other, rfl, noTimestamp⟩ := Json.primitive_eq_string_iff.mp isString
      exact ⟨⟨text, inDated, timestamp⟩, other, inPlain, noTimestamp⟩
    · exact containers_of_single genuine (List.mem_of_mem_take inA) (List.mem_of_mem_take inB)
        differ

/-- In a document every value has a kind. -/
theorem document_kind (value : Document) : ∃ kind, value.coarseKind = .ok kind := by
  rcases value.coarseKind_eq with ⟨kind, isKind, _⟩ | ⟨raw, _⟩
  · exact ⟨kind, isKind⟩
  · exact nomatch raw

/-- Two kinds in the sample, and any elements behind it. -/
def assorted (others : List Document) : List Document :=
  .number (.int 1) :: .string "a" :: List.replicate 8 (.number (.int 2)) ++ others

/-- The text of an array type, with numbers for the names of objects. -/
def numberedText (elements : List Document) : ExceptT Empty (StateM Nat) Text :=
  TypeExpr.text <$> unify numberedName "Item" elements

/-- Three kinds are listed by four types, and a fourth kind is too many. -/
theorem assorted_types_listed :
    (∃ types : List Primitive,
      numberedText (assorted [.string "2025-03-30T12:00:00Z", .bool true, .string "b"]) =
        pure ("(" ++ Text.join " | " (types.map Primitive.text) ++ ")[]") ∧
      (types.map Primitive.text).Nodup ∧ types.length ≤ 4 ∧
      (∀ type, type ∈ types ↔ type ∈ [.number, .string, .date, .boolean]) ∧
      types.idxOf .number < types.idxOf .string ∧ types.idxOf .string < types.idxOf .date ∧
      types.idxOf .date < types.idxOf .boolean) ∧
    numberedText (assorted [.string "2025-03-30T12:00:00Z", .bool true, .null]) =
      pure ("any[]" : Text) := by
  have first (others : List Document) : .number (.int 1) ∈ (assorted others).take 10 :=
    List.mem_cons_self
  have second (others : List Document) : .string "a" ∈ (assorted others).take 10 :=
    List.mem_cons_of_mem _ List.mem_cons_self
  have differ : (.number (.int 1) : Document).coarseKind ≠ (.string "a" : Document).coarseKind := by
    decide
  constructor
  · have listed := mixed_array_lists_types numberedName "Item" (fun value _ => document_kind value)
      (first [.string "2025-03-30T12:00:00Z", .bool true, .string "b"]) (second _) differ
    rw [if_neg (by decide)] at listed
    obtain ⟨types, written, distinct, members, order, few, _, _⟩ := listed
    refine ⟨types, written, distinct, few, fun type => (members type).trans ?_,
      (order _ _).mpr (by decide), (order _ _).mpr (by decide), (order _ _).mpr (by decide)⟩
    cases type <;> decide
  · have anything := mixed_array_lists_types numberedName "Item"
      (fun value _ => document_kind value)
      (first [.string "2025-03-30T12:00:00Z", .bool true, .null]) (second _) differ
    rwa [if_pos (by decide)] at anything

end ArrayType

end TypeSketch
