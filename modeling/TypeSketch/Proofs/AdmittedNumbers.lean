import TypeSketch.Proofs.Admission
import TypeSketch.Proofs.Content
import TypeSketch.Proofs.Reading

/-!
# Numbers from either side

A binary number may be infinite or not be a number at all, and no number literal says so. Host data
are admitted without a look at their numbers: replacing these by others replaces them in what is
admitted and has no other effect, so every number of a datum is let through. A document that is read
has its numbers from literals. These never denote what is not a number, though a large one denotes
infinity.
-/

namespace TypeSketch

/-- The number is an integer or a finite binary number. -/
def Number.IsFinite : Number → Prop
  | .int _ => True
  | .float value => value.isFinite = true

instance : DecidablePred Number.IsFinite
  | .int _ => isTrue trivial
  | .float value => inferInstanceAs (Decidable (value.isFinite = true))

/-! ### Numbers of host data -/

namespace Datum

variable {datum inner : Datum} {value element : Json Datum}

/-- A copy of an item is an element of the copy of its sequence. -/
theorem copiedItem_occurs {items : List Datum} {elements : List (Json Datum)} {item : Datum}
    (each : List.Forall₂ Copied items elements) (member : item ∈ items)
    (within : ∀ {value}, Copied item value → ∃ element, Copied inner element ∧
      Json.Occurs element value) :
    ∃ element, Copied inner element ∧ Json.Occurs element (.array elements) := by
  obtain ⟨_, isElement, copiedItem⟩ := exists_of_forall₂ each member
  obtain ⟨element, copiedInner, occurs⟩ := within copiedItem
  exact ⟨element, copiedInner, .element isElement occurs⟩

/-- Every part of a datum is copied with it. -/
theorem occurs_of_part (copied : Copied datum value) (part : Part inner datum) :
    ∃ element, Copied inner element ∧ Json.Occurs element value := by
  induction part generalizing value with
  | here => exact ⟨value, copied, .here⟩
  | listItem member _ inductionHypothesis =>
    cases copied with
    | list each => exact copiedItem_occurs each member inductionHypothesis
  | tupleItem member _ inductionHypothesis =>
    cases copied with
    | tuple each => exact copiedItem_occurs each member inductionHypothesis
  | mappingValue member _ inductionHypothesis =>
    cases copied with
    | mapping _ values =>
      obtain ⟨_, isElement, copiedItem⟩ :=
        exists_of_forall₂ values (List.mem_map_of_mem member)
      obtain ⟨⟨key, _⟩, isMember, rfl⟩ := List.mem_map.mp isElement
      obtain ⟨element, copiedInner, occurs⟩ := inductionHypothesis copiedItem
      exact ⟨element, copiedInner, .member isMember occurs⟩

/-- All that occurs in a copy is the copy of a part, if no part is a JSON value already. -/
theorem part_of_occurs (occurs : Json.Occurs element value) (copied : Copied datum value)
    (unready : ∀ ready, ¬Part (.json ready) datum) :
    ∃ inner, Part inner datum ∧ Copied inner element := by
  induction occurs generalizing datum with
  | here => exact ⟨datum, .here, copied⟩
  | element member _ inductionHypothesis =>
    cases copied with
    | list each =>
      obtain ⟨item, isItem, copiedItem⟩ := exists_of_forall₂ each.flip member
      obtain ⟨inner, part, copiedInner⟩ := inductionHypothesis copiedItem
        fun ready part => unready ready (.listItem isItem part)
      exact ⟨inner, .listItem isItem part, copiedInner⟩
    | tuple each =>
      obtain ⟨item, isItem, copiedItem⟩ := exists_of_forall₂ each.flip member
      obtain ⟨inner, part, copiedInner⟩ := inductionHypothesis copiedItem
        fun ready part => unready ready (.tupleItem isItem part)
      exact ⟨inner, .tupleItem isItem part, copiedInner⟩
    | ready => exact absurd .here (unready _)
  | member member _ inductionHypothesis =>
    cases copied with
    | mapping _ values =>
      obtain ⟨_, isValue, copiedItem⟩ :=
        exists_of_forall₂ values.flip (List.mem_map_of_mem member)
      obtain ⟨⟨key, item⟩, isItem, rfl⟩ := List.mem_map.mp isValue
      obtain ⟨inner, part, copiedInner⟩ := inductionHypothesis copiedItem
        fun ready part => unready ready (.mappingValue isItem part)
      exact ⟨inner, .mappingValue isItem part, copiedInner⟩
    | ready => exact absurd .here (unready _)

/-- The numbers of a copy are those of the datum. -/
theorem number_occurs_iff (copied : Copied datum value)
    (unready : ∀ ready, ¬Part (.json ready) datum) (number : Number) :
    Json.Occurs (.number number) value ↔ Part (.number number) datum := by
  constructor
  · intro occurs
    obtain ⟨inner, part, copiedInner⟩ := part_of_occurs occurs copied unready
    cases copiedInner with
    | number => exact part
    | ready => exact absurd part (unready _)
  · intro part
    obtain ⟨element, copiedInner, occurs⟩ := occurs_of_part copied part
    cases copiedInner
    exact occurs

end Datum

/-! ### Other numbers in their places -/

namespace Json

variable {ρ : Type} (f : Number → Number)

mutual

/-- The value with other numbers in the place of its numbers. -/
def renumber : Json ρ → Json ρ
  | .null => .null
  | .bool value => .bool value
  | .number value => .number (f value)
  | .string value => .string value
  | .array elements => .array (renumberElements elements)
  | .object members => .object (renumberMembers members)
  | .foreign value => .foreign value

def renumberElements : List (Json ρ) → List (Json ρ)
  | [] => []
  | first :: rest => renumber first :: renumberElements rest

def renumberMembers : Members ρ → Members ρ
  | [] => []
  | (key, value) :: rest => (key, renumber value) :: renumberMembers rest

end

theorem renumberElements_eq (elements : List (Json ρ)) :
    renumberElements f elements = elements.map (renumber f) := by
  induction elements with
  | nil => rfl
  | cons first rest inductionHypothesis => rw [renumberElements, inductionHypothesis, List.map_cons]

theorem renumberMembers_eq (members : Members ρ) :
    renumberMembers f members = members.map (Prod.map id (renumber f)) := by
  induction members with
  | nil => rfl
  | cons first rest inductionHypothesis =>
    rw [renumberMembers, inductionHypothesis, List.map_cons]
    rfl

end Json

namespace Datum

variable (f : Number → Number)

mutual

/-- The datum with other numbers in the place of its numbers, but for those in keys. -/
def renumber : Datum → Datum
  | .number value => .number (f value)
  | .list items => .list (renumberItems items)
  | .tuple items => .tuple (renumberItems items)
  | .mapping items => .mapping (renumberValues items)
  | .json value => .json (value.renumber f)
  | .none => .none
  | .bool value => .bool value
  | .text value => .text value
  | .set items => .set items
  | .bytes value => .bytes value
  | .instanceOf typeName => .instanceOf typeName

def renumberItems : List Datum → List Datum
  | [] => []
  | first :: rest => renumber first :: renumberItems rest

def renumberValues : List (Datum × Datum) → List (Datum × Datum)
  | [] => []
  | (key, value) :: rest => (key, renumber value) :: renumberValues rest

end

theorem renumberItems_eq (items : List Datum) :
    renumberItems f items = items.map (renumber f) := by
  induction items with
  | nil => rfl
  | cons first rest inductionHypothesis => rw [renumberItems, inductionHypothesis, List.map_cons]

theorem renumberValues_eq (items : List (Datum × Datum)) :
    renumberValues f items = items.map (Prod.map id (renumber f)) := by
  induction items with
  | nil => rfl
  | cons first rest inductionHypothesis =>
    rw [renumberValues, inductionHypothesis, List.map_cons]
    rfl

variable {f}

/-- Items with other numbers are admitted as an array with other numbers. -/
theorem items_renumbered {items : List Datum} {frames : Nat}
    (each : ∀ item ∈ items, (renumber f item).toJsonWithin frames =
      Json.renumber f <$> item.toJsonWithin frames) :
    Json.array <$> (renumberItems f items).mapM (toJsonWithin frames) =
      Json.renumber f <$> Json.array <$> items.mapM (toJsonWithin frames) := by
  rw [renumberItems_eq, mapM_replaced each]
  cases items.mapM (toJsonWithin frames) with
  | error refusal => rfl
  | ok elements =>
    exact congrArg (Except.ok ∘ Json.array) (Json.renumberElements_eq f elements).symm

theorem admitMember_renumbered {item : Datum × Datum} {frames : Nat}
    (renumbered : (renumber f item.2).toJsonWithin frames =
      Json.renumber f <$> item.2.toJsonWithin frames) :
    admitMember frames (Prod.map id (renumber f) item) =
      Prod.map id (Json.renumber f) <$> admitMember frames item := by
  obtain ⟨key, value⟩ := item
  cases key with
  | text key =>
    change (key, ·) <$> (renumber f value).toJsonWithin frames = _
    rw [renumbered]
    change _ = Prod.map id (Json.renumber f) <$> (key, ·) <$> value.toJsonWithin frames
    cases value.toJsonWithin frames <;> rfl
  | _ => rfl

/-- Admission does the same whatever the numbers are. By induction on the frames, as an item is
admitted within fewer of them. -/
theorem toJsonWithin_renumber (frames : Nat) (datum : Datum) :
    (datum.renumber f).toJsonWithin frames = Json.renumber f <$> datum.toJsonWithin frames := by
  induction frames using Nat.strongRecOn generalizing datum with
  | ind frames inductionHypothesis =>
    cases datum with
    | number | json =>
      rw [renumber, toJsonWithin, toJsonWithin]
      rfl
    | none | bool | text | set | bytes | instanceOf =>
      rw [renumber, toJsonWithin]
      rfl
    | list items =>
      rw [renumber]
      match frames with
      | 0 | 1 => rfl
      | frames + 2 =>
        rw [toJsonWithin, toJsonWithin]
        exact items_renumbered fun item _ => inductionHypothesis frames (by omega) item
    | tuple items =>
      rw [renumber]
      match frames with
      | 0 | 1 => rfl
      | frames + 2 =>
        rw [toJsonWithin, toJsonWithin]
        exact items_renumbered fun item _ => inductionHypothesis frames (by omega) item
    | mapping items =>
      rw [renumber]
      match frames with
      | 0 => rfl
      | frames + 1 =>
        rw [mapping_admitted, mapping_admitted, renumberValues_eq, mapM_replaced fun item _ =>
          admitMember_renumbered (inductionHypothesis frames (by omega) item.2)]
        cases items.mapM (admitMember frames) with
        | error refusal => rfl
        | ok members =>
          exact congrArg (Except.ok ∘ Json.object) (Json.renumberMembers_eq f members).symm

end Datum

/-! ### Numbers of documents that are read -/

namespace Binary64

theorem rankOfRatio_le (num den : Nat) : rankOfRatio num den ≤ infinityRank := by
  unfold rankOfRatio
  split
  · exact Nat.zero_le _
  · exact Nat.min_le_left _ _

/-- No decimal is rounded to what is not a number. -/
theorem ofDecimal_isNaN (negative : Bool) (digits : Nat) (exponent : Int) :
    (ofDecimal negative digits exponent).isNaN = false := by
  have inOrder {rank : Nat} (below : rank ≤ infinityRank) :
      (Binary64.mk negative rank).isNaN = false := decide_eq_false (Nat.not_lt.mpr below)
  rw [ofDecimal]
  split
  · exact inOrder (Nat.zero_le _)
  split
  · exact inOrder (Nat.le_refl _)
  split
  · exact inOrder (Nat.zero_le _)
  · exact inOrder (rankOfRatio_le _ _)

end Binary64

theorem NumberLiteral.number_isNaN {literal : NumberLiteral} {value : Binary64}
    (denoted : literal.number = .ok (.float value)) : value.isNaN = false := by
  rw [number] at denoted
  split at denoted
  · split at denoted <;> cases denoted
  · rw [← Number.float.inj (Except.ok.inj denoted)]
    exact Binary64.ofDecimal_isNaN _ _ _

namespace Grammar

/-- Every number of the document that a tree stands for is denoted by a literal. -/
theorem Tree.number_of_meaning {depth : Nat} {tree : Tree} {document : Document} {number : Number}
    (meant : tree.meaning depth = .ok document) (occurs : Json.Occurs (.number number) document) :
    ∃ literal : NumberLiteral, literal.number = .ok number := by
  induction depth using Nat.strong_induction_on generalizing tree document with
  | _ depth inductionHypothesis =>
    cases tree with
    | word word =>
      rw [meaning] at meant
      cases meant
      cases word <;> cases occurs
    | number form =>
      rw [meaning] at meant
      cases denoted : form.literal.number with
      | error fault => rw [denoted] at meant; exact nomatch meant
      | ok own =>
        rw [denoted] at meant
        cases meant
        cases occurs
        exact ⟨form.literal, denoted⟩
    | string characters =>
      rw [meaning] at meant
      cases meant
      cases occurs
    | array gap elements =>
      cases depth with
      | zero => rw [meaning] at meant; exact nomatch meant
      | succ depth =>
        rw [meaning] at meant
        obtain ⟨documents, each, same⟩ := bind_eq_ok_iff.mp meant
        cases same
        cases occurs with
        | element member within =>
          obtain ⟨_, _, found⟩ := source_of_mapM_ok each _ member
          exact inductionHypothesis depth (Nat.lt_succ_self depth) found within
    | object gap members =>
      cases depth with
      | zero => rw [meaning] at meant; exact nomatch meant
      | succ depth =>
        rw [meaning] at meant
        obtain ⟨documents, each, same⟩ := bind_eq_ok_iff.mp meant
        cases same
        cases occurs with
        | member member within =>
          obtain ⟨_, _, found⟩ := source_of_mapM_ok each _ (Entries.mem_ofPairs member)
          obtain ⟨_, foundValue, same⟩ := bind_eq_ok_iff.mp found
          cases same
          exact inductionHypothesis depth (Nat.lt_succ_self depth) foundValue within

end Grammar

/-- Among the numbers of a document that is read there is none that is not a number. -/
theorem Document.ofText_number {text : Text} {document : Document}
    (read : ofText text = .ok document) {value : Binary64}
    (occurs : Json.Occurs (.number (.float value)) document) : value.isNaN = false := by
  obtain ⟨_, _, meant⟩ := ofText_sound read
  obtain ⟨literal, denoted⟩ := Grammar.Tree.number_of_meaning meant occurs
  exact NumberLiteral.number_isNaN denoted

namespace Datum

/-- Numbers of host data are admitted whatever they are. If no part of a datum is a JSON value
already, what it is admitted as has the numbers of the datum and no others, so all of them are
finite just when all numbers of the datum are. With other numbers in their places a datum is
admitted as the same value with other numbers, or refused for the same reason; no datum is refused
for a number. A document that is read from a text is different: none of its numbers is not a
number. -/
theorem numbers_admitted_unseen {datum : Datum} (unready : ∀ ready, ¬Part (.json ready) datum) :
    (∀ value, datum.toJson = .ok value →
      (∀ number, Json.Occurs (.number number) value ↔ Part (.number number) datum) ∧
      ((∀ number, Json.Occurs (.number number) value → number.IsFinite) ↔
        ∀ number, Part (.number number) datum → number.IsFinite)) ∧
    (∀ f : Number → Number, (datum.renumber f).toJson = Json.renumber f <$> datum.toJson) ∧
    ∀ text document, Document.ofText text = .ok document →
      ∀ value, Json.Occurs (.number (.float value)) document → value.isNaN = false := by
  refine ⟨?_, fun f => toJsonWithin_renumber Nesting.frames datum,
    fun _ _ read _ => Document.ofText_number read⟩
  intro value admitted
  have same := number_occurs_iff (copied_of_admitted admitted) unready
  exact ⟨same, by simp only [same]⟩

/-- A mapping with what is not a number deep inside. -/
def unnumbered : Datum := .mapping [(.text "a", .tuple [.list [.number (.float .nan)]])]

theorem unnumbered_unready (ready : Json Datum) : ¬Part (.json ready) unnumbered := by
  intro part
  cases part with
  | mappingValue member within =>
    obtain ⟨_, rfl⟩ := Prod.mk.inj (List.mem_singleton.mp member)
    cases within with
    | tupleItem member within =>
      rw [List.mem_singleton.mp member] at within
      cases within with
      | listItem member within =>
        rw [List.mem_singleton.mp member] at within
        cases within

theorem unnumbered_admitted :
    (∀ ready, ¬Part (.json ready) unnumbered) ∧
    ∃ value, unnumbered.toJson = .ok value ∧ Json.Occurs (.number (.float .nan)) value ∧
      ¬∀ number, Json.Occurs (.number number) value → number.IsFinite := by
  obtain ⟨admitted, _⟩ := numbers_admitted_unseen unnumbered_unready
  obtain ⟨same, finite⟩ := admitted _ rfl
  have part : Part (.number (.float .nan)) unnumbered :=
    .mappingValue List.mem_cons_self (.tupleItem List.mem_cons_self
      (.listItem List.mem_cons_self .here))
  refine ⟨unnumbered_unready, _, rfl, (same _).mpr part, fun allFinite => ?_⟩
  exact absurd (finite.mp allFinite _ part) (by decide)

/-- What is not a number is admitted, and so are both infinities. -/
theorem infinite_numbers_admitted :
    let unordered : List Number :=
      [.float .nan, .float .infinity, .float ⟨true, Binary64.infinityRank⟩]
    (∀ ready, ¬Part (.json ready) (.list (unordered.map .number))) ∧
      toJson (.list (unordered.map .number)) = .ok (.array (unordered.map .number)) ∧
      ∀ number ∈ unordered, ¬number.IsFinite := by
  refine ⟨fun ready part => ?_, rfl, ?_⟩
  · cases part with
    | listItem member within =>
      obtain ⟨number, _, rfl⟩ := List.mem_map.mp member
      cases within
  · simp only [List.forall_mem_cons, List.not_mem_nil]
    exact ⟨by decide, by decide, by decide, nofun⟩

end Datum

end TypeSketch
