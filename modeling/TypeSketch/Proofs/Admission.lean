import TypeSketch.Proofs.DisplayedData
import TypeSketch.Proofs.ForeignMembers

/-!
# What admission makes of host data

A datum offends where it has a part that no JSON value can be, or a key that is no text. Its
offences are listed here from left to right without regard to how it is admitted: all that is to be
said about an item comes before what is to be said about later items, and a key comes before its
value.

Admission ends as the list says. Without an offence it returns a copy of the datum, and otherwise
it is refused for the first offence. Steps one after the other settle their offences one after the
other, so what holds of a container follows from its parts, by induction on the frames. Ready-made
parts have no offences, as they are not looked at.

A refusal is put into words, which show the key if a key is refused. So the limits of a display
matter here: the frames that are left for a key, which the nesting of the datum accounts for, and
the digits of the integers in it, of which `WritableKeys` is the assumption.
-/

namespace TypeSketch.Datum

/-- Whether a datum can be gone through within a budget of frames, where a sequence takes two, a
mapping one, and a key what is left. Parts that are JSON values already count for nothing. -/
def admissibleWithin : Nat → Datum → Bool
  | frames + 2, .list items => items.all (admissibleWithin frames)
  | frames + 2, .tuple items => items.all (admissibleWithin frames)
  | _, .list _ | _, .tuple _ => false
  | frames + 1, .mapping items => items.all fun (key, value) =>
      key.nestedWithin frames && admissibleWithin frames value
  | _, .mapping _ => false
  | _, _ => true

/-- In no key that admission comes to has an integer more digits than are written. -/
def WritableKeys (datum : Datum) : Prop :=
  ∀ items, Part (.mapping items) datum → ∀ key value, (key, value) ∈ items → key.Writable

namespace WritableKeys

theorem list {items : List Datum} (each : ∀ item ∈ items, item.WritableKeys) :
    (Datum.list items).WritableKeys := by
  intro inner part
  cases part with
  | listItem member within => exact each _ member inner within

theorem tuple {items : List Datum} (each : ∀ item ∈ items, item.WritableKeys) :
    (Datum.tuple items).WritableKeys := by
  intro inner part
  cases part with
  | tupleItem member within => exact each _ member inner within

theorem mapping {items : List (Datum × Datum)}
    (each : ∀ item ∈ items, item.1.Writable ∧ item.2.WritableKeys) :
    (Datum.mapping items).WritableKeys := by
  intro inner part
  cases part with
  | here => exact fun key value member => (each (key, value) member).1
  | mappingValue member within => exact (each _ member).2 inner within

end WritableKeys

/-! ### Offences -/

/-- A key offends if it is no text. -/
def keyOffences : Datum → List Refusal
  | .text _ => []
  | key => [refusedKey Nesting.frames key]

mutual

/-- The offences of a datum from left to right. -/
def offences : Datum → List Refusal
  | .set _ => [.unsupported "set"]
  | .bytes _ => [.unsupported "bytes"]
  | .instanceOf typeName => [.unsupported typeName]
  | .list items => offencesEach items
  | .tuple items => offencesEach items
  | .mapping items => offencesMembers items
  | .none | .bool _ | .number _ | .text _ | .json _ => []

def offencesEach : List Datum → List Refusal
  | [] => []
  | first :: rest => first.offences ++ offencesEach rest

def offencesMembers : List (Datum × Datum) → List Refusal
  | [] => []
  | (key, value) :: rest => (keyOffences key ++ value.offences) ++ offencesMembers rest

end

/-- A part offends by itself: no JSON value can be like it, or one of its keys is no text. -/
inductive Offends : Datum → Refusal → Prop where
  | set {items : List Datum} : Offends (.set items) (.unsupported "set")
  | bytes {value : List UInt8} : Offends (.bytes value) (.unsupported "bytes")
  | instanceOf {typeName : Text} : Offends (.instanceOf typeName) (.unsupported typeName)
  | key {items : List (Datum × Datum)} {key value : Datum} (member : (key, value) ∈ items)
      (noText : ∀ text, key ≠ .text text) :
      Offends (.mapping items) (refusedKey Nesting.frames key)

theorem mem_keyOffences {key : Datum} {refusal : Refusal} :
    refusal ∈ keyOffences key ↔
      (∀ text, key ≠ .text text) ∧ refusal = refusedKey Nesting.frames key := by
  cases key <;> simp [keyOffences]

mutual

/-- Every offence is that of some part. -/
theorem part_of_offence (datum : Datum) {refusal : Refusal} (offence : refusal ∈ datum.offences) :
    ∃ inner, Part inner datum ∧ Offends inner refusal := by
  match datum with
  | .none | .bool _ | .number _ | .text _ | .json _ => simp [offences] at offence
  | .set _ =>
    obtain rfl : refusal = .unsupported "set" := by simpa [offences] using offence
    exact ⟨_, .here, .set⟩
  | .bytes _ =>
    obtain rfl : refusal = .unsupported "bytes" := by simpa [offences] using offence
    exact ⟨_, .here, .bytes⟩
  | .instanceOf typeName =>
    obtain rfl : refusal = .unsupported typeName := by simpa [offences] using offence
    exact ⟨_, .here, .instanceOf⟩
  | .list items =>
    rw [offences] at offence
    obtain ⟨item, member, inner, part, offends⟩ := part_of_offenceEach items offence
    exact ⟨inner, .listItem member part, offends⟩
  | .tuple items =>
    rw [offences] at offence
    obtain ⟨item, member, inner, part, offends⟩ := part_of_offenceEach items offence
    exact ⟨inner, .tupleItem member part, offends⟩
  | .mapping items =>
    rw [offences] at offence
    rcases part_of_offenceMembers items offence with
      ⟨key, value, member, noText, rfl⟩ | ⟨key, value, member, inner, part, offends⟩
    · exact ⟨_, .here, .key member noText⟩
    · exact ⟨inner, .mappingValue member part, offends⟩

theorem part_of_offenceEach (items : List Datum) {refusal : Refusal}
    (offence : refusal ∈ offencesEach items) :
    ∃ item ∈ items, ∃ inner, Part inner item ∧ Offends inner refusal := by
  match items with
  | [] => simp [offencesEach] at offence
  | first :: rest =>
    rw [offencesEach, List.mem_append] at offence
    rcases offence with here | later
    · exact ⟨first, List.mem_cons_self, part_of_offence first here⟩
    · obtain ⟨item, member, found⟩ := part_of_offenceEach rest later
      exact ⟨item, List.mem_cons_of_mem first member, found⟩

theorem part_of_offenceMembers (items : List (Datum × Datum)) {refusal : Refusal}
    (offence : refusal ∈ offencesMembers items) :
    (∃ key value, (key, value) ∈ items ∧ (∀ text, key ≠ .text text) ∧
      refusal = refusedKey Nesting.frames key) ∨
    ∃ key value, (key, value) ∈ items ∧ ∃ inner, Part inner value ∧ Offends inner refusal := by
  match items with
  | [] => simp [offencesMembers] at offence
  | (key, value) :: rest =>
    rw [offencesMembers, List.mem_append, List.mem_append] at offence
    rcases offence with (ofKey | ofValue) | later
    · obtain ⟨noText, same⟩ := mem_keyOffences.mp ofKey
      exact .inl ⟨key, value, List.mem_cons_self, noText, same⟩
    · exact .inr ⟨key, value, List.mem_cons_self, part_of_offence value ofValue⟩
    · exact (part_of_offenceMembers rest later).imp
        (fun ⟨key, value, member, found⟩ => ⟨key, value, List.mem_cons_of_mem _ member, found⟩)
        fun ⟨key, value, member, found⟩ => ⟨key, value, List.mem_cons_of_mem _ member, found⟩

end

/-- A JSON value is a copy of a datum: sequences of either kind are arrays, mappings are objects,
all in order, scalars are what they are, and a part that is a JSON value already is taken as it is.
-/
inductive Copied : Datum → Json Datum → Prop where
  | none : Copied .none .null
  | bool (value : Bool) : Copied (.bool value) (.bool value)
  | number (value : Number) : Copied (.number value) (.number value)
  | text (value : Text) : Copied (.text value) (.string value)
  | list {items : List Datum} {elements : List (Json Datum)}
      (each : List.Forall₂ Copied items elements) : Copied (.list items) (.array elements)
  | tuple {items : List Datum} {elements : List (Json Datum)}
      (each : List.Forall₂ Copied items elements) : Copied (.tuple items) (.array elements)
  | mapping {items : List (Datum × Datum)} {members : Members Datum}
      (keys : items.map Prod.fst = members.map fun member => .text member.1)
      (values : List.Forall₂ Copied (items.map Prod.snd) (members.map Prod.snd)) :
      Copied (.mapping items) (.object members)
  | ready (value : Json Datum) : Copied (.json value) value

/-- Members are a copy when their keys are the keys and their values are copies of the values. -/
theorem copied_mapping {items : List (Datum × Datum)} {members : Members Datum}
    (each : List.Forall₂ (fun (item : Datum × Datum) (member : Text × Json Datum) =>
      item.1 = .text member.1 ∧ Copied item.2 member.2) items members) :
    Copied (.mapping items) (.object members) := by
  refine .mapping ?_ ?_
  · rw [← List.forall₂_eq_eq_eq, List.forall₂_map_left_iff, List.forall₂_map_right_iff]
    exact each.imp fun _ _ both => both.1
  · rw [List.forall₂_map_left_iff, List.forall₂_map_right_iff]
    exact each.imp fun _ _ both => both.2

/-- An admitted item of a mapping has its key and an admitted value. -/
theorem admitMember_eq_ok {frames : Nat} {item : Datum × Datum} {member : Text × Json Datum}
    (admitted : admitMember frames item = .ok member) :
    item.1 = .text member.1 ∧ item.2.toJsonWithin frames = .ok member.2 := by
  obtain ⟨key, value⟩ := item
  cases key with
  | text key =>
    obtain ⟨element, admittedValue, same⟩ := map_eq_ok_iff.mp admitted
    rw [← same]
    exact ⟨rfl, admittedValue⟩
  | _ => exact nomatch admitted

/-- The items of a sequence that is admitted have their copies in an array. -/
theorem copied_items {frames : Nat} {items : List Datum} {value : Json Datum}
    (admitted : Json.array <$> items.mapM (toJsonWithin frames) = .ok value)
    (copies : ∀ {item element}, item.toJsonWithin frames = .ok element → Copied item element) :
    ∃ elements, .array elements = value ∧ List.Forall₂ Copied items elements := by
  obtain ⟨elements, each, same⟩ := map_eq_ok_iff.mp admitted
  exact ⟨elements, same, (forall₂_of_mapM_ok each).imp fun _ _ => copies⟩

/-- Whatever is admitted, a copy of it is admitted. By induction on the frames, as an item is
admitted within fewer of them. -/
theorem copied_of_admitted {frames : Nat} {datum : Datum} {value : Json Datum}
    (admitted : datum.toJsonWithin frames = .ok value) : Copied datum value := by
  induction frames using Nat.strongRecOn generalizing datum value with
  | ind frames inductionHypothesis =>
    cases datum with
    | none | bool | number | text | json =>
      rw [toJsonWithin] at admitted
      cases admitted
      constructor
    | set | bytes | instanceOf =>
      rw [toJsonWithin] at admitted
      exact nomatch admitted
    | list items =>
      match frames with
      | 0 | 1 => exact nomatch admitted
      | frames + 2 =>
        rw [toJsonWithin] at admitted
        obtain ⟨elements, rfl, each⟩ :=
          copied_items admitted (inductionHypothesis frames (by omega))
        exact .list each
    | tuple items =>
      match frames with
      | 0 | 1 => exact nomatch admitted
      | frames + 2 =>
        rw [toJsonWithin] at admitted
        obtain ⟨elements, rfl, each⟩ :=
          copied_items admitted (inductionHypothesis frames (by omega))
        exact .tuple each
    | mapping items =>
      match frames with
      | 0 => exact nomatch admitted
      | frames + 1 =>
        rw [mapping_admitted] at admitted
        obtain ⟨members, each, rfl⟩ := map_eq_ok_iff.mp admitted
        refine copied_mapping ((forall₂_of_mapM_ok each).imp fun item member found => ?_)
        obtain ⟨sameKey, admittedValue⟩ := admitMember_eq_ok found
        exact ⟨sameKey, inductionHypothesis frames (by omega) admittedValue⟩

/-! ### Refusals -/

/-- An attempt ends as a list of offences says: it returns when there are none, and it is refused
for the first one when there are some. -/
inductive Settles {α : Type} : List Refusal → Except Refusal α → Prop where
  | admitted (value : α) : Settles [] (.ok value)
  | refused (first : Refusal) (others : List Refusal) : Settles (first :: others) (.error first)

namespace Settles

variable {α β : Type} {first others : List Refusal} {step : Except Refusal α}

/-- Steps one after the other settle the offences of the one and then those of the other. -/
theorem bind {next : α → Except Refusal β} (settles : Settles first step)
    (further : ∀ value, Settles others (next value)) :
    Settles (first ++ others) (step >>= next) := by
  cases settles with
  | admitted value => exact further value
  | refused refusal => exact .refused refusal _

theorem map (settles : Settles first step) (use : α → β) : Settles first (use <$> step) := by
  cases settles with
  | admitted value => exact .admitted (use value)
  | refused refusal => exact .refused refusal _

/-- Steps over a list settle the offences of its members in order. -/
theorem mapM {attempt : α → Except Refusal β} {offences : α → List Refusal} {list : List α}
    (each : ∀ a ∈ list, Settles (offences a) (attempt a)) :
    Settles (list.flatMap offences) (list.mapM attempt) := by
  induction list with
  | nil => exact .admitted []
  | cons a rest inductionHypothesis =>
    rw [List.forall_mem_cons] at each
    rw [List.flatMap_cons, List.mapM_cons]
    refine each.1.bind fun value => ?_
    rw [bind_pure_comp]
    exact (inductionHypothesis each.2).map (value :: ·)

end Settles

/-- A datum that offends twice: by a number as a key, and later by bytes under another one. The key
stands in front of a set, and a set is inside a ready-made part in front of both. -/
def scattered : Datum :=
  .list [.tuple [.number (.int 1), .json (.array [.foreign (.set [])])],
    .mapping [(.text "a", .list [.bool true, .mapping [(.number (.int 1), .set [])]]),
      (.none, .bytes [])]]

end TypeSketch.Datum
