import Mathlib.Data.List.Induction
import Mathlib.Data.List.Nodup
import TypeSketch.Entries
import TypeSketch.Nesting
import TypeSketch.Proofs.Shape
import TypeSketch.Text.CodePoint

/-!
# The content of a document

Content is what a document says, before it is written and without regard to how: integers by
sign and magnitude, texts code point by code point, and members one by one even if they repeat
a key. It stands for a value in which every key has one place, that of its first occurrence, and
one value, that of its last.

Two measures decide whether content is nested too deeply. The depth counts the containers inside
each other, those of superseded members included. The weight is what the value costs on
admission, where an array counts twice.
-/

namespace TypeSketch

namespace Entries

variable {κ α : Type} [BEq κ]

/-- Every key once, in the order of first occurrences, with the value of its last occurrence. -/
def lastOfEach (pairs : List (κ × α)) : List (κ × α) :=
  (pairs.map Prod.fst).eraseDups.filterMap fun key => (pairs.reverse.lookup key).map (key, ·)

/-- The pairs that are put in turn, the last one after all others. -/
theorem ofPairs_concat (pairs : List (κ × α)) (key : κ) (value : α) :
    ofPairs (· == ·) (pairs ++ [(key, value)]) =
      put (· == ·) key value (ofPairs (· == ·) pairs) := by
  rw [ofPairs, List.foldl_append]
  rfl

variable [LawfulBEq κ]

/-- What is put under a key is found there, and nothing else changes. -/
theorem lookup_put (key : κ) (value : α) (entries : List (κ × α)) (sought : κ) :
    (put (· == ·) key value entries).lookup sought =
      if sought == key then some value else entries.lookup sought := by
  induction entries with
  | nil =>
    rw [put, List.lookup_cons, List.lookup_nil]
    cases sought == key <;> rfl
  | cons entry rest inductionHypothesis =>
    obtain ⟨other, old⟩ := entry
    by_cases same : other = key
    · subst same
      simp only [put, beq_self_eq_true, if_true, List.lookup_cons]
      cases sought == other <;> rfl
    · simp only [put, beq_iff_eq, same, if_false, List.lookup_cons, inductionHypothesis]
      by_cases first : sought = other
      · have different : ¬sought = key := fun equal => same (first.symm.trans equal)
        simp [first, same]
      · have passed : (sought == other) = false := beq_eq_false_iff_ne.mpr first
        rw [passed]

/-- All entries have been put. -/
theorem mem_put {key : κ} {value : α} {entries : List (κ × α)} {entry : κ × α}
    (member : entry ∈ put (· == ·) key value entries) :
    entry = (key, value) ∨ entry ∈ entries := by
  induction entries with
  | nil => exact .inl (List.mem_singleton.mp member)
  | cons first rest inductionHypothesis =>
    obtain ⟨other, old⟩ := first
    by_cases same : other = key
    · subst same
      rw [put, beq_self_eq_true, if_pos rfl] at member
      exact (List.mem_cons.mp member).imp_right (List.mem_cons_of_mem _)
    · rw [put, beq_eq_false_iff_ne.mpr same, if_neg Bool.false_ne_true] at member
      rcases List.mem_cons.mp member with rfl | later
      · exact .inr List.mem_cons_self
      · exact (inductionHypothesis later).imp_right (List.mem_cons_of_mem _)

theorem mem_ofPairs {pairs : List (κ × α)} {entry : κ × α}
    (member : entry ∈ ofPairs (· == ·) pairs) : entry ∈ pairs := by
  induction pairs using List.reverseRecOn with
  | nil => exact absurd member List.not_mem_nil
  | append_singleton pairs pair inductionHypothesis =>
    obtain ⟨key, value⟩ := pair
    rw [ofPairs_concat] at member
    rcases mem_put member with rfl | earlier
    · exact List.mem_append_right _ List.mem_cons_self
    · exact List.mem_append_left _ (inductionHypothesis earlier)

/-- Each key has one place. -/
theorem ofPairs_distinct (pairs : List (κ × α)) :
    ((ofPairs (· == ·) pairs).map Prod.fst).Nodup := by
  induction pairs using List.reverseRecOn with
  | nil => exact List.nodup_nil
  | append_singleton pairs pair inductionHypothesis =>
    obtain ⟨key, value⟩ := pair
    rw [ofPairs_concat, keys_put]
    split
    · exact inductionHypothesis
    · next fresh =>
      rw [List.contains_iff_mem] at fresh
      rw [← List.concat_eq_append]
      exact List.Nodup.concat fresh inductionHypothesis

theorem keys_ofPairs (pairs : List (κ × α)) :
    (ofPairs (· == ·) pairs).map Prod.fst = (pairs.map Prod.fst).eraseDups := by
  induction pairs using List.reverseRecOn with
  | nil => rfl
  | append_singleton pairs pair inductionHypothesis =>
    obtain ⟨key, value⟩ := pair
    have known : (pairs.map Prod.fst).eraseDups.contains key =
        (pairs.map Prod.fst).contains key := by
      rw [Bool.eq_iff_iff, List.contains_iff_mem, List.contains_iff_mem, List.mem_eraseDups]
    rw [ofPairs_concat, keys_put, inductionHypothesis, known, List.map_append,
      List.eraseDups_append]
    split
    · next repeated =>
      have none : [key].removeAll (pairs.map Prod.fst) = [] := by
        simpa [List.removeAll] using repeated
      rw [List.map_singleton, none, List.eraseDups_nil, List.append_nil]
    · next fresh =>
      have one : [key].removeAll (pairs.map Prod.fst) = [key] := by
        simpa [List.removeAll] using fresh
      rw [List.map_singleton, one]
      rfl

theorem lookup_ofPairs (pairs : List (κ × α)) (key : κ) :
    (ofPairs (· == ·) pairs).lookup key = pairs.reverse.lookup key := by
  induction pairs using List.reverseRecOn with
  | nil => rfl
  | append_singleton pairs pair inductionHypothesis =>
    obtain ⟨last, value⟩ := pair
    rw [ofPairs_concat, lookup_put, inductionHypothesis, List.reverse_append,
      List.reverse_singleton, List.singleton_append, List.lookup_cons]
    cases key == last <;> rfl

/-- Entries with different keys are determined by their keys and what is found under these. -/
theorem eq_filterMap_lookup {entries : List (κ × α)} (distinct : (entries.map Prod.fst).Nodup) :
    entries = (entries.map Prod.fst).filterMap fun key => (entries.lookup key).map (key, ·) := by
  induction entries with
  | nil => rfl
  | cons entry rest inductionHypothesis =>
    obtain ⟨key, value⟩ := entry
    rw [List.map_cons, List.nodup_cons] at distinct
    have later : ((rest.map Prod.fst).filterMap fun sought =>
        (((key, value) :: rest).lookup sought).map (sought, ·)) = rest := by
      conv_rhs => rw [inductionHypothesis distinct.2]
      refine List.filterMap_congr ?_
      intro sought member
      have different : (sought == key) = false :=
        beq_eq_false_iff_ne.mpr fun same => distinct.1 (same ▸ member)
      rw [List.lookup_cons, different]
    rw [List.map_cons, List.filterMap_cons, later, List.lookup_cons_self]
    rfl

/-- Pairs that are put in turn leave the last value of each key in its first place. -/
theorem ofPairs_eq_lastOfEach (pairs : List (κ × α)) :
    ofPairs (· == ·) pairs = lastOfEach pairs := by
  rw [eq_filterMap_lookup (ofPairs_distinct pairs), keys_ofPairs, lastOfEach]
  simp only [lookup_ofPairs]

end Entries

namespace Json

variable {ρ : Type}

mutual

/-- What admitting a value costs: two frames for an array and one for an object, inside each
other. -/
def weight : Json ρ → Nat
  | .array elements => elementsWeight elements + 2
  | .object members => membersWeight members + 1
  | _ => 0

def elementsWeight : List (Json ρ) → Nat
  | [] => 0
  | first :: rest => max first.weight (elementsWeight rest)

def membersWeight : Members ρ → Nat
  | [] => 0
  | (_, value) :: rest => max value.weight (membersWeight rest)

end

theorem elementsWeight_le {elements : List (Json ρ)} {frames : Nat} :
    elementsWeight elements ≤ frames ↔ ∀ element ∈ elements, element.weight ≤ frames := by
  induction elements with
  | nil => simp [elementsWeight]
  | cons first rest inductionHypothesis =>
    rw [elementsWeight, Nat.max_le, List.forall_mem_cons, inductionHypothesis]

theorem membersWeight_le {members : Members ρ} {frames : Nat} :
    membersWeight members ≤ frames ↔ ∀ member ∈ members, member.2.weight ≤ frames := by
  induction members with
  | nil => simp [membersWeight]
  | cons first rest inductionHypothesis =>
    rw [membersWeight, Nat.max_le, List.forall_mem_cons, inductionHypothesis]

/-- A value is admitted within a budget that its weight does not exceed. -/
theorem admissibleWithin_iff (value : Json ρ) (frames : Nat) :
    value.admissibleWithin frames = true ↔ value.weight ≤ frames := by
  induction value using elimination generalizing frames with
  | null | bool | number | string | foreign => simp [admissibleWithin, weight]
  | array elements inductionHypothesis =>
    rw [weight]
    match frames with
    | 0 => simp [admissibleWithin]
    | 1 => simp [admissibleWithin]
    | frames + 2 =>
      rw [admissibleWithin, List.all_eq_true, Nat.add_le_add_iff_right, elementsWeight_le]
      exact forall₂_congr fun element member => inductionHypothesis element member frames
  | object members inductionHypothesis =>
    rw [weight]
    match frames with
    | 0 => simp [admissibleWithin]
    | frames + 1 =>
      rw [admissibleWithin, List.all_eq_true, Nat.add_le_add_iff_right, membersWeight_le]
      exact forall₂_congr fun member isMember => inductionHypothesis member isMember frames

end Json

/-- No high surrogate stands directly in front of a low one. -/
def Text.Parted (t : Text) : Prop :=
  t.IsChain fun c d => ¬((0xD800 ≤ c.toNat ∧ c.toNat < 0xDC00) ∧
    (0xDC00 ≤ d.toNat ∧ d.toNat < 0xE000))

instance (t : Text) : Decidable t.Parted := inferInstanceAs (Decidable (List.IsChain _ t))

/-- A text in which no two surrogates make a pair. -/
structure Passage where
  text : Text
  parted : text.Parted

/-- An integer by sign and magnitude, of at most 4300 digits. -/
structure ShortInteger where
  negative : Bool
  magnitude : Nat
  short : (Text.numeral magnitude).length ≤ 4300

/-- The integer itself; zero is zero with either sign. -/
def ShortInteger.value (integer : ShortInteger) : Int :=
  if integer.negative then -integer.magnitude else integer.magnitude

/-- What a document says. -/
inductive Content where
  | null
  | bool (value : Bool)
  | integer (number : ShortInteger)
  | string (passage : Passage)
  | array (elements : List Content)
  | object (members : List (Passage × Content))

namespace Content

mutual

/-- The value that content stands for. -/
def value : Content → Document
  | .null => .null
  | .bool value => .bool value
  | .integer number => .number (.int number.value)
  | .string passage => .string passage.text
  | .array elements => .array (elementValues elements)
  | .object members => .object (Entries.lastOfEach (memberValues members))

def elementValues : List Content → List Document
  | [] => []
  | first :: rest => first.value :: elementValues rest

def memberValues : List (Passage × Content) → Members Empty
  | [] => []
  | (key, content) :: rest => (key.text, content.value) :: memberValues rest

end

mutual

/-- How many containers there are inside each other. -/
def depth : Content → Nat
  | .array elements => elementsDepth elements + 1
  | .object members => membersDepth members + 1
  | _ => 0

def elementsDepth : List Content → Nat
  | [] => 0
  | first :: rest => max first.depth (elementsDepth rest)

def membersDepth : List (Passage × Content) → Nat
  | [] => 0
  | (_, content) :: rest => max content.depth (membersDepth rest)

end

/-- Whether content stays within the nesting limit, both as it is read and as its value is
admitted. -/
def Shallow (content : Content) : Prop :=
  content.depth ≤ Nesting.frames ∧ content.value.weight ≤ Nesting.frames

instance (content : Content) : Decidable content.Shallow :=
  inferInstanceAs (Decidable (_ ∧ _))

end Content

end TypeSketch
