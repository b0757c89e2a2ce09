import TypeSketch.Proofs.Interruption

/-!
# What a walk inspects

A foreign value stops a walk only where it is looked at. A walk visits the value itself, the members
of the objects that it visits, and the first elements of the arrays that it visits, as long as their
samples share one kind. It inspects the members of visited objects, the samples of visited arrays,
and all elements of those whose samples are mixed. `Json.Inspects` says this place by place, with no
regard to order.

`Json.inspections` lists the inspected places in the order in which a walk comes to them: the members
of an object one after the other, each with what is inspected inside it, and the elements of an array
before what is inspected inside the first one. A walk is interrupted by the first foreign value of
this list.
-/

namespace TypeSketch

variable {ρ : Type}

/-- The way to a part of a value, from the outside in: the index of an element or of a member in
each container. -/
abbrev Place := List Nat

namespace ArrayType

/-- The sample has no foreign element, and its elements are not of one kind. -/
def Mixed (elements : List (Json ρ)) : Prop :=
  (∀ element ∈ elements.take sampleSize, element.foreign? = none) ∧ ¬OneKind elements

instance (elements : List (Json ρ)) : Decidable (Mixed elements) :=
  inferInstanceAs (Decidable (_ ∧ _))

/-- The elements that are inspected: all of them if the sample is mixed, and the sample if not. -/
def inspected (elements : List (Json ρ)) : List (Json ρ) :=
  if Mixed elements then elements else elements.take sampleSize

/-- A sample that neither shares one kind nor is mixed has a foreign element. -/
theorem sample_cases (first : Json ρ) (rest : List (Json ρ)) :
    Uniform (first :: rest) ∨ Mixed (first :: rest) ∨
      ∃ raw, firstForeign? ((first :: rest).take sampleSize) = some raw := by
  cases sample : firstForeign? ((first :: rest).take sampleSize) with
  | some raw => exact .inr (.inr ⟨raw, rfl⟩)
  | none =>
    by_cases oneKind : OneKind (first :: rest)
    · exact .inl (uniform_iff.mpr ⟨sample, oneKind⟩)
    · exact .inr (.inl ⟨List.findSome?_eq_none_iff.mp sample, oneKind⟩)

theorem Mixed.not_uniform {first : Json ρ} {rest : List (Json ρ)} (mixed : Mixed (first :: rest)) :
    ¬Uniform (first :: rest) :=
  fun uniform => mixed.2 (uniform_iff.mp uniform).2

/-- The first foreign element that is inspected is the first one of all, unless the array is left to
its first element. -/
theorem firstForeign_inspected (first : Json ρ) (rest : List (Json ρ)) :
    firstForeign? (inspected (first :: rest)) =
      if Uniform (first :: rest) then none else firstForeign? (first :: rest) := by
  rcases sample_cases first rest with uniform | mixed | ⟨raw, found⟩
  · have unmixed : ¬Mixed (first :: rest) := fun mixed => mixed.not_uniform uniform
    rw [inspected, if_neg unmixed, if_pos uniform, (uniform_iff.mp uniform).1]
  · rw [inspected, if_pos mixed, if_neg mixed.not_uniform]
  · have unmixed : ¬Mixed (first :: rest) := fun mixed => by
      rw [firstForeign?, List.findSome?_eq_none_iff.mpr mixed.1] at found
      cases found
    rw [inspected, if_neg unmixed, if_neg (not_uniform_of_foreign found), found,
      firstForeign_of_sample found]

/-- What is found in the sample is found in the whole, early on. -/
theorem early_of_sampled {elements : List (Json ρ)} {i : Nat} {element : Json ρ}
    (found : (elements.take sampleSize)[i]? = some element) :
    i < sampleSize ∧ elements[i]? = some element := by
  rw [List.getElem?_take] at found
  split at found
  · next early => exact ⟨early, found⟩
  · exact nomatch found

/-- The elements in the sample are inspected in any case. -/
theorem inspected_of_early {elements : List (Json ρ)} {i : Nat} {element : Json ρ}
    (early : i < sampleSize) (found : elements[i]? = some element) :
    (inspected elements)[i]? = some element := by
  rw [inspected]
  split
  · exact found
  · rwa [List.getElem?_take_of_lt early]

end ArrayType

open ArrayType

namespace Json

/-- A walk over a value comes to a part of it. -/
inductive Visits (value : Json ρ) : Place → Json ρ → Prop where
  | top : Visits value [] value
  | member {place : Place} {members : Members ρ} {i : Nat} {key : Text} {part : Json ρ}
      (visited : Visits value place (.object members)) (found : members[i]? = some (key, part)) :
      Visits value (place ++ [i]) part
  | first {place : Place} {first : Json ρ} {rest : List (Json ρ)}
      (visited : Visits value place (.array (first :: rest))) (uniform : Uniform (first :: rest)) :
      Visits value (place ++ [0]) first

/-- A walk over a value looks at what stands at a place: at a member of a visited object, at an
element in the sample of a visited array, or at any element of one whose sample is mixed. -/
inductive Inspects (value : Json ρ) : Place → Json ρ → Prop where
  | member {place : Place} {members : Members ρ} {i : Nat} {key : Text} {part : Json ρ}
      (visited : Visits value place (.object members)) (found : members[i]? = some (key, part)) :
      Inspects value (place ++ [i]) part
  | sampled {place : Place} {elements : List (Json ρ)} {i : Nat} {part : Json ρ}
      (visited : Visits value place (.array elements)) (early : i < sampleSize)
      (found : elements[i]? = some part) : Inspects value (place ++ [i]) part
  | mixed {place : Place} {elements : List (Json ρ)} {i : Nat} {part : Json ρ}
      (visited : Visits value place (.array elements)) (mixed : Mixed elements)
      (found : elements[i]? = some part) : Inspects value (place ++ [i]) part

/-- What is visited in a visited part is visited. -/
theorem Visits.trans {value part inner : Json ρ} {place further : Place}
    (visited : value.Visits place part) (onward : part.Visits further inner) :
    value.Visits (place ++ further) inner := by
  induction onward with
  | top => simpa using visited
  | member _ found inductionHypothesis =>
    rw [← List.append_assoc]
    exact .member inductionHypothesis found
  | first _ uniform inductionHypothesis =>
    rw [← List.append_assoc]
    exact .first inductionHypothesis uniform

/-- What is inspected in a visited part is inspected. -/
theorem Visits.inspects {value part inner : Json ρ} {place further : Place}
    (visited : value.Visits place part) (inspects : part.Inspects further inner) :
    value.Inspects (place ++ further) inner := by
  cases inspects with
  | member onward found =>
    rw [← List.append_assoc]
    exact .member (visited.trans onward) found
  | sampled onward early found =>
    rw [← List.append_assoc]
    exact .sampled (visited.trans onward) early found
  | mixed onward mixed found =>
    rw [← List.append_assoc]
    exact .mixed (visited.trans onward) mixed found

mutual

/-- The places that a walk inspects, in the order in which it comes to them, with what stands
there. -/
def inspections : Json ρ → List (Place × Json ρ)
  | .object members => memberInspections 0 members
  | .array (first :: rest) =>
    (inspected (first :: rest)).zipIdx.map (fun (element, i) => ([i], element)) ++
      if Uniform (first :: rest) then first.inspections.map (Prod.map (0 :: ·) id) else []
  | _ => []

/-- The same for members that are counted from a number on. -/
def memberInspections (i : Nat) : Members ρ → List (Place × Json ρ)
  | [] => []
  | (_, value) :: rest =>
    ([i], value) ::
      (value.inspections.map (Prod.map (i :: ·) id) ++ memberInspections (i + 1) rest)

end

/-- The places inspected among members are those of the members and those inside each of them. -/
theorem mem_memberInspections {start : Nat} {members : Members ρ} {place : Place} {part : Json ρ} :
    (place, part) ∈ memberInspections start members ↔
      ∃ i key value, members[i]? = some (key, value) ∧
        (place = [start + i] ∧ part = value ∨
          ∃ further, place = (start + i) :: further ∧ (further, part) ∈ value.inspections) := by
  induction members generalizing start with
  | nil => simp [memberInspections]
  | cons member rest inductionHypothesis =>
    obtain ⟨key, value⟩ := member
    simp only [memberInspections, List.mem_cons, List.mem_append, List.mem_map, Prod.mk.injEq,
      inductionHypothesis]
    constructor
    · rintro (⟨rfl, rfl⟩ | ⟨⟨further, inner⟩, isInside, same⟩ | ⟨i, other, entry, found, located⟩)
      · exact ⟨0, key, part, rfl, .inl ⟨rfl, rfl⟩⟩
      · obtain ⟨rfl, rfl⟩ := Prod.mk.inj same
        exact ⟨0, key, value, rfl, .inr ⟨further, rfl, isInside⟩⟩
      · refine ⟨i + 1, other, entry, found, ?_⟩
        rwa [Nat.add_comm i 1, ← Nat.add_assoc]
    · rintro ⟨i, other, entry, found, located⟩
      cases i with
      | zero =>
        obtain ⟨rfl, rfl⟩ := Prod.mk.inj (Option.some.inj found)
        rcases located with here | ⟨further, rfl, isInside⟩
        · exact .inl here
        · exact .inr (.inl ⟨(further, part), isInside, rfl⟩)
      | succ i =>
        refine .inr (.inr ⟨i, other, entry, found, ?_⟩)
        rwa [Nat.add_comm i 1, ← Nat.add_assoc] at located

/-- The places inspected in an array are those of its inspected elements, and those in its first
element if the array is left to it. -/
theorem mem_elementInspections {first : Json ρ} {rest : List (Json ρ)} {place : Place}
    {part : Json ρ} :
    (place, part) ∈ (Json.array (first :: rest)).inspections ↔
      (∃ i, place = [i] ∧ (inspected (first :: rest))[i]? = some part) ∨
        Uniform (first :: rest) ∧ ∃ further, place = 0 :: further ∧
          (further, part) ∈ first.inspections := by
  rw [inspections, List.mem_append]
  apply or_congr
  · simp only [List.mem_map, Prod.exists, List.mk_mem_zipIdx_iff_getElem?, Prod.mk.injEq]
    constructor
    · rintro ⟨element, i, found, rfl, rfl⟩
      exact ⟨i, rfl, found⟩
    · rintro ⟨i, rfl, found⟩
      exact ⟨part, i, found, rfl, rfl⟩
  · by_cases uniform : Uniform (first :: rest)
    · simp only [uniform, if_true, true_and, List.mem_map, Prod.exists, Prod.map_apply, id_eq,
        Prod.mk.injEq]
      constructor
      · rintro ⟨further, inner, isInside, rfl, rfl⟩
        exact ⟨further, rfl, isInside⟩
      · rintro ⟨further, rfl, isInside⟩
        exact ⟨further, part, isInside, rfl, rfl⟩
    · simp [uniform]

theorem listed_of_inspected {elements : List (Json ρ)} {i : Nat} {part : Json ρ}
    (found : (inspected elements)[i]? = some part) :
    ([i], part) ∈ (Json.array elements).inspections := by
  cases elements with
  | nil => simp [inspected] at found
  | cons first rest => exact mem_elementInspections.mpr (.inl ⟨i, rfl, found⟩)

/-- What is listed for a visited part is listed for the whole. -/
theorem Visits.inspections {value part inner : Json ρ} {place further : Place}
    (visited : value.Visits place part) (listed : (further, inner) ∈ part.inspections) :
    (place ++ further, inner) ∈ value.inspections := by
  induction visited generalizing further with
  | top => exact listed
  | member _ found inductionHypothesis =>
    rw [List.append_assoc]
    apply inductionHypothesis
    rw [Json.inspections, mem_memberInspections]
    refine ⟨_, _, _, found, .inr ⟨further, ?_, listed⟩⟩
    simp
  | first _ uniform inductionHypothesis =>
    rw [List.append_assoc]
    apply inductionHypothesis
    exact mem_elementInspections.mpr (.inr ⟨uniform, further, rfl, listed⟩)

/-- The list holds what is inspected and nothing else. -/
theorem mem_inspections_iff {value part : Json ρ} {place : Place} :
    (place, part) ∈ value.inspections ↔ value.Inspects place part := by
  constructor
  · intro listed
    induction value using elimination generalizing place with
    | null | bool | number | string | foreign => exact absurd listed List.not_mem_nil
    | array elements inductionHypothesis =>
      cases elements with
      | nil => exact absurd listed List.not_mem_nil
      | cons first rest =>
        rcases mem_elementInspections.mp listed with ⟨i, rfl, found⟩ | ⟨uniform, further, rfl, inside⟩
        · rw [inspected] at found
          split at found
          · next mixed => exact .mixed .top mixed found
          · obtain ⟨early, found⟩ := early_of_sampled found
            exact .sampled .top early found
        · have visited : (Json.array (first :: rest)).Visits [0] first := .first .top uniform
          exact visited.inspects (inductionHypothesis first List.mem_cons_self inside)
    | object members inductionHypothesis =>
      rw [inspections, mem_memberInspections] at listed
      obtain ⟨i, key, value, found, located⟩ := listed
      rw [Nat.zero_add] at located
      rcases located with ⟨rfl, rfl⟩ | ⟨further, rfl, inside⟩
      · exact .member .top found
      · have visited : (Json.object members).Visits [i] value := .member .top found
        have isMember : (key, value) ∈ members := List.mem_of_getElem? found
        exact visited.inspects (inductionHypothesis (key, value) isMember inside)
  · intro inspects
    cases inspects with
    | @member _ members i key _ visited found =>
      apply visited.inspections
      rw [inspections, mem_memberInspections]
      exact ⟨i, key, part, found, .inl ⟨by simp, rfl⟩⟩
    | sampled visited early found =>
      apply visited.inspections
      exact listed_of_inspected (inspected_of_early early found)
    | mixed visited mixed found =>
      apply visited.inspections
      apply listed_of_inspected
      rwa [inspected, if_pos mixed]

/-- The first foreign value of a list of checks. -/
def foreignAmong? (checks : List (Place × Json ρ)) : Option ρ :=
  checks.findSome? fun check => check.2.foreign?

theorem foreign?_eq_some_iff {value : Json ρ} {raw : ρ} :
    value.foreign? = some raw ↔ value = .foreign raw := by
  cases value <;> simp [foreign?]

/-- There is one just when a foreign value stands at a place of the list. -/
theorem exists_foreignAmong_iff {checks : List (Place × Json ρ)} :
    (∃ raw, foreignAmong? checks = some raw) ↔ ∃ place raw, (place, .foreign raw) ∈ checks := by
  rw [← Option.isSome_iff_exists, foreignAmong?, List.isSome_findSome?]
  simp only [List.any_eq_true, Option.isSome_iff_exists, foreign?_eq_some_iff, Prod.exists]
  constructor
  · rintro ⟨place, _, listed, raw, rfl⟩
    exact ⟨place, raw, listed⟩
  · rintro ⟨place, raw, listed⟩
    exact ⟨place, _, listed, raw, rfl⟩

/-- It stands behind values that are not foreign. -/
theorem foreignAmong_eq_some_iff {checks : List (Place × Json ρ)} {raw : ρ} :
    foreignAmong? checks = some raw ↔
      ∃ earlier place later, checks = earlier ++ (place, .foreign raw) :: later ∧
        ∀ check ∈ earlier, check.2.foreign? = none := by
  rw [foreignAmong?, List.findSome?_eq_some_iff]
  simp only [Prod.exists, foreign?_eq_some_iff]
  constructor
  · rintro ⟨earlier, place, _, later, same, rfl, none⟩
    exact ⟨earlier, place, later, same, none⟩
  · rintro ⟨earlier, place, later, same, none⟩
    exact ⟨earlier, place, _, later, same, rfl, none⟩

theorem foreignAmong_append (checks others : List (Place × Json ρ)) :
    foreignAmong? (checks ++ others) = (foreignAmong? checks).or (foreignAmong? others) :=
  List.findSome?_append

/-- Where the checked values stand does not matter to it. -/
theorem foreignAmong_under (i : Nat) (checks : List (Place × Json ρ)) :
    foreignAmong? (checks.map (Prod.map (i :: ·) id)) = foreignAmong? checks := by
  rw [foreignAmong?, List.findSome?_map]
  rfl

theorem foreignAmong_elements (elements : List (Json ρ)) :
    foreignAmong? (elements.zipIdx.map fun (element, i) => ([i], element)) =
      firstForeign? elements := by
  rw [foreignAmong?, List.findSome?_map, firstForeign?]
  conv_rhs => rw [← List.zipIdx_map_fst 0 elements, List.findSome?_map]
  rfl

mutual

/-- A walk is interrupted by the value itself or by the first foreign value inspected in it. -/
theorem interruption_inspections (name : Text) (value : Json ρ) :
    (value.interruption? name).map Interruption.raw =
      value.foreign?.or (foreignAmong? value.inspections) := by
  match value with
  | .null | .bool _ | .number _ | .string _ | .foreign _ | .array [] => rfl
  | .array (first :: rest) =>
    have inner := interruption_inspections name first
    rw [interruption?, inspections, foreignAmong_append, foreignAmong_elements,
      firstForeign_inspected]
    by_cases uniform : Uniform (first :: rest)
    · rw [uniform.first_genuine] at inner
      simp only [if_pos uniform, foreignAmong_under, inner]
      rfl
    · simp only [if_neg uniform, Option.map_map]
      cases firstForeign? (first :: rest) <;> rfl
  | .object members =>
    have inner := interruptionAmong_inspections 0 members
    rw [interruption?, inspections, ← inner, Option.map_map]
    rfl

theorem interruptionAmong_inspections (i : Nat) (members : Members ρ) :
    (interruptionAmong? members).map (fun stop => stop.2.raw) =
      foreignAmong? (memberInspections i members) := by
  match members with
  | [] => rfl
  | (key, value) :: rest =>
    have head := interruption_inspections (TypeName.suggest key) value
    have tail := interruptionAmong_inspections (i + 1) rest
    have listed : foreignAmong? (memberInspections i ((key, value) :: rest)) =
        (value.foreign?.or (foreignAmong? value.inspections)).or
          (foreignAmong? (memberInspections (i + 1) rest)) := by
      rw [memberInspections, ← foreignAmong_under i value.inspections, Option.or_assoc,
        ← foreignAmong_append, foreignAmong?, List.findSome?_cons]
      cases value.foreign? <;> rfl
    rw [listed, ← head, ← tail, interruptionAmong?]
    cases value.interruption? (TypeName.suggest key) with
    | some inner => rfl
    | none => simp [Function.comp_def]

end

end Json

end TypeSketch
