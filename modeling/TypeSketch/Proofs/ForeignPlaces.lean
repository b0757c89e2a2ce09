import TypeSketch.Proofs.Frames
import TypeSketch.Proofs.Inspection
import TypeSketch.Proofs.Lockstep

/-!
# Where foreign values matter

Foreign values that are not inspected may be anything. `Json.fill` puts other values in the place of
foreign ones, and a walk is the same step by step if the inspected ones are spared. For an array this
follows from what is seen of its inspected elements, which is enough to settle it or to leave it to
its first element; that is a visited part, and in a visited part the replacement spares what it
spares in the whole.

With the order of inspection this tells all that foreign values do to a generation: which of them it
fails at, if any, and that the others do not matter.
-/

namespace TypeSketch

variable {ρ : Type}

open ArrayType

namespace Json

mutual

/-- The value with other values in the place of its foreign ones. -/
def fill (replace : Place → ρ → Json ρ) : Json ρ → Json ρ
  | .foreign raw => replace [] raw
  | .array elements => .array (fillElements replace 0 elements)
  | .object members => .object (fillMembers replace 0 members)
  | scalar => scalar

def fillElements (replace : Place → ρ → Json ρ) (i : Nat) : List (Json ρ) → List (Json ρ)
  | [] => []
  | element :: rest =>
    element.fill (fun place => replace (i :: place)) :: fillElements replace (i + 1) rest

def fillMembers (replace : Place → ρ → Json ρ) (i : Nat) : Members ρ → Members ρ
  | [] => []
  | (key, value) :: rest =>
    (key, value.fill fun place => replace (i :: place)) :: fillMembers replace (i + 1) rest

end

variable {replace : Place → ρ → Json ρ}

theorem fillElements_take (i n : Nat) (elements : List (Json ρ)) :
    (fillElements replace i elements).take n = fillElements replace i (elements.take n) := by
  induction elements generalizing i n with
  | nil => simp [fillElements]
  | cons element rest inductionHypothesis =>
    cases n with
    | zero => simp [fillElements]
    | succ n => simp [fillElements, inductionHypothesis]

/-- What is seen of elements is seen of them after a replacement, if it is seen of each. -/
theorem fillElements_map {α : Type} {look : Json ρ → α} {i : Nat} {elements : List (Json ρ)}
    (each : ∀ j element, elements[j]? = some element →
      look (element.fill fun place => replace ((i + j) :: place)) = look element) :
    (fillElements replace i elements).map look = elements.map look := by
  induction elements generalizing i with
  | nil => rfl
  | cons element rest inductionHypothesis =>
    have later := inductionHypothesis (i := i + 1) fun j other found => by
      rw [Nat.add_assoc, Nat.add_comm 1 j]
      exact each (j + 1) other found
    simp only [fillElements, List.map_cons, later, List.cons.injEq, and_true]
    exact each 0 element rfl

/-- A replacement spares the foreign values that a walk over the value comes upon: the value itself,
if it is foreign, and those inspected in it. -/
structure Spared (replace : Place → ρ → Json ρ) (value : Json ρ) : Prop where
  top : ∀ raw, value = .foreign raw → replace [] raw = .foreign raw
  inspected : ∀ place raw, value.Inspects place (.foreign raw) → replace place raw = .foreign raw

/-- In a visited part the replacement spares what it spares in the whole. -/
theorem Spared.member {members : Members ρ} {i : Nat} {key : Text} {value : Json ρ}
    (spared : Spared replace (.object members)) (found : members[i]? = some (key, value)) :
    Spared (fun place => replace (i :: place)) value := by
  have visited : (Json.object members).Visits [i] value := .member .top found
  constructor
  · rintro raw rfl
    exact spared.inspected [i] raw (.member .top found)
  · intro place raw inspects
    exact spared.inspected (i :: place) raw (visited.inspects inspects)

theorem Spared.first {first : Json ρ} {rest : List (Json ρ)}
    (spared : Spared replace (.array (first :: rest))) (uniform : Uniform (first :: rest)) :
    Spared (fun place => replace (0 :: place)) first := by
  have visited : (Json.array (first :: rest)).Visits [0] first := .first .top uniform
  constructor
  · rintro raw rfl
    exact nomatch uniform.first_genuine
  · intro place raw inspects
    exact spared.inspected (0 :: place) raw (visited.inspects inspects)

/-- A value that is no foreign one, or is spared, looks the same after the replacement. -/
theorem fill_look (replace : Place → ρ → Json ρ) (value : Json ρ)
    (spared : ∀ raw, value = .foreign raw → replace [] raw = .foreign raw) :
    (value.fill replace).coarseKind = value.coarseKind ∧
      (value.fill replace).primitive = value.primitive := by
  cases value with
  | foreign raw => rw [fill, spared raw rfl]; exact ⟨rfl, rfl⟩
  | null | bool | number | string | array | object => exact ⟨rfl, rfl⟩

end Json

namespace ArrayType

/-- The kinds of elements are found from the kind of each. -/
theorem kinds_congr {elements others : List (Json ρ)}
    (same : others.map Json.coarseKind = elements.map Json.coarseKind) :
    kinds others = kinds elements := by
  have listed (elements : List (Json ρ)) :
      elements.mapM Json.coarseKind = (elements.map Json.coarseKind).mapM id := by
    rw [List.mapM_map, Function.id_comp]
  rw [kinds, kinds, listed, listed, same]

/-- Whether an array is left to its first element is found from the kind of each in the sample. -/
theorem uniform_congr {first other : Json ρ} {rest others : List (Json ρ)}
    (same : ((other :: others).take sampleSize).map Json.coarseKind =
      ((first :: rest).take sampleSize).map Json.coarseKind) :
    Uniform (other :: others) ↔ Uniform (first :: rest) := by
  have listed (elements : List (Json ρ)) (kind : CoarseKind) :
      (∀ element ∈ elements, element.coarseKind = .ok kind) ↔
        ∀ found ∈ elements.map Json.coarseKind, found = .ok kind := by
    rw [List.forall_mem_map]
  simp only [Uniform, ne_eq, reduceCtorEq, not_false_eq_true, true_and, listed, same]

/-- What is settled about an array is the same after a replacement that spares the inspected
elements. -/
theorem settled_fill (replace : Place → ρ → Json ρ) (first : Json ρ) (rest : List (Json ρ))
    (spared : ∀ i raw, (inspected (first :: rest))[i]? = some (.foreign raw) →
      replace [i] raw = .foreign raw) :
    settled? (Json.fillElements replace 0 (first :: rest)) = settled? (first :: rest) ∧
      (Uniform (Json.fillElements replace 0 (first :: rest)) ↔ Uniform (first :: rest)) := by
  have look (i : Nat) (element : Json ρ) (found : (inspected (first :: rest))[i]? = some element) :=
    Json.fill_look (fun place => replace ((0 + i) :: place)) element fun raw isForeign => by
      rw [Nat.zero_add]
      exact spared i raw (isForeign ▸ found)
  have sampled : ((Json.fillElements replace 0 (first :: rest)).take sampleSize).map
      Json.coarseKind = ((first :: rest).take sampleSize).map Json.coarseKind := by
    rw [Json.fillElements_take]
    apply Json.fillElements_map
    intro i element found
    obtain ⟨early, found⟩ := early_of_sampled found
    exact (look i element (inspected_of_early early found)).1
  have uniformly := uniform_congr sampled
  refine ⟨?_, uniformly⟩
  -- Only a mixed sample asks for more than the kinds in it.
  rcases sample_cases first rest with uniform | mixed | ⟨raw, found⟩
  · have uniformOther := uniformly.mpr uniform
    rw [Json.fillElements, settled_eq, settled_eq, if_pos uniform, if_pos uniformOther]
  · rw [inspected, if_pos mixed] at look
    have kinds := kinds_congr (Json.fillElements_map fun i element found => (look i element found).1)
    have primitives := Json.fillElements_map fun i element found => (look i element found).2
    rw [settled?, settled?, kinds_congr sampled, kinds, primitives]
  · rw [settled?, settled?, kinds_congr sampled, kinds_eq, found]
    rfl

end ArrayType

namespace Generator

variable {replace : Place → ρ → Json ρ}

/-- A walk over members is the same after a replacement, if the walk over each of them is. -/
theorem fillMembers_walk {style : Style} {frames i : Nat} {members : Members ρ}
    (each : ∀ j key value, members[j]? = some (key, value) →
      typeOf style frames (TypeName.suggest key)
        (value.fill fun place => replace ((i + j) :: place)) =
      typeOf style frames (TypeName.suggest key) value) :
    (Json.fillMembers replace i members).mapM (typeOfMember style frames) =
      members.mapM (typeOfMember style frames) := by
  induction members generalizing i with
  | nil => rfl
  | cons member rest inductionHypothesis =>
    obtain ⟨key, value⟩ := member
    have here := each 0 key value rfl
    have later := inductionHypothesis (i := i + 1) fun j other entry found => by
      rw [Nat.add_assoc, Nat.add_comm 1 j]
      exact each (j + 1) other entry found
    rw [Json.fillMembers, List.mapM_cons, List.mapM_cons, later, typeOfMember, typeOfMember]
    rw [Nat.add_zero] at here
    rw [here]

/-- A walk is the same after a replacement that spares what it comes upon. -/
theorem typeOf_fill (style : Style) (frames : Nat) (name : Text) {value : Json ρ}
    (spared : value.Spared replace) :
    typeOf style frames name (value.fill replace) = typeOf style frames name value := by
  induction value using Json.elimination generalizing replace frames name with
  | null | bool | number | string => rfl
  | foreign raw => rw [Json.fill, spared.top raw rfl]
  | object members inductionHypothesis =>
    rcases frames with _ | _ | frames
    · rfl
    · rfl
    · have inner : (Json.fillMembers replace 0 members).mapM (typeOfMember style frames) =
          members.mapM (typeOfMember style frames) := by
        apply fillMembers_walk
        intro j key value found
        have isMember : (key, value) ∈ members := List.mem_of_getElem? found
        rw [Nat.zero_add]
        exact inductionHypothesis (key, value) isMember frames _ (spared.member found)
      rw [Json.fill, typeOf_object, typeOf_object, inner]
  | array elements inductionHypothesis =>
    cases frames with
    | zero => rfl
    | succ frames =>
      cases elements with
      | nil => rfl
      | cons first rest =>
        obtain ⟨settled, uniformly⟩ := ArrayType.settled_fill replace first rest fun i raw found =>
          spared.inspected [i] raw (Json.mem_inspections_iff.mp (Json.listed_of_inspected found))
        by_cases uniform : Uniform (first :: rest)
        · have inner := inductionHypothesis first List.mem_cons_self frames name
            (spared.first uniform)
          have uniformOther := uniformly.mpr uniform
          rw [Json.fillElements] at uniformOther
          rw [Json.fill, Json.fillElements, typeOf_filled, typeOf_filled, if_pos uniform,
            if_pos uniformOther, inner]
        · rw [Json.fill, Json.fillElements, typeOf, typeOf, ← Json.fillElements, settled,
            settled_eq, if_neg uniform]
          cases firstForeign? (first :: rest) <;> rfl

/-- A generation inspects what it comes upon, unless the whole value is foreign. -/
theorem generate_fill (style : Style) (name : Text) {value : Json ρ}
    (genuine : value.foreign? = none)
    (spared : ∀ place raw, value.Inspects place (.foreign raw) → replace place raw = .foreign raw) :
    generate style name (value.fill replace) = generate style name value := by
  have top : (value.fill replace).topName name = value.topName name := by
    cases value with
    | foreign raw => exact nomatch genuine
    | null | bool | number | string | array | object => rfl
  rw [generate_exact, generate_exact, top]
  apply typeOf_fill
  constructor
  · rintro raw rfl
    exact nomatch genuine
  · exact spared

/-- A generation within the nesting limit fails at the first foreign value that is inspected, and
it returns if there is none. -/
theorem generate_foreign_iff {style : Style} {name : Text} {value : Json ρ}
    {registry : Registry Entry} (genuine : value.foreign? = none)
    (shallow : (runOn registry (generate style name value)).1 ≠ .error .tooDeep) (raw : ρ) :
    (runOn registry (generate style name value)).1 = .error (.foreign raw) ↔
      Json.foreignAmong? value.inspections = some raw := by
  have listed := Json.interruption_inspections (value.topName name) value
  have interrupted := run_interrupts style Nesting.frames (value.topName name) value registry
  rw [← generate_exact] at interrupted
  change Interrupts style _ value registry (runOn registry (generate style name value)) at interrupted
  rw [genuine, Option.none_or] at listed
  rw [← listed]
  generalize runOn registry (generate style name value) = ended at interrupted shallow ⊢
  rcases ended with ⟨(own | -) | type, result⟩
  · obtain ⟨around, found, _⟩ := interrupted
    simp [found]
  · exact absurd rfl shallow
  · replace interrupted : value.interruption? (value.topName name) = none := interrupted
    simp [interrupted]

/-- Foreign values matter where a generation inspects them and nowhere else, whatever the registry
holds. Unless it is given up for depth, which does not happen to a value whose weight is within the
nesting limit, a generation fails at a foreign value just when one stands at an inspected place, and
the value it reports is the first one in the order of inspection. What is listed in this order is
what is inspected. All other foreign values may be replaced by any values: the outcome is the same,
and so is what is left in the registry. -/
theorem foreign_values_matter_where_inspected (style : Style) (name : Text) (value : Json ρ)
    (registry : Registry Entry) (genuine : value.foreign? = none) :
    (value.walkWeight ≤ Nesting.frames →
      (runOn registry (generate style name value)).1 ≠ .error .tooDeep) ∧
    ((runOn registry (generate style name value)).1 ≠ .error .tooDeep →
      ((∃ raw, (runOn registry (generate style name value)).1 = .error (.foreign raw)) ↔
        ∃ place raw, value.Inspects place (.foreign raw)) ∧
      ∀ raw, (runOn registry (generate style name value)).1 = .error (.foreign raw) ↔
        ∃ earlier place later, value.inspections = earlier ++ (place, .foreign raw) :: later ∧
          ∀ check ∈ earlier, check.2.foreign? = none) ∧
    (∀ place part, (place, part) ∈ value.inspections ↔ value.Inspects place part) ∧
    ∀ replace : Place → ρ → Json ρ,
      (∀ place raw, value.Inspects place (.foreign raw) → replace place raw = .foreign raw) →
      runOn registry (generate style name (value.fill replace)) =
        runOn registry (generate style name value) := by
  refine ⟨generate_within, ?_, fun place part => Json.mem_inspections_iff, ?_⟩
  · intro shallow
    constructor
    · simp only [generate_foreign_iff genuine shallow, Json.exists_foreignAmong_iff,
        Json.mem_inspections_iff]
    · intro raw
      rw [generate_foreign_iff genuine shallow, Json.foreignAmong_eq_some_iff]
  · intro replace spared
    rw [generate_fill style name genuine spared]

/-- Five foreign values: behind the sample of an array, inside and beside the first element of a
first element, inside a second element, and as a member. Only the third and the last are inspected,
and the walk comes to the third before it. -/
def scattered : Json Nat :=
  .object [("ids", .array (List.replicate 10 (.number (.int 1)) ++ [.foreign 1])),
    ("grid", .array [.array [.array [.foreign 2], .bool true, .foreign 3], .array [.foreign 4]]),
    ("last", .foreign 5)]

/-- The same with objects in the place of those that are not inspected. -/
def tidied : Json Nat :=
  .object [("ids", .array (List.replicate 10 (.number (.int 1)) ++ [.object []])),
    ("grid", .array [.array [.array [.object []], .bool true, .foreign 3], .array [.object []]]),
    ("last", .foreign 5)]

/-- Puts objects in the place of all but two values. -/
def tidy (_ : Place) (raw : Nat) : Json Nat :=
  if raw = 3 ∨ raw = 5 then .foreign raw else .object []

theorem scattered_reports_third :
    scattered.foreign? = none ∧ scattered.walkWeight ≤ Nesting.frames ∧
    (runOn .empty (generate {} TypeName.root scattered)).1 = .error (.foreign 3) ∧
    scattered.Inspects [1, 0, 2] (.foreign 3) ∧ ¬scattered.Inspects [0, 10] (.foreign 1) ∧
    runOn .empty (generate {} TypeName.root tidied) =
      runOn .empty (generate {} TypeName.root scattered) := by
  have genuine : scattered.foreign? = none := rfl
  have light : scattered.walkWeight ≤ Nesting.frames := by decide +kernel
  obtain ⟨within, fails, listed, replaced⟩ :=
    foreign_values_matter_where_inspected {} TypeName.root scattered .empty genuine
  obtain ⟨_, reported⟩ := fails (within light)
  have marked : ∀ check ∈ scattered.inspections,
      (check.2.foreign?.all fun raw => raw = 3 || raw = 5) = true := by decide +kernel
  have spared (place : Place) (raw : Nat) (inspects : scattered.Inspects place (.foreign raw)) :
      raw = 3 ∨ raw = 5 := by
    simpa [Json.foreign?] using marked _ ((listed place _).mpr inspects)
  refine ⟨genuine, light, ?_, ?_, ?_, ?_⟩
  · rw [reported]
    -- Sixteen checks come before it, and the last member only after it.
    exact ⟨scattered.inspections.take 16, [1, 0, 2], scattered.inspections.drop 17, rfl,
      by decide +kernel⟩
  · exact (listed _ _).mp (List.mem_of_getElem? (i := 16) rfl)
  · intro inspects
    exact absurd (spared _ _ inspects) (by decide)
  · have filled : scattered.fill tidy = tidied := rfl
    rw [← filled]
    apply replaced
    intro place raw inspects
    exact if_pos (spared place raw inspects)

end Generator

end TypeSketch
