import TypeSketch.Proofs.Content
import TypeSketch.Proofs.FirstElements

/-!
# The frames that a walk needs

A walk pays for the containers that it enters, two frames for an object and one for an array, and
it enters less than there is: of the elements of an array it enters the first one at most. Its
weight is the most that it pays on any way down. A walk within a budget returns only if the budget
covers the weight, and it is given up for depth only if it does not; `run_pays` says both for every
walk, whatever the registry holds.

The weight of a walk and the weight of admission follow different parts of a value and count its
containers differently, yet neither exceeds twice the number of containers inside each other.
-/

namespace TypeSketch

variable {ρ : Type}

namespace Json

open ArrayType

mutual

/-- What a walk over a value pays: two frames for an object and one for an array, inside each
other. An array is followed by its first element, if its sample shares one kind. -/
def walkWeight : Json ρ → Nat
  | .array (first :: rest) => if Uniform (first :: rest) then first.walkWeight + 1 else 1
  | .array [] => 1
  | .object members => membersWalkWeight members + 2
  | _ => 0

def membersWalkWeight : Members ρ → Nat
  | [] => 0
  | (_, value) :: rest => max value.walkWeight (membersWalkWeight rest)

end

mutual

/-- How many containers there are inside each other. -/
def levels : Json ρ → Nat
  | .array elements => elementsLevels elements + 1
  | .object members => membersLevels members + 1
  | _ => 0

def elementsLevels : List (Json ρ) → Nat
  | [] => 0
  | first :: rest => max first.levels (elementsLevels rest)

def membersLevels : Members ρ → Nat
  | [] => 0
  | (_, value) :: rest => max value.levels (membersLevels rest)

end

theorem elementsLevels_le {elements : List (Json ρ)} {bound : Nat} :
    elementsLevels elements ≤ bound ↔ ∀ element ∈ elements, element.levels ≤ bound := by
  induction elements with
  | nil => simp [elementsLevels]
  | cons first rest inductionHypothesis =>
    simp only [elementsLevels, Nat.max_le, List.forall_mem_cons, inductionHypothesis]

theorem membersLevels_le {members : Members ρ} {bound : Nat} :
    membersLevels members ≤ bound ↔ ∀ member ∈ members, member.2.levels ≤ bound := by
  induction members with
  | nil => simp [membersLevels]
  | cons first rest inductionHypothesis =>
    simp only [membersLevels, Nat.max_le, List.forall_mem_cons, inductionHypothesis]

theorem membersWalkWeight_le {members : Members ρ} {bound : Nat} :
    membersWalkWeight members ≤ bound ↔ ∀ member ∈ members, member.2.walkWeight ≤ bound := by
  induction members with
  | nil => simp [membersWalkWeight]
  | cons first rest inductionHypothesis =>
    simp only [membersWalkWeight, Nat.max_le, List.forall_mem_cons, inductionHypothesis]

/-- No element has more levels than all of them together. -/
theorem levels_of_element {elements : List (Json ρ)} {element : Json ρ}
    (member : element ∈ elements) : element.levels ≤ elementsLevels elements :=
  elementsLevels_le.mp (Nat.le_refl _) element member

theorem levels_of_member {members : Members ρ} {entry : Text × Json ρ} (member : entry ∈ members) :
    entry.2.levels ≤ membersLevels members :=
  membersLevels_le.mp (Nat.le_refl _) entry member

/-- Admission pays at most two frames for each level. -/
theorem weight_le_levels (value : Json ρ) : value.weight ≤ 2 * value.levels := by
  induction value using elimination with
  | null | bool | number | string | foreign => exact Nat.le_refl 0
  | array elements inductionHypothesis =>
    have inner : elementsWeight elements ≤ 2 * elementsLevels elements := by
      rw [elementsWeight_le]
      intro element member
      have own := inductionHypothesis element member
      have held := levels_of_element member
      omega
    simp only [weight, levels]
    omega
  | object members inductionHypothesis =>
    have inner : membersWeight members ≤ 2 * membersLevels members := by
      rw [membersWeight_le]
      intro entry member
      have own := inductionHypothesis entry member
      have held := levels_of_member member
      omega
    simp only [weight, levels]
    omega

/-- So does a walk. -/
theorem walkWeight_le_levels (value : Json ρ) : value.walkWeight ≤ 2 * value.levels := by
  induction value using elimination with
  | null | bool | number | string | foreign => exact Nat.le_refl 0
  | array elements inductionHypothesis =>
    cases elements with
    | nil =>
      simp only [walkWeight, levels]
      omega
    | cons first rest =>
      have own := inductionHypothesis first List.mem_cons_self
      have held := levels_of_element (List.mem_cons_self (a := first) (l := rest))
      simp only [walkWeight, levels]
      split <;> omega
  | object members inductionHypothesis =>
    have inner : membersWalkWeight members ≤ 2 * membersLevels members := by
      rw [membersWalkWeight_le]
      intro entry member
      have own := inductionHypothesis entry member
      have held := levels_of_member member
      omega
    simp only [walkWeight, levels]
    omega

end Json

namespace Generator

open ArrayType

/-- How a run ends that needs a budget: it returns only with it, and is given up for depth only
without it. -/
def Pays {α : Type} (enough : Prop) : Except (WalkFault ρ) α × Registry Entry → Prop
  | (.ok _, _) => enough
  | (.error .tooDeep, _) => ¬enough
  | (.error (.foreign _), _) => True

/-- What a walk over members needs is what the walks over each of them need. -/
theorem run_members_pays (style : Style) (frames : Nat) (members : Members ρ)
    (each : ∀ (key : Text) (value : Json ρ) (registry : Registry Entry),
      Pays (value.walkWeight ≤ frames)
        (run (typeOf style frames (TypeName.suggest key) value) registry))
    (registry : Registry Entry) :
    Pays (Json.membersWalkWeight members ≤ frames)
      (run (members.mapM (typeOfMember style frames)) registry) := by
  induction members generalizing registry with
  | nil => exact Nat.zero_le frames
  | cons member rest inductionHypothesis =>
    obtain ⟨key, value⟩ := member
    have head := each key value registry
    rw [run_members_cons]
    generalize run (typeOf style frames (TypeName.suggest key) value) registry = first at head ⊢
    rcases first with ⟨(raw | -) | type, middle⟩
    · trivial
    · intro enough
      exact head (Nat.le_trans (Nat.le_max_left _ _) enough)
    · have tail := inductionHypothesis middle
      dsimp only
      generalize run (rest.mapM (typeOfMember style frames)) middle = others at tail ⊢
      rcases others with ⟨(raw | -) | properties, result⟩
      · trivial
      · intro enough
        exact tail (Nat.le_trans (Nat.le_max_right _ _) enough)
      · exact Nat.max_le.mpr ⟨head, tail⟩

/-- Every walk needs its weight. The cases are those of `typeOf`. -/
theorem run_pays (style : Style) (frames : Nat) (name : Text) (value : Json ρ)
    (registry : Registry Entry) :
    Pays (value.walkWeight ≤ frames) (run (typeOf style frames name value) registry) := by
  induction frames, name, value using typeOf.induct generalizing registry with
  | case1 frames name raw =>
    rw [typeOf, run_throw]
    trivial
  | case2 frames name members inductionHypothesis =>
    have inner := run_members_pays style frames members
      (fun key value registry => inductionHypothesis key value registry) (registry.reserve name).2
    rw [run_object, Json.walkWeight]
    generalize run (members.mapM (typeOfMember style frames)) (registry.reserve name).2 = ended
      at inner ⊢
    rcases ended with ⟨(raw | -) | properties, result⟩
    · trivial
    · intro enough
      exact inner (Nat.le_of_add_le_add_right enough)
    · exact Nat.add_le_add_right inner 2
  | case3 frames name members short =>
    rw [typeOf, run_throw, Json.walkWeight]
    · intro enough
      exact short (frames - 2) (by omega)
    · exact short
  | case4 name elements =>
    rw [typeOf, run_throw]
    intro enough
    cases elements with
    | nil => exact absurd enough (by simp [Json.walkWeight])
    | cons first rest =>
      rw [Json.walkWeight] at enough
      split at enough <;> omega
  | case5 name frames =>
    rw [typeOf, run_pure, Json.walkWeight]
    exact Nat.le_add_left 1 frames
  | case6 frames name first rest inductionHypothesis =>
    rw [typeOf_filled, Json.walkWeight]
    by_cases uniform : Uniform (first :: rest)
    · have inner := inductionHypothesis registry
      simp only [if_pos uniform, run_bind]
      generalize run (typeOf style frames name first) registry = ended at inner ⊢
      rcases ended with ⟨(raw | -) | element, result⟩
      · trivial
      · intro enough
        exact inner (Nat.le_of_add_le_add_right enough)
      · exact Nat.add_le_add_right inner 1
    · simp only [if_neg uniform]
      cases firstForeign? (first :: rest) with
      | some raw => trivial
      | none => exact Nat.le_add_left 1 frames
  | case7 frames name scalar notForeign notObject _ noFrame notEmpty notFilled =>
    have typed : typeOf style frames name scalar = pure (.primitive scalar.primitive) := by
      rw [typeOf] <;> assumption
    have outcome := run_outcome style frames name scalar registry
    rw [typed] at outcome ⊢
    cases outcome with
    | scalar isScalar =>
      cases scalar with
      | null | bool | number | string => exact Nat.zero_le frames
      | array | object | foreign => exact absurd isScalar Bool.false_ne_true

/-- So does every generation. -/
theorem generate_pays (style : Style) (name : Text) (value : Json ρ) (registry : Registry Entry) :
    Pays (value.walkWeight ≤ Nesting.frames) (runOn registry (generate style name value)) := by
  rw [generate_exact]
  exact run_pays style Nesting.frames (value.topName name) value registry

/-- Within the nesting limit none is given up for depth. -/
theorem generate_within {style : Style} {name : Text} {value : Json ρ} {registry : Registry Entry}
    (enough : value.walkWeight ≤ Nesting.frames) :
    (runOn registry (generate style name value)).1 ≠ .error .tooDeep := by
  have paid := generate_pays style name value registry
  generalize runOn registry (generate style name value) = ended at paid ⊢
  rcases ended with ⟨(raw | -) | type, result⟩
  · simp
  · exact absurd enough paid
  · simp

/-- As a document has no foreign members, its weight alone decides whether it is walked to the
end. -/
theorem declarations_ok_iff (style : Style) (document : Document) :
    (∃ registry, declarations style document = .ok registry) ↔
      document.walkWeight ≤ Nesting.frames := by
  have paid := generate_pays style TypeName.root document .empty
  rw [declarations]
  generalize runOn .empty (generate style TypeName.root document) = ended at paid ⊢
  rcases ended with ⟨(impossible | -) | type, registry⟩
  · exact nomatch impossible
  · simp only [reduceCtorEq, exists_false, false_iff]
    exact paid
  · simp only [Except.ok.injEq, exists_eq', true_iff]
    exact paid

end Generator

end TypeSketch
