import TypeSketch.Generator
import TypeSketch.Proofs.Shape

/-!
# What a walk does to the registry

A walk that returns a type is a derivation of `Declares`, and one that fails is a derivation
of `Abandons`: every object reserves a name, hands the registry from one member to the next,
and inserts its declaration only when all members have their types. `run_outcome` says that
every run is one of the two, whatever the registry holds and however few frames are left.
The relations mention neither frames nor the monad, so later arguments go by their
constructors.

An abandoned walk leaves the registry as it was at the failure: what earlier members have
inserted stays, and so do the names of the objects around the failure.
-/

namespace TypeSketch

variable {ρ : Type}

/-- Whether a value is neither a container nor a foreign member. -/
def Json.isScalar : Json ρ → Bool
  | .null | .bool _ | .number _ | .string _ => true
  | .array _ | .object _ | .foreign _ => false

/-- The name that the objects of a whole value begin with: only an object uses the given
name for itself. -/
def Json.topName (name : Text) : Json ρ → Text
  | .object _ => name
  | _ => TypeName.fallback

namespace Generator

open ArrayType

mutual

/-- A walk over a value, begun with a name and a registry, returns a type and leaves a
registry. -/
inductive Declares (style : Style) :
    Text → Json ρ → Registry Entry → TypeExpr → Registry Entry → Prop where
  | scalar {name : Text} {value : Json ρ} {registry : Registry Entry}
      (scalar : value.isScalar = true) :
      Declares style name value registry (.primitive value.primitive) registry
  | empty {name : Text} {registry : Registry Entry} :
      Declares style name (.array []) registry (.array (.primitive .any)) registry
  | mixed {name : Text} {first : Json ρ} {rest : List (Json ρ)} {registry : Registry Entry}
      (several : ¬OneKind (first :: rest)) :
      Declares style name (.array (first :: rest)) registry
        (.array (mixedType (first :: rest))) registry
  | uniform {name : Text} {first : Json ρ} {rest : List (Json ρ)} {element : TypeExpr}
      {registry result : Registry Entry} (oneKind : OneKind (first :: rest))
      (inner : Declares style name first registry element result) :
      Declares style name (.array (first :: rest)) registry (.array element) result
  | object {name : Text} {members : Members ρ} {properties : List (Text × TypeExpr)}
      {registry result : Registry Entry}
      (inner : DeclaresAll style members (registry.reserve name).2 properties result) :
      Declares style name (.object members) registry (.named (registry.freeName name))
        (result.complete (registry.freeName name)
          (.declared style ⟨registry.freeName name, properties⟩))

/-- The walks over the members of an object in order, each in the registry that the one
before it has left. -/
inductive DeclaresAll (style : Style) :
    Members ρ → Registry Entry → List (Text × TypeExpr) → Registry Entry → Prop where
  | nil {registry : Registry Entry} : DeclaresAll style [] registry [] registry
  | cons {key : Text} {value : Json ρ} {rest : Members ρ} {type : TypeExpr}
      {properties : List (Text × TypeExpr)} {registry middle result : Registry Entry}
      (head : Declares style (TypeName.suggest key) value registry type middle)
      (tail : DeclaresAll style rest middle properties result) :
      DeclaresAll style ((key, value) :: rest) registry ((key, type) :: properties) result

end

mutual

/-- A walk over a value fails and leaves a registry behind. -/
inductive Abandons (style : Style) :
    Text → Json ρ → Registry Entry → WalkFault ρ → Registry Entry → Prop where
  | foreign {name : Text} {value : ρ} {registry : Registry Entry} :
      Abandons style name (.foreign value) registry (.foreign value) registry
  | deepArray {name : Text} {elements : List (Json ρ)} {registry : Registry Entry} :
      Abandons style name (.array elements) registry .tooDeep registry
  | deepObject {name : Text} {members : Members ρ} {registry : Registry Entry} :
      Abandons style name (.object members) registry .tooDeep registry
  | inspected {name : Text} {first : Json ρ} {rest : List (Json ρ)} {value : ρ}
      {registry : Registry Entry} (met : settled? (first :: rest) = .error value) :
      Abandons style name (.array (first :: rest)) registry (.foreign value) registry
  | uniform {name : Text} {first : Json ρ} {rest : List (Json ρ)} {fault : WalkFault ρ}
      {registry result : Registry Entry} (left : settled? (first :: rest) = .ok none)
      (inner : Abandons style name first registry fault result) :
      Abandons style name (.array (first :: rest)) registry fault result
  | object {name : Text} {members : Members ρ} {fault : WalkFault ρ}
      {registry result : Registry Entry}
      (inner : AbandonsAll style members (registry.reserve name).2 fault result) :
      Abandons style name (.object members) registry fault result

/-- One member of an object fails after the walks over those before it. -/
inductive AbandonsAll (style : Style) :
    Members ρ → Registry Entry → WalkFault ρ → Registry Entry → Prop where
  | here {key : Text} {value : Json ρ} {rest : Members ρ} {fault : WalkFault ρ}
      {registry result : Registry Entry}
      (inner : Abandons style (TypeName.suggest key) value registry fault result) :
      AbandonsAll style ((key, value) :: rest) registry fault result
  | later {key : Text} {value : Json ρ} {rest : Members ρ} {type : TypeExpr}
      {fault : WalkFault ρ} {registry middle result : Registry Entry}
      (head : Declares style (TypeName.suggest key) value registry type middle)
      (tail : AbandonsAll style rest middle fault result) :
      AbandonsAll style ((key, value) :: rest) registry fault result

end

/-- Every member gets a property under its key. -/
theorem declaresAll_keys {style : Style} {members : Members ρ}
    {properties : List (Text × TypeExpr)} {registry result : Registry Entry}
    (walked : DeclaresAll style members registry properties result) :
    properties.map Prod.fst = members.map Prod.fst := by
  induction members generalizing registry properties with
  | nil =>
    cases walked
    rfl
  | cons member rest inductionHypothesis =>
    obtain ⟨key, value⟩ := member
    cases walked with
    | cons head tail => exact congrArg (key :: ·) (inductionHypothesis tail)

/-- What running a walk on a registry gives, for a walk with any result. -/
def run {α : Type} (walk : Walk ρ α) (registry : Registry Entry) :
    Except (WalkFault ρ) α × Registry Entry :=
  (ExceptT.run walk).run registry

/-- A walk goes on where the one before it has left the registry, unless that one failed. -/
theorem run_bind {α β : Type} (walk : Walk ρ α) (next : α → Walk ρ β)
    (registry : Registry Entry) :
    run (walk >>= next) registry =
      match run walk registry with
      | (.ok value, result) => run (next value) result
      | (.error fault, result) => (.error fault, result) := by
  simp only [run, ExceptT.run_bind]
  rw [StateT.run_bind]
  change (match (ExceptT.run walk).run registry with | (_, _) => _) = _
  rcases (ExceptT.run walk).run registry with ⟨_ | _, _⟩ <;> rfl

theorem run_pure {α : Type} (value : α) (registry : Registry Entry) :
    run (pure value : Walk ρ α) registry = (.ok value, registry) := rfl

theorem run_throw {α : Type} (fault : WalkFault ρ) (registry : Registry Entry) :
    run (throw fault : Walk ρ α) registry = (.error fault, registry) := rfl

theorem run_reserve (candidate : Text) (registry : Registry Entry) :
    run (reserve candidate : Walk ρ Text) registry =
      (.ok (registry.freeName candidate), (registry.reserve candidate).2) := rfl

/-- Consulting a result that is known beforehand leaves the registry alone. -/
theorem run_liftExcept {α : Type} (known : Except (WalkFault ρ) α) (registry : Registry Entry) :
    run (liftExcept known : Walk ρ α) registry = (known, registry) := by
  cases known <;> rfl

/-- A run that returned is a derivation of `Declares`, and one that failed is a derivation
of `Abandons`. -/
def Outcome (style : Style) (name : Text) (value : Json ρ) (registry : Registry Entry) :
    Except (WalkFault ρ) TypeExpr × Registry Entry → Prop
  | (.ok type, result) => Declares style name value registry type result
  | (.error fault, result) => Abandons style name value registry fault result

/-- The same for the members of an object. -/
def OutcomeAll (style : Style) (members : Members ρ) (registry : Registry Entry) :
    Except (WalkFault ρ) (List (Text × TypeExpr)) × Registry Entry → Prop
  | (.ok properties, result) => DeclaresAll style members registry properties result
  | (.error fault, result) => AbandonsAll style members registry fault result

/-- The typing of one member, as it stands inside the typing of an object. -/
def typeOfMember (style : Style) (frames : Nat) (member : Text × Json ρ) :
    Walk ρ (Text × TypeExpr) := do
  let type ← typeOf style frames (TypeName.suggest member.1) member.2
  return (member.1, type)

/-- An object is typed by its name, once its members are. -/
theorem typeOf_object (style : Style) (frames : Nat) (name : Text) (members : Members ρ) :
    typeOf style (frames + 2) name (.object members) = do
      let unique ← reserve name
      let properties ← members.mapM (typeOfMember style frames)
      complete style ⟨unique, properties⟩
      return .named unique := by
  rw [typeOf]
  rfl

/-- What a walk over an object does once the one over its members is known. -/
theorem run_object (style : Style) (frames : Nat) (name : Text) (members : Members ρ)
    (registry : Registry Entry) :
    run (typeOf style (frames + 2) name (.object members)) registry =
      match run (members.mapM (typeOfMember style frames)) (registry.reserve name).2 with
      | (.error fault, result) => (.error fault, result)
      | (.ok properties, result) =>
        (.ok (.named (registry.freeName name)), result.complete (registry.freeName name)
          (.declared style ⟨registry.freeName name, properties⟩)) := by
  rw [typeOf_object, run_bind, run_reserve]
  dsimp only
  rw [run_bind]
  rcases run (members.mapM (typeOfMember style frames)) (registry.reserve name).2 with
    ⟨fault | properties, result⟩
  · rfl
  · rfl

/-- Members are walked in order, and the first failure ends it. -/
theorem run_members_cons (style : Style) (frames : Nat) (key : Text) (value : Json ρ)
    (rest : Members ρ) (registry : Registry Entry) :
    run (((key, value) :: rest).mapM (typeOfMember style frames)) registry =
      match run (typeOf style frames (TypeName.suggest key) value) registry with
      | (.error fault, result) => (.error fault, result)
      | (.ok type, middle) =>
        match run (rest.mapM (typeOfMember style frames)) middle with
        | (.error fault, result) => (.error fault, result)
        | (.ok properties, result) => (.ok ((key, type) :: properties), result) := by
  rw [List.mapM_cons, run_bind, typeOfMember, run_bind]
  rcases run (typeOf style frames (TypeName.suggest key) value) registry with
    ⟨fault | type, middle⟩
  · rfl
  · simp only [run_pure, run_bind]
    rcases run (rest.mapM (typeOfMember style frames)) middle with ⟨fault | properties, result⟩
    · rfl
    · rfl

/-- So a walk over members follows the walks over each of them. -/
theorem run_members (style : Style) (frames : Nat) (members : Members ρ)
    (each : ∀ (key : Text) (value : Json ρ) (registry : Registry Entry),
      Outcome style (TypeName.suggest key) value registry
        (run (typeOf style frames (TypeName.suggest key) value) registry))
    (registry : Registry Entry) :
    OutcomeAll style members registry
      (run (members.mapM (typeOfMember style frames)) registry) := by
  induction members generalizing registry with
  | nil => exact DeclaresAll.nil
  | cons member rest inductionHypothesis =>
    obtain ⟨key, value⟩ := member
    have head := each key value registry
    rw [run_members_cons]
    generalize run (typeOf style frames (TypeName.suggest key) value) registry = first at head ⊢
    rcases first with ⟨fault | type, middle⟩
    · exact AbandonsAll.here head
    · have tail := inductionHypothesis middle
      dsimp only
      generalize run (rest.mapM (typeOfMember style frames)) middle = others at tail ⊢
      rcases others with ⟨fault | properties, result⟩
      · exact AbandonsAll.later head tail
      · exact DeclaresAll.cons head tail

/-- Every run of the generator on a value returns or fails as the relations say. The cases
are those of `typeOf`; an array consults its elements before it turns to the first. -/
theorem run_outcome (style : Style) (frames : Nat) (name : Text) (value : Json ρ)
    (registry : Registry Entry) :
    Outcome style name value registry (run (typeOf style frames name value) registry) := by
  induction frames, name, value using typeOf.induct generalizing registry with
  | case1 frames name value =>
    rw [typeOf, run_throw]
    exact Abandons.foreign
  | case2 frames name members inductionHypothesis =>
    have inner := run_members style frames members
      (fun key value registry => inductionHypothesis key value registry) (registry.reserve name).2
    rw [run_object]
    generalize run (members.mapM (typeOfMember style frames)) (registry.reserve name).2 = ended
      at inner ⊢
    rcases ended with ⟨fault | properties, result⟩
    · exact Abandons.object inner
    · exact Declares.object inner
  | case3 frames name members short =>
    rw [typeOf, run_throw]
    · exact Abandons.deepObject
    · exact short
  | case4 name elements =>
    rw [typeOf, run_throw]
    exact Abandons.deepArray
  | case5 name frames =>
    rw [typeOf, run_pure]
    exact Declares.empty
  | case6 frames name first rest inductionHypothesis =>
    rw [typeOf, run_bind, run_liftExcept]
    cases settled : settled? (first :: rest) with
    | error value => exact Abandons.inspected settled
    | ok answer =>
      have decided := settled_exact settled
      by_cases oneKind : OneKind (first :: rest)
      · rw [if_pos oneKind] at decided
        subst decided
        have kept : (Except.ok none : Except ρ (Option TypeExpr)).mapError WalkFault.foreign =
            .ok none := rfl
        simp only [kept, run_bind]
        have inner := inductionHypothesis registry
        rcases walked : run (typeOf style frames name first) registry with ⟨fault | element, result⟩
        · rw [walked] at inner
          exact Abandons.uniform settled inner
        · rw [walked] at inner
          exact Declares.uniform oneKind inner
      · rw [if_neg oneKind] at decided
        subst decided
        exact Declares.mixed oneKind
  | case7 frames name scalar notForeign notObject _ noFrame notEmpty notFilled =>
    have isScalar : scalar.isScalar = true := by
      cases scalar with
      | null | bool | number | string => rfl
      | foreign value => exact absurd rfl (notForeign value)
      | object members => exact absurd rfl (notObject members)
      | array elements =>
        exfalso
        cases frames with
        | zero => exact noFrame elements rfl rfl
        | succ frames =>
          cases elements with
          | nil => exact notEmpty frames rfl rfl
          | cons first rest => exact notFilled frames first rest rfl rfl
    rw [typeOf]
    · exact Declares.scalar isScalar
    all_goals assumption

/-- A run whose type is known leaves some registry. -/
theorem runOn_returns {walk : Walk ρ TypeExpr} {registry : Registry Entry} {type : TypeExpr}
    (known : (runOn registry walk).1.toOption = some type) :
    ∃ result, runOn registry walk = (.ok type, result) := by
  rcases ran : runOn registry walk with ⟨fault | found, result⟩
  · rw [ran] at known
    exact absurd known.symm (Option.some_ne_none type)
  · rw [ran] at known
    have same : found = type := Option.some.inj known
    exact ⟨result, by rw [same]⟩

/-- Declaring a whole value is a walk that begins with its top name. -/
theorem generate_exact (style : Style) (name : Text) (value : Json ρ) :
    generate style name value = typeOf style Nesting.frames (value.topName name) value := by
  cases value <;> rfl

/-- A generation is a walk begun with the top name, so its outcome is that of a run. -/
theorem generate_outcome (style : Style) (name : Text) (value : Json ρ)
    (registry : Registry Entry) :
    Outcome style (value.topName name) value registry
      (runOn registry (generate style name value)) := by
  rw [generate_exact]
  exact run_outcome style Nesting.frames (value.topName name) value registry

/-- A generation that returns a type is a derivation of `Declares`. -/
theorem generate_declares {style : Style} {name : Text} {value : Json ρ} {type : TypeExpr}
    {registry result : Registry Entry}
    (returned : runOn registry (generate style name value) = (.ok type, result)) :
    Declares style (value.topName name) value registry type result := by
  have outcome := generate_outcome style name value registry
  rw [returned] at outcome
  exact outcome

end Generator

end TypeSketch
