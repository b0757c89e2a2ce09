import TypeSketch.Proofs.Conversion

/-!
# Walks in lockstep

A walk looks at little of what it is given: the kinds and primitive types of some elements, the
keys of the objects it visits, and the names that are taken. Two walks that see the same go the
same way, whatever their values hold besides and in whatever style they write. They reserve the
same names, insert the same declarations, and fail at the same place.

Two walks mirror each other when their outcomes correspond from all registries that do. The
parts of a walk preserve this, so `typeOf_mirrors` follows the constructors of `Alike`. It serves
wherever two runs are compared: for values with other foreign members, for values that differ
where no walk looks, and for other styles.
-/

namespace TypeSketch

variable {ρ σ : Type}

/-- The same failure, with the foreign member as the other value has it. -/
def WalkFault.map (f : ρ → σ) : WalkFault ρ → WalkFault σ
  | .foreign value => .foreign (f value)
  | .tooDeep => .tooDeep

theorem WalkFault.map_id : WalkFault.map (id : ρ → ρ) = id := by
  funext fault
  cases fault <;> rfl

namespace Registry

variable {ε δ : Type} (g : ε → δ)

/-- A registry of the same names with other content. -/
def map (registry : Registry ε) : Registry δ :=
  ⟨registry.pending, registry.inserted.map fun (name, content) => (name, g content)⟩

@[simp] theorem map_pending (registry : Registry ε) : (registry.map g).pending = registry.pending :=
  rfl

@[simp] theorem map_names (registry : Registry ε) : (registry.map g).names = registry.names := by
  rw [names, map, List.map_map]
  rfl

theorem map_id : Registry.map (id : ε → ε) = id := by
  funext registry
  exact congrArg (Registry.mk registry.pending) (List.map_id registry.inserted)

theorem freeName_map (registry : Registry ε) (candidate : Text) :
    (registry.map g).freeName candidate = registry.freeName candidate := by
  have taken : (registry.map g).contains = registry.contains := by
    funext name
    simp only [contains, map_pending, map_names]
  have many : (registry.map g).inserted.length = registry.inserted.length := by
    rw [map, List.length_map]
  rw [freeName, freeName, taken, many, map_pending]

theorem reserve_map (registry : Registry ε) (candidate : Text) :
    ((registry.map g).reserve candidate).2 = (registry.reserve candidate).2.map g := by
  simp only [reserve, freeName_map]
  rfl

theorem complete_map (registry : Registry ε) (name : Text) (content : ε) :
    (registry.map g).complete name (g content) = (registry.complete name content).map g := by
  simp [complete, map]

end Registry

namespace ArrayType

variable {f : ρ → σ}

/-- The kinds of two elements are found to be the same, or both are foreign. -/
def SameKind (f : ρ → σ) (element : Json ρ) (other : Json σ) : Prop :=
  other.coarseKind = element.coarseKind.mapError f

theorem kinds_sameKind {elements : List (Json ρ)} {others : List (Json σ)}
    (same : List.Forall₂ (SameKind f) elements others) :
    kinds others = (kinds elements).mapError f := by
  have collected : others.mapM Json.coarseKind = (elements.mapM Json.coarseKind).mapError f := by
    induction same with
    | nil => rfl
    | cons head _ inductionHypothesis =>
      rw [List.mapM_cons, List.mapM_cons, head, inductionHypothesis, mapError_bind]
      congr 1
      funext kind
      rw [mapError_bind]
      rfl
  rw [kinds, kinds, collected]
  cases elements.mapM Json.coarseKind <;> rfl

/-- What is settled about an array follows from the kinds and primitive types of its elements. -/
theorem settled_sameKind {elements : List (Json ρ)} {others : List (Json σ)}
    (same : List.Forall₂ (SameKind f) elements others)
    (primitives : others.map Json.primitive = elements.map Json.primitive) :
    settled? others = (settled? elements).mapError f := by
  rw [settled?, settled?, kinds_sameKind same, kinds_sameKind (List.forall₂_take sampleSize same),
    primitives, mapError_bind]
  congr 1
  funext sample
  split
  · rfl
  · rw [mapError_bind]
    congr 1
    funext all
    split <;> rfl

/-- When the sample is of one kind, the kinds alone settle it. -/
theorem settled_oneKind {first : Json ρ} {rest : List (Json ρ)} {other : Json σ}
    {others : List (Json σ)}
    (same : List.Forall₂ (SameKind f) (first :: rest) (other :: others))
    (oneKind : OneKind (first :: rest)) (oneKindOther : OneKind (other :: others)) :
    settled? (other :: others) = (settled? (first :: rest)).mapError f := by
  rw [settled_of_oneKind oneKind, settled_of_oneKind oneKindOther,
    kinds_sameKind (List.forall₂_take sampleSize same)]
  cases kinds ((first :: rest).take sampleSize) <;> rfl

end ArrayType

namespace Generator

open ArrayType

mutual

/-- Two values in which a walk sees the same. -/
inductive Alike (f : ρ → σ) : Json ρ → Json σ → Prop where
  | scalar {value : Json ρ} {other : Json σ} (scalar : value.isScalar = true)
      (scalarOther : other.isScalar = true) (kind : SameKind f value other)
      (primitive : other.primitive = value.primitive) : Alike f value other
  | foreign (value : ρ) : Alike f (.foreign value) (.foreign (f value))
  | object {members : Members ρ} {others : Members σ} (each : AlikeAll f members others) :
      Alike f (.object members) (.object others)
  | empty : Alike f (.array []) (.array [])
  | array {first : Json ρ} {rest : List (Json ρ)} {other : Json σ} {others : List (Json σ)}
      (settled : settled? (other :: others) = (settled? (first :: rest)).mapError f)
      (inner : Alike f first other) : Alike f (.array (first :: rest)) (.array (other :: others))

/-- The same keys in the same order, with such values. -/
inductive AlikeAll (f : ρ → σ) : Members ρ → Members σ → Prop where
  | nil : AlikeAll f [] []
  | cons {key : Text} {value : Json ρ} {other : Json σ} {members : Members ρ} {others : Members σ}
      (head : Alike f value other) (tail : AlikeAll f members others) :
      AlikeAll f ((key, value) :: members) ((key, other) :: others)

end

variable {f : ρ → σ}

theorem Alike.sameKind {value : Json ρ} {other : Json σ} (alike : Alike f value other) :
    SameKind f value other := by
  cases alike with
  | scalar _ _ kind primitive => exact kind
  | foreign | object | empty | array => rfl

/-- Every walk sees the same in a value as in itself. -/
theorem Alike.refl (value : Json ρ) : Alike id value value := by
  induction value using Json.elimination with
  | null => exact .scalar rfl rfl rfl rfl
  | bool | number => exact .scalar rfl rfl rfl rfl
  | string => exact .scalar rfl rfl rfl rfl
  | foreign value => exact .foreign value
  | array elements inductionHypothesis =>
    cases elements with
    | nil => exact .empty
    | cons first rest =>
      exact .array (mapError_id _).symm (inductionHypothesis first List.mem_cons_self)
  | object members inductionHypothesis =>
    refine .object ?_
    induction members with
    | nil => exact .nil
    | cons member rest others =>
      rw [List.forall_mem_cons] at inductionHypothesis
      exact .cons inductionHypothesis.1 (others inductionHypothesis.2)

variable {α β : Type} {g : Entry → Entry}

/-- The outcome of a walk, with other foreign members and other content in the registry. -/
def transfer (f : ρ → σ) (g : Entry → Entry) :
    Except (WalkFault ρ) α × Registry Entry → Except (WalkFault σ) α × Registry Entry
  | (outcome, registry) => (outcome.mapError (WalkFault.map f), registry.map g)

/-- The outcomes of two walks correspond whenever the registries do that they begin with. -/
def Mirrors (f : ρ → σ) (g : Entry → Entry) (walk : Walk ρ α) (other : Walk σ α) : Prop :=
  ∀ registry, run other (registry.map g) = transfer f g (run walk registry)

theorem mirrors_pure (value : α) : Mirrors f g (pure value) (pure value) := fun _ => rfl

theorem mirrors_throw (fault : WalkFault ρ) :
    Mirrors f g (throw fault : Walk ρ α) (throw (fault.map f)) := fun _ => rfl

theorem mirrors_bind {walk : Walk ρ α} {other : Walk σ α} {next : α → Walk ρ β}
    {nextOther : α → Walk σ β} (first : Mirrors f g walk other)
    (further : ∀ found, Mirrors f g (next found) (nextOther found)) :
    Mirrors f g (walk >>= next) (other >>= nextOther) := by
  intro registry
  rw [run_bind, run_bind, first registry]
  rcases run walk registry with ⟨fault | found, result⟩
  · rfl
  · exact further found result

theorem mirrors_reserve (candidate : Text) :
    Mirrors f g (reserve candidate) (reserve candidate) := by
  intro registry
  rw [run_reserve, run_reserve, Registry.freeName_map, Registry.reserve_map]
  rfl

theorem mirrors_liftExcept {known : Except ρ α} :
    Mirrors f g (liftExcept (known.mapError WalkFault.foreign))
      (liftExcept ((known.mapError f).mapError WalkFault.foreign)) := by
  intro registry
  rw [run_liftExcept, run_liftExcept]
  cases known <;> rfl

variable {style styleOther : Style}

theorem mirrors_complete (redeclared : ∀ declaration,
      g (.declared style declaration) = .declared styleOther declaration)
    (declaration : Declaration) :
    Mirrors f g (complete style declaration) (complete styleOther declaration) := by
  intro registry
  change (Except.ok (), (registry.map g).complete declaration.name
    (.declared styleOther declaration)) = (Except.ok (), (registry.complete declaration.name
      (.declared style declaration)).map g)
  rw [← redeclared, Registry.complete_map]

/-- A scalar is typed at once. -/
theorem typeOf_scalar {value : Json ρ} (scalar : value.isScalar = true) (style : Style)
    (frames : Nat) (name : Text) :
    typeOf style frames name value = pure (.primitive value.primitive) := by
  cases value with
  | null | bool | number | string => rw [typeOf] <;> simp
  | array | object | foreign => exact absurd scalar Bool.false_ne_true

mutual

/-- Walks over values in which they see the same mirror each other, in whatever styles. -/
theorem typeOf_mirrors (redeclared : ∀ declaration,
      g (.declared style declaration) = .declared styleOther declaration)
    {value : Json ρ} {other : Json σ} (alike : Alike f value other) (frames : Nat) (name : Text) :
    Mirrors f g (typeOf style frames name value) (typeOf styleOther frames name other) := by
  match alike with
  | .scalar scalar scalarOther _ primitive =>
    rw [typeOf_scalar scalar, typeOf_scalar scalarOther, primitive]
    exact mirrors_pure _
  | .foreign value =>
    rw [typeOf, typeOf]
    exact mirrors_throw _
  | @Alike.object _ _ _ members others each =>
    match frames with
    | 0 | 1 => exact mirrors_throw .tooDeep
    | frames + 2 =>
      rw [typeOf_object, typeOf_object]
      refine mirrors_bind (mirrors_reserve name) fun unique => ?_
      refine mirrors_bind (typeOfMembers_mirrors redeclared each frames) fun properties => ?_
      refine mirrors_bind (mirrors_complete redeclared ⟨unique, properties⟩) fun _ => ?_
      exact mirrors_pure _
  | .empty =>
    match frames with
    | 0 => exact mirrors_throw .tooDeep
    | frames + 1 => exact mirrors_pure _
  | .array settled inner =>
    match frames with
    | 0 => exact mirrors_throw .tooDeep
    | frames + 1 =>
      rw [typeOf, typeOf, settled]
      refine mirrors_bind mirrors_liftExcept fun answer => ?_
      cases answer with
      | some element => exact mirrors_pure _
      | none =>
        refine mirrors_bind (typeOf_mirrors redeclared inner frames name) fun element => ?_
        exact mirrors_pure _

theorem typeOfMembers_mirrors (redeclared : ∀ declaration,
      g (.declared style declaration) = .declared styleOther declaration)
    {members : Members ρ} {others : Members σ} (alike : AlikeAll f members others)
    (frames : Nat) :
    Mirrors f g (members.mapM (typeOfMember style frames))
      (others.mapM (typeOfMember styleOther frames)) := by
  match alike with
  | .nil => exact mirrors_pure _
  | .cons head tail =>
    rw [List.mapM_cons, List.mapM_cons]
    refine mirrors_bind ?_ fun property => ?_
    · exact mirrors_bind (typeOf_mirrors redeclared head frames _) fun type => mirrors_pure _
    · refine mirrors_bind (typeOfMembers_mirrors redeclared tail frames) fun properties => ?_
      exact mirrors_pure _

end

/-- Values in which a walk sees the same begin with the same name. -/
theorem Alike.topName {value : Json ρ} {other : Json σ} (alike : Alike f value other)
    (name : Text) : other.topName name = value.topName name := by
  cases alike with
  | scalar scalar scalarOther =>
    have top {τ : Type} {value : Json τ} (scalar : value.isScalar = true) :
        value.topName name = TypeName.fallback := by
      cases value with
      | object members => exact absurd scalar Bool.false_ne_true
      | null | bool | number | string | array | foreign => rfl
    rw [top scalar, top scalarOther]
  | foreign | object | empty | array => rfl

/-- The declarations of a value are what its walk leaves in an empty registry, if it returns. -/
theorem declarations_run (style : Style) (value : Json ρ) :
    declarations style value = (run (generate style TypeName.root value) .empty).1.map
      fun _ => (run (generate style TypeName.root value) .empty).2 := by
  have same : runOn .empty (generate style TypeName.root value) =
      run (generate style TypeName.root value) .empty := rfl
  rw [declarations, same]
  rcases run (generate style TypeName.root value) .empty with ⟨_ | _, _⟩ <;> rfl

/-- The declarations of such values correspond. -/
theorem declarations_mirror (redeclared : ∀ declaration,
      g (.declared style declaration) = .declared styleOther declaration)
    {value : Json ρ} {other : Json σ} (alike : Alike f value other) :
    declarations styleOther other =
      ((declarations style value).mapError (WalkFault.map f)).map (Registry.map g) := by
  have walked : run (generate styleOther TypeName.root other) .empty =
      transfer f g (run (generate style TypeName.root value) .empty) := by
    rw [generate_exact, generate_exact, alike.topName]
    exact typeOf_mirrors redeclared alike _ _ .empty
  rw [declarations_run, declarations_run, walked]
  rcases run (generate style TypeName.root value) .empty with ⟨_ | _, _⟩ <;> rfl

end Generator

end TypeSketch
