import TypeSketch.Proofs.Outline

/-!
# Names are reserved before they are inserted

A registry refuses to insert a name that was never reserved. The generator does not ask whether it
is refused. Here every insertion is checked, in a walk that can be refused besides failing. Whatever
the value and the registry, the checked walk is the walk without checks, so no insertion is ever
refused: a walk over the members of an object leaves pending what was pending before it, and that
includes the name of the object.
-/

namespace TypeSketch

namespace Generator

open ArrayType

variable {ρ α β : Type}

/-- A walk in which an insertion may be refused. -/
abbrev CheckedWalk (ρ : Type) := ExceptT NeverReserved (Walk ρ)

/-- Inserts a declaration under its name if this name is pending. -/
def insertChecked (style : Style) (declaration : Declaration) : CheckedWalk ρ Unit := do
  match (← get).insert declaration.name (.declared style declaration) with
  | .ok registry => set registry
  | .error refusal => throw refusal

/-- The type of a value, with every insertion checked. -/
def typeOfChecked (style : Style) : (frames : Nat) → (name : Text) → Json ρ →
    CheckedWalk ρ TypeExpr
  | _, _, .foreign value => liftM (throw (.foreign value) : Walk ρ TypeExpr)
  | frames + 2, name, .object members => do
    let unique ← (reserve name : Walk ρ Text)
    let properties ← members.mapM fun ((key, value) : Text × Json ρ) => do
      let type ← typeOfChecked style frames (TypeName.suggest key) value
      return (key, type)
    insertChecked style ⟨unique, properties⟩
    return .named unique
  | _, _, .object _ => liftM (throw .tooDeep : Walk ρ TypeExpr)
  | 0, _, .array _ => liftM (throw .tooDeep : Walk ρ TypeExpr)
  | _ + 1, _, .array [] => return .array (.primitive .any)
  | frames + 1, name, .array (first :: rest) => do
    let settled : Walk ρ (Option TypeExpr) :=
      liftExcept ((settled? (first :: rest)).mapError WalkFault.foreign)
    match ← settled with
    | some element => return .array element
    | none => return .array (← typeOfChecked style frames name first)
  | _, _, scalar => return .primitive scalar.primitive

/-- What running a checked walk on a registry gives. -/
def runChecked (walk : CheckedWalk ρ α) (registry : Registry Entry) :
    Except (WalkFault ρ) (Except NeverReserved α) × Registry Entry :=
  run (ExceptT.run walk) registry

theorem runChecked_lift_bind (walk : Walk ρ α) (next : α → CheckedWalk ρ β)
    (registry : Registry Entry) :
    runChecked (liftM walk >>= next) registry =
      match run walk registry with
      | (.ok value, result) => runChecked (next value) result
      | (.error fault, result) => (.error fault, result) := by
  have lifted : ExceptT.run (liftM walk >>= next) =
      walk >>= fun value => ExceptT.run (next value) := ExceptT.run_bind_lift walk next
  rw [runChecked, lifted, run_bind]
  rfl

/-- Checked walks are the same when they do the same to every registry. -/
theorem runChecked_ext {walk other : CheckedWalk ρ α}
    (same : ∀ registry, runChecked walk registry = runChecked other registry) : walk = other :=
  funext same

/-- A declaration whose name is pending is inserted. -/
theorem runChecked_insert {registry : Registry Entry} {declaration : Declaration}
    (held : declaration.name ∈ registry.pending) (style : Style) (value : α) :
    runChecked (insertChecked style declaration >>= fun _ => pure value : CheckedWalk ρ α)
        registry =
      (.ok (.ok value), registry.complete declaration.name (.declared style declaration)) := by
  have inserted : registry.insert declaration.name (.declared style declaration) =
      .ok (registry.complete declaration.name (.declared style declaration)) :=
    if_pos (List.contains_iff_mem.mpr held)
  change run (ExceptT.run ((match registry.insert declaration.name
    (.declared style declaration) with
    | .ok registry => set registry
    | .error refusal => throw refusal : CheckedWalk ρ Unit) >>= fun _ => pure value)) registry = _
  rw [inserted]
  rfl

/-- The members of an object are walked as they are without checks, if each of them is. -/
theorem mapM_lift {γ : Type} (list : List γ) {checked : γ → CheckedWalk ρ β} {walk : γ → Walk ρ β}
    (each : ∀ a, checked a = liftM (walk a)) : list.mapM checked = liftM (list.mapM walk) := by
  induction list with
  | nil => exact (liftM_pure []).symm
  | cons a rest inductionHypothesis =>
    simp only [List.mapM_cons, each, inductionHypothesis, liftM_bind, liftM_pure]

/-- No insertion is refused: a checked walk is the walk without checks. -/
theorem typeOfChecked_exact (style : Style) (frames : Nat) (name : Text) (value : Json ρ) :
    typeOfChecked style frames name value = liftM (typeOf style frames name value) := by
  induction frames, name, value using typeOf.induct with
  | case1 frames name value => rw [typeOfChecked, typeOf]
  | case2 frames name members inductionHypothesis =>
    have each (member : Text × Json ρ) : (do
        let type ← typeOfChecked style frames (TypeName.suggest member.1) member.2
        return (member.1, type) : CheckedWalk ρ (Text × TypeExpr)) =
          liftM (typeOfMember style frames member) := by
      rw [inductionHypothesis, typeOfMember, liftM_bind]
      simp only [liftM_pure]
    have walked := mapM_lift members each
    rw [typeOfChecked, typeOf_object, liftM_bind]
    refine runChecked_ext fun registry => ?_
    rw [runChecked_lift_bind, runChecked_lift_bind, run_reserve]
    simp only [liftM_bind]
    change runChecked ((members.mapM fun member => do
      let type ← typeOfChecked style frames (TypeName.suggest member.1) member.2
      return (member.1, type)) >>= _) _ = _
    rw [walked, runChecked_lift_bind, runChecked_lift_bind]
    have outcome := run_members style frames members
      (fun key value registry => run_outcome style frames (TypeName.suggest key) value registry)
      (registry.reserve name).2
    rcases ended : run (members.mapM (typeOfMember style frames)) (registry.reserve name).2 with
      ⟨fault | properties, result⟩
    · rfl
    · rw [ended] at outcome
      let declaration : Declaration := ⟨registry.freeName name, properties⟩
      have held : declaration.name ∈ result.pending := by
        rw [(declaresAll_outline outcome).pending_exact]
        exact List.mem_cons_self
      exact runChecked_insert held style (TypeExpr.named declaration.name)
  | case3 frames name members short =>
    rw [typeOfChecked, typeOf]
    · exact short
    · exact short
  | case4 name elements => rw [typeOfChecked, typeOf]
  | case5 name frames =>
    rw [typeOfChecked, typeOf, liftM_pure]
  | case6 frames name first rest inductionHypothesis =>
    rw [typeOfChecked, typeOf, liftM_bind]
    congr 1
    funext answer
    cases answer with
    | some element => exact (liftM_pure _).symm
    | none =>
      simp only [inductionHypothesis, liftM_bind, liftM_pure]
  | case7 frames name scalar notForeign notObject _ noFrame notEmpty notFilled =>
    rw [typeOfChecked, typeOf, liftM_pure]
    all_goals assumption

/-- Declares the objects of a whole value, with every insertion checked. -/
def generateChecked (style : Style) (name : Text) (value : Json ρ) : CheckedWalk ρ TypeExpr :=
  typeOfChecked style Nesting.frames (value.topName name) value

/-- A generation with checks ends as one without them. -/
theorem generateChecked_exact (style : Style) (name : Text) (value : Json ρ)
    (registry : Registry Entry) :
    runChecked (generateChecked style name value) registry =
      ((runOn registry (generate style name value)).1.map Except.ok,
        (runOn registry (generate style name value)).2) := by
  have same : runOn registry (generate style name value) =
      run (typeOf style Nesting.frames (value.topName name) value) registry := by
    rw [generate_exact]
    rfl
  have lifted := runChecked_lift_bind
    (typeOf style Nesting.frames (value.topName name) value) pure registry
  rw [bind_pure] at lifted
  rw [generateChecked, typeOfChecked_exact, lifted, same]
  rcases run (typeOf style Nesting.frames (value.topName name) value) registry with
    ⟨fault | type, result⟩ <;> rfl

end Generator

end TypeSketch
