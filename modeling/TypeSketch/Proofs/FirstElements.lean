import TypeSketch.Proofs.Walk

/-!
# The way through first elements

An array whose sample is of one kind is typed by its first element, which may be such an array
again. The way through first elements goes on as long as this is so. It ends at an object, which is
declared, or at a type that needs no declaration, or at a foreign element that is looked at.

`Json.descent` says where the way ends and how many arrays are on it. It is read off the value
alone: what `unify` does with it is the same whatever declaring an object means, so that an object
is declared once and under the given name, or none is declared at all. A walk types its arrays in
the same way, with its own declaring of objects.
-/

namespace TypeSketch

variable {ρ : Type}

/-- What is found at the end of the way. -/
inductive Landing (ρ : Type) where
  | type (type : TypeExpr)
  | object (members : Members ρ)
  | foreign (value : ρ)

/-- The calls of a declaring function that such an end comes to. -/
def Landing.calls (name : Text) : Landing ρ → List (Text × Members ρ)
  | .object members => [(name, members)]
  | .type _ | .foreign _ => []

/-- The way from a value through first elements: the number of arrays on it and its end. -/
structure Descent (ρ : Type) where
  arrays : Nat
  landing : Landing ρ

open ArrayType

/-- The way through first elements. It passes an array that is not empty and whose sample shares
one kind. Any other array is the last one; it has the mixed type of all its elements, unless one of
them is foreign. -/
def Json.descent : Json ρ → Descent ρ
  | .object members => ⟨0, .object members⟩
  | .foreign value => ⟨0, .foreign value⟩
  | .array [] => ⟨1, .type (.primitive .any)⟩
  | .array (first :: rest) =>
    if Uniform (first :: rest) then ⟨first.descent.arrays + 1, first.descent.landing⟩
    else match firstForeign? (first :: rest) with
      | some value => ⟨1, .foreign value⟩
      | none => ⟨1, .type (mixedType (first :: rest))⟩
  | scalar => ⟨0, .type (.primitive scalar.primitive)⟩

/-- The type of arrays of a type, nested so many times. -/
def TypeExpr.nested (type : TypeExpr) : Nat → TypeExpr
  | 0 => type
  | depth + 1 => .array (type.nested depth)

/-- So many pairs of brackets. -/
def brackets (count : Nat) : Text := (List.replicate count ("[]" : Text)).flatten

theorem TypeExpr.nested_text (type : TypeExpr) (depth : Nat) :
    (type.nested depth).text = type.text ++ brackets depth := by
  induction depth with
  | zero => exact (List.append_nil _).symm
  | succ depth inductionHypothesis =>
    rw [nested, text, inductionHypothesis, List.append_assoc, brackets, brackets,
      List.replicate_succ', List.flatten_append, List.flatten_singleton]

namespace Descent

variable {m : Type → Type} [Monad m]

/-- What the way comes to when objects are declared in some manner. -/
def outcome (declare : Text → Members ρ → m Text) (name : Text) :
    Descent ρ → ExceptT ρ m TypeExpr
  | ⟨arrays, .type type⟩ => return type.nested arrays
  | ⟨arrays, .object members⟩ =>
    (fun given => (TypeExpr.named given).nested arrays) <$> declare name members
  | ⟨_, .foreign value⟩ => throw value

/-- Declaring an object does not fail by itself. -/
theorem run_liftM [LawfulMonad m] (step : m Text) :
    (liftM step : ExceptT ρ m Text).run = Except.ok <$> step := ExceptT.run_lift step

/-- One more array on the way. -/
theorem outcome_succ [LawfulMonad m] (declare : Text → Members ρ → m Text) (name : Text)
    (arrays : Nat) (landing : Landing ρ) :
    (outcome declare name ⟨arrays, landing⟩ >>= fun type => pure (.array type)) =
      outcome declare name ⟨arrays + 1, landing⟩ := by
  cases landing with
  | type type => exact pure_bind _ _
  | object members => simp [outcome, TypeExpr.nested]
  | foreign value => exact ExceptT.bind_throw _

end Descent

namespace ArrayType

variable {m : Type → Type} [Monad m] [LawfulMonad m]

/-- The first element of a uniform array is not foreign. -/
theorem Uniform.first_genuine {first : Json ρ} {rest : List (Json ρ)}
    (uniform : Uniform (first :: rest)) : first.foreign? = none :=
  List.findSome?_eq_none_iff.mp (uniform_iff.mp uniform).1 first List.mem_cons_self

/-- The type that a value decides as a first element is what the way from it comes to, whatever
declaring an object does. By induction on the value; only the first element of an array is turned
to. -/
theorem unifyFirst_descent (declare : Text → Members ρ → m Text) (name : Text) (value : Json ρ)
    (genuine : value.foreign? = none) :
    unifyFirst declare name value = value.descent.outcome declare name := by
  induction value using Json.elimination with
  | null | bool | number | string =>
    rw [unifyFirst]
    · rfl
    all_goals simp
  | foreign value => exact absurd genuine (Option.some_ne_none value)
  | object members =>
    rw [unifyFirst]
    rfl
  | array elements inductionHypothesis =>
    rw [unifyFirst]
    cases elements with
    | nil => rfl
    | cons first rest =>
      rw [unify, settled_eq, Json.descent]
      by_cases uniform : Uniform (first :: rest)
      · have inner := inductionHypothesis first List.mem_cons_self uniform.first_genuine
        simp only [if_pos uniform, liftExcept, pure_bind]
        rw [inner, Descent.outcome_succ]
      · simp only [if_neg uniform]
        cases firstForeign? (first :: rest) with
        | some value => exact ExceptT.bind_throw _
        | none => exact pure_bind _ _

/-- The type of an array is what the way through its first elements comes to. -/
theorem unify_descent (declare : Text → Members ρ → m Text) (name : Text)
    (elements : List (Json ρ)) :
    unify declare name elements = (Json.array elements).descent.outcome declare name := by
  rw [← unifyFirst_descent declare name (.array elements) rfl, unifyFirst]

/-- A declaring function that keeps a log of its calls. -/
def logged (declare : Text → Members ρ → m Text) (name : Text) (members : Members ρ) :
    StateT (List (Text × Members ρ)) m Text := do
  modify (· ++ [(name, members)])
  declare name members

/-- The calls that are logged are those that the way comes to. -/
theorem unify_logged (declare : Text → Members ρ → m Text) (name : Text)
    (elements : List (Json ρ)) (log : List (Text × Members ρ)) :
    (unify (logged declare) name elements).run.run log =
      (fun answer => (answer, log ++ (Json.array elements).descent.landing.calls name)) <$>
        (unify declare name elements).run := by
  rw [unify_descent, unify_descent]
  rcases (Json.array elements).descent with ⟨arrays, type | members | value⟩
  · simp [Descent.outcome, Landing.calls]
  · simp only [Descent.outcome, ExceptT.run_map, Descent.run_liftM]
    simp [Landing.calls, logged]
  · simp [Descent.outcome, Landing.calls]

end ArrayType

/-- Two values whose ways are compared step by step. In an array that is passed, the first elements
are compared again, and of all elements only the kinds that occur in the sample. -/
inductive Json.LeadsAlike : Json ρ → Json ρ → Prop where
  | same (value : Json ρ) : LeadsAlike value value
  | passed {first other : Json ρ} {rest others : List (Json ρ)} (uniform : Uniform (first :: rest))
      (kinds : ∀ kind, kind ∈ ((other :: others).take sampleSize).map Json.coarseKind ↔
        kind ∈ ((first :: rest).take sampleSize).map Json.coarseKind)
      (inner : LeadsAlike first other) :
      LeadsAlike (.array (first :: rest)) (.array (other :: others))

/-- Such values have the same way. -/
theorem Json.LeadsAlike.descent {value other : Json ρ} (alike : LeadsAlike value other) :
    other.descent = value.descent := by
  induction alike with
  | same value => rfl
  | @passed first other rest others uniform kinds _ inductionHypothesis =>
    have uniformOther : Uniform (other :: others) := by
      obtain ⟨_, kind, shared⟩ := uniform
      refine ⟨List.cons_ne_nil other others, kind, ?_⟩
      intro element member
      obtain ⟨source, sampled, same⟩ :=
        List.mem_map.mp ((kinds element.coarseKind).mp (List.mem_map_of_mem member))
      rw [← same, shared source sampled]
    rw [Json.descent, Json.descent, if_pos uniform, if_pos uniformOther, inductionHypothesis]

namespace ArrayType

variable {m : Type → Type} [Monad m] [LawfulMonad m]

/-- The type of an array is written as the way through its first elements tells, whatever the
declaring function does: what is found at the end, with a pair of brackets for each array on the
way. The declaring function is called once if the way ends at an object, for this object and under
the given name, and it is not called otherwise. In every array that is passed, nothing matters
besides the first element but the kinds that occur in the sample. -/
theorem array_declares_once_at_most (declare : Text → Members ρ → m Text) (name : Text)
    (elements : List (Json ρ)) :
    (TypeExpr.text <$> unify declare name elements =
      match (Json.array elements).descent with
      | ⟨arrays, .type type⟩ => pure (type.text ++ brackets arrays)
      | ⟨arrays, .object members⟩ => (· ++ brackets arrays) <$> liftM (declare name members)
      | ⟨_, .foreign value⟩ => throw value) ∧
    (∀ log : List (Text × Members ρ),
      (unify (logged declare) name elements).run.run log =
        (fun answer => (answer, log ++ match (Json.array elements).descent.landing with
          | .object members => [(name, members)]
          | .type _ | .foreign _ => [])) <$> (unify declare name elements).run) ∧
    ∀ others, (Json.array elements).LeadsAlike (.array others) →
      unify declare name others = unify declare name elements := by
  refine ⟨?_, unify_logged declare name elements, ?_⟩
  · rw [unify_descent]
    rcases (Json.array elements).descent with ⟨arrays, type | members | value⟩
    · simp [Descent.outcome, TypeExpr.nested_text]
    · simp [Descent.outcome, TypeExpr.nested_text, TypeExpr.text]
    · rw [Descent.outcome, map_eq_pure_bind]
      exact ExceptT.bind_throw _
  · intro others alike
    rw [unify_descent, unify_descent, alike.descent]

/-- Tags in nested arrays, beside elements of the same kind that are not like them. -/
def nestedTags : List Document :=
  [.array [.array [.object [("id", .number (.int 1))], .object []], .array []],
    .array [.bool true]]

/-- The same first elements with other elements of the same kinds behind them, and some more behind
the sample. -/
def nestedTagsElsewhere : List Document :=
  .array [.array [.object [("id", .number (.int 1))], .object [("on", .null)]]] ::
    List.replicate 9 (.array []) ++ [.null, .object []]

/-- A declaring function that numbers its calls. -/
def numberedName (name : Text) (_ : Members Empty) : StateM Nat Text :=
  modifyGet fun calls => (name ++ Text.numeral (calls + 1), calls + 1)

theorem nested_tags_declared_once :
    (TypeExpr.text <$> unify numberedName "Tag" nestedTags).run.run 6 = (.ok "Tag7[][][]", 7) ∧
    (((unify (logged numberedName) "Tag" nestedTags).run.run []).run 6).1.2 =
      ([("Tag", [("id", .number (.int 1))])] : List (Text × Members Empty)) ∧
    unify numberedName "Tag" nestedTagsElsewhere = unify numberedName "Tag" nestedTags := by
  obtain ⟨typed, called, elsewhere⟩ := array_declares_once_at_most numberedName "Tag" nestedTags
  refine ⟨?_, ?_, elsewhere nestedTagsElsewhere ?_⟩
  · rw [typed]
    rfl
  · rw [called]
    rfl
  · refine .passed (by decide) (by simp [sampleSize, Json.coarseKind]) ?_
    refine .passed (by decide) (by simp [sampleSize, Json.coarseKind]) ?_
    exact .passed (by decide) (by simp [sampleSize, Json.coarseKind]) (.same _)

end ArrayType

namespace Generator

/-- Declares an object in a walk and gives its name. -/
def declareObject (style : Style) (frames : Nat) (name : Text) (members : Members ρ) :
    Walk ρ Text := do
  let unique ← reserve name
  let properties ← members.mapM (typeOfMember style frames)
  complete style ⟨unique, properties⟩
  return unique

theorem typeOf_declareObject (style : Style) (frames : Nat) (name : Text) (members : Members ρ) :
    typeOf style (frames + 2) name (.object members) =
      .named <$> declareObject style frames name members := by
  rw [typeOf_object]
  simp [declareObject]

/-- Goes on with an answer, or stops at the foreign element that was met. -/
def settle (answer : Except ρ TypeExpr) : Walk ρ TypeExpr :=
  liftExcept (answer.mapError WalkFault.foreign)

theorem settle_ok (type : TypeExpr) : settle (.ok type : Except ρ TypeExpr) = pure type := rfl

theorem settle_error (value : ρ) : settle (.error value) = throw (.foreign value) := rfl

/-- What is done with a type may be done before or after the answer is settled. -/
theorem settle_bind (typing : ExceptT ρ (Walk ρ) TypeExpr) (use : TypeExpr → TypeExpr) :
    (typing >>= fun type => pure (use type)).run >>= settle =
      (typing.run >>= settle) >>= fun type => pure (use type) := by
  rw [ExceptT.run_bind, bind_assoc, bind_assoc]
  congr 1
  funext answer
  cases answer with
  | error value =>
    rw [pure_bind, settle_error, ExceptT.bind_throw]
  | ok type =>
    simp only [ExceptT.run_pure, pure_bind, settle_ok]

/-- A walk leaves a filled array to its first element or settles it at once. -/
theorem typeOf_filled (style : Style) (frames : Nat) (name : Text) (first : Json ρ)
    (rest : List (Json ρ)) :
    typeOf style (frames + 1) name (.array (first :: rest)) =
      if Uniform (first :: rest) then
        typeOf style frames name first >>= fun type => pure (.array type)
      else match firstForeign? (first :: rest) with
        | some value => throw (.foreign value)
        | none => pure (.array (mixedType (first :: rest))) := by
  rw [typeOf, settled_eq]
  by_cases uniform : Uniform (first :: rest)
  · rw [if_pos uniform, if_pos uniform]
    exact pure_bind _ _
  · rw [if_neg uniform, if_neg uniform]
    cases firstForeign? (first :: rest) with
    | some value => exact ExceptT.bind_throw _
    | none => exact pure_bind _ _

/-- A walk over a value goes the way through its first elements, given the frames for it. -/
theorem typeOf_descent (style : Style) (frames : Nat) (name : Text) (value : Json ρ) :
    typeOf style (frames + 2 + value.descent.arrays) name value =
      (value.descent.outcome (declareObject style frames) name).run >>= settle := by
  induction value using Json.elimination with
  | null | bool | number | string =>
    rw [typeOf]
    · simp only [Json.descent, Descent.outcome, ExceptT.run_pure, pure_bind, settle_ok,
        TypeExpr.nested]
    all_goals simp
  | foreign value =>
    rw [typeOf, Json.descent, Descent.outcome, ExceptT.run_throw, pure_bind, settle_error]
  | object members =>
    refine (typeOf_declareObject style frames name members).trans ?_
    rw [Json.descent, Descent.outcome, ExceptT.run_map, Descent.run_liftM]
    simp only [bind_map_left, Except.map, settle_ok, bind_pure_comp, TypeExpr.nested]
  | array elements inductionHypothesis =>
    cases elements with
    | nil =>
      simp only [Json.descent, typeOf, Descent.outcome, ExceptT.run_pure, pure_bind, settle_ok,
        TypeExpr.nested]
    | cons first rest =>
      rw [Json.descent]
      by_cases uniform : Uniform (first :: rest)
      · have inner := inductionHypothesis first List.mem_cons_self
        rw [if_pos uniform, ← Nat.add_assoc, typeOf_filled, if_pos uniform,
          ← Descent.outcome_succ, settle_bind, ← inner]
      · rw [if_neg uniform]
        cases foreign : firstForeign? (first :: rest) with
        | some value =>
          rw [typeOf_filled, if_neg uniform, foreign, Descent.outcome, ExceptT.run_throw, pure_bind,
            settle_error]
        | none =>
          rw [typeOf_filled, if_neg uniform, foreign, Descent.outcome, ExceptT.run_pure, pure_bind,
            settle_ok]
          rfl

/-- Arrays in a walk are typed as `unify` types them. -/
theorem typeOf_array (style : Style) (frames : Nat) (name : Text) (elements : List (Json ρ)) :
    typeOf style (frames + 2 + (Json.array elements).descent.arrays) name (.array elements) =
      (unify (declareObject style frames) name elements).run >>= settle := by
  rw [unify_descent, typeOf_descent]

end Generator

end TypeSketch
