import TypeSketch.Proofs.FreeName
import TypeSketch.Proofs.Walk

/-!
# Outlines

The outline of a value is its shape with a name at every object that a walk visits. It is
first made with the candidate names, then gets free names from a registry, outer objects
before inner ones, and from these names alone it yields the type of the value and the
declarations of its objects, inner ones before outer ones.

`declares_outline` says that a walk which returns does just this, although it reserves and
inserts in turns: what a candidate gets depends on which names are taken, and a name stays
taken when its declaration is inserted.
-/

namespace TypeSketch

/-- A shape whose objects have names. -/
inductive Outline where
  | primitive (type : Primitive)
  | record (name : Text) (fields : List (Text × Outline))
  | array (element : Outline)
  | union (members : List Primitive)
deriving Repr

/-- The entry of a declaration in a registry. -/
def Declaration.entry (style : Style) (declaration : Declaration) : Text × Entry :=
  (declaration.name, .declared style declaration)

namespace Outline

/-- The type that refers to the objects by their names. -/
def type : Outline → TypeExpr
  | .primitive type => .primitive type
  | .record name _ => .named name
  | .array element => .array element.type
  | .union members => .union members

/-- The properties of an object whose fields have outlines. -/
def properties (fields : List (Text × Outline)) : List (Text × TypeExpr) :=
  fields.map fun (key, outline) => (key, outline.type)

mutual

/-- The names of the objects, outer ones before those inside them. -/
def names : Outline → List Text
  | .record name fields => name :: fieldNames fields
  | .array element => element.names
  | .primitive _ | .union _ => []

def fieldNames : List (Text × Outline) → List Text
  | [] => []
  | (_, outline) :: rest => outline.names ++ fieldNames rest

end

mutual

/-- The declarations of the objects, inner ones before those around them. -/
def declarations : Outline → List Declaration
  | .record name fields => fieldDeclarations fields ++ [⟨name, properties fields⟩]
  | .array element => element.declarations
  | .primitive _ | .union _ => []

def fieldDeclarations : List (Text × Outline) → List Declaration
  | [] => []
  | (_, outline) :: rest => outline.declarations ++ fieldDeclarations rest

end

mutual

/-- The shape that remains without the names. -/
def shape : Outline → Shape
  | .primitive type => .primitive type
  | .record _ fields => .record (fieldShapes fields)
  | .array element => .array element.shape
  | .union members => .union (members.map .primitive)

def fieldShapes : List (Text × Outline) → List (Text × Shape)
  | [] => []
  | (key, outline) :: rest => (key, outline.shape) :: fieldShapes rest

end

variable {ε : Type}

mutual

/-- Replaces every candidate by a free name, which is reserved; an object comes before those
inside it. -/
def reserve : Outline → Registry ε → Outline × Registry ε
  | .record candidate fields, registry =>
    let held := registry.reserve candidate
    let inner := reserveFields fields held.2
    (.record held.1 inner.1, inner.2)
  | .array element, registry =>
    let inner := element.reserve registry
    (.array inner.1, inner.2)
  | .primitive type, registry => (.primitive type, registry)
  | .union members, registry => (.union members, registry)

def reserveFields : List (Text × Outline) → Registry ε → List (Text × Outline) × Registry ε
  | [], registry => ([], registry)
  | (key, outline) :: rest, registry =>
    let first := outline.reserve registry
    let others := reserveFields rest first.2
    ((key, first.1) :: others.1, others.2)

end

end Outline

open ArrayType

variable {ρ : Type}

/-- The outline of the elements of an array whose sample is of several kinds. No object in
it is visited. -/
def ArrayType.mixedOutline (elements : List (Json ρ)) : Outline :=
  if maxUnionKinds < kindCount elements then .primitive .any else .union (memberTypes elements)

namespace Json

mutual

/-- The objects that a walk visits, with the names they are candidates for: the value
itself, the objects in its members under names made from the keys, and those in the first
element of an array whose sample is of one kind, under the name of the array. -/
def outline (name : Text) : Json ρ → Outline
  | .object members => .record name (fieldOutlines members)
  | .array [] => .array (.primitive .any)
  | .array (first :: rest) =>
    if OneKind (first :: rest) then .array (first.outline name)
    else .array (mixedOutline (first :: rest))
  | scalar => .primitive scalar.primitive

def fieldOutlines : Members ρ → List (Text × Outline)
  | [] => []
  | (key, value) :: rest => (key, value.outline (TypeName.suggest key)) :: fieldOutlines rest

end

/-- The objects that are visited in a whole value, given the name an object would have. -/
def visited (name : Text) (value : Json ρ) : Outline := value.outline (value.topName name)

/-- A scalar is visited no further. -/
theorem outline_scalar {value : Json ρ} (scalar : value.isScalar = true) (name : Text) :
    value.outline name = .primitive value.primitive := by
  cases value with
  | null | bool | number | string => rfl
  | array | object | foreign => exact absurd scalar Bool.false_ne_true

mutual

/-- Names are put to a value without changing its shape. -/
theorem outline_shape (name : Text) (value : Json ρ) :
    (value.outline name).shape = value.shape := by
  match value with
  | .null | .bool _ | .number _ | .string _ | .foreign _ => rfl
  | .array [] => rfl
  | .array (first :: rest) =>
    rw [outline, shape]
    split
    · rw [Outline.shape, outline_shape name first]
    · rw [Outline.shape, mixedOutline, mixedShape]
      split <;> rfl
  | .object members => rw [outline, shape, Outline.shape, fieldOutlines_shape members]

theorem fieldOutlines_shape (members : Members ρ) :
    Outline.fieldShapes (fieldOutlines members) = fieldShapes members := by
  match members with
  | [] => rfl
  | (key, value) :: rest =>
    rw [fieldOutlines, fieldShapes, Outline.fieldShapes, outline_shape, fieldOutlines_shape rest]

end

end Json

namespace Json

variable {P : Text → Prop}

mutual

/-- What holds of the names that keys suggest holds of all candidates, if it holds of the name
they begin with. -/
theorem outline_candidates (suggested : ∀ key, P (TypeName.suggest key)) {name : Text}
    (holds : P name) (value : Json ρ) : ∀ candidate ∈ (value.outline name).names, P candidate := by
  match value with
  | .null | .bool _ | .number _ | .string _ | .foreign _ | .array [] =>
    intro candidate impossible
    exact absurd impossible List.not_mem_nil
  | .array (first :: rest) =>
    rw [outline]
    split
    · exact outline_candidates suggested holds first
    · intro candidate impossible
      rw [ArrayType.mixedOutline] at impossible
      split at impossible <;> exact absurd impossible List.not_mem_nil
  | .object members =>
    intro candidate member
    rw [outline, Outline.names] at member
    rcases List.mem_cons.mp member with rfl | inside
    · exact holds
    · exact fieldOutlines_candidates suggested members candidate inside

theorem fieldOutlines_candidates (suggested : ∀ key, P (TypeName.suggest key))
    (members : Members ρ) :
    ∀ candidate ∈ Outline.fieldNames (fieldOutlines members), P candidate := by
  match members with
  | [] =>
    intro candidate impossible
    exact absurd impossible List.not_mem_nil
  | (key, value) :: rest =>
    intro candidate member
    rw [fieldOutlines, Outline.fieldNames] at member
    rcases List.mem_append.mp member with inside | later
    · exact outline_candidates suggested (suggested key) value candidate inside
    · exact fieldOutlines_candidates suggested rest candidate later

end

/-- Then it holds of all candidates of a whole value. -/
theorem visited_candidates (suggested : ∀ key, P (TypeName.suggest key)) {name : Text}
    (holds : P name) (fallback : P TypeName.fallback) (value : Json ρ) :
    ∀ candidate ∈ (value.visited name).names, P candidate := by
  have top : P (value.topName name) := by
    cases value with
    | object members => exact holds
    | null | bool | number | string | array | foreign => exact fallback
  exact outline_candidates suggested top value

end Json

namespace Outline

mutual

/-- Only the taken names decide how the objects of an outline are named. -/
theorem reserve_congr {left right : Registry ε} (same : left.SameNames right)
    (outline : Outline) :
    (outline.reserve left).1 = (outline.reserve right).1 ∧
      (outline.reserve left).2.SameNames (outline.reserve right).2 := by
  match outline with
  | .primitive type => exact ⟨rfl, same⟩
  | .union members => exact ⟨rfl, same⟩
  | .array element =>
    obtain ⟨named, taken⟩ := reserve_congr same element
    exact ⟨congrArg Outline.array named, taken⟩
  | .record candidate fields =>
    obtain ⟨named, taken⟩ :=
      reserveFields_congr (Registry.reserve_sameNames same candidate) fields
    refine ⟨?_, taken⟩
    simp only [reserve, Registry.reserve_fst, Registry.freeName_congr same candidate, named]

theorem reserveFields_congr {left right : Registry ε} (same : left.SameNames right)
    (fields : List (Text × Outline)) :
    (reserveFields fields left).1 = (reserveFields fields right).1 ∧
      (reserveFields fields left).2.SameNames (reserveFields fields right).2 := by
  match fields with
  | [] => exact ⟨rfl, same⟩
  | (key, outline) :: rest =>
    obtain ⟨named, taken⟩ := reserve_congr same outline
    obtain ⟨others, allTaken⟩ := reserveFields_congr taken rest
    refine ⟨?_, allTaken⟩
    simp only [reserveFields, named, others]

end

mutual

/-- Names do not change a shape. -/
theorem reserve_shape (outline : Outline) (registry : Registry ε) :
    (outline.reserve registry).1.shape = outline.shape := by
  match outline with
  | .primitive _ | .union _ => rfl
  | .array element => rw [reserve, shape, shape, reserve_shape element]
  | .record candidate fields => rw [reserve, shape, shape, reserveFields_shape fields]

theorem reserveFields_shape (fields : List (Text × Outline)) (registry : Registry ε) :
    fieldShapes (reserveFields fields registry).1 = fieldShapes fields := by
  match fields with
  | [] => rfl
  | (key, outline) :: rest =>
    rw [reserveFields, fieldShapes, fieldShapes, reserve_shape outline, reserveFields_shape rest]

end

mutual

/-- An outline gets its names as a list of its candidates would, outer objects first. -/
theorem reserve_names (outline : Outline) (registry : Registry ε) :
    registry.reserveEach outline.names =
      ((outline.reserve registry).1.names, (outline.reserve registry).2) := by
  match outline with
  | .primitive _ | .union _ => rfl
  | .array element => exact reserve_names element registry
  | .record candidate fields =>
    simp only [names, Registry.reserveEach, reserveFields_names fields, reserve]

theorem reserveFields_names (fields : List (Text × Outline)) (registry : Registry ε) :
    registry.reserveEach (fieldNames fields) =
      (fieldNames (reserveFields fields registry).1, (reserveFields fields registry).2) := by
  match fields with
  | [] => rfl
  | (key, outline) :: rest =>
    simp only [fieldNames, Registry.reserveEach_append, reserve_names outline,
      reserveFields_names rest, reserveFields]

end

/-- What holds of the candidates and their variants holds of the names they get. -/
theorem reserve_inherits {P : Text → Prop}
    (variants : ∀ candidate, P candidate → ∀ k, P (Registry.variant candidate k))
    {outline : Outline} (hold : ∀ candidate ∈ outline.names, P candidate)
    (registry : Registry ε) : ∀ name ∈ (outline.reserve registry).1.names, P name := by
  have each := Registry.reserveEach_inherits variants hold registry
  rwa [outline.reserve_names registry] at each

/-- So it does for fields. -/
theorem reserveFields_inherits {P : Text → Prop}
    (variants : ∀ candidate, P candidate → ∀ k, P (Registry.variant candidate k))
    {fields : List (Text × Outline)} (hold : ∀ candidate ∈ fieldNames fields, P candidate)
    (registry : Registry ε) : ∀ name ∈ fieldNames (reserveFields fields registry).1, P name := by
  have each := Registry.reserveEach_inherits variants hold registry
  rwa [reserveFields_names fields registry] at each

/-- The names that an outline gets were free and differ from each other. -/
theorem reserve_free (outline : Outline) (registry : Registry ε) :
    (outline.reserve registry).1.names.Nodup ∧
      ∀ name ∈ (outline.reserve registry).1.names, registry.contains name = false := by
  have free := registry.reserveEach_free outline.names
  rwa [reserve_names outline registry] at free

mutual

/-- Every object is declared once: the declarations bear the names of the outline, though in
another order. -/
theorem declarations_names (outline : Outline) :
    (outline.declarations.map Declaration.name).Perm outline.names := by
  match outline with
  | .primitive _ | .union _ => exact List.Perm.refl _
  | .array element => exact declarations_names element
  | .record name fields =>
    rw [declarations, names, List.map_append]
    exact (List.perm_append_singleton name _).trans ((fieldDeclarations_names fields).cons name)

theorem fieldDeclarations_names (fields : List (Text × Outline)) :
    ((fieldDeclarations fields).map Declaration.name).Perm (fieldNames fields) := by
  match fields with
  | [] => exact List.Perm.refl _
  | (key, outline) :: rest =>
    rw [fieldDeclarations, fieldNames, List.map_append]
    exact (declarations_names outline).append (fieldDeclarations_names rest)

end

end Outline

namespace Generator

/-- What a walk that returns does to a registry, told by the outline with the names that
were free in it: the type refers to these names, the declarations are inserted under them,
nothing else is inserted, and nothing stays pending. -/
structure Performs (style : Style) (named : Outline × Registry Entry) (registry : Registry Entry)
    (type : TypeExpr) (result : Registry Entry) : Prop where
  type_exact : type = named.1.type
  pending_exact : result.pending = registry.pending
  inserted_exact : result.inserted =
    registry.inserted ++ named.1.declarations.map (Declaration.entry style)
  sameNames : result.SameNames named.2

/-- All names of the outline are inserted in the end. -/
theorem Performs.names_inserted {style : Style} {named : Outline × Registry Entry}
    {registry result : Registry Entry} {type : TypeExpr}
    (performed : Performs style named registry type result) {name : Text}
    (isNamed : name ∈ named.1.names) : name ∈ result.names := by
  have declared : name ∈ named.1.declarations.map Declaration.name :=
    named.1.declarations_names.symm.subset isNamed
  rw [Registry.names, performed.inserted_exact, List.map_append, List.map_map]
  exact List.mem_append_right _ declared

/-- What a walk over the members of an object does, told in the same way. -/
structure PerformsAll (style : Style) (named : List (Text × Outline) × Registry Entry)
    (registry : Registry Entry) (properties : List (Text × TypeExpr))
    (result : Registry Entry) : Prop where
  properties_exact : properties = Outline.properties named.1
  pending_exact : result.pending = registry.pending
  inserted_exact : result.inserted =
    registry.inserted ++ (Outline.fieldDeclarations named.1).map (Declaration.entry style)
  sameNames : result.SameNames named.2

mutual

/-- A walk that returns performs the outline of the value. By induction on the walk: a
member is named in the registry that the earlier members have left, where some of their
names are no longer pending, yet all names are taken that naming alone would have taken. -/
theorem declares_outline {style : Style} {name : Text} {value : Json ρ} {type : TypeExpr}
    {registry result : Registry Entry}
    (walked : Declares style name value registry type result) :
    Performs style ((value.outline name).reserve registry) registry type result := by
  match walked with
  | .scalar isScalar =>
    rw [Json.outline_scalar isScalar]
    exact ⟨rfl, rfl, (List.append_nil _).symm, fun _ => rfl⟩
  | .empty => exact ⟨rfl, rfl, (List.append_nil _).symm, fun _ => rfl⟩
  | .mixed several =>
    rw [Json.outline, if_neg several, mixedOutline, mixedType]
    split <;> exact ⟨rfl, rfl, (List.append_nil _).symm, fun _ => rfl⟩
  | .uniform oneKind inner =>
    have element := declares_outline inner
    rw [Json.outline, if_pos oneKind]
    exact ⟨congrArg TypeExpr.array element.type_exact, element.pending_exact,
      element.inserted_exact, element.sameNames⟩
  | @Declares.object _ _ _ _ _ _ middle inner =>
    have fields := declaresAll_outline inner
    have held : registry.freeName name ∈ middle.pending := by
      rw [fields.pending_exact]
      exact List.mem_cons_self
    refine ⟨rfl, ?_, ?_, ?_⟩
    · rw [Registry.complete_pending, fields.pending_exact, Registry.reserve_pending,
        List.erase_cons_head]
    · rw [Registry.complete_inserted, fields.inserted_exact, fields.properties_exact]
      simp [Json.outline, Outline.reserve, Outline.declarations, Declaration.entry]
    · intro other
      rw [Registry.complete_sameNames _ held, fields.sameNames]
      rfl

theorem declaresAll_outline {style : Style} {members : Members ρ}
    {properties : List (Text × TypeExpr)} {registry result : Registry Entry}
    (walked : DeclaresAll style members registry properties result) :
    PerformsAll style (Outline.reserveFields (Json.fieldOutlines members) registry) registry
      properties result := by
  match walked with
  | .nil => exact ⟨rfl, rfl, (List.append_nil _).symm, fun _ => rfl⟩
  | @DeclaresAll.cons _ _ _ _ rest _ _ _ _ _ head tail =>
    have first := declares_outline head
    have others := declaresAll_outline tail
    obtain ⟨named, taken⟩ := Outline.reserveFields_congr first.sameNames (Json.fieldOutlines rest)
    refine ⟨?_, ?_, ?_, ?_⟩
    · rw [first.type_exact, others.properties_exact, named]
      rfl
    · rw [others.pending_exact, first.pending_exact]
    · rw [others.inserted_exact, first.inserted_exact, named, List.append_assoc,
        ← List.map_append]
      rfl
    · intro other
      rw [others.sameNames, taken]
      rfl

end

/-- A generation that returns performs the outline of the whole value. -/
theorem generate_performs {style : Style} {name : Text} {value : Json ρ} {type : TypeExpr}
    {registry result : Registry Entry}
    (returned : runOn registry (generate style name value) = (.ok type, result)) :
    Performs style ((value.visited name).reserve registry) registry type result :=
  declares_outline (generate_declares returned)

end Generator

end TypeSketch
