import TypeSketch.Json.Primitive

/-!
# Types of arrays

The leading elements of an array are its sample. If they are of one kind, the first
element decides: an object is declared, an array is typed in its turn, and a scalar has
its primitive type. Otherwise the array is mixed and its type follows from all its
elements: the union of their primitive types, or any when they are of too many kinds.
-/

namespace TypeSketch.ArrayType

variable {ρ : Type}

/-- How many leading elements decide whether an array is of one kind. -/
def sampleSize : Nat := 10

/-- How many kinds a union may mix. -/
def maxUnionKinds : Nat := 3

/-- The kinds that occur among the elements, in order of first occurrence. -/
def kinds (elements : List (Json ρ)) : Except ρ (List CoarseKind) :=
  List.eraseDups <$> elements.mapM Json.coarseKind

/-- The element type of a non-empty array, unless its first element decides it. -/
def settled? (elements : List (Json ρ)) : Except ρ (Option TypeExpr) := do
  let sample ← kinds (elements.take sampleSize)
  if sample.length = 1 then return none
  let all ← kinds elements
  if maxUnionKinds < all.length then return some (.primitive .any)
  return some (.union (elements.map Json.primitive).eraseDups)

variable {m : Type → Type} [Monad m]

mutual

/-- The type of an array. An object that decides it is declared under the name. A foreign
member that is looked at stops the search. The nesting limit is left out here: arrays may be
inside each other at any depth, and only the walk of `Generator.typeOf` has a budget for them. -/
def unify (declare : Text → Members ρ → m Text) (name : Text) :
    List (Json ρ) → ExceptT ρ m TypeExpr
  | [] => return .array (.primitive .any)
  | first :: rest => do
    match ← liftExcept (settled? (first :: rest)) with
    | some element => return .array element
    | none => return .array (← unifyFirst declare name first)

/-- The type that the first element of an array decides. -/
def unifyFirst (declare : Text → Members ρ → m Text) (name : Text) :
    Json ρ → ExceptT ρ m TypeExpr
  | .object members => .named <$> declare name members
  | .array elements => unify declare name elements
  | scalar => return .primitive scalar.primitive

end

end TypeSketch.ArrayType
