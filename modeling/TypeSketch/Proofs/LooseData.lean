import TypeSketch.Datum.Admission
import TypeSketch.Json.Reader
import TypeSketch.Proofs.Lockstep

/-!
# Documents as loose data

What is read from a text is loose data at first: texts, numbers, lists, and mappings whose keys are
texts. These are admitted like the data of any program. Nothing in them can be refused but the
nesting, and what they are admitted as is the document itself, with room for foreign members that it
does not have. A walk sees no difference between the two.
-/

namespace TypeSketch

variable {ρ σ : Type}

namespace Json

mutual

/-- The same value, with its foreign members replaced by others. -/
def map (f : ρ → σ) : Json ρ → Json σ
  | .null => .null
  | .bool value => .bool value
  | .number value => .number value
  | .string value => .string value
  | .array elements => .array (mapElements f elements)
  | .object members => .object (mapMembers f members)
  | .foreign value => .foreign (f value)

def mapElements (f : ρ → σ) : List (Json ρ) → List (Json σ)
  | [] => []
  | first :: rest => first.map f :: mapElements f rest

def mapMembers (f : ρ → σ) : Members ρ → Members σ
  | [] => []
  | (key, value) :: rest => (key, value.map f) :: mapMembers f rest

end

variable (f : ρ → σ)

theorem map_sameKind (value : Json ρ) : ArrayType.SameKind f value (value.map f) := by
  cases value <;> rfl

theorem map_primitive (value : Json ρ) : (value.map f).primitive = value.primitive := by
  cases value <;> rfl

theorem mapElements_sameKind (elements : List (Json ρ)) :
    List.Forall₂ (ArrayType.SameKind f) elements (mapElements f elements) := by
  induction elements with
  | nil => exact .nil
  | cons first rest inductionHypothesis => exact .cons (map_sameKind f first) inductionHypothesis

theorem mapElements_primitives (elements : List (Json ρ)) :
    (mapElements f elements).map primitive = elements.map primitive := by
  induction elements with
  | nil => rfl
  | cons first rest inductionHypothesis =>
    rw [mapElements, List.map_cons, List.map_cons, map_primitive, inductionHypothesis]

mutual

/-- A walk sees the same in both. -/
theorem map_alike (value : Json ρ) : Generator.Alike f value (value.map f) := by
  match value with
  | .null | .bool _ | .number _ | .string _ => exact .scalar rfl rfl rfl rfl
  | .foreign value => exact .foreign value
  | .array [] => exact .empty
  | .array (first :: rest) =>
    exact .array (ArrayType.settled_sameKind (mapElements_sameKind f (first :: rest))
      (mapElements_primitives f (first :: rest))) (map_alike first)
  | .object members => exact .object (mapMembers_alike members)

theorem mapMembers_alike (members : Members ρ) :
    Generator.AlikeAll f members (mapMembers f members) := by
  match members with
  | [] => exact .nil
  | (_, value) :: rest => exact .cons (map_alike value) (mapMembers_alike rest)

end

end Json

namespace Datum

/-- An item of a mapping is admitted with its value when its key is a text. -/
def admitMember (frames : Nat) : Datum × Datum → Except Refusal (Text × Json Datum)
  | (.text key, value) => (key, ·) <$> value.toJsonWithin frames
  | (key, _) => .error (refusedKey frames key)

theorem mapping_admitted (items : List (Datum × Datum)) (frames : Nat) :
    (mapping items).toJsonWithin (frames + 1) =
      .object <$> items.mapM (admitMember frames) := by
  rw [toJsonWithin]
  congr 2
  funext item
  obtain ⟨key, value⟩ := item
  cases key <;> rfl

end Datum

namespace Document

mutual

/-- The loose data that a document is made from. -/
def loose : Document → Datum
  | .null => .none
  | .bool value => .bool value
  | .number value => .number value
  | .string value => .text value
  | .array elements => .list (looseItems elements)
  | .object members => .mapping (looseMembers members)

def looseItems : List Document → List Datum
  | [] => []
  | first :: rest => loose first :: looseItems rest

def looseMembers : Members Empty → List (Datum × Datum)
  | [] => []
  | (key, value) :: rest => (.text key, loose value) :: looseMembers rest

end

/-- The document as a value that may have foreign members. -/
def ready (document : Document) : Json Datum := document.map Empty.elim

mutual

/-- The loose data of a document are admitted as the document, unless they are nested too
deeply. -/
theorem loose_admitted (document : Document) (frames : Nat) :
    (loose document).toJsonWithin frames =
      if document.admissibleWithin frames then .ok document.ready else .error .tooDeep := by
  match document with
  | .null | .bool _ | .number _ | .string _ =>
    rw [loose, Datum.toJsonWithin, Json.admissibleWithin, if_pos rfl]
    · rfl
    all_goals simp
  | .array elements =>
    match frames with
    | 0 | 1 => rfl
    | frames + 2 =>
      rw [loose, Datum.toJsonWithin, looseItems_admitted elements frames, Json.admissibleWithin]
      split <;> rfl
  | .object members =>
    match frames with
    | 0 => rfl
    | frames + 1 =>
      rw [loose, Datum.mapping_admitted, looseMembers_admitted members frames,
        Json.admissibleWithin]
      split <;> rfl

theorem looseItems_admitted (elements : List Document) (frames : Nat) :
    (looseItems elements).mapM (Datum.toJsonWithin frames) =
      if elements.all (Json.admissibleWithin frames) then
        .ok (Json.mapElements Empty.elim elements) else .error .tooDeep := by
  match elements with
  | [] => rfl
  | first :: rest =>
    rw [looseItems, List.mapM_cons, loose_admitted first, looseItems_admitted rest, List.all_cons]
    cases first.admissibleWithin frames with
    | false => rfl
    | true => cases rest.all (Json.admissibleWithin frames) <;> rfl

theorem looseMembers_admitted (members : Members Empty) (frames : Nat) :
    (looseMembers members).mapM (Datum.admitMember frames) =
      if members.all fun (_, value) => value.admissibleWithin frames then
        .ok (Json.mapMembers Empty.elim members) else .error .tooDeep := by
  match members with
  | [] => rfl
  | (key, value) :: rest =>
    rw [looseMembers, List.mapM_cons, Datum.admitMember, loose_admitted value,
      looseMembers_admitted rest, List.all_cons]
    change _ = if value.admissibleWithin frames &&
      rest.all fun (_, value) => value.admissibleWithin frames then _ else _
    cases value.admissibleWithin frames with
    | false => rfl
    | true => cases rest.all fun (_, value) => value.admissibleWithin frames <;> rfl

end

end Document

end TypeSketch
