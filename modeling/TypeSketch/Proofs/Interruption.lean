import Mathlib.Data.List.Forall2
import Mathlib.Data.List.Perm.Basic
import TypeSketch.Proofs.FirstElements
import TypeSketch.Proofs.OutputText

/-!
# What an interrupted walk leaves

A walk that meets a foreign value stops there, in the midst of some objects. Each of them has
reserved a name and is done with some of its members, and the next member holds the foreign value
or the next of these objects. `Json.interruption?` reads all this off the value alone.

What is left in the registry follows from it. The members that were done with are declared, as they
would have been in a walk that returns, and nothing is declared for the objects around the failure:
their names stay pending, in front of those that were so before. A walk over members is looked at
through `declaresAll_outline` up to the one that fails, and the walk over that one is interrupted in
its turn.

Each text that is left has a line for every member of its object. The names in it are made from keys
and stay on their lines, whatever name the walk was given, as that is one for an object around the
failure.
-/

namespace TypeSketch

variable {ρ ε : Type}

/-- An object that a walk is in the midst of: the name it is a candidate for, and the members that
are done with. -/
structure Unfinished (ρ : Type) where
  candidate : Text
  handled : Members ρ

/-- Where a walk stops: in the midst of some objects, outer ones before those inside them, at a
foreign value. -/
structure Interruption (ρ : Type) where
  around : List (Unfinished ρ)
  raw : ρ

/-- With one more object around all others. -/
def Interruption.within (interruption : Interruption ρ) (object : Unfinished ρ) :
    Interruption ρ := ⟨object :: interruption.around, interruption.raw⟩

namespace Json

open ArrayType

mutual

/-- Where a walk over a value stops, if it has frames enough. The elements of an array are looked at
before the walk turns to the first one, and the members of an object are taken in order. -/
def interruption? (name : Text) : Json ρ → Option (Interruption ρ)
  | .foreign raw => some ⟨[], raw⟩
  | .array (first :: rest) =>
    if Uniform (first :: rest) then first.interruption? name
    else (firstForeign? (first :: rest)).map fun raw => ⟨[], raw⟩
  | .object members =>
    (interruptionAmong? members).map fun (handled, inner) => inner.within ⟨name, handled⟩
  | _ => none

/-- The members before the first one that interrupts a walk, and where the walk stops in that. -/
def interruptionAmong? : Members ρ → Option (Members ρ × Interruption ρ)
  | [] => none
  | (key, value) :: rest =>
    match value.interruption? (TypeName.suggest key) with
    | some inner => some ([], inner)
    | none => (interruptionAmong? rest).map fun (handled, inner) => ((key, value) :: handled, inner)

end

/-- Nothing in a scalar interrupts a walk. -/
theorem interruption?_scalar {value : Json ρ} (scalar : value.isScalar = true) (name : Text) :
    value.interruption? name = none := by
  cases value with
  | null | bool | number | string => rfl
  | array | object | foreign => exact absurd scalar Bool.false_ne_true

mutual

/-- The objects that a walk over a value visits, each behind those inside it, with the names they
are candidates for. -/
def objects (name : Text) : Json ρ → List (Text × Members ρ)
  | .object members => objectsAmong members ++ [(name, members)]
  | .array (first :: rest) => if OneKind (first :: rest) then first.objects name else []
  | _ => []

def objectsAmong : Members ρ → List (Text × Members ρ)
  | [] => []
  | (key, value) :: rest => value.objects (TypeName.suggest key) ++ objectsAmong rest

end

end Json

/-- A declaration may be that of an object: it bears the name that the object is a candidate for or
a variant of it, and it has a property for each member. -/
structure Declaration.Fits (declaration : Declaration) (object : Text × Members ρ) : Prop where
  variant : ∃ k, declaration.name = Registry.variant object.1 k
  keys : declaration.properties.map Prod.fst = object.2.map Prod.fst

/-- The text of a declaration has a line for each member of an object, in order and with its key,
between the line that opens it and the one that closes it. -/
def Declaration.LinesFor (style : Style) (declaration : Declaration) (object : Text × Members ρ) :
    Prop :=
  ∃ inner, (declaration.text style).lines =
      style.opening declaration.name :: (inner ++ [style.closing]) ∧
    List.Forall₂ (fun line member => ∃ type, line = style.propertyLine member.1 type)
      inner object.2

/-- A declaration that stays on its lines has them for the object that it is of. -/
theorem Declaration.Fits.linesFor {declaration : Declaration} {object : Text × Members ρ}
    (fits : declaration.Fits object) (linear : declaration.Linear) (style : Style) :
    declaration.LinesFor style object := by
  have keys := fits.keys
  rw [← List.forall₂_eq_eq_eq, List.forall₂_map_left_iff, List.forall₂_map_right_iff] at keys
  refine ⟨_, style.declaration_lines linear.name linear.types,
    List.forall₂_map_left_iff.mpr (List.forall₂_map_left_iff.mpr (keys.imp ?_))⟩
  rintro ⟨key, type⟩ member rfl
  exact ⟨type.text, rfl⟩

namespace Outline

/-- Fields keep their keys when their objects get names. -/
theorem properties_keys (members : Members ρ) (registry : Registry ε) :
    (properties (reserveFields (Json.fieldOutlines members) registry).1).map Prod.fst =
      members.map Prod.fst := by
  induction members generalizing registry with
  | nil => rfl
  | cons member rest inductionHypothesis =>
    obtain ⟨key, value⟩ := member
    exact congrArg (key :: ·) (inductionHypothesis _)

mutual

/-- The visited objects are declared in order. -/
theorem declarations_fit (name : Text) (value : Json ρ) (registry : Registry ε) :
    List.Forall₂ Declaration.Fits ((value.outline name).reserve registry).1.declarations
      (value.objects name) := by
  match value with
  | .null | .bool _ | .number _ | .string _ | .foreign _ | .array [] => exact .nil
  | .array (first :: rest) =>
    rw [Json.outline, Json.objects]
    split
    · exact declarations_fit name first registry
    · rw [ArrayType.mixedOutline]
      split <;> exact .nil
  | .object members =>
    rw [Json.outline, Json.objects, reserve, declarations]
    refine List.rel_append (fieldDeclarations_fit members _) (.cons ?_ .nil)
    obtain ⟨k, found, _⟩ := registry.freeName_least name
    exact ⟨⟨k, found⟩, properties_keys members _⟩

theorem fieldDeclarations_fit (members : Members ρ) (registry : Registry ε) :
    List.Forall₂ Declaration.Fits
      (fieldDeclarations (reserveFields (Json.fieldOutlines members) registry).1)
      (Json.objectsAmong members) := by
  match members with
  | [] => exact .nil
  | (key, value) :: rest =>
    exact List.rel_append (declarations_fit (TypeName.suggest key) value registry)
      (fieldDeclarations_fit rest _)

end

end Outline

/-- An object that a walk is in the midst of, with its name and with the outlines of the members
that are done with. -/
structure Opened where
  name : Text
  fields : List (Text × Outline)

namespace Opened

/-- All names in the object, its own one first. -/
def names (object : Opened) : List Text := object.name :: Outline.fieldNames object.fields

/-- What is declared by now of what is in the object. -/
def declarations (object : Opened) : List Declaration := Outline.fieldDeclarations object.fields

end Opened

namespace Unfinished

/-- The visited objects among the members that are done with. -/
def finished (object : Unfinished ρ) : List (Text × Members ρ) := Json.objectsAmong object.handled

/-- The candidates for names in the object, its own one first. -/
def candidates (object : Unfinished ρ) : List Text :=
  object.candidate :: Outline.fieldNames (Json.fieldOutlines object.handled)

/-- Reserves names for objects around a failure: for each of them in turn, one for itself and those
for the objects in its members that are done with. -/
def openEach : List (Unfinished ρ) → Registry ε → List Opened
  | [], _ => []
  | object :: rest, registry =>
    let held := registry.reserve object.candidate
    let inner := Outline.reserveFields (Json.fieldOutlines object.handled) held.2
    ⟨held.1, inner.1⟩ :: openEach rest inner.2

/-- Only the taken names decide how objects are opened. -/
theorem openEach_congr (around : List (Unfinished ρ)) {left right : Registry ε}
    (same : left.SameNames right) : openEach around left = openEach around right := by
  induction around generalizing left right with
  | nil => rfl
  | cons object rest inductionHypothesis =>
    obtain ⟨named, taken⟩ := Outline.reserveFields_congr
      (Registry.reserve_sameNames same object.candidate) (Json.fieldOutlines object.handled)
    simp only [openEach, Registry.reserve_fst, Registry.freeName_congr same, named,
      inductionHypothesis taken]

/-- The names are those that a list of all candidates gets. -/
theorem openEach_names (around : List (Unfinished ρ)) (registry : Registry ε) :
    (openEach around registry).flatMap Opened.names =
      (registry.reserveEach (around.flatMap candidates)).1 := by
  induction around generalizing registry with
  | nil => rfl
  | cons object rest inductionHypothesis =>
    rw [List.flatMap_cons, Registry.reserveEach_append, openEach, List.flatMap_cons,
      inductionHypothesis]
    simp only [candidates, Opened.names, Registry.reserveEach, Outline.reserveFields_names]

/-- Each object gets a variant of its candidate. -/
theorem openEach_variants (around : List (Unfinished ρ)) (registry : Registry ε) :
    List.Forall₂ (fun opened object => ∃ k, opened.name = Registry.variant object.candidate k)
      (openEach around registry) around := by
  induction around generalizing registry with
  | nil => exact .nil
  | cons object rest inductionHypothesis =>
    obtain ⟨k, found, _⟩ := registry.freeName_least object.candidate
    exact .cons ⟨k, found⟩ (inductionHypothesis _)

/-- What is declared are the objects among the members that are done with. -/
theorem openEach_fit (around : List (Unfinished ρ)) (registry : Registry ε) :
    List.Forall₂ Declaration.Fits ((openEach around registry).flatMap Opened.declarations)
      (around.flatMap finished) := by
  induction around generalizing registry with
  | nil => exact .nil
  | cons object rest inductionHypothesis =>
    rw [openEach, List.flatMap_cons, List.flatMap_cons]
    exact List.rel_append (Outline.fieldDeclarations_fit object.handled _) (inductionHypothesis _)

/-- The declarations stay on their lines, as the names in them are made from keys. -/
theorem openEach_linear (around : List (Unfinished ρ)) (registry : Registry ε) :
    ∀ declaration ∈ (openEach around registry).flatMap Opened.declarations,
      declaration.Linear := by
  induction around generalizing registry with
  | nil => exact fun _ impossible => absurd impossible List.not_mem_nil
  | cons object rest inductionHypothesis =>
    intro declaration member
    rw [openEach, List.flatMap_cons, List.mem_append] at member
    rcases member with own | later
    · have names := Outline.reserveFields_inherits TypeName.variant_proper
        (Json.fieldOutlines_candidates TypeName.suggest_proper object.handled)
        (registry.reserve object.candidate).2
      exact Outline.fieldDeclarations_linear _
        (fun name isName => TypeName.unbroken_of_proper (names name isName)) declaration own
    · exact inductionHypothesis _ declaration later

/-- All names are different and were free, those of the objects that are declared and those of the
objects that are not. -/
theorem openEach_free (around : List (Unfinished ρ)) (registry : Registry ε) :
    ((openEach around registry).map Opened.name ++
        ((openEach around registry).flatMap Opened.declarations).map Declaration.name).Nodup ∧
      ∀ name ∈ (openEach around registry).map Opened.name ++
        ((openEach around registry).flatMap Opened.declarations).map Declaration.name,
        registry.contains name = false := by
  have order : ((openEach around registry).map Opened.name ++
      ((openEach around registry).flatMap Opened.declarations).map Declaration.name).Perm
        ((openEach around registry).flatMap Opened.names) := by
    apply List.Perm.trans (List.Perm.append_left _ ?_) (List.map_append_flatMap_perm _ _ _)
    rw [List.map_flatMap]
    exact List.Perm.flatMap_left _ fun object _ => Outline.fieldDeclarations_names object.fields
  rw [openEach_names] at order
  obtain ⟨distinct, free⟩ := registry.reserveEach_free (around.flatMap candidates)
  constructor
  · exact order.nodup_iff.mpr distinct
  · intro name member
    exact free name (order.subset member)

end Unfinished

namespace Generator

open ArrayType

/-- What is left where a walk stopped in the midst of objects: all that was done with is declared,
and only the objects that are unfinished have their names pending. -/
structure Leaves (style : Style) (around : List (Unfinished ρ)) (registry result : Registry Entry) :
    Prop where
  inserted_exact : result.inserted = registry.inserted ++
    ((Unfinished.openEach around registry).flatMap Opened.declarations).map
      (Declaration.entry style)
  pending_exact : result.pending =
    ((Unfinished.openEach around registry).map Opened.name).reverse ++ registry.pending

/-- Where a walk stops at once, all is left as it was. -/
theorem Leaves.here (style : Style) (registry : Registry Entry) :
    Leaves style ([] : List (Unfinished ρ)) registry registry :=
  ⟨(List.append_nil _).symm, rfl⟩

/-- Around a failure there is one more object, which has reserved its name and is done with the
members before the failure. -/
theorem Leaves.within {style : Style} {name : Text} {handled : Members ρ}
    {properties : List (Text × TypeExpr)} {around : List (Unfinished ρ)}
    {registry middle result : Registry Entry}
    (walked : DeclaresAll style handled (registry.reserve name).2 properties middle)
    (inner : Leaves style around middle result) :
    Leaves style (⟨name, handled⟩ :: around) registry result := by
  have performed := declaresAll_outline walked
  have opened := Unfinished.openEach_congr around performed.sameNames
  constructor
  · rw [inner.inserted_exact, performed.inserted_exact, opened, Registry.reserve_inserted,
      Unfinished.openEach, List.flatMap_cons, List.map_append, List.append_assoc]
    rfl
  · rw [inner.pending_exact, performed.pending_exact, opened, Registry.reserve_pending,
      Unfinished.openEach, List.map_cons, List.reverse_cons, List.append_assoc]
    rfl

/-- A run that returned has met no foreign value. One that stopped at such a value stopped where
`Json.interruption?` says. -/
def Interrupts (style : Style) (name : Text) (value : Json ρ) (registry : Registry Entry) :
    Except (WalkFault ρ) TypeExpr × Registry Entry → Prop
  | (.ok _, _) => value.interruption? name = none
  | (.error (.foreign raw), result) =>
    ∃ around, value.interruption? name = some ⟨around, raw⟩ ∧ Leaves style around registry result
  | (.error .tooDeep, _) => True

/-- The same for the members of an object. -/
def InterruptsAll (style : Style) (members : Members ρ) (registry : Registry Entry) :
    Except (WalkFault ρ) (List (Text × TypeExpr)) × Registry Entry → Prop
  | (.ok _, _) => Json.interruptionAmong? members = none
  | (.error (.foreign raw), result) =>
    ∃ handled around properties middle,
      Json.interruptionAmong? members = some (handled, ⟨around, raw⟩) ∧
      DeclaresAll style handled registry properties middle ∧ Leaves style around middle result
  | (.error .tooDeep, _) => True

/-- The first member that interrupts the walk comes after members over which walks return. -/
theorem run_members_interrupts (style : Style) (frames : Nat) (members : Members ρ)
    (each : ∀ (key : Text) (value : Json ρ) (registry : Registry Entry),
      Interrupts style (TypeName.suggest key) value registry
        (run (typeOf style frames (TypeName.suggest key) value) registry))
    (registry : Registry Entry) :
    InterruptsAll style members registry
      (run (members.mapM (typeOfMember style frames)) registry) := by
  induction members generalizing registry with
  | nil => exact (rfl : Json.interruptionAmong? ([] : Members ρ) = none)
  | cons member rest inductionHypothesis =>
    obtain ⟨key, value⟩ := member
    have head := each key value registry
    have outcome := run_outcome style frames (TypeName.suggest key) value registry
    rw [run_members_cons]
    generalize run (typeOf style frames (TypeName.suggest key) value) registry = first
      at head outcome ⊢
    rcases first with ⟨(raw | -) | type, middle⟩
    · obtain ⟨around, stopped, left⟩ := head
      refine ⟨[], around, [], registry, ?_, .nil, left⟩
      rw [Json.interruptionAmong?, stopped]
    · trivial
    · replace head : value.interruption? (TypeName.suggest key) = none := head
      have passed : Json.interruptionAmong? ((key, value) :: rest) =
          (Json.interruptionAmong? rest).map fun (handled, inner) =>
            ((key, value) :: handled, inner) := by
        rw [Json.interruptionAmong?, head]
      have tail := inductionHypothesis middle
      dsimp only
      generalize run (rest.mapM (typeOfMember style frames)) middle = others at tail ⊢
      rcases others with ⟨(raw | -) | properties, result⟩
      · obtain ⟨handled, around, properties, last, stopped, walked, left⟩ := tail
        refine ⟨(key, value) :: handled, around, (key, type) :: properties, last, ?_,
          .cons outcome walked, left⟩
        rw [passed, stopped]
        rfl
      · trivial
      · exact passed.trans (congrArg (Option.map _) tail)

/-- Every run stops where `Json.interruption?` says, or meets no foreign value, or is out of frames.
The cases are those of `typeOf`. -/
theorem run_interrupts (style : Style) (frames : Nat) (name : Text) (value : Json ρ)
    (registry : Registry Entry) :
    Interrupts style name value registry (run (typeOf style frames name value) registry) := by
  induction frames, name, value using typeOf.induct generalizing registry with
  | case1 frames name raw =>
    rw [typeOf, run_throw]
    exact ⟨[], rfl, Leaves.here style registry⟩
  | case2 frames name members inductionHypothesis =>
    have inner := run_members_interrupts style frames members
      (fun key value registry => inductionHypothesis key value registry) (registry.reserve name).2
    rw [run_object]
    generalize run (members.mapM (typeOfMember style frames)) (registry.reserve name).2 = ended
      at inner ⊢
    rcases ended with ⟨(raw | -) | properties, result⟩
    · obtain ⟨handled, around, properties, middle, stopped, returned, left⟩ := inner
      refine ⟨⟨name, handled⟩ :: around, ?_, Leaves.within returned left⟩
      rw [Json.interruption?, stopped]
      rfl
    · trivial
    · exact congrArg (Option.map _) inner
  | case3 frames name members short =>
    rw [typeOf, run_throw]
    · trivial
    · exact short
  | case4 name elements =>
    rw [typeOf, run_throw]
    trivial
  | case5 name frames =>
    rw [typeOf, run_pure]
    exact (rfl : Json.interruption? name (.array ([] : List (Json ρ))) = none)
  | case6 frames name first rest inductionHypothesis =>
    rw [typeOf_filled]
    by_cases uniform : Uniform (first :: rest)
    · have passed : Json.interruption? name (.array (first :: rest)) =
          first.interruption? name := by
        rw [Json.interruption?, if_pos uniform]
      have inner := inductionHypothesis registry
      rw [if_pos uniform, run_bind]
      generalize run (typeOf style frames name first) registry = ended at inner ⊢
      rcases ended with ⟨(raw | -) | element, result⟩
      · obtain ⟨around, stopped, left⟩ := inner
        exact ⟨around, passed.trans stopped, left⟩
      · trivial
      · exact passed.trans inner
    · have inspected : Json.interruption? name (.array (first :: rest)) =
          (firstForeign? (first :: rest)).map fun raw => ⟨[], raw⟩ := by
        rw [Json.interruption?, if_neg uniform]
      rw [if_neg uniform]
      cases met : firstForeign? (first :: rest) with
      | some raw =>
        rw [met] at inspected
        exact ⟨[], inspected, Leaves.here style registry⟩
      | none =>
        rw [met] at inspected
        exact inspected
  | case7 frames name scalar notForeign notObject _ noFrame notEmpty notFilled =>
    have typed : typeOf style frames name scalar = pure (.primitive scalar.primitive) := by
      rw [typeOf] <;> assumption
    have outcome := run_outcome style frames name scalar registry
    rw [typed] at outcome ⊢
    cases outcome with
    | scalar isScalar => exact Json.interruption?_scalar isScalar name

/-- A generation that fails at a foreign value leaves all that was inserted and all that was
pending, whatever the registry held. The walk has stopped in the midst of some objects, outer ones
first, each of which is done with some of its members. Behind the old texts stand those of the
declarations of the visited objects in these members, inner objects before those around them. Each
of these texts has a line for every member of its object, and the name, keys and types of its
declaration are read from it. In front of the old pending names stand those that were reserved for
the objects around the failure, the innermost in front. All these names are different and were free
before, and none of an object around the failure is inserted. -/
theorem interrupted_generation_leaves (style : Style) (name : Text) (value : Json ρ) (raw : ρ)
    (registry result : Registry Entry)
    (failed : runOn registry (generate style name value) = (.error (.foreign raw), result)) :
    ∃ (around : List (Unfinished ρ)) (opened : List Opened) (declared : List Declaration),
      value.interruption? (value.topName name) = some ⟨around, raw⟩ ∧
      Unfinished.openEach around registry = opened ∧
      opened.flatMap Opened.declarations = declared ∧
      result.inserted = registry.inserted ++ declared.map (Declaration.entry style) ∧
      result.texts = registry.texts ++
        declared.map (fun declaration => (declaration.name, declaration.text style)) ∧
      List.Forall₂ Declaration.Fits declared (around.flatMap Unfinished.finished) ∧
      List.Forall₂ (Declaration.LinesFor style) declared (around.flatMap Unfinished.finished) ∧
      (∀ declaration ∈ declared,
        style.readDeclaration? (declaration.text style) = some declaration.listed) ∧
      result.pending = (opened.map Opened.name).reverse ++ registry.pending ∧
      List.Forall₂ (fun object unfinished =>
        ∃ k, object.name = Registry.variant unfinished.candidate k) opened around ∧
      (opened.map Opened.name ++ declared.map Declaration.name).Nodup ∧
      (∀ given ∈ opened.map Opened.name ++ declared.map Declaration.name,
        given ∉ registry.pending ∧ given ∉ registry.names) ∧
      ∀ given ∈ opened.map Opened.name, given ∉ result.names := by
  have interrupted := run_interrupts style Nesting.frames (value.topName name) value registry
  have stopped : run (typeOf style Nesting.frames (value.topName name) value) registry =
      (.error (.foreign raw), result) := by
    rw [← generate_exact]
    exact failed
  rw [stopped] at interrupted
  obtain ⟨around, found, left⟩ := interrupted
  generalize isOpened : Unfinished.openEach around registry = opened
  obtain ⟨distinct, free⟩ := Unfinished.openEach_free around registry
  have fits := Unfinished.openEach_fit around registry
  have linear := Unfinished.openEach_linear around registry
  have variants := Unfinished.openEach_variants around registry
  rw [isOpened] at distinct free fits linear variants
  have written := ((List.forall₂_and_left _ _).mpr ⟨linear, fits⟩).imp
    fun _ _ both => both.2.linesFor both.1 style
  have unheld (given : Text) (member : given ∈ opened.map Opened.name ++
      (opened.flatMap Opened.declarations).map Declaration.name) :
      given ∉ registry.pending ∧ given ∉ registry.names := by
    have untaken := free given member
    rwa [← Bool.not_eq_true, Registry.contains_iff, not_or] at untaken
  have inserted := left.inserted_exact
  have pending := left.pending_exact
  rw [isOpened] at inserted pending
  have texts : result.texts = registry.texts ++ (opened.flatMap Opened.declarations).map
      fun declaration => (declaration.name, declaration.text style) := by
    rw [Registry.texts, inserted, List.map_append, List.map_map]
    rfl
  refine ⟨around, opened, _, found, isOpened, rfl, inserted, texts, fits, written,
    fun declaration isDeclared => (linear declaration isDeclared).read style, pending, variants,
    distinct, unheld, ?_⟩
  intro given isOpen isInserted
  rw [Registry.names, inserted, List.map_append, List.map_map] at isInserted
  rcases List.mem_append.mp isInserted with old | new
  · exact (unheld given (List.mem_append_left _ isOpen)).2 old
  · exact (List.nodup_append.mp distinct).2.2 given isOpen given new rfl

/-- The foreign value at which a run has stopped. -/
def foreignStop? : Except (WalkFault ρ) TypeExpr × Registry Entry → Option ρ
  | (.error (.foreign raw), _) => some raw
  | _ => none

/-- A run that is known to stop at a foreign value leaves some registry. -/
theorem runOn_stops {walk : Walk ρ TypeExpr} {registry : Registry Entry} {raw : ρ}
    (known : foreignStop? (runOn registry walk) = some raw) :
    ∃ result, runOn registry walk = (.error (.foreign raw), result) := by
  rcases ran : runOn registry walk with ⟨(value | -) | type, result⟩
  · rw [ran] at known
    obtain rfl : value = raw := Option.some.inj known
    exact ⟨result, rfl⟩
  all_goals
    rw [ran] at known
    exact nomatch known

/-- Two groups deep, a foreign element stands among the tags of an object. -/
def groupedTags : Json Nat :=
  .object [("tags", .array [.object [("id", .number (.int 1))]]),
    ("groups", .array [.array [.object [("owner", .object [("tag", .object [])]),
      ("tags", .array [.bool true, .foreign 7]), ("last", .object [])], .object []]]),
    ("rest", .foreign 8)]

/-- The objects that are unfinished at this element. -/
def aroundTags : List (Unfinished Nat) :=
  [⟨TypeName.root, [("tags", .array [.object [("id", .number (.int 1))]])]⟩,
    ⟨"Group", [("owner", .object [("tag", .object [])])]⟩]

/-- A registry in which one name is pending and one is inserted. -/
def busyRegistry : Registry Entry :=
  after ([.reserve "Tag", .reserve "Owner", .insert "Owner" "type Owner = 1"] : List (Call Nat))

/-- What is declared in it before the walk stops. -/
def declaredTags : List Declaration :=
  [⟨"Tag1", [("id", .primitive .number)]⟩, ⟨"Tag2", []⟩, ⟨"Owner1", [("tag", .named "Tag2")]⟩]

/-- The texts that are left, behind the one that was there. -/
def textsLeft : List (Text × Text) :=
  [("Owner", "type Owner = 1"), ("Tag1", "export interface Tag1 \x7b\n  id: number;\n\x7d"),
    ("Tag2", "export interface Tag2 \x7b\n\x7d"),
    ("Owner1", "export interface Owner1 \x7b\n  tag: Tag2;\n\x7d")]

def pendingAroundTags : List Text := ["Group", TypeName.root, "Tag"]

theorem grouped_tags_interrupted :
    ∃ result : Registry Entry,
      runOn busyRegistry (generate {} TypeName.root groupedTags) = (.error (.foreign 7), result) ∧
      result.pending = pendingAroundTags ∧
      result.inserted = busyRegistry.inserted ++ declaredTags.map (Declaration.entry {}) ∧
      result.texts = textsLeft ∧ busyRegistry.names = ["Owner"] := by
  obtain ⟨result, failed⟩ : ∃ result, runOn busyRegistry (generate {} TypeName.root groupedTags) =
      (.error (.foreign 7), result) := runOn_stops (by decide +kernel)
  obtain ⟨around, opened, declared, found, isOpened, isDeclared, inserted, texts, _, _, _,
    pending, _⟩ :=
    interrupted_generation_leaves {} TypeName.root groupedTags 7 busyRegistry result failed
  have expected : groupedTags.interruption? TypeName.root = some ⟨aroundTags, 7⟩ := by rfl
  obtain ⟨rfl, _⟩ := Interruption.mk.inj (Option.some.inj (found.symm.trans expected))
  subst isOpened isDeclared
  have declaredExact : (Unfinished.openEach aroundTags busyRegistry).flatMap Opened.declarations =
      declaredTags := by decide +kernel
  refine ⟨result, failed, ?_, ?_, ?_, ?_⟩
  · rw [pending]
    decide +kernel
  · rw [inserted, declaredExact]
  · rw [texts, declaredExact]
    decide +kernel
  · decide +kernel

end Generator

end TypeSketch
