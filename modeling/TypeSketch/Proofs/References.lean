import Mathlib.Data.List.Chain
import Mathlib.Logic.Relation
import TypeSketch.Proofs.Outline

/-!
# References between declarations

A walk changes its registry in two ways only: it reserves a free name, or it completes a
pending one with a declaration that refers to nothing but inserted names. Both keep the
names apart and the inserted entries closed, in that each refers to entries before it, so
a registry is closed at every moment, also after a call that failed and left names pending.
References then descend in the order of insertion and cannot form a cycle.

Half-composed objects need no invariant of their own: what a walk has learnt about the
types of earlier members is that their names are inserted, and these stay so.
-/

namespace TypeSketch

variable {ρ : Type}

/-- The names that a type refers to. -/
def TypeExpr.references : TypeExpr → List Text
  | .named name => [name]
  | .array element => element.references
  | .primitive _ | .union _ => []

/-- The names that the property types of a declaration refer to. -/
def Declaration.references (declaration : Declaration) : List Text :=
  declaration.properties.flatMap fun (_, type) => type.references

/-- The names that an entry refers to; a text from outside refers to none. -/
def Entry.references : Entry → List Text
  | .verbatim _ => []
  | .declared _ declaration => declaration.references

namespace Registry

/-- Every entry refers only to names that were inserted before it. -/
def Closed (registry : Registry Entry) : Prop :=
  ∀ (earlier : List (Text × Entry)) (name : Text) (entry : Entry) (later : List (Text × Entry)),
    registry.inserted = earlier ++ (name, entry) :: later →
      ∀ used ∈ entry.references, used ∈ earlier.map Prod.fst

/-- The entry of one name refers to the other. -/
def Refers (registry : Registry Entry) (used user : Text) : Prop :=
  ∃ entry, (user, entry) ∈ registry.inserted ∧ used ∈ entry.references

/-- No name is held twice, be it pending or inserted, and references go back only. -/
structure Sound (registry : Registry Entry) : Prop where
  distinct : (registry.pending ++ registry.names).Nodup
  closed : registry.Closed

/-- What can happen to a registry: a name is reserved, or a pending one gets an entry whose
references are all inserted. -/
inductive Step : Registry Entry → Registry Entry → Prop where
  | reserve (registry : Registry Entry) (candidate : Text) :
      Step registry (registry.reserve candidate).2
  | complete (registry : Registry Entry) (name : Text) (entry : Entry)
      (waiting : name ∈ registry.pending)
      (known : ∀ used ∈ entry.references, used ∈ registry.names) :
      Step registry (registry.complete name entry)

abbrev Steps : Registry Entry → Registry Entry → Prop := Relation.ReflTransGen Step

theorem empty_sound : (empty : Registry Entry).Sound := by
  refine ⟨List.nodup_nil, ?_⟩
  intro earlier name entry later split
  exact absurd split.symm (by simp [empty])

/-- An entry that refers to inserted names can be put behind them. -/
theorem complete_closed {registry : Registry Entry} {name : Text} {entry : Entry}
    (known : ∀ used ∈ entry.references, used ∈ registry.names) (closed : registry.Closed) :
    (registry.complete name entry).Closed := by
  intro earlier user content later split used isUsed
  rw [complete_inserted] at split
  rcases List.eq_nil_or_concat later with rfl | ⟨middle, last, rfl⟩
  · obtain ⟨same, single⟩ := List.append_inj' split rfl
    obtain ⟨rfl, rfl⟩ := Prod.mk.inj (List.cons.inj single).1
    rw [← same]
    exact known used isUsed
  · rw [List.concat_eq_append, ← List.cons_append, ← List.append_assoc] at split
    exact closed earlier user content middle (List.append_inj' split rfl).1 used isUsed

/-- One step keeps names apart and references closed. -/
theorem step_sound {registry next : Registry Entry} (step : Step registry next)
    (sound : registry.Sound) : next.Sound := by
  cases step with
  | reserve candidate => exact ⟨reserve_distinct candidate sound.distinct, sound.closed⟩
  | complete name entry waiting known =>
    exact ⟨(complete_perm entry waiting).nodup_iff.mpr sound.distinct,
      complete_closed known sound.closed⟩

/-- So every moment in a chain of steps is sound when the first one is. -/
theorem chain_sound {first : Registry Entry} {moments : List (Registry Entry)}
    (chain : List.IsChain Step (first :: moments)) (sound : first.Sound) :
    ∀ moment ∈ first :: moments, moment.Sound := by
  induction moments generalizing first with
  | nil =>
    intro moment member
    rw [List.mem_singleton.mp member]
    exact sound
  | cons next rest inductionHypothesis =>
    obtain ⟨step, others⟩ := List.isChain_cons_cons.mp chain
    intro moment member
    rcases List.mem_cons.mp member with rfl | later
    · exact sound
    · exact inductionHypothesis others (step_sound step sound) moment later

/-- So is a registry that steps lead to. -/
theorem steps_sound {registry result : Registry Entry} (steps : Steps registry result)
    (sound : registry.Sound) : result.Sound := by
  induction steps with
  | refl => exact sound
  | tail _ last inductionHypothesis => exact step_sound last inductionHypothesis

/-- In a sound registry the names that an entry refers to are inserted. -/
theorem Sound.references_inserted {registry : Registry Entry} (sound : registry.Sound)
    {name used : Text} {entry : Entry} (member : (name, entry) ∈ registry.inserted)
    (isUsed : used ∈ entry.references) : used ∈ registry.names := by
  obtain ⟨earlier, later, split⟩ := List.append_of_mem member
  rw [names, split, List.map_append]
  exact List.mem_append_left _ (sound.closed earlier name entry later split used isUsed)

/-- What is inserted stays inserted. -/
theorem steps_names {registry result : Registry Entry} (steps : Steps registry result)
    {name : Text} (inserted : name ∈ registry.names) : name ∈ result.names := by
  induction steps with
  | refl => exact inserted
  | tail _ last inductionHypothesis =>
    cases last with
    | reserve candidate => exact inductionHypothesis
    | complete other entry waiting known =>
      rw [complete_names]
      exact List.mem_append_left _ inductionHypothesis

/-- In a sound registry the user of a name stands behind it. -/
theorem refers_descends {registry : Registry Entry} (sound : registry.Sound) {used user : Text}
    (refers : registry.Refers used user) :
    registry.names.idxOf used < registry.names.idxOf user := by
  obtain ⟨entry, inserted, isUsed⟩ := refers
  obtain ⟨earlier, later, split⟩ := List.append_of_mem inserted
  have before : used ∈ earlier.map Prod.fst :=
    sound.closed earlier user entry later split used isUsed
  have listed : registry.names = earlier.map Prod.fst ++ user :: later.map Prod.fst := by
    rw [names, split, List.map_append, List.map_cons]
  have distinct : (earlier.map Prod.fst ++ user :: later.map Prod.fst).Nodup :=
    listed ▸ (List.nodup_append.mp sound.distinct).2.1
  have notBefore : user ∉ earlier.map Prod.fst := fun repeated =>
    (List.nodup_append.mp distinct).2.2 user repeated user List.mem_cons_self rfl
  rw [listed, List.idxOf_append_of_mem before, List.idxOf_append_of_notMem notBefore,
    List.idxOf_cons_self, Nat.add_zero]
  exact List.idxOf_lt_length_of_mem before

/-- In a sound registry references neither dangle nor form a cycle. -/
theorem sound_grounded {registry : Registry Entry} (sound : registry.Sound) :
    registry.Closed ∧ WellFounded registry.Refers := by
  refine ⟨sound.closed, ?_⟩
  exact Subrelation.wf (fun refers => refers_descends sound refers)
    (measure registry.names.idxOf).wf

end Registry

namespace Generator

open Registry

mutual

/-- A walk that returns consists of steps, after which the names in its type are inserted.
By induction on the walk: when an object is completed, its name is pending still, and the
names in the types of its members have been inserted one member after another. -/
theorem declares_steps {style : Style} {name : Text} {value : Json ρ} {type : TypeExpr}
    {registry result : Registry Entry}
    (walked : Declares style name value registry type result) :
    Steps registry result ∧ ∀ used ∈ type.references, used ∈ result.names := by
  match walked with
  | .scalar _ | .empty =>
    refine ⟨.refl, ?_⟩
    intro used impossible
    exact absurd impossible List.not_mem_nil
  | .mixed _ =>
    refine ⟨.refl, ?_⟩
    intro used impossible
    rw [ArrayType.mixedType] at impossible
    split at impossible <;> exact absurd impossible List.not_mem_nil
  | .uniform _ inner =>
    obtain ⟨steps, known⟩ := declares_steps inner
    exact ⟨steps, known⟩
  | @Declares.object _ _ name _ _ _ middle inner =>
    obtain ⟨steps, known⟩ := declaresAll_steps inner
    have waiting : registry.freeName name ∈ middle.pending := by
      rw [(declaresAll_outline inner).pending_exact]
      exact List.mem_cons_self
    constructor
    · exact (Relation.ReflTransGen.head (Step.reserve registry name) steps).tail
        (Step.complete middle _ _ waiting known)
    · intro used isUsed
      rw [complete_names, List.mem_singleton.mp isUsed]
      exact List.mem_append_right _ List.mem_cons_self

theorem declaresAll_steps {style : Style} {members : Members ρ}
    {properties : List (Text × TypeExpr)} {registry result : Registry Entry}
    (walked : DeclaresAll style members registry properties result) :
    Steps registry result ∧
      ∀ used ∈ properties.flatMap (fun (_, type) => type.references), used ∈ result.names := by
  match walked with
  | .nil =>
    refine ⟨.refl, ?_⟩
    intro used impossible
    exact absurd impossible List.not_mem_nil
  | .cons head tail =>
    obtain ⟨first, knownFirst⟩ := declares_steps head
    obtain ⟨others, knownOthers⟩ := declaresAll_steps tail
    refine ⟨first.trans others, ?_⟩
    intro used isUsed
    rw [List.flatMap_cons] at isUsed
    rcases List.mem_append.mp isUsed with inFirst | inOthers
    · exact steps_names others (knownFirst used inFirst)
    · exact knownOthers used inOthers

end

mutual

/-- A walk that fails consists of steps, too: completed members and reservations for the
objects around the failure. -/
theorem abandons_steps {style : Style} {name : Text} {value : Json ρ} {fault : WalkFault ρ}
    {registry result : Registry Entry}
    (failed : Abandons style name value registry fault result) : Steps registry result := by
  match failed with
  | .foreign | .deepArray | .deepObject | .inspected _ => exact .refl
  | .uniform _ inner => exact abandons_steps inner
  | @Abandons.object _ _ name _ _ _ _ inner =>
    exact Relation.ReflTransGen.head (Step.reserve registry name) (abandonsAll_steps inner)

theorem abandonsAll_steps {style : Style} {members : Members ρ} {fault : WalkFault ρ}
    {registry result : Registry Entry}
    (failed : AbandonsAll style members registry fault result) : Steps registry result := by
  match failed with
  | .here inner => exact abandons_steps inner
  | .later head tail => exact (declares_steps head).1.trans (abandonsAll_steps tail)

end

/-- However a walk ends, it consists of steps. -/
theorem outcome_steps {style : Style} {name : Text} {value : Json ρ} {registry : Registry Entry}
    {outcome : Except (WalkFault ρ) TypeExpr × Registry Entry}
    (ended : Outcome style name value registry outcome) : Steps registry outcome.2 := by
  rcases outcome with ⟨fault | type, result⟩
  · exact abandons_steps ended
  · exact (declares_steps ended).1

/-- What a program can ask of a registry that it shares between generations. A generation
that begins deep in the program has fewer frames left than the limit. -/
inductive Call (ρ : Type) where
  | reserve (candidate : Text)
  | insert (name text : Text)
  | generate (style : Style) (name : Text) (value : Json ρ)
  | generateWithin (frames : Nat) (style : Style) (name : Text) (value : Json ρ)

/-- The registry that a call leaves, whether it succeeds or not. -/
def Call.effect (registry : Registry Entry) : Call ρ → Registry Entry
  | .reserve candidate => (registry.reserve candidate).2
  | .insert name text =>
    match registry.insert name (.verbatim text) with
    | .ok result => result
    | .error _ => registry
  | .generate style name value => (runOn registry (Generator.generate style name value)).2
  | .generateWithin frames style name value =>
    (runOn registry (typeOf style frames (value.topName name) value)).2

/-- The registry after calls in order, begun with an empty one. -/
def after (calls : List (Call ρ)) : Registry Entry := calls.foldl Call.effect .empty

/-- Every call consists of steps. -/
theorem call_steps (call : Call ρ) (registry : Registry Entry) :
    Steps registry (call.effect registry) := by
  cases call with
  | reserve candidate => exact .single (Step.reserve registry candidate)
  | insert name text =>
    rw [Call.effect, Registry.insert]
    by_cases waiting : name ∈ registry.pending
    · rw [if_pos (List.contains_iff_mem.mpr waiting)]
      refine .single (Step.complete registry name (.verbatim text) waiting ?_)
      intro used impossible
      exact absurd impossible List.not_mem_nil
    · rw [if_neg (fun held => waiting (List.contains_iff_mem.mp held))]
  | generate style name value =>
    exact outcome_steps (generate_outcome style name value registry)
  | generateWithin frames style name value =>
    exact outcome_steps (run_outcome style frames (value.topName name) value registry)

/-- Every run of calls consists of steps, from whatever registry it begins with. -/
theorem calls_steps (calls : List (Call ρ)) (registry : Registry Entry) :
    Steps registry (calls.foldl Call.effect registry) := by
  induction calls generalizing registry with
  | nil => exact .refl
  | cons call rest inductionHypothesis =>
    exact (call_steps call registry).trans (inductionHypothesis _)

/-- Any calls, whatever their arguments and whether or not they fail, take the registry
through a chain of moments, from one to the next by a single reservation or insertion. At
every moment, in the midst of a call as well as after it, the declarations refer only to
earlier ones. -/
theorem references_closed_throughout (calls : List (Call ρ)) :
    ∃ moments : List (Registry Entry),
      List.IsChain Step (.empty :: moments) ∧
      (.empty :: moments).getLast (List.cons_ne_nil _ _) = after calls ∧
      ∀ moment ∈ .empty :: moments, moment.Closed ∧ WellFounded moment.Refers := by
  obtain ⟨moments, chain, last⟩ :=
    List.exists_isChain_cons_of_relationReflTransGen (calls_steps calls .empty)
  refine ⟨moments, chain, last, ?_⟩
  intro moment member
  exact sound_grounded (chain_sound chain empty_sound moment member)

end Generator

end TypeSketch
