import TypeSketch.Proofs.OutputText

/-!
# Appending a member

When an object gets one more member in last place, nothing happens to the declarations of the
members before it: the walk comes to the new member when they are all inserted, while the object
itself is still pending. So the names in the new member give way to all the others, and the object
is completed after it, with one more property.

The argument is about walks. A walk over members in a row is a walk over the first ones and then,
in the registry that it leaves, one over the others; the walk over the first ones is the same
whatever comes behind them.
-/

namespace TypeSketch

/-- Different declarations have different entries. -/
theorem Declaration.entry_injective (style : Style) : Function.Injective (entry style) := by
  intro declaration other same
  exact (Entry.declared.inj (Prod.mk.inj same).2).2

namespace Style

/-- A declaration up to its last line. -/
def unclosed (style : Style) (name : Text) (properties : List (Text × Text)) : Text :=
  style.opening name ++
    properties.flatMap (fun (key, type) => Text.ofString "\n" ++ style.propertyLine key type) ++
      Text.ofString "\n"

theorem declaration_unclosed (style : Style) (name : Text) (properties : List (Text × Text)) :
    style.declaration name properties = style.unclosed name properties ++ style.closing := by
  simp [declaration, unclosed, Text.join_cons, List.flatMap_map]

/-- One more property is one more line. -/
theorem unclosed_append (style : Style) (name : Text) (properties : List (Text × Text))
    (key type : Text) :
    style.unclosed name (properties ++ [(key, type)]) =
      style.unclosed name properties ++ (style.propertyLine key type ++ "\n") := by
  simp [unclosed]

end Style

namespace Generator

variable {ρ α β : Type} {style : Style}

/-- Two walks in turn return when the first one does and the second one on what it gave, in the
registry that it left. -/
theorem run_bind_eq_ok_iff {walk : Walk ρ α} {next : α → Walk ρ β} {value : β}
    {registry result : Registry Entry} :
    run (walk >>= next) registry = (.ok value, result) ↔
      ∃ found middle, run walk registry = (.ok found, middle) ∧
        run (next found) middle = (.ok value, result) := by
  rw [run_bind]
  constructor
  · intro returned
    rcases walked : run walk registry with ⟨fault | found, middle⟩
    · rw [walked] at returned
      cases returned
    · rw [walked] at returned
      exact ⟨found, middle, rfl, returned⟩
  · rintro ⟨found, middle, walked, returned⟩
    rw [walked]
    exact returned

/-- The walk over an object returns when the one over its members does. -/
theorem run_object_eq_ok_iff {frames : Nat} {name : Text} {members : Members ρ} {type : TypeExpr}
    {registry result : Registry Entry} :
    run (typeOf style (frames + 2) name (.object members)) registry = (.ok type, result) ↔
      ∃ properties middle, run (members.mapM (typeOfMember style frames))
          (registry.reserve name).2 = (.ok properties, middle) ∧
        type = .named (registry.freeName name) ∧
        result = middle.complete (registry.freeName name)
          (.declared style ⟨registry.freeName name, properties⟩) := by
  rw [run_object]
  rcases run (members.mapM (typeOfMember style frames)) (registry.reserve name).2 with
    ⟨fault | properties, middle⟩
  · simp
  · constructor
    · intro returned
      obtain ⟨typed, completed⟩ := Prod.mk.inj returned
      exact ⟨properties, middle, rfl, (Except.ok.inj typed).symm, completed.symm⟩
    · rintro ⟨_, _, same, rfl, rfl⟩
      obtain ⟨found, rfl⟩ := Prod.mk.inj same
      rw [Except.ok.inj found]

/-- With a member behind others the walk over it comes last. -/
theorem run_members_append_eq_ok_iff {frames : Nat} {members : Members ρ} {key : Text}
    {value : Json ρ} {properties : List (Text × TypeExpr)} {registry result : Registry Entry} :
    run ((members ++ [(key, value)]).mapM (typeOfMember style frames)) registry =
        (.ok properties, result) ↔
      ∃ earlier middle type,
        run (members.mapM (typeOfMember style frames)) registry = (.ok earlier, middle) ∧
        run (typeOf style frames (TypeName.suggest key) value) middle = (.ok type, result) ∧
        properties = earlier ++ [(key, type)] := by
  rw [List.mapM_append, run_bind_eq_ok_iff]
  simp only [List.mapM_cons, List.mapM_nil, typeOfMember, bind_assoc, pure_bind]
  constructor
  · rintro ⟨earlier, middle, first, further⟩
    obtain ⟨type, last, walked, returned⟩ := run_bind_eq_ok_iff.mp further
    obtain ⟨same, rfl⟩ := Prod.mk.inj returned
    exact ⟨earlier, middle, type, first, walked, (Except.ok.inj same).symm⟩
  · rintro ⟨earlier, middle, type, first, walked, rfl⟩
    exact ⟨earlier, middle, first, run_bind_eq_ok_iff.mpr ⟨type, result, walked, rfl⟩⟩

/-- What a walk over members inserts are declarations, and it leaves pending what was so. -/
theorem run_members_inserted {frames : Nat} {members : Members ρ}
    {properties : List (Text × TypeExpr)} {registry result : Registry Entry}
    (walked : run (members.mapM (typeOfMember style frames)) registry =
      (.ok properties, result)) :
    ∃ declarations : List Declaration, result =
      ⟨registry.pending, registry.inserted ++ declarations.map (Declaration.entry style)⟩ := by
  have outcome := run_members style frames members
    (fun key value registry => run_outcome style frames (TypeName.suggest key) value registry)
    registry
  rw [walked] at outcome
  have performed := declaresAll_outline outcome
  exact ⟨_, congr (congrArg Registry.mk performed.pending_exact) performed.inserted_exact⟩

/-- So does a walk over a value. -/
theorem run_value_inserted {frames : Nat} {name : Text} {value : Json ρ} {type : TypeExpr}
    {registry result : Registry Entry}
    (walked : run (typeOf style frames name value) registry = (.ok type, result)) :
    ∃ declarations : List Declaration, result =
      ⟨registry.pending, registry.inserted ++ declarations.map (Declaration.entry style)⟩ := by
  have outcome := run_outcome style frames name value registry
  rw [walked] at outcome
  have performed := declares_outline outcome
  exact ⟨_, congr (congrArg Registry.mk performed.pending_exact) performed.inserted_exact⟩

/-- The frames that are left for the members of an object at the top. -/
def memberFrames : Nat := Nesting.frames - 2

/-- The declaration of an object at the top. -/
def rootWith (properties : List (Text × TypeExpr)) : Declaration := ⟨TypeName.root, properties⟩

/-- The registry of a conversion when it comes to a member of the object at the top. -/
def amid (style : Style) (earlier : List Declaration) : Registry Entry :=
  ⟨[TypeName.root], earlier.map (Declaration.entry style)⟩

/-- The declarations of an object at the top are those of its members and its own. -/
theorem declarations_object {members : Members ρ} {registry : Registry Entry}
    (returned : declarations style (.object members) = .ok registry) :
    ∃ (properties : List (Text × TypeExpr)) (earlier : List Declaration),
      run (members.mapM (typeOfMember style memberFrames)) (amid style []) =
        (.ok properties, amid style earlier) ∧
      registry.inserted = (earlier ++ [rootWith properties]).map
        (Declaration.entry style) := by
  obtain ⟨type, walked⟩ := declarations_iff.mp returned
  have rootFree : (Registry.empty : Registry Entry).freeName TypeName.root = TypeName.root :=
    Registry.freeName_of_free rfl
  have object : run (typeOf style (memberFrames + 2) TypeName.root (.object members)) .empty =
      (.ok type, registry) := walked
  obtain ⟨properties, middle, inner, _, rfl⟩ := run_object_eq_ok_iff.mp object
  have begun : ((Registry.empty : Registry Entry).reserve TypeName.root).2 = amid style [] := by
    rw [Registry.reserve, rootFree]
    rfl
  rw [begun] at inner
  obtain ⟨earlier, rfl⟩ := run_members_inserted inner
  refine ⟨properties, earlier, inner, ?_⟩
  rw [rootFree, Registry.complete_inserted, List.map_append]
  rfl

/-- The declarations of a text stay on their lines. -/
theorem linear_of_inserted {value : Json ρ} {registry : Registry Entry}
    (returned : declarations style value = .ok registry) {listed : List Declaration}
    (inserted : registry.inserted = listed.map (Declaration.entry style)) :
    ∀ declaration ∈ listed, declaration.Linear := by
  obtain ⟨others, insertedOthers, linear⟩ := declarations_linear returned
  have same : others = listed :=
    (Declaration.entry_injective style).list_map (insertedOthers.symm.trans inserted)
  rwa [same] at linear

/-- The output has the texts of the declarations as its blocks, and nothing besides. -/
theorem text_blocks {value : Json ρ} {registry : Registry Entry}
    (returned : declarations style value = .ok registry) {listed : List Declaration}
    (inserted : registry.inserted = listed.map (Declaration.entry style)) (filled : listed ≠ []) :
    registry.text = Text.join "\n\n" (listed.map (Declaration.text style)) ∧
      registry.text.blocks = listed.map (Declaration.text style) := by
  obtain ⟨whole, blocks, _⟩ :=
    Registry.text_read_back inserted (linear_of_inserted returned inserted) filled
  rw [← Registry.texts_of_declared inserted]
  exact ⟨whole, blocks⟩

/-- The declaration of the object at the top is the only one of its name. -/
theorem others_not_root {value : Json ρ} {registry : Registry Entry}
    (returned : declarations style value = .ok registry) {others : List Declaration}
    {properties : List (Text × TypeExpr)}
    (inserted : registry.inserted =
      (others ++ [rootWith properties]).map (Declaration.entry style)) :
    ∀ declaration ∈ others, declaration.name ≠ TypeName.root := by
  have distinct : registry.names.Nodup :=
    (List.nodup_append.mp (declarations_sound returned).distinct).2.1
  have listed : registry.names = others.map Declaration.name ++ [TypeName.root] := by
    rw [Registry.names, inserted, List.map_append, List.map_append, List.map_map]
    rfl
  rw [listed, List.nodup_append] at distinct
  intro declaration member
  exact distinct.2.2 _ (List.mem_map_of_mem member) _ List.mem_cons_self

/-- A member in last place leaves the declarations of an object as they are and puts its own behind
them. The output with the member has the blocks of the output without it, in the same order and all
unchanged but the last one, which is that of the object at the top; then the declarations that a
walk over the new member inserts where all others are inserted and the object at the top is
pending; then the object at the top again, with one more line in front of the closing one. -/
theorem appended_member_comes_last (style : Style) (datum extended : Datum)
    (members : Members Datum) (key : Text) (value : Json Datum) (output longer : Text)
    (admitted : datum.toJson = .ok (.object members))
    (admittedLonger : extended.toJson = .ok (.object (members ++ [(key, value)])))
    (converted : convertDatum style datum = .ok output)
    (convertedLonger : convertDatum style extended = .ok longer) :
    ∃ (earlier added : List Declaration) (properties : List (Text × TypeExpr)) (type : TypeExpr)
      (front : Text),
      output.blocks = earlier.map (Declaration.text style) ++ [front ++ style.closing] ∧
      longer.blocks = earlier.map (Declaration.text style) ++ added.map (Declaration.text style) ++
        [front ++ (style.propertyLine key type.text ++ "\n") ++ style.closing] ∧
      output = Text.join "\n\n" output.blocks ∧ longer = Text.join "\n\n" longer.blocks ∧
      front ++ style.closing = Declaration.text style (rootWith properties) ∧
      properties.map Prod.fst = members.map Prod.fst ∧
      (∀ declaration ∈ earlier ++ added, declaration.name ≠ TypeName.root) ∧
      run (typeOf style memberFrames (TypeName.suggest key) value) (amid style earlier) =
        (.ok type, amid style (earlier ++ added)) := by
  obtain ⟨_, registry, admittedAgain, walked, rfl⟩ := convertDatum_iff.mp converted
  obtain rfl := Except.ok.inj (admittedAgain.symm.trans admitted)
  obtain ⟨_, registryLonger, admittedAgain, walkedLonger, rfl⟩ :=
    convertDatum_iff.mp convertedLonger
  obtain rfl := Except.ok.inj (admittedAgain.symm.trans admittedLonger)
  obtain ⟨properties, earlier, inner, inserted⟩ := declarations_object walked
  obtain ⟨_, all, innerLonger, insertedLonger⟩ := declarations_object walkedLonger
  obtain ⟨again, middle, type, first, last, rfl⟩ := run_members_append_eq_ok_iff.mp innerLonger
  -- The walk over the first members is the one without the new member.
  obtain ⟨same, rfl⟩ := Prod.mk.inj (first.symm.trans inner)
  obtain rfl := Except.ok.inj same
  obtain ⟨added, left⟩ := run_value_inserted last
  have allExact : all = earlier ++ added := by
    apply (Declaration.entry_injective style).list_map
    rw [List.map_append]
    exact congrArg Registry.inserted left
  subst allExact
  obtain ⟨whole, blocks⟩ := text_blocks walked inserted (by simp)
  obtain ⟨wholeLonger, blocksLonger⟩ := text_blocks walkedLonger insertedLonger (by simp)
  have closed (properties : List (Text × TypeExpr)) :
      Declaration.text style (rootWith properties) =
        style.unclosed TypeName.root (Declaration.typeTexts properties) ++ style.closing :=
    style.declaration_unclosed _ _
  refine ⟨earlier, added, again, type, style.unclosed TypeName.root (Declaration.typeTexts again),
    ?_, ?_, ?_, ?_, (closed again).symm, ?_, others_not_root walkedLonger insertedLonger, last⟩
  · rw [blocks, List.map_append, ← closed]
    rfl
  · have longerTexts : Declaration.typeTexts (again ++ [(key, type)]) =
        Declaration.typeTexts again ++ [(key, type.text)] := List.map_append
    rw [blocksLonger, List.map_append, List.map_append, ← Style.unclosed_append, ← longerTexts,
      ← closed]
    rfl
  · rw [blocks]
    exact whole
  · rw [blocksLonger]
    exact wholeLonger
  · have outcome := run_members style memberFrames members
      (fun key value registry =>
        run_outcome style memberFrames (TypeName.suggest key) value registry) (amid style [])
    rw [inner] at outcome
    exact declaresAll_keys outcome

/-- Members whose objects compete for names with each other and with the object at the top. -/
def taggedMembers : Members Datum :=
  [("tags", .array [.object [("id", .number (.int 1))]]), ("root", .object [("tag", .object [])])]

/-- The object of these members, and the same as loose data with one more object. -/
def tagged : Datum := .json (.object taggedMembers)

def taggedLater : Datum :=
  .mapping [(.text "tags", .list [.mapping [(.text "id", .number (.int 1))]]),
    (.text "root", .mapping [(.text "tag", .mapping [])]),
    (.text "tag", .mapping [(.text "tags", .mapping []), (.text "on", .none)])]

def taggedOutput : Text :=
  "export interface Tag \x7b\n  id: number;\n\x7d\n\nexport interface Tag1 \x7b\n\x7d\n\n" ++
    "export interface Root1 \x7b\n  tag: Tag1;\n\x7d\n\n" ++
    "export interface Root \x7b\n  tags: Tag[];\n  root: Root1;\n\x7d"

def taggedLaterOutput : Text :=
  "export interface Tag \x7b\n  id: number;\n\x7d\n\nexport interface Tag1 \x7b\n\x7d\n\n" ++
    "export interface Root1 \x7b\n  tag: Tag1;\n\x7d\n\n" ++
    "export interface Tag3 \x7b\n\x7d\n\n" ++
    "export interface Tag2 \x7b\n  tags: Tag3;\n  on: null;\n\x7d\n\n" ++
    "export interface Root \x7b\n  tags: Tag[];\n  root: Root1;\n  tag: Tag2;\n\x7d"

theorem late_tag_appended :
    convertDatum {} tagged = .ok taggedOutput ∧
    convertDatum {} taggedLater = .ok taggedLaterOutput ∧
    ∃ (earlier added : List Declaration) (front : Text) (type : TypeExpr),
      taggedOutput.blocks = earlier.map (Declaration.text {}) ++ [front ++ "\x7d"] ∧
      taggedLaterOutput.blocks = earlier.map (Declaration.text {}) ++
        added.map (Declaration.text {}) ++
          [front ++ (Style.propertyLine {} "tag" type.text ++ "\n") ++ "\x7d"] ∧
      earlier.length = 3 ∧ added.length = 2 := by
  have returned : (convertDatum {} tagged).toOption = some taggedOutput := by decide +kernel
  have returnedLater : (convertDatum {} taggedLater).toOption = some taggedLaterOutput := by
    decide +kernel
  rw [toOption_eq_some_iff] at returned returnedLater
  obtain ⟨earlier, added, _, type, front, blocks, blocksLater, _⟩ :=
    appended_member_comes_last {} tagged taggedLater taggedMembers "tag"
      (.object [("tags", .object []), ("on", .null)]) _ _ rfl rfl returned returnedLater
  have many := congrArg List.length blocks
  have manyLater := congrArg List.length blocksLater
  have fourBlocks : taggedOutput.blocks.length = 4 := by decide +kernel
  have sixBlocks : taggedLaterOutput.blocks.length = 6 := by decide +kernel
  simp only [List.length_append, List.length_map, List.length_singleton, fourBlocks,
    sixBlocks] at many manyLater
  exact ⟨returned, returnedLater, earlier, added, front, type, blocks, blocksLater, by omega,
    by omega⟩

end Generator

end TypeSketch
