import TypeSketch.Proofs.Conversion

/-!
# A walk is two passes

The generator reserves a name when it enters an object and inserts the declaration when it
leaves, so reservations and insertions alternate. The same registry results from two
passes: the first reserves a name for every visited object, outer objects before inner
ones, and the second inserts all declarations under these names, inner ones before outer
ones. Every insertion of the second pass finds its name pending, and when it is over no
name that the first pass has taken is pending any more.
-/

namespace TypeSketch

variable {ρ : Type}

/-- Inserts declarations in turn, each under its own name, until one of the names is not
pending. -/
def Registry.insertEach (style : Style) :
    List Declaration → Registry Entry → Except NeverReserved (Registry Entry)
  | [], registry => .ok registry
  | declaration :: rest, registry => do
    let next ← registry.insert declaration.name (.declared style declaration)
    insertEach style rest next

namespace Registry

/-- Declarations whose names are pending are all inserted, in whatever order the names were
reserved, and afterwards only the other names are pending. -/
theorem insertEach_exact (style : Style) (declarations : List Declaration) (held kept : List Text)
    (registry : Registry Entry) (order : (declarations.map Declaration.name).Perm held)
    (waiting : registry.pending = held ++ kept) :
    insertEach style declarations registry =
      .ok ⟨kept, registry.inserted ++ declarations.map (Declaration.entry style)⟩ := by
  induction declarations generalizing held registry with
  | nil =>
    have noneHeld : held = [] := order.nil_eq.symm
    subst noneHeld
    rw [insertEach, List.map_nil, List.append_nil]
    exact congrArg Except.ok (congrArg (Registry.mk · registry.inserted) waiting)
  | cons declaration rest inductionHypothesis =>
    have first : declaration.name ∈ held := order.subset List.mem_cons_self
    have pending : registry.pending.contains declaration.name = true := by
      rw [List.contains_iff_mem, waiting]
      exact List.mem_append_left kept first
    have others : (rest.map Declaration.name).Perm (held.erase declaration.name) := by
      have erased := order.erase declaration.name
      rwa [List.map_cons, List.erase_cons_head] at erased
    have left : (registry.complete declaration.name (.declared style declaration)).pending =
        held.erase declaration.name ++ kept := by
      rw [complete_pending, waiting, List.erase_append_left _ first]
    rw [insertEach, insert, if_pos pending]
    refine (inductionHypothesis _ _ others left).trans ?_
    rw [complete_inserted, List.append_assoc]
    rfl

end Registry

namespace Generator

/-- A walk that returns leaves the registry of the two passes over the outline: the first
reserves every name that the second needs. -/
theorem performs_two_passes {style : Style} {candidates : Outline} {type : TypeExpr}
    {registry result : Registry Entry}
    (performed : Performs style (candidates.reserve registry) registry type result) :
    Registry.insertEach style (candidates.reserve registry).1.declarations
      (candidates.reserve registry).2 = .ok result := by
  have listed := candidates.reserve_names registry
  have waiting : (candidates.reserve registry).2.pending =
      (candidates.reserve registry).1.names.reverse ++ registry.pending := by
    have pending := registry.reserveEach_pending candidates.names
    rwa [listed] at pending
  have untouched : (candidates.reserve registry).2.inserted = registry.inserted := by
    have inserted := registry.reserveEach_inserted candidates.names
    rwa [listed] at inserted
  have order : ((candidates.reserve registry).1.declarations.map Declaration.name).Perm
      (candidates.reserve registry).1.names.reverse :=
    (Outline.declarations_names _).trans (List.reverse_perm _).symm
  rw [Registry.insertEach_exact style _ _ _ _ order waiting, untouched]
  congr 1
  cases result with
  | mk pending inserted =>
    exact (congr (congrArg Registry.mk performed.pending_exact) performed.inserted_exact).symm

/-- A walk that returns is two passes: names for all visited objects in the order in which
they are entered, then their declarations in the order in which they are left. The type
and the whole registry agree, every visited object has a declaration under a name of its
own that was free, and the same names are pending as before. In a conversion an object at
the top is declared last, as `Root`.

Proof: `declares_outline` gives the walk by its outline, and the outline gets the names
that a list of its candidates would get. The second pass empties exactly what the first
has added to the pending names, since the declarations bear a permutation of these. -/
theorem single_walk_is_two_passes (style : Style) :
    (∀ (name : Text) (value : Json ρ) (type : TypeExpr) (registry result : Registry Entry),
      runOn registry (generate style name value) = (.ok type, result) →
      ∃ (named : Outline) (reserved : Registry Entry),
        (value.visited name).reserve registry = (named, reserved) ∧
        registry.reserveEach (value.visited name).names = (named.names, reserved) ∧
        type = named.type ∧
        Registry.insertEach style named.declarations reserved = .ok result ∧
        result.inserted = registry.inserted ++ named.declarations.map (Declaration.entry style) ∧
        (named.declarations.map Declaration.name).Perm named.names ∧
        named.names.Nodup ∧ (∀ name ∈ named.names, registry.contains name = false) ∧
        result.pending = registry.pending) ∧
    (∀ (text output : Text) (members : Members Empty),
      Document.ofText text = .ok (.object members) → convert style text = .ok output →
      ∃ registry earlier properties,
        Generator.declarations style (.object members) = .ok registry ∧
        output = registry.text ∧ registry.inserted =
          earlier ++ [(TypeName.root, .declared style ⟨TypeName.root, properties⟩)]) := by
  constructor
  · intro name value type registry result returned
    have performed := generate_performs returned
    obtain ⟨distinct, free⟩ := (value.visited name).reserve_free registry
    exact ⟨_, _, rfl, Outline.reserve_names _ _, performed.type_exact,
      performs_two_passes performed, performed.inserted_exact, Outline.declarations_names _,
      distinct, free, performed.pending_exact⟩
  · intro text output members read returned
    obtain ⟨document, registry, readAgain, walked, rendered⟩ := convert_iff.mp returned
    have same : document = .object members := Except.ok.inj (readAgain.symm.trans read)
    subst same
    obtain ⟨earlier, properties, last⟩ := declarations_root walked
    exact ⟨registry, earlier, properties, walked, rendered, last⟩

/-- Objects whose candidates collide with each other, with the top and with a pending name. -/
def siblings : Json Empty :=
  .object [("items", .array [.object [("root", .object [])], .object []]),
    ("item", .array [.array [.object [("on", .string "2025-03-30T12:00:00Z")]]])]

/-- A text with an object in an object. -/
def nestedText : Text := "\x7b\"a\": \x7b\"as\": [1, \"x\"]\x7d\x7d"

def nestedMembers : Members Empty :=
  [("a", .object [("as", .array [.number (.int 1), .string "x"])])]

theorem siblings_are_two_passes :
    ∃ (named : Outline) (reserved result : Registry Entry) (members : Members Empty)
      (output : Text) (registry : Registry Entry) (earlier : List (Text × Entry))
      (properties : List (Text × TypeExpr)),
      runOn ⟨[TypeName.fallback], []⟩ (generate {} TypeName.root siblings) =
        (.ok (.named TypeName.root), result) ∧
      (siblings.visited TypeName.root).reserve ⟨[TypeName.fallback], []⟩ = (named, reserved) ∧
      Registry.insertEach {} named.declarations reserved = .ok result ∧
      result.pending = [TypeName.fallback] ∧
      Document.ofText nestedText = .ok (.object members) ∧
      convert {} nestedText = .ok output ∧ output = registry.text ∧ registry.inserted =
        earlier ++ [(TypeName.root, .declared {} ⟨TypeName.root, properties⟩)] := by
  have typed : (runOn ⟨[TypeName.fallback], []⟩ (generate {} TypeName.root siblings)).1.toOption =
      some (.named TypeName.root) := by decide +kernel
  obtain ⟨result, walked⟩ := runOn_returns typed
  obtain ⟨onWalks, onConversions⟩ := @single_walk_is_two_passes Empty {}
  obtain ⟨named, reserved, first, _, _, second, _, _, _, _, pending⟩ :=
    onWalks TypeName.root siblings (.named TypeName.root) _ _ walked
  have read : Document.ofText nestedText = .ok (.object nestedMembers) := rfl
  have typedNested : (runOn .empty (generate {} TypeName.root (.object nestedMembers))).1.toOption =
      some (.named TypeName.root) := by decide +kernel
  obtain ⟨registry, walkedNested⟩ := runOn_returns typedNested
  have converted : convert {} nestedText = .ok registry.text :=
    convert_iff.mpr ⟨_, registry, read, declarations_iff.mpr ⟨_, walkedNested⟩, rfl⟩
  obtain ⟨registry, earlier, properties, _, rendered, last⟩ :=
    onConversions nestedText _ _ read converted
  exact ⟨named, reserved, result, _, _, registry, earlier, properties, walked, first, second,
    pending, read, converted, rendered, last⟩

end Generator

end TypeSketch
