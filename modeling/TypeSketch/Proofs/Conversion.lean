import TypeSketch.Convert
import TypeSketch.Proofs.Fallible
import TypeSketch.Proofs.Identifier
import TypeSketch.Proofs.References

/-!
# What a conversion returns

A conversion that returns has walked one value in a registry of its own and gives the text
of what that registry holds. The value comes from reading a text or from admitting a datum;
nothing else of either is used. An object at the top is declared as `Root`, and since its
declaration waits for those inside it, it stands last.
-/

namespace TypeSketch

variable {ρ : Type}

namespace Generator

/-- The declarations of a value are those of a walk in an empty registry. -/
theorem declarations_iff {style : Style} {value : Json ρ} {registry : Registry Entry} :
    declarations style value = .ok registry ↔
      ∃ type, runOn .empty (generate style TypeName.root value) = (.ok type, registry) := by
  unfold declarations
  rcases runOn .empty (generate style TypeName.root value) with ⟨fault | type, result⟩
  · simp
  · constructor
    · intro returned
      exact ⟨type, by rw [Except.ok.inj returned]⟩
    · rintro ⟨_, walked⟩
      exact congrArg Except.ok (Prod.mk.inj walked).2

/-- An empty registry holds what the outline of the value declares, and nothing else. -/
theorem declarations_inserted {style : Style} {value : Json ρ} {registry : Registry Entry}
    (returned : declarations style value = .ok registry) :
    registry.inserted =
      ((value.visited TypeName.root).reserve (.empty : Registry Entry)).1.declarations.map
        (Declaration.entry style) := by
  obtain ⟨type, walked⟩ := declarations_iff.mp returned
  exact (generate_performs walked).inserted_exact

/-- All names that the outline of a value gets are identifiers. -/
theorem reserved_proper (value : Json ρ) (registry : Registry Entry) :
    ∀ name ∈ ((value.visited TypeName.root).reserve registry).1.names,
      TypeName.isProper name = true :=
  Outline.reserve_inherits TypeName.variant_proper
    (value.visited_candidates TypeName.suggest_proper (by decide) (by decide)) registry

/-- All names that a conversion declares are identifiers. -/
theorem declarations_proper {style : Style} {value : Json ρ} {registry : Registry Entry}
    (returned : declarations style value = .ok registry) :
    ∀ name ∈ registry.names, TypeName.isProper name = true := by
  intro name member
  rw [Registry.names, declarations_inserted returned, List.map_map] at member
  exact reserved_proper value .empty name ((Outline.declarations_names _).subset member)

/-- The registry of a conversion is sound. -/
theorem declarations_sound {style : Style} {value : Json ρ} {registry : Registry Entry}
    (returned : declarations style value = .ok registry) : registry.Sound := by
  obtain ⟨type, walked⟩ := declarations_iff.mp returned
  exact Registry.steps_sound (declares_steps (generate_declares walked)).1 Registry.empty_sound

/-- So are all names in a declaration: its own, and those that its types refer to. -/
theorem declared_proper {style : Style} {value : Json ρ} {registry : Registry Entry}
    (returned : declarations style value = .ok registry) {declaration : Declaration}
    (declared : declaration ∈
      ((value.visited TypeName.root).reserve (.empty : Registry Entry)).1.declarations) :
    TypeName.isProper declaration.name = true ∧
      ∀ used ∈ declaration.references, TypeName.isProper used = true := by
  have proper := declarations_proper returned
  have held : (declaration.name, Entry.declared style declaration) ∈ registry.inserted := by
    rw [declarations_inserted returned]
    exact List.mem_map_of_mem declared
  constructor
  · exact proper _ (List.mem_map_of_mem held)
  · intro used isUsed
    exact proper used ((declarations_sound returned).references_inserted held isUsed)

/-- An object at the top is declared as `Root`, after all objects in it. -/
theorem declarations_root {style : Style} {members : Members ρ} {registry : Registry Entry}
    (returned : declarations style (.object members) = .ok registry) :
    ∃ earlier properties, registry.inserted =
      earlier ++ [(TypeName.root, .declared style ⟨TypeName.root, properties⟩)] := by
  have rootFree : (Registry.empty : Registry Entry).freeName TypeName.root = TypeName.root :=
    Registry.freeName_of_free rfl
  rw [declarations_inserted returned, Json.visited, Json.topName, Json.outline, Outline.reserve,
    Outline.declarations, Registry.reserve_fst, rootFree, List.map_append]
  exact ⟨_, _, rfl⟩

end Generator

/-- A text is converted when it is read and its document is walked, and then to the text of
the registry. -/
theorem convert_iff {style : Style} {text output : Text} :
    convert style text = .ok output ↔
      ∃ document registry, Document.ofText text = .ok document ∧
        Generator.declarations style document = .ok registry ∧ output = registry.text := by
  constructor
  · intro returned
    obtain ⟨document, read, further⟩ := bind_eq_ok_iff.mp returned
    obtain ⟨registry, walked, same⟩ := bind_eq_ok_iff.mp further
    exact ⟨document, registry, mapError_eq_ok_iff.mp read, mapError_eq_ok_iff.mp walked,
      (Except.ok.inj same).symm⟩
  · rintro ⟨document, registry, read, walked, rfl⟩
    refine bind_eq_ok_iff.mpr ⟨document, mapError_eq_ok_iff.mpr read, ?_⟩
    exact bind_eq_ok_iff.mpr ⟨registry, mapError_eq_ok_iff.mpr walked, rfl⟩

/-- A datum is converted when it is admitted and its value is walked, and then to the text
of the registry. -/
theorem convertDatum_iff {style : Style} {datum : Datum} {output : Text} :
    convertDatum style datum = .ok output ↔
      ∃ value registry, datum.toJson = .ok value ∧
        Generator.declarations style value = .ok registry ∧ output = registry.text := by
  constructor
  · intro returned
    obtain ⟨value, admitted, further⟩ := bind_eq_ok_iff.mp returned
    obtain ⟨registry, walked, same⟩ := bind_eq_ok_iff.mp further
    exact ⟨value, registry, mapError_eq_ok_iff.mp admitted, mapError_eq_ok_iff.mp walked,
      (Except.ok.inj same).symm⟩
  · rintro ⟨value, registry, admitted, walked, rfl⟩
    refine bind_eq_ok_iff.mpr ⟨value, mapError_eq_ok_iff.mpr admitted, ?_⟩
    exact bind_eq_ok_iff.mpr ⟨registry, mapError_eq_ok_iff.mpr walked, rfl⟩

end TypeSketch
