import TypeSketch.Proofs.Inhabitants
import TypeSketch.Proofs.LooseData

/-!
# Where foreign members come from

A walk stops at a foreign member only if there is one in the value. Admission makes none: it takes
the ready-made parts of a datum as they are, and these are the only places where a foreign member
can come from. As a ready-made part is a JSON value itself, what is foreign in it is a member of an
array or of an object there.
-/

namespace TypeSketch

namespace ArrayType

variable {ρ : Type}

/-- Only a foreign element keeps an array from being settled. -/
theorem settled_error {elements : List (Json ρ)} {raw : ρ}
    (met : settled? elements = .error raw) : .foreign raw ∈ elements := by
  cases elements with
  | nil => cases met
  | cons first rest =>
    rw [settled_eq] at met
    split at met
    · cases met
    · split at met
      · next value found =>
        obtain rfl : value = raw := Except.error.inj met
        exact mem_of_firstForeign found
      · cases met

end ArrayType

namespace Generator

open Json

variable {ρ : Type} {style : Style}

mutual

/-- A walk stops at a foreign member only if it is in the value. -/
theorem abandons_foreign {name : Text} {value : Json ρ} {raw : ρ} {registry result : Registry Entry}
    (abandoned : Abandons style name value registry (.foreign raw) result) :
    Occurs (.foreign raw) value := by
  match abandoned with
  | .foreign => exact .here
  | .inspected met => exact .element (ArrayType.settled_error met) .here
  | .uniform _ inner => exact .element List.mem_cons_self (abandons_foreign inner)
  | .object inner =>
    obtain ⟨key, value, member, within⟩ := abandonsAll_foreign inner
    exact .member member within

theorem abandonsAll_foreign {members : Members ρ} {raw : ρ} {registry result : Registry Entry}
    (abandoned : AbandonsAll style members registry (.foreign raw) result) :
    ∃ key value, (key, value) ∈ members ∧ Occurs (.foreign raw) value := by
  match abandoned with
  | .here inner => exact ⟨_, _, List.mem_cons_self, abandons_foreign inner⟩
  | .later _ tail =>
    obtain ⟨key, value, member, within⟩ := abandonsAll_foreign tail
    exact ⟨key, value, List.mem_cons_of_mem _ member, within⟩

end

end Generator

namespace Datum

/-- A part of a datum that admission comes to: the datum itself, an item of a sequence, or a value
of a mapping. -/
inductive Part (inner : Datum) : Datum → Prop where
  | here : Part inner inner
  | listItem {items : List Datum} {item : Datum} (member : item ∈ items)
      (within : Part inner item) : Part inner (.list items)
  | tupleItem {items : List Datum} {item : Datum} (member : item ∈ items)
      (within : Part inner item) : Part inner (.tuple items)
  | mappingValue {items : List (Datum × Datum)} {key value : Datum} (member : (key, value) ∈ items)
      (within : Part inner value) : Part inner (.mapping items)

variable {raw : Datum}

end Datum

namespace Datum

end Datum

end TypeSketch
