import TypeSketch.ArrayType
import TypeSketch.Declaration
import TypeSketch.Nesting
import TypeSketch.Registry
import TypeSketch.Text.Blank
import TypeSketch.TypeName

/-!
# Declaring the objects of a value

The generator walks a value once and declares every object it meets. The name of an
object is reserved before its members are looked at and inserted after them, so a
declaration stands behind those it refers to. Objects are never merged. A walk can fail
at a foreign member or at the nesting limit; what it had reserved and inserted by then
stays in the registry.
-/

namespace TypeSketch

/-- The content of a name in the registry: a text given from outside, or a declaration
with the style it is written in. -/
inductive Entry where
  | verbatim (text : Text)
  | declared (style : Style) (declaration : Declaration)
deriving DecidableEq, Repr

def Entry.text : Entry → Text
  | .verbatim text => text
  | .declared style declaration => declaration.text style

/-- The declarations of a registry in order, with blank lines between them. -/
def Registry.text (registry : Registry Entry) : Text :=
  Text.strip (Text.join "\n\n" (registry.inserted.map fun (_, entry) => entry.text))

/-- Why a walk fails. -/
inductive WalkFault (ρ : Type) where
  | foreign (value : ρ)
  | tooDeep

/-- A walk over a value, with the registry it writes to. The registry outlives a failure. -/
abbrev Walk (ρ : Type) := ExceptT (WalkFault ρ) (StateM (Registry Entry))

namespace Generator

variable {ρ : Type}

/-- Reserves a free name for a candidate. -/
def reserve (candidate : Text) : Walk ρ Text := modifyGet (Registry.reserve candidate)

/-- Inserts a declaration under the name that was reserved for it. -/
def complete (style : Style) (declaration : Declaration) : Walk ρ Unit :=
  modify (Registry.complete declaration.name (.declared style declaration))

/-- The type of a value, with the objects in it declared on the way. Objects that are
met before any key are named after `name`. An object takes two frames and an array one. -/
def typeOf (style : Style) : (frames : Nat) → (name : Text) → Json ρ → Walk ρ TypeExpr
  | _, _, .foreign value => throw (.foreign value)
  | frames + 2, name, .object members => do
    let unique ← reserve name
    let properties ← members.mapM fun ((key, value) : Text × Json ρ) => do
      let type ← typeOf style frames (TypeName.suggest key) value
      return (key, type)
    complete style ⟨unique, properties⟩
    return .named unique
  | _, _, .object _ => throw .tooDeep
  | 0, _, .array _ => throw .tooDeep
  | _ + 1, _, .array [] => return .array (.primitive .any)
  | frames + 1, name, .array (first :: rest) => do
    match ← liftExcept ((ArrayType.settled? (first :: rest)).mapError WalkFault.foreign) with
    | some element => return .array element
    | none => return .array (← typeOf style frames name first)
  | _, _, scalar => return .primitive scalar.primitive

/-- Declares the objects of a whole value. Only an object uses the given name for itself;
the objects of an array get the fallback name. -/
def generate (style : Style) (name : Text) : Json ρ → Walk ρ TypeExpr
  | .object members => typeOf style Nesting.frames name (.object members)
  | value => typeOf style Nesting.frames TypeName.fallback value

/-- Runs a walk on a registry. -/
def runOn (registry : Registry Entry) (walk : Walk ρ TypeExpr) :
    Except (WalkFault ρ) TypeExpr × Registry Entry :=
  (walk.run).run registry

/-- The declarations of a value, in a registry of their own. -/
def declarations (style : Style) (value : Json ρ) : Except (WalkFault ρ) (Registry Entry) :=
  match runOn .empty (generate style TypeName.root value) with
  | (.ok _, registry) => .ok registry
  | (.error fault, _) => .error fault

end Generator

end TypeSketch
