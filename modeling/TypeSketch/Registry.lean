import TypeSketch.Text.CodePoint

/-!
# The registry of declaration names

A name is reserved when work on its declaration begins and inserted with its content when
that work is done, so inner declarations come before outer ones. A reserved name is free
until then: neither pending nor inserted. A taken candidate is followed by the least
positive number that makes it free.
-/

namespace TypeSketch

/-- Names that are reserved, and names with their content in the order of insertion. -/
structure Registry (ε : Type) where
  pending : List Text := []
  inserted : List (Text × ε) := []

/-- Why an insertion is refused. -/
structure NeverReserved where
  name : Text
deriving DecidableEq, Repr

namespace NeverReserved

def message (refusal : NeverReserved) : Text :=
  "Declaration name " ++ refusal.name ++ " was never reserved"

end NeverReserved

namespace Registry

variable {ε : Type}

def empty : Registry ε := {}

/-- The inserted names in order. -/
def names (registry : Registry ε) : List Text := registry.inserted.map Prod.fst

/-- Whether a name is pending or inserted. -/
def contains (registry : Registry ε) (name : Text) : Bool :=
  registry.pending.contains name || registry.names.contains name

/-- How many names are inserted. -/
def size (registry : Registry ε) : Nat := registry.inserted.length

/-- The content of an inserted name. -/
def get? (registry : Registry ε) (name : Text) : Option ε :=
  registry.inserted.lookup name

/-- The candidate itself for zero, otherwise the candidate followed by the number. -/
def variant (candidate : Text) : Nat → Text
  | 0 => candidate
  | k + 1 => candidate ++ Text.numeral (k + 1)

/-- The first variant from a number on that is not taken, within so many attempts. -/
def firstFree (taken : Text → Bool) (candidate : Text) : (attempts start : Nat) → Text
  | 0, k => variant candidate k
  | attempts + 1, k =>
    if taken (variant candidate k) then firstFree taken candidate attempts (k + 1)
    else variant candidate k

/-- The name that a candidate gets. One attempt more than there are names is enough, as
all variants differ. -/
def freeName (registry : Registry ε) (candidate : Text) : Text :=
  firstFree registry.contains candidate (registry.pending.length + registry.inserted.length) 0

/-- Reserves a free name for a candidate. -/
def reserve (candidate : Text) (registry : Registry ε) : Text × Registry ε :=
  let name := registry.freeName candidate
  (name, { registry with pending := name :: registry.pending })

/-- Moves a name from the pending ones to the end of the inserted ones. -/
def complete (name : Text) (content : ε) (registry : Registry ε) : Registry ε :=
  ⟨registry.pending.erase name, registry.inserted ++ [(name, content)]⟩

/-- Inserts the content of a name that is pending. -/
def insert (name : Text) (content : ε) (registry : Registry ε) :
    Except NeverReserved (Registry ε) :=
  if registry.pending.contains name then .ok (registry.complete name content)
  else .error ⟨name⟩

end Registry

end TypeSketch
