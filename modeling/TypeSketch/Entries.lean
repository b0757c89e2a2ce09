/-!
# Entries in order of arrival

Members of an object and items of a mapping keep the order in which their keys first
came. A key that comes again replaces the value in its first place.
-/

namespace TypeSketch.Entries

variable {κ α : Type}

/-- Puts a value under a key: in the place of the first equal key, or at the end. The
key that came first is kept. -/
def put (same : κ → κ → Bool) (key : κ) (value : α) : List (κ × α) → List (κ × α)
  | [] => [(key, value)]
  | (other, old) :: rest =>
    if same other key then (other, value) :: rest else (other, old) :: put same key value rest

/-- The entries that remain when each pair of a list is put in turn. -/
def ofPairs (same : κ → κ → Bool) (pairs : List (κ × α)) : List (κ × α) :=
  pairs.foldl (fun entries (key, value) => put same key value entries) []

/-- Every key is found at the place where it first came. -/
theorem keys_put [BEq κ] [LawfulBEq κ] (key : κ) (value : α) (entries : List (κ × α)) :
    (put (· == ·) key value entries).map Prod.fst =
      if (entries.map Prod.fst).contains key then entries.map Prod.fst
      else entries.map Prod.fst ++ [key] := by
  induction entries with
  | nil => simp [put]
  | cons entry rest inductionHypothesis =>
    obtain ⟨other, old⟩ := entry
    by_cases same : other = key
    · simp [put, same]
    · have different : ¬(key == other) = true := by simpa using Ne.symm same
      simp only [put, beq_iff_eq, same, if_false, List.map_cons, List.contains_cons,
        inductionHypothesis, different, Bool.false_or]
      split <;> simp

end TypeSketch.Entries
