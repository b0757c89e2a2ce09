import TypeSketch.Proofs.FreeName

/-!
# The search for a free name

A reservation searches for a name. It tries the candidate, then the candidate with 1 behind it,
then with 2, and so on until a name is free, with no bound on the number of tests. The search is
told by its state and by what a test leads to, so that it could go on for ever.

It does not. All tests but the last meet a taken name, these names differ, and so they are no more
than the names of the registry. `freeName` fixes such a number of attempts beforehand, and it
gives the name that the search ends with.
-/

namespace TypeSketch.Registry

variable {ε : Type}

/-- A search under way: the name to be tested, and the number that comes next. -/
structure Search where
  name : Text
  counter : Nat

namespace Search

/-- A search begins with the candidate itself. -/
def start (candidate : Text) : Search := ⟨candidate, 1⟩

/-- Behind a taken name the candidate is tried with the next number. -/
def next (candidate : Text) (search : Search) : Search :=
  ⟨candidate ++ Text.numeral search.counter, search.counter + 1⟩

/-- A search ends with a name after so many tests, the last of which finds the name free. -/
inductive Ends (taken : Text → Bool) (candidate : Text) : Search → Nat → Text → Prop where
  | free {search : Search} (free : taken search.name = false) :
      Ends taken candidate search 1 search.name
  | taken {search : Search} {tests : Nat} {name : Text} (held : taken search.name = true)
      (further : Ends taken candidate (search.next candidate) tests name) :
      Ends taken candidate search (tests + 1) name

variable {taken : Text → Bool} {candidate : Text}

/-- A search ends in one way at most. -/
theorem Ends.unique {search : Search} {tests testsOther : Nat} {name other : Text}
    (ends : Ends taken candidate search tests name)
    (endsOther : Ends taken candidate search testsOther other) :
    testsOther = tests ∧ other = name := by
  induction ends generalizing testsOther with
  | free free =>
    cases endsOther with
    | free => exact ⟨rfl, rfl⟩
    | taken held further =>
      rw [free] at held
      exact absurd held Bool.false_ne_true
  | taken held further inductionHypothesis =>
    cases endsOther with
    | free free =>
      rw [free] at held
      exact absurd held Bool.false_ne_true
    | taken heldOther furtherOther =>
      obtain ⟨sameTests, sameName⟩ := inductionHypothesis furtherOther
      exact ⟨congrArg (· + 1) sameTests, sameName⟩

/-- The search at the moment when a variant is tested. -/
def atVariant (candidate : Text) (k : Nat) : Search := ⟨variant candidate k, k + 1⟩

theorem next_atVariant (candidate : Text) (k : Nat) :
    (atVariant candidate k).next candidate = atVariant candidate (k + 1) := rfl

/-- The search passes the taken variants in order and ends at the first free one. By induction on
the number of variants that are still to be passed. -/
theorem ends_at {k : Nat} (free : taken (variant candidate k) = false)
    (passed : ∀ j, j < k → taken (variant candidate j) = true) {left : Nat} (within : left ≤ k) :
    Ends taken candidate (atVariant candidate (k - left)) (left + 1) (variant candidate k) := by
  induction left with
  | zero => exact Ends.free free
  | succ left inductionHypothesis =>
    have onward : (atVariant candidate (k - (left + 1))).next candidate =
        atVariant candidate (k - left) := by
      rw [next_atVariant]
      congr 1
      omega
    apply Ends.taken
    · exact passed (k - (left + 1)) (by omega)
    · rw [onward]
      exact inductionHypothesis (by omega)

end Search

/-- The search for a name ends, after no more tests than one for each name of the registry and one
besides, with the name that is given. -/
theorem search_ends (registry : Registry ε) (candidate : Text) :
    ∃ tests ≤ registry.nameCount + 1,
      Search.Ends registry.contains candidate (.start candidate) tests
        (registry.freeName candidate) := by
  obtain ⟨k, found, free, passed⟩ := registry.freeName_least candidate
  have ends := Search.ends_at free passed (Nat.le_refl k)
  rw [Nat.sub_self, ← found] at ends
  exact ⟨k + 1, Nat.succ_le_succ (taken_variants_le passed), ends⟩

/-- Behind a taken candidate stands the least positive number that makes it free. -/
theorem freeName_of_taken {registry : Registry ε} {candidate : Text}
    (held : registry.contains candidate = true) :
    ∃ k, 0 < k ∧ registry.freeName candidate = candidate ++ Text.numeral k ∧
      ∀ j, 0 < j → j < k → registry.contains (candidate ++ Text.numeral j) = true := by
  obtain ⟨k, found, free, passed⟩ := registry.freeName_least candidate
  cases k with
  | zero => exact absurd (free.symm.trans held) Bool.false_ne_true
  | succ k =>
    refine ⟨k + 1, Nat.succ_pos k, found, ?_⟩
    intro j positive below
    obtain ⟨i, rfl⟩ := Nat.exists_eq_succ_of_ne_zero (Nat.pos_iff_ne_zero.mp positive)
    exact passed (i + 1) below

/-- A reservation gives the name that the search for it ends with, and the search ends after no
more tests than one for each name of the registry and one besides. The name is the candidate if
that is free, and otherwise the candidate with the least positive number behind it that makes it
free. It was neither pending nor inserted; it becomes pending, and the registry changes in nothing
else. -/
theorem reservation_takes_least_free (registry : Registry ε) (candidate : Text) :
    ∃ (name : Text) (tests : Nat),
      registry.reserve candidate =
        (name, { registry with pending := name :: registry.pending }) ∧
      (∀ number found, Search.Ends registry.contains candidate (.start candidate) number found ↔
        number = tests ∧ found = name) ∧
      tests ≤ registry.nameCount + 1 ∧
      name ∉ registry.pending ∧ name ∉ registry.names ∧
      if candidate ∈ registry.pending ∨ candidate ∈ registry.names then
        ∃ k, 0 < k ∧ name = candidate ++ Text.numeral k ∧
          ∀ j, 0 < j → j < k → candidate ++ Text.numeral j ∈ registry.pending ∨
            candidate ++ Text.numeral j ∈ registry.names
      else name = candidate := by
  obtain ⟨tests, within, ends⟩ := registry.search_ends candidate
  have untaken := registry.freeName_free candidate
  rw [← Bool.not_eq_true, contains_iff, not_or] at untaken
  refine ⟨registry.freeName candidate, tests, rfl, ?_, within, untaken.1, untaken.2, ?_⟩
  · intro number other
    constructor
    · exact fun endsOther => ends.unique endsOther
    · rintro ⟨rfl, rfl⟩
      exact ends
  · by_cases held : candidate ∈ registry.pending ∨ candidate ∈ registry.names
    · obtain ⟨k, positive, numbered, passed⟩ :=
        freeName_of_taken ((contains_iff registry candidate).mpr held)
      rw [if_pos held]
      refine ⟨k, positive, numbered, ?_⟩
      intro j positiveJ below
      exact (contains_iff registry _).mp (passed j positiveJ below)
    · rw [if_neg held]
      rw [← contains_iff, Bool.not_eq_true] at held
      exact freeName_of_free held

/-- A gap between the numbers is filled before a new number is used. -/
example : ((⟨["Item", "Item2"], [("Item10", ())]⟩ : Registry Unit).reserve "Item").1 = "Item1" := by
  decide +kernel

end TypeSketch.Registry
