import Mathlib.Data.List.Dedup
import Mathlib.Data.List.Perm.Subperm
import TypeSketch.Registry

/-!
# Free names

All variants of a candidate differ, so among one more of them than there are names some
variant is free, and reserving gives the least of these. What a candidate gets depends on
which names are taken and on nothing else: neither on their order nor on which of them are
still pending. Completing a pending name therefore never changes what later candidates
get, whereas a reservation takes exactly one more name.
-/

namespace TypeSketch

/-- Different numbers have different numerals. -/
theorem Text.numeral_injective {a b : Nat} (same : Text.numeral a = Text.numeral b) : a = b := by
  have digits : Nat.toDigits 10 a = Nat.toDigits 10 b :=
    List.map_inj_right (fun _ _ equal => CodePoint.scalar.inj equal) |>.mp same
  have parsed : Nat.ofDigitChars 10 (Nat.toDigits 10 a) 0 =
      Nat.ofDigitChars 10 (Nat.toDigits 10 b) 0 := by rw [digits]
  rwa [Nat.ofDigitChars_ten_toDigits, Nat.ofDigitChars_ten_toDigits] at parsed

theorem Text.numeral_filled (n : Nat) : Text.numeral n ≠ [] := by
  simp [Text.numeral, Nat.toDigits_ne_nil]

namespace Registry

variable {ε : Type}

/-- The variants of a candidate are pairwise different: a numeral is never empty, and
numerals of different numbers differ. -/
theorem variant_injective (candidate : Text) {a b : Nat}
    (same : variant candidate a = variant candidate b) : a = b := by
  cases a with
  | zero =>
    cases b with
    | zero => rfl
    | succ b =>
      have noSuffix : Text.numeral (b + 1) = [] := by
        simpa [variant] using same
      exact absurd noSuffix (Text.numeral_filled _)
  | succ a =>
    cases b with
    | zero =>
      have noSuffix : Text.numeral (a + 1) = [] := by
        simpa [variant] using same
      exact absurd noSuffix (Text.numeral_filled _)
    | succ b =>
      exact Text.numeral_injective (List.append_cancel_left same)

theorem contains_iff (registry : Registry ε) (name : Text) :
    registry.contains name = true ↔ name ∈ registry.pending ∨ name ∈ registry.names := by
  simp [contains]

/-- The search passes over taken variants only, and stops at a free one unless the
attempts run out. -/
theorem firstFree_least (taken : Text → Bool) (candidate : Text) (attempts start : Nat) :
    ∃ k, firstFree taken candidate attempts start = variant candidate k ∧
      start ≤ k ∧ (∀ j, start ≤ j → j < k → taken (variant candidate j) = true) ∧
      (k < start + attempts → taken (variant candidate k) = false) ∧ k ≤ start + attempts := by
  induction attempts generalizing start with
  | zero =>
    refine ⟨start, rfl, Nat.le_refl _, ?_, ?_, Nat.le_refl _⟩
    · intro j above below
      omega
    · intro impossible
      omega
  | succ attempts inductionHypothesis =>
    cases tested : taken (variant candidate start) with
    | false =>
      refine ⟨start, by simp [firstFree, tested], Nat.le_refl _, ?_, fun _ => tested, by omega⟩
      intro j above below
      omega
    | true =>
      obtain ⟨k, found, above, passed, free, bound⟩ := inductionHypothesis (start + 1)
      refine ⟨k, by simp [firstFree, tested, found], by omega, ?_, ?_, by omega⟩
      · intro j from_start below
        rcases Nat.eq_or_lt_of_le from_start with rfl | later
        · exact tested
        · exact passed j later below
      · intro inside
        exact free (by omega)

/-- How many names are pending or inserted, a name in both places counted once. -/
def nameCount (registry : Registry ε) : Nat := (registry.pending ++ registry.names).dedup.length

theorem nameCount_le (registry : Registry ε) :
    registry.nameCount ≤ registry.pending.length + registry.inserted.length := by
  have fewer := (List.dedup_sublist (registry.pending ++ registry.names)).length_le
  rwa [List.length_append, names, List.length_map] at fewer

/-- Variants that are all taken are no more than there are names. -/
theorem taken_variants_le {registry : Registry ε} {candidate : Text} {k : Nat}
    (taken : ∀ j, j < k → registry.contains (variant candidate j) = true) :
    k ≤ registry.nameCount := by
  have distinct : ((List.range k).map (variant candidate)).Nodup :=
    List.pairwise_map.mpr (List.nodup_range.imp fun different same =>
      different (variant_injective candidate same))
  have held : (List.range k).map (variant candidate) ⊆
      (registry.pending ++ registry.names).dedup := by
    intro name member
    obtain ⟨j, inRange, rfl⟩ := List.mem_map.mp member
    have known := taken j (List.mem_range.mp inRange)
    rw [List.mem_dedup, List.mem_append]
    exact (contains_iff registry _).mp known
  have few := (List.subperm_of_subset distinct held).length_le
  rwa [List.length_map, List.length_range] at few

/-- As many variants as there are names, and one more, cannot all be taken. -/
theorem variants_outnumber (registry : Registry ε) (candidate : Text) :
    ∃ k ≤ registry.pending.length + registry.inserted.length,
      registry.contains (variant candidate k) = false := by
  refine Classical.byContradiction fun noneFree => ?_
  have allTaken : ∀ j, j < registry.pending.length + registry.inserted.length + 1 →
      registry.contains (variant candidate j) = true := by
    intro j below
    refine (Bool.not_eq_false _).mp fun free => noneFree ⟨j, ?_, free⟩
    omega
  have few := taken_variants_le allTaken
  have bound := registry.nameCount_le
  omega

/-- A candidate gets the least of its variants that is free. -/
theorem freeName_least (registry : Registry ε) (candidate : Text) :
    ∃ k, registry.freeName candidate = variant candidate k ∧
      registry.contains (variant candidate k) = false ∧
      ∀ j, j < k → registry.contains (variant candidate j) = true := by
  obtain ⟨k, found, _, passed, free, bound⟩ := firstFree_least registry.contains candidate
    (registry.pending.length + registry.inserted.length) 0
  refine ⟨k, found, ?_, fun j below => passed j (Nat.zero_le j) below⟩
  -- The last variant is returned unseen; then all before it are taken, so it must be free.
  obtain ⟨other, within, otherFree⟩ := variants_outnumber registry candidate
  rcases Nat.lt_trichotomy k other with below | rfl | above
  · exact free (by omega)
  · exact otherFree
  · have otherTaken := passed other (Nat.zero_le other) above
    rw [otherFree] at otherTaken
    exact absurd otherTaken Bool.false_ne_true

/-- The name that a candidate gets is free. -/
theorem freeName_free (registry : Registry ε) (candidate : Text) :
    registry.contains (registry.freeName candidate) = false := by
  obtain ⟨k, found, free, _⟩ := freeName_least registry candidate
  rwa [found]

/-- A candidate that is free is its own name. -/
theorem freeName_of_free {registry : Registry ε} {candidate : Text}
    (free : registry.contains candidate = false) : registry.freeName candidate = candidate := by
  obtain ⟨k, found, _, passed⟩ := freeName_least registry candidate
  cases k with
  | zero => exact found
  | succ k =>
    have taken : registry.contains candidate = true := passed 0 (Nat.succ_pos k)
    rw [free] at taken
    exact absurd taken Bool.false_ne_true

/-- Both registries have taken the same names. -/
def SameNames (left right : Registry ε) : Prop :=
  ∀ name, left.contains name = right.contains name

/-- Only the taken names decide what a candidate gets. -/
theorem freeName_congr {left right : Registry ε} (same : SameNames left right)
    (candidate : Text) : left.freeName candidate = right.freeName candidate := by
  obtain ⟨a, foundA, freeA, passedA⟩ := freeName_least left candidate
  obtain ⟨b, foundB, freeB, passedB⟩ := freeName_least right candidate
  have equal : a = b := by
    rcases Nat.lt_trichotomy a b with below | equal | above
    · have taken := passedB a below
      rw [← same, freeA] at taken
      exact absurd taken Bool.false_ne_true
    · exact equal
    · have taken := passedA b above
      rw [same, freeB] at taken
      exact absurd taken Bool.false_ne_true
  rw [foundA, foundB, equal]

@[simp]
theorem reserve_fst (registry : Registry ε) (candidate : Text) :
    (registry.reserve candidate).1 = registry.freeName candidate := rfl

@[simp]
theorem reserve_pending (registry : Registry ε) (candidate : Text) :
    (registry.reserve candidate).2.pending =
      registry.freeName candidate :: registry.pending := rfl

@[simp]
theorem reserve_inserted (registry : Registry ε) (candidate : Text) :
    (registry.reserve candidate).2.inserted = registry.inserted := rfl

@[simp]
theorem reserve_names (registry : Registry ε) (candidate : Text) :
    (registry.reserve candidate).2.names = registry.names := rfl

/-- A reservation takes one more name. -/
theorem contains_reserve (registry : Registry ε) (candidate name : Text) :
    (registry.reserve candidate).2.contains name =
      (name == registry.freeName candidate || registry.contains name) := by
  rw [contains, contains, reserve_pending, reserve_names, List.contains_cons, Bool.or_assoc]

@[simp]
theorem complete_pending (registry : Registry ε) (name : Text) (content : ε) :
    (registry.complete name content).pending = registry.pending.erase name := rfl

@[simp]
theorem complete_inserted (registry : Registry ε) (name : Text) (content : ε) :
    (registry.complete name content).inserted = registry.inserted ++ [(name, content)] := rfl

@[simp]
theorem complete_names (registry : Registry ε) (name : Text) (content : ε) :
    (registry.complete name content).names = registry.names ++ [name] := by
  simp [names]

/-- Completing a pending name takes no name and frees none. -/
theorem complete_sameNames {registry : Registry ε} {name : Text} (content : ε)
    (held : name ∈ registry.pending) : SameNames (registry.complete name content) registry := by
  intro other
  rw [Bool.eq_iff_iff, contains_iff, contains_iff, complete_pending, complete_names]
  by_cases same : other = name
  · subst same
    simp [held]
  · rw [List.mem_erase_of_ne same]
    simp [same]

/-- A completed name moves from the pending ones behind all others. -/
theorem complete_perm {registry : Registry ε} {name : Text} (content : ε)
    (held : name ∈ registry.pending) :
    ((registry.complete name content).pending ++ (registry.complete name content).names).Perm
      (registry.pending ++ registry.names) := by
  rw [complete_pending, complete_names, ← List.append_assoc]
  exact (List.perm_append_singleton name _).trans
    ((List.perm_cons_erase held).symm.append_right registry.names)

/-- A reservation keeps all names apart, be they pending or inserted. -/
theorem reserve_distinct {registry : Registry ε} (candidate : Text)
    (distinct : (registry.pending ++ registry.names).Nodup) :
    ((registry.reserve candidate).2.pending ++ (registry.reserve candidate).2.names).Nodup := by
  rw [reserve_pending, reserve_names, List.cons_append, List.nodup_cons]
  refine ⟨fun taken => ?_, distinct⟩
  have held := (contains_iff registry _).mpr (List.mem_append.mp taken)
  rw [freeName_free] at held
  exact Bool.false_ne_true held

/-- Registries that agree on the taken names still do after the same reservation. -/
theorem reserve_sameNames {left right : Registry ε} (same : SameNames left right)
    (candidate : Text) :
    SameNames (left.reserve candidate).2 (right.reserve candidate).2 := by
  intro name
  rw [contains_reserve, contains_reserve, freeName_congr same, same]

/-- Reserves a name for each candidate in turn. -/
def reserveEach : List Text → Registry ε → List Text × Registry ε
  | [], registry => ([], registry)
  | candidate :: rest, registry =>
    let held := registry.reserve candidate
    let others := reserveEach rest held.2
    (held.1 :: others.1, others.2)

theorem reserveEach_append (early late : List Text) (registry : Registry ε) :
    reserveEach (early ++ late) registry =
      ((reserveEach early registry).1 ++ (reserveEach late (reserveEach early registry).2).1,
        (reserveEach late (reserveEach early registry).2).2) := by
  induction early generalizing registry with
  | nil => rfl
  | cons candidate rest inductionHypothesis =>
    simp only [List.cons_append, reserveEach, inductionHypothesis]

/-- The names that candidates get are those that become pending, the latest in front. -/
theorem reserveEach_pending (candidates : List Text) (registry : Registry ε) :
    (reserveEach candidates registry).2.pending =
      (reserveEach candidates registry).1.reverse ++ registry.pending := by
  induction candidates generalizing registry with
  | nil => rfl
  | cons candidate rest inductionHypothesis =>
    simp only [reserveEach, inductionHypothesis, reserve_pending, reserve_fst, List.reverse_cons,
      List.append_assoc, List.singleton_append]

theorem reserveEach_inserted (candidates : List Text) (registry : Registry ε) :
    (reserveEach candidates registry).2.inserted = registry.inserted := by
  induction candidates generalizing registry with
  | nil => rfl
  | cons candidate rest inductionHypothesis =>
    simp only [reserveEach, inductionHypothesis, reserve_inserted]

/-- The names that candidates get were free, and no two of them are equal. -/
theorem reserveEach_free (candidates : List Text) (registry : Registry ε) :
    (reserveEach candidates registry).1.Nodup ∧
      ∀ name ∈ (reserveEach candidates registry).1, registry.contains name = false := by
  induction candidates generalizing registry with
  | nil => exact ⟨List.nodup_nil, fun _ impossible => absurd impossible List.not_mem_nil⟩
  | cons candidate rest inductionHypothesis =>
    obtain ⟨distinct, free⟩ := inductionHypothesis (registry.reserve candidate).2
    have later (name : Text) (member : name ∈ (reserveEach rest (registry.reserve candidate).2).1) :
        name ≠ registry.freeName candidate ∧ registry.contains name = false := by
      have untaken := free name member
      rw [contains_reserve, Bool.or_eq_false_iff] at untaken
      exact ⟨by simpa using untaken.1, untaken.2⟩
    constructor
    · refine List.nodup_cons.mpr ⟨fun repeated => ?_, distinct⟩
      exact (later _ repeated).1 rfl
    · intro name member
      rcases List.mem_cons.mp member with rfl | member
      · exact freeName_free registry candidate
      · exact (later name member).2

/-- What holds of a candidate and of all its variants holds of the name it gets. -/
theorem freeName_inherits {P : Text → Prop}
    (variants : ∀ candidate, P candidate → ∀ k, P (variant candidate k)) (registry : Registry ε)
    {candidate : Text} (holds : P candidate) : P (registry.freeName candidate) := by
  obtain ⟨k, found, _⟩ := registry.freeName_least candidate
  rw [found]
  exact variants candidate holds k

/-- So it does for several candidates. -/
theorem reserveEach_inherits {P : Text → Prop}
    (variants : ∀ candidate, P candidate → ∀ k, P (variant candidate k)) {candidates : List Text}
    (hold : ∀ candidate ∈ candidates, P candidate) (registry : Registry ε) :
    ∀ name ∈ (registry.reserveEach candidates).1, P name := by
  induction candidates generalizing registry with
  | nil =>
    intro name impossible
    exact absurd impossible List.not_mem_nil
  | cons candidate rest inductionHypothesis =>
    intro name member
    rcases List.mem_cons.mp member with rfl | later
    · exact freeName_inherits variants registry (hold candidate List.mem_cons_self)
    · exact inductionHypothesis
        (fun other inRest => hold other (List.mem_cons_of_mem candidate inRest)) _ name later

end Registry

end TypeSketch
