import Mathlib.Data.List.Forall2

/-!
# Steps that may fail

Reading and walking are sequences of steps, each of which returns something or fails. A
sequence returns when every step of it does, and the first step that fails decides how it
fails.
-/

namespace TypeSketch

variable {ε δ α β : Type}

/-- Two steps return when the first one does and the second one on what it gave. -/
theorem bind_eq_ok_iff {first : Except ε α} {next : α → Except ε β} {result : β} :
    first >>= next = .ok result ↔ ∃ found, first = .ok found ∧ next found = .ok result := by
  cases first with
  | error fault => simp [bind, Except.bind]
  | ok found => simp [bind, Except.bind]

/-- They fail when the first one does, or the second one on what the first one gave. -/
theorem bind_eq_error_iff {first : Except ε α} {next : α → Except ε β} {fault : ε} :
    first >>= next = .error fault ↔
      first = .error fault ∨ ∃ found, first = .ok found ∧ next found = .error fault := by
  cases first with
  | error own => simp [bind, Except.bind]
  | ok found => simp [bind, Except.bind]

/-- What comes behind a step matters on what the step gives. -/
theorem bind_congr_ok {step : Except ε α} {next other : α → Except ε β}
    (same : ∀ value, step = .ok value → next value = other value) :
    step >>= next = step >>= other := by
  cases step with
  | error fault => rfl
  | ok value => exact same value rfl

/-- What a step returns may be used at once. -/
theorem map_eq_ok_iff {step : Except ε α} {use : α → β} {result : β} :
    use <$> step = .ok result ↔ ∃ found, step = .ok found ∧ use found = result := by
  cases step <;> simp [Functor.map, Except.map]

theorem map_eq_error_iff {step : Except ε α} {use : α → β} {fault : ε} :
    use <$> step = .error fault ↔ step = .error fault := by
  cases step <;> simp [Functor.map, Except.map]

/-- Whatever its faults are called, a step returns the same. -/
theorem mapError_eq_ok_iff {step : Except ε α} {rename : ε → δ} {result : α} :
    step.mapError rename = .ok result ↔ step = .ok result := by
  constructor
  · intro returned
    cases step with
    | error fault => cases returned
    | ok found => cases returned; rfl
  · rintro rfl
    rfl

/-- A fault under a new name was a fault under its own. -/
theorem mapError_eq_error_iff {step : Except ε α} {rename : ε → δ} {fault : δ} :
    step.mapError rename = .error fault ↔ ∃ own, step = .error own ∧ rename own = fault := by
  constructor
  · intro failed
    cases step with
    | error own => exact ⟨own, rfl, Except.error.inj failed⟩
    | ok found => cases failed
  · rintro ⟨own, rfl, rfl⟩
    rfl

theorem toOption_eq_some_iff {step : Except ε α} {result : α} :
    step.toOption = some result ↔ step = .ok result := by
  cases step <;> simp [Except.toOption]

theorem mapError_id (step : Except ε α) : step.mapError id = step := by
  cases step <;> rfl

/-- Faults may be renamed at each step as well as in the end. -/
theorem mapError_bind (step : Except ε α) (next : α → Except ε β) (rename : ε → δ) :
    (step >>= next).mapError rename =
      step.mapError rename >>= fun found => (next found).mapError rename := by
  cases step <;> rfl

/-- Attempts over a list that succeed for each of its members give what they give. -/
theorem mapM_map_eq_some {γ : Type} {attempt : β → Option γ} {source : α → β} {result : α → γ}
    {list : List α} (each : ∀ a ∈ list, attempt (source a) = some (result a)) :
    (list.map source).mapM attempt = some (list.map result) := by
  induction list with
  | nil => rfl
  | cons a rest inductionHypothesis =>
    rw [List.forall_mem_cons] at each
    rw [List.map_cons, List.mapM_cons, each.1, inductionHypothesis each.2]
    rfl

/-- Steps over a list that return have returned for each of its members. -/
theorem ok_of_mapM_ok {f : α → Except ε β} {list : List α} {results : List β}
    (returned : list.mapM f = .ok results) : ∀ a ∈ list, ∃ result, f a = .ok result := by
  induction list generalizing results with
  | nil => simp
  | cons a rest inductionHypothesis =>
    rw [List.mapM_cons] at returned
    obtain ⟨first, returnedFirst, further⟩ := bind_eq_ok_iff.mp returned
    obtain ⟨others, returnedOthers, _⟩ := bind_eq_ok_iff.mp further
    rw [List.forall_mem_cons]
    exact ⟨⟨first, returnedFirst⟩, inductionHypothesis returnedOthers⟩

/-- All that such steps return, they return for some member of the list. -/
theorem source_of_mapM_ok {f : α → Except ε β} {list : List α} {results : List β}
    (returned : list.mapM f = .ok results) : ∀ b ∈ results, ∃ a ∈ list, f a = .ok b := by
  induction list generalizing results with
  | nil =>
    obtain rfl : [] = results := Except.ok.inj returned
    simp
  | cons a rest inductionHypothesis =>
    rw [List.mapM_cons] at returned
    obtain ⟨first, returnedFirst, further⟩ := bind_eq_ok_iff.mp returned
    obtain ⟨others, returnedOthers, all⟩ := bind_eq_ok_iff.mp further
    obtain rfl : first :: others = results := Except.ok.inj all
    intro b member
    rcases List.mem_cons.mp member with rfl | later
    · exact ⟨a, List.mem_cons_self, returnedFirst⟩
    · obtain ⟨source, isSource, found⟩ := inductionHypothesis returnedOthers b later
      exact ⟨source, List.mem_cons_of_mem a isSource, found⟩

/-- What they return, they return for the members in order. -/
theorem forall₂_of_mapM_ok {f : α → Except ε β} {list : List α} {results : List β}
    (returned : list.mapM f = .ok results) :
    List.Forall₂ (fun a result => f a = .ok result) list results := by
  induction list generalizing results with
  | nil =>
    obtain rfl : [] = results := Except.ok.inj returned
    exact .nil
  | cons a rest inductionHypothesis =>
    rw [List.mapM_cons] at returned
    obtain ⟨first, returnedFirst, further⟩ := bind_eq_ok_iff.mp returned
    obtain ⟨others, returnedOthers, all⟩ := bind_eq_ok_iff.mp further
    obtain rfl : first :: others = results := Except.ok.inj all
    exact .cons returnedFirst (inductionHypothesis returnedOthers)

/-- What is related member by member has a partner for each member. -/
theorem exists_of_forall₂ {related : α → β → Prop} {list : List α} {others : List β}
    (each : List.Forall₂ related list others) {a : α} (member : a ∈ list) :
    ∃ b ∈ others, related a b := by
  induction each with
  | nil => exact absurd member List.not_mem_nil
  | cons first _ inductionHypothesis =>
    rcases List.mem_cons.mp member with rfl | later
    · exact ⟨_, List.mem_cons_self, first⟩
    · obtain ⟨b, isOther, found⟩ := inductionHypothesis later
      exact ⟨b, List.mem_cons_of_mem _ isOther, found⟩

/-- Steps on members that have been replaced return what is replaced in the same way, if each of them
does. -/
theorem mapM_replaced {f : α → Except ε β} {replace : α → α} {replaceResult : β → β}
    {list : List α} (each : ∀ a ∈ list, f (replace a) = replaceResult <$> f a) :
    (list.map replace).mapM f = List.map replaceResult <$> list.mapM f := by
  induction list with
  | nil => rfl
  | cons a rest inductionHypothesis =>
    rw [List.forall_mem_cons] at each
    rw [List.map_cons, List.mapM_cons, List.mapM_cons, each.1, inductionHypothesis each.2]
    cases f a with
    | error fault => rfl
    | ok first => cases rest.mapM f <;> rfl

/-- Steps that do the same on each member of a list do the same on the list. -/
theorem mapM_congr_mem {f g : α → Except ε β} {list : List α} (same : ∀ a ∈ list, f a = g a) :
    list.mapM f = list.mapM g := by
  induction list with
  | nil => rfl
  | cons a rest inductionHypothesis =>
    rw [List.forall_mem_cons] at same
    rw [List.mapM_cons, List.mapM_cons, same.1, inductionHypothesis same.2]

/-- Steps over a list that fail have failed for one of its members. -/
theorem error_of_mapM_error {f : α → Except ε β} {list : List α} {fault : ε}
    (failed : list.mapM f = .error fault) : ∃ a ∈ list, f a = .error fault := by
  induction list with
  | nil => exact absurd failed (by simp [pure, Except.pure])
  | cons a rest inductionHypothesis =>
    rw [List.mapM_cons, bind_eq_error_iff] at failed
    rcases failed with here | ⟨first, _, later⟩
    · exact ⟨a, List.mem_cons_self, here⟩
    · rcases bind_eq_error_iff.mp later with others | ⟨_, _, impossible⟩
      · obtain ⟨other, member, found⟩ := inductionHypothesis others
        exact ⟨other, List.mem_cons_of_mem a member, found⟩
      · exact absurd impossible (by simp [pure, Except.pure])

end TypeSketch
