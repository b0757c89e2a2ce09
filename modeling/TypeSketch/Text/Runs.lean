import TypeSketch.Text.CodePoint

/-!
# Runs

The runs of a text are its longest stretches of code points that meet a condition, in
order. Runs are never empty, and what lies between them is dropped.
-/

namespace TypeSketch.Text

variable (p : CodePoint → Bool)

/-- The run that a text begins with, perhaps empty, and the later runs. -/
def leadingRun : Text → Text × List Text
  | [] => ([], [])
  | c :: rest =>
    let (run, later) := leadingRun rest
    if p c then (c :: run, later) else ([], if run.isEmpty then later else run :: later)

/-- The runs of a text. -/
def runs (t : Text) : List Text :=
  let (run, later) := leadingRun p t
  if run.isEmpty then later else run :: later

/-- Together the runs are the code points that meet the condition. -/
theorem flatten_runs (t : Text) : (runs p t).flatten = t.filter p := by
  have flatten_cons (run : Text) (later : List Text) :
      (if run = [] then later else run :: later).flatten = run ++ later.flatten := by
    cases run <;> simp
  have leading : (leadingRun p t).1 ++ (leadingRun p t).2.flatten = t.filter p := by
    induction t with
    | nil => rfl
    | cons c rest inductionHypothesis =>
      by_cases met : p c
      · simp [leadingRun, met, ← inductionHypothesis]
      · simp [leadingRun, met, flatten_cons, ← inductionHypothesis]
  simp [runs, flatten_cons, leading]

/-- Every code point of a run meets the condition. -/
theorem all_of_mem_runs {t run : Text} (member : run ∈ runs p t) : run.all p = true := by
  rw [List.all_eq_true]
  intro c inside
  have kept : c ∈ t.filter p := flatten_runs p t ▸ List.mem_flatten_of_mem member inside
  exact (List.mem_filter.mp kept).2

/-- No run is empty. -/
theorem filled_of_mem_runs {t run : Text} (member : run ∈ runs p t) : run ≠ [] := by
  have behind : ∀ later ∈ (leadingRun p t).2, later ≠ [] := by
    clear member
    induction t with
    | nil => simp [leadingRun]
    | cons c rest inductionHypothesis =>
      by_cases met : p c
      · simpa only [leadingRun, met, if_true] using inductionHypothesis
      · intro later member
        simp only [leadingRun, met, Bool.false_eq_true, if_false] at member
        split at member
        · exact inductionHypothesis later member
        · next filled =>
          rcases List.mem_cons.mp member with rfl | other
          · simpa using filled
          · exact inductionHypothesis later other
  simp only [runs] at member
  split at member
  · exact behind run member
  · next filled =>
    rcases List.mem_cons.mp member with rfl | later
    · simpa using filled
    · exact behind run later

/-- What precedes a break decides nothing behind it. -/
theorem leadingRun_append_break {c : CodePoint} (unmet : p c = false) (x y : Text) :
    leadingRun p (x ++ c :: y) = ((leadingRun p x).1, (leadingRun p x).2 ++ runs p y) := by
  induction x with
  | nil => simp [leadingRun, runs, unmet]
  | cons d rest inductionHypothesis =>
    rw [List.cons_append, leadingRun, leadingRun, inductionHypothesis]
    by_cases met : p d
    · simp only [met, if_true]
    · simp only [met, Bool.false_eq_true, if_false]
      split <;> rfl

/-- Runs split at a break. -/
theorem runs_append_break {c : CodePoint} (unmet : p c = false) (x y : Text) :
    runs p (x ++ c :: y) = runs p x ++ runs p y := by
  have whole : runs p (x ++ c :: y) =
      if (leadingRun p x).1.isEmpty then (leadingRun p x).2 ++ runs p y
      else (leadingRun p x).1 :: ((leadingRun p x).2 ++ runs p y) := by
    rw [runs, leadingRun_append_break p unmet]
  rw [whole, runs.eq_def p x]
  dsimp only
  split <;> rfl

/-- A text of code points that all meet the condition is a single run. -/
theorem runs_word {word : Text} (filled : word ≠ []) (met : word.all p = true) :
    runs p word = [word] := by
  have leading : leadingRun p word = (word, []) := by
    clear filled
    induction word with
    | nil => rfl
    | cons c rest inductionHypothesis =>
      rw [List.all_cons, Bool.and_eq_true] at met
      rw [leadingRun, inductionHypothesis met.2]
      exact if_pos met.1
  rw [runs, leading]
  dsimp only
  rw [if_neg (by simpa using filled)]

end TypeSketch.Text
