import TypeSketch.Proofs.UnfinishedTexts

/-!
# Where faults lie

A fault of the grammar is told by a place in its text, and by the line and column of this place. The
place is inside the text or at its end, and it is never further back than the first offending token:
what is in front of it can be completed to a JSON text. The column counts from the last line feed.
-/

namespace TypeSketch

/-- The last line feed in front of a place, by its index; one below the first index if there is
none. -/
inductive Text.LastFeed (t : Text) (place : Nat) : Int → Prop where
  | none (unbroken : ∀ i < place, t[i]? ≠ some (.scalar '\n')) : LastFeed t place (-1)
  | found {i : Nat} (before : i < place) (feed : t[i]? = some (.scalar '\n'))
      (last : ∀ j, i < j → j < place → t[j]? ≠ some (.scalar '\n')) : LastFeed t place i

/-- A column is the distance to the last line feed. -/
theorem Text.columnAt_lastFeed {t : Text} {place : Nat} (inside : place ≤ t.length) :
    ∃ feed, LastFeed t place feed ∧ (t.columnAt place : Int) = place - feed := by
  have taken (i : Nat) (before : i < place) : t[i]? = (t.take place)[i]? :=
    (List.getElem?_take_of_lt before).symm
  have long : (t.take place).length = place := by
    rw [List.length_take, Nat.min_eq_left inside]
  rw [columnAt]
  -- The code points behind the last line feed are the first ones from behind that are none.
  have parts := List.takeWhile_append_dropWhile (p := fun c => c != CodePoint.scalar '\n')
    (l := (t.take place).reverse)
  have plain : ∀ c ∈ (t.take place).reverse.takeWhile (· != .scalar '\n'), c ≠ .scalar '\n' := by
    intro c member
    simpa using List.mem_takeWhile_imp member
  have ended := List.head?_dropWhile_not (fun c => c != CodePoint.scalar '\n')
    (t.take place).reverse
  generalize (t.take place).reverse.takeWhile (· != .scalar '\n') = line at parts plain ⊢
  have whole := congrArg List.reverse parts
  rw [List.reverse_append, List.reverse_reverse] at whole
  cases others : (t.take place).reverse.dropWhile (· != .scalar '\n') with
  | nil =>
    rw [others, List.reverse_nil, List.nil_append] at whole
    refine ⟨-1, .none ?_, ?_⟩
    · intro i before feed
      rw [taken i before, ← whole] at feed
      exact plain _ (List.mem_reverse.mp (List.mem_of_getElem? feed)) rfl
    · rw [← whole, List.length_reverse] at long
      omega
  | cons c front =>
    rw [others] at whole ended
    obtain rfl : c = .scalar '\n' := by simpa using ended
    rw [List.reverse_cons, List.append_assoc] at whole
    have length : front.length + 1 + line.length = place := by
      rw [← long, ← whole]
      simp only [List.length_append, List.length_reverse, List.length_cons, List.length_nil]
      omega
    refine ⟨front.length, .found (by omega) ?_ ?_, by omega⟩
    · rw [taken _ (by omega), ← whole, List.getElem?_append_right (by simp)]
      simp
    · intro j behind before feed
      rw [taken j before, ← whole, List.getElem?_append_right (by simp; omega),
        List.getElem?_append_right (by simp; omega)] at feed
      exact plain _ (List.mem_reverse.mp (List.mem_of_getElem? feed)) rfl

namespace Document

open Grammar

/-- A text that is refused for its grammar is refused by the reader. -/
theorem ofText_malformed {t remaining : Text} {complaint : Complaint}
    (refused : ofText t = .error (.malformed complaint remaining)) :
    Reader.text t = .error (.malformed complaint remaining) := by
  rcases bind_eq_error_iff.mp refused with fails | ⟨document, _, further⟩
  · exact fails
  · split at further <;> exact nomatch further

/-- A fault of the grammar is told with a place in the text. What is in front of the place is the
beginning of a JSON text, so nothing in front of it offends. The line is one more than the line
feeds in front of the place, and the column is what the place is behind the last of them. -/
theorem fault_has_place {t remaining : Text} {complaint : Complaint}
    (refused : ofText t = .error (.malformed complaint remaining)) :
    ∃ place line column : Nat,
      ReadFault.message t (.malformed complaint remaining) =
        "Invalid JSON: " ++ (complaint.text ++ ": " ++ ("line " ++ Text.numeral line ++
          " column " ++ Text.numeral column ++ " (char " ++ Text.numeral place ++ ")")) ∧
      (place ≤ t.length ∧ t.drop place = remaining) ∧
      (∃ completion, IsShortJson (t.take place ++ completion)) ∧
      line = 1 + (t.take place).count (.scalar '\n') ∧
      ∃ feed, Text.LastFeed t place feed ∧ (column : Int) = place - feed := by
  obtain ⟨taken, missing, form, document, split, spelled, meant⟩ :=
    Reader.text_stops (ofText_malformed refused)
  have place : t.length - remaining.length = taken.length := by
    rw [split, List.length_append, Nat.add_sub_cancel]
  have front : t.take taken.length = taken := by
    rw [split, List.take_left]
  have inside : taken.length ≤ t.length := by
    rw [split, List.length_append]
    exact Nat.le_add_right _ _
  refine ⟨taken.length, t.lineAt taken.length, t.columnAt taken.length, ?_, ⟨inside, ?_⟩, ?_, rfl,
    Text.columnAt_lastFeed inside⟩
  · rw [ReadFault.message, ReadFault.reason, place]
    rfl
  · rw [split, List.drop_left]
  · exact ⟨missing, form, by rw [front, spelled], Tree.short_of_meaning meant⟩

/-- A text of two lines, with an escape in the second one that has a letter for a digit. -/
def misspelledText : Text := "\x7b\"a\": [1,\n  \"b\\u00g0\"]\x7d"

/-- What is in front of the fault. -/
def misspelledFront : Text := "\x7b\"a\": [1,\n  \"b\\"

def misspelledMessage : Text := "Invalid JSON: Invalid \\uXXXX escape: line 2 column 6 (char 15)"

theorem misspelled_has_place :
    ofText misspelledText = .error (.malformed .unicodeEscape "u00g0\"]\x7d") ∧
    ReadFault.message misspelledText (.malformed .unicodeEscape "u00g0\"]\x7d") =
      misspelledMessage ∧
    ∃ completion, IsShortJson (misspelledFront ++ completion) := by
  have refused : ofText misspelledText = .error (.malformed .unicodeEscape "u00g0\"]\x7d") := rfl
  obtain ⟨place, line, column, _, ⟨inside, dropped⟩, viable, _⟩ := fault_has_place refused
  have length := congrArg List.length dropped
  rw [List.length_drop] at length
  obtain rfl : place = 15 := by
    have whole : misspelledText.length = 23 := by decide
    have rest : (Text.ofString "u00g0\"]\x7d").length = 8 := by decide
    omega
  exact ⟨refused, by decide +kernel, viable⟩

end Document

end TypeSketch
