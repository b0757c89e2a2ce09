import TypeSketch.Proofs.Checking
import TypeSketch.Proofs.Failures
import TypeSketch.Proofs.Frames

/-!
# The nesting limit

A text of JSON goes through three recursions. Reading enters every container, those of members that
are superseded later included. Admission enters every container of the document, and a walk only
those that it visits. Each has a budget of its own and pays in its own way, so what fits into one
may not fit into another.

The levels of a text are the containers inside each other, of whatever sorts. Reading needs a frame
for each level, and the other two need at most two. So half as many levels as there are frames are
enough for all three in every mixture of arrays and objects, and a text with more levels than frames
is given up by the first of them, before anything else can be.
-/

namespace TypeSketch

/-- A literal denotes a number or is an integer with too many digits. -/
theorem NumberLiteral.number_fault {literal : NumberLiteral} {fault : ReadFault}
    (failed : literal.number = .error fault) : ∃ digits, fault = .longInteger digits := by
  rw [number] at failed
  split at failed
  · split at failed
    · exact ⟨_, (Except.error.inj failed).symm⟩
    · cases failed
  · cases failed

namespace Grammar

mutual

/-- How many containers there are inside each other. -/
def Tree.levels : Tree → Nat
  | .array _ elements => elementLevels elements + 1
  | .object _ members => memberLevels members + 1
  | .word _ | .number _ | .string _ => 0

def elementLevels : List (Padded Tree) → Nat
  | [] => 0
  | ⟨_, tree, _⟩ :: rest => max tree.levels (elementLevels rest)

def memberLevels : List (Padded (Keyed Tree)) → Nat
  | [] => 0
  | ⟨_, ⟨_, _, _, tree⟩, _⟩ :: rest => max tree.levels (memberLevels rest)

end

theorem elementLevels_le {elements : List (Padded Tree)} {bound : Nat} :
    elementLevels elements ≤ bound ↔ ∀ element ∈ elements, element.item.levels ≤ bound := by
  induction elements with
  | nil => simp [elementLevels]
  | cons first rest inductionHypothesis =>
    simp only [elementLevels, Nat.max_le, List.forall_mem_cons, inductionHypothesis]

theorem memberLevels_le {members : List (Padded (Keyed Tree))} {bound : Nat} :
    memberLevels members ≤ bound ↔ ∀ member ∈ members, member.item.item.levels ≤ bound := by
  induction members with
  | nil => simp [memberLevels]
  | cons first rest inductionHypothesis =>
    simp only [memberLevels, Nat.max_le, List.forall_mem_cons, inductionHypothesis]

namespace Tree

/-- A tree with no more levels than may be entered stands for a document, unless one of its integer
literals is too long. -/
theorem meaning_shallow {fault : ReadFault} : ∀ (depth : Nat) (tree : Tree), tree.levels ≤ depth →
    tree.meaning depth = .error fault → ∃ digits, fault = .longInteger digits
  | depth, .word value, _, failed => absurd failed (by simp [meaning])
  | depth, .string characters, _, failed => absurd failed (by simp [meaning])
  | depth, .number form, _, failed => by
    rw [meaning] at failed
    cases number : form.literal.number with
    | error own =>
      rw [number] at failed
      obtain rfl : own = fault := Except.error.inj failed
      exact NumberLiteral.number_fault number
    | ok value =>
      rw [number] at failed
      exact nomatch failed
  | 0, .array _ _, shallow, _ | 0, .object _ _, shallow, _ => absurd shallow (by simp [levels])
  | depth + 1, .array gap elements, shallow, failed => by
    rw [levels, Nat.add_le_add_iff_right, elementLevels_le] at shallow
    rw [meaning] at failed
    rcases bind_eq_error_iff.mp failed with fails | ⟨_, _, impossible⟩
    · obtain ⟨element, isElement, fails⟩ := error_of_mapM_error fails
      exact meaning_shallow depth element.item (shallow element isElement) fails
    · exact nomatch impossible
  | depth + 1, .object gap members, shallow, failed => by
    rw [levels, Nat.add_le_add_iff_right, memberLevels_le] at shallow
    rw [meaning] at failed
    rcases bind_eq_error_iff.mp failed with fails | ⟨_, _, impossible⟩
    · obtain ⟨member, isMember, fails⟩ := error_of_mapM_error fails
      rcases bind_eq_error_iff.mp fails with fails | ⟨_, _, impossible⟩
      · exact meaning_shallow depth member.item.item (shallow member isMember) fails
      · exact nomatch impossible
    · exact nomatch impossible

/-- A tree that stands for a document has no more levels than may be entered, and the document has
no more than the tree. It may have fewer, as superseded members are not in it. -/
theorem levels_of_meaning : ∀ (depth : Nat) (tree : Tree) {document : Document},
    tree.meaning depth = .ok document → tree.levels ≤ depth ∧ document.levels ≤ tree.levels
  | depth, .word value, document, meant => by
    rw [meaning] at meant
    cases meant
    cases value <;> exact ⟨Nat.zero_le depth, Nat.le_refl 0⟩
  | depth, .string characters, document, meant => by
    rw [meaning] at meant
    cases meant
    exact ⟨Nat.zero_le depth, Nat.le_refl 0⟩
  | depth, .number form, document, meant => by
    rw [meaning] at meant
    obtain ⟨number, _, rfl⟩ := map_eq_ok_iff.mp meant
    exact ⟨Nat.zero_le depth, Nat.le_refl 0⟩
  | 0, .array _ _, _, meant | 0, .object _ _, _, meant => nomatch meant
  | depth + 1, .array gap elements, document, meant => by
    rw [meaning] at meant
    obtain ⟨values, each, same⟩ := bind_eq_ok_iff.mp meant
    cases same
    simp only [levels, Json.levels, Nat.add_le_add_iff_right]
    constructor
    · rw [elementLevels_le]
      intro element isElement
      obtain ⟨value, found⟩ := ok_of_mapM_ok each element isElement
      exact (levels_of_meaning depth element.item found).1
    · rw [Json.elementsLevels_le]
      intro value isValue
      obtain ⟨element, isElement, found⟩ := source_of_mapM_ok each value isValue
      have inner := (levels_of_meaning depth element.item found).2
      exact inner.trans (elementLevels_le.mp (Nat.le_refl _) element isElement)
  | depth + 1, .object gap members, document, meant => by
    rw [meaning] at meant
    obtain ⟨entries, each, same⟩ := bind_eq_ok_iff.mp meant
    cases same
    simp only [levels, Json.levels, Nat.add_le_add_iff_right]
    constructor
    · rw [memberLevels_le]
      intro member isMember
      obtain ⟨entry, found⟩ := ok_of_mapM_ok each member isMember
      obtain ⟨value, meant, _⟩ := bind_eq_ok_iff.mp found
      exact (levels_of_meaning depth member.item.item meant).1
    · rw [Json.membersLevels_le]
      intro entry isEntry
      obtain ⟨member, isMember, found⟩ := source_of_mapM_ok each entry (Entries.mem_ofPairs isEntry)
      obtain ⟨value, meant, same⟩ := bind_eq_ok_iff.mp found
      cases same
      have inner := (levels_of_meaning depth member.item.item meant).2
      exact inner.trans (memberLevels_le.mp (Nat.le_refl _) member isMember)

/-- A tree with more levels than may be entered stands for nothing. If no integer literal is too
long, there is no other reason. -/
theorem meaning_deep {depth : Nat} {tree : Tree} (short : tree.Short) (deep : depth < tree.levels) :
    tree.meaning depth = .error .tooDeep := by
  cases meant : tree.meaning depth with
  | ok document => exact absurd (levels_of_meaning depth tree meant).1 (Nat.not_le.mpr deep)
  | error fault => rw [meaning_fault depth tree short meant]

end Tree

end Grammar

open Grammar

namespace Document

/-- A document with half as many levels as there are frames is admitted. -/
theorem admissible_of_levels {document : Document} (shallow : 2 * document.levels ≤ Nesting.frames) :
    document.admissibleWithin Nesting.frames = true :=
  (Json.admissibleWithin_iff document Nesting.frames).mpr
    ((Json.weight_le_levels document).trans shallow)

/-- A text with so few levels is read, unless an integer literal is too long. What is read has no
more levels than the text. -/
theorem ofText_shallow {form : Padded Tree} (shallow : 2 * form.item.levels ≤ Nesting.frames) :
    (¬form.item.Short ∧ ∃ digits, ofText (form.text Tree.text) = .error (.longInteger digits)) ∨
      ∃ document, ofText (form.text Tree.text) = .ok document ∧
        2 * document.levels ≤ Nesting.frames := by
  rw [ofText, Reader.text_reads]
  cases meant : form.item.meaning Nesting.frames with
  | error fault =>
    obtain ⟨digits, rfl⟩ := Tree.meaning_shallow Nesting.frames form.item (by omega) meant
    have long : ¬form.item.Short := by
      intro short
      cases Tree.meaning_fault Nesting.frames form.item short meant
    exact .inl ⟨long, digits, rfl⟩
  | ok document =>
    have fewer := (Tree.levels_of_meaning Nesting.frames form.item meant).2
    have fits : 2 * document.levels ≤ Nesting.frames := by omega
    exact .inr ⟨document, if_pos (admissible_of_levels fits), fits⟩

/-- A text with more levels than there are frames is given up for depth. -/
theorem ofText_deep {form : Padded Tree} (short : form.item.Short)
    (deep : Nesting.frames < form.item.levels) :
    ofText (form.text Tree.text) = .error .tooDeep := by
  rw [ofText, Reader.text_reads, Tree.meaning_deep short deep]
  rfl

end Document

/-- A document with half as many levels as there are frames is walked to the end. -/
theorem Generator.declarations_shallow (style : Style) {document : Document}
    (shallow : 2 * document.levels ≤ Nesting.frames) :
    ∃ registry, declarations style document = .ok registry :=
  (declarations_ok_iff style document).mpr ((Json.walkWeight_le_levels document).trans shallow)

/-- A fault of a text with a value in it is what validation complains about. -/
theorem validate_of_fault {form : Padded Tree} {fault : ReadFault}
    (refused : Document.ofText (form.text Tree.text) = .error fault) :
    validate (form.text Tree.text) = some (fault.message (form.text Tree.text)) := by
  simp only [validate, Document.form_filled, refused, Bool.false_eq_true, if_false]

/-- What is said about a text that is nested too deeply. -/
def tooDeepMessage : Text := "Invalid JSON: Document is nested too deeply"

/-- The nesting limit holds for every mixture of arrays and objects. A text of JSON with at most 200
containers inside each other is never given up for depth, neither when it is read nor when it is
converted: either it is read and has an output, or one of its integer literals is too long and this
is what is reported. A text of JSON with at least 1500 containers inside each other and no such
literal is always given up for depth. This is a fault of the text for reading, validation and
conversion alike, with the same message; no conversion gets beyond reading it, and no other failure
comes out. -/
theorem nesting_limits_hold {t : Text} {form : Padded Tree} (spelled : form.text Tree.text = t)
    (style : Style) :
    (form.item.levels ≤ 200 →
      (∃ document output, Document.ofText t = .ok document ∧ convert style t = .ok output) ∨
        ¬form.item.Short ∧ ∃ digits, Document.ofText t = .error (.longInteger digits) ∧
          convert style t = .error (.read (.longInteger digits))) ∧
    (1500 ≤ form.item.levels → form.item.Short →
      Document.ofText t = .error .tooDeep ∧ convert style t = .error (.read .tooDeep) ∧
        Generator.convertChecked style t = .error (.parse .tooDeep) ∧
        (ConvertFault.read .tooDeep).message t = tooDeepMessage ∧
        validate t = some tooDeepMessage) := by
  subst spelled
  constructor
  · intro shallow
    have fits : 2 * form.item.levels ≤ Nesting.frames := by
      simp only [Nesting.frames]
      omega
    rcases Document.ofText_shallow fits with ⟨long, digits, refused⟩ | ⟨document, read, few⟩
    · right
      exact ⟨long, digits, refused, convert_read_iff.mpr refused⟩
    · left
      obtain ⟨registry, walked⟩ := Generator.declarations_shallow style few
      exact ⟨document, registry.text, read, convert_iff.mpr ⟨document, registry, read, walked, rfl⟩⟩
  · intro many short
    have deep : Nesting.frames < form.item.levels := by
      simp only [Nesting.frames]
      omega
    have refused := Document.ofText_deep short deep
    have converted : convert style (form.text Tree.text) = .error (.read .tooDeep) :=
      convert_read_iff.mpr refused
    refine ⟨refused, converted, ?_, rfl, validate_of_fault refused⟩
    rw [Generator.convertChecked_exact, converted]
    rfl

namespace Grammar

def noBlanks : Blanks := ⟨[], by simp⟩

theorem nine_wellFormed : WellFormed ⟨false, [Fin.last 9], none, none⟩ :=
  ⟨⟨Fin.last 9, [], rfl, fun _ => rfl⟩, nofun, nofun⟩

/-- The number literal of one digit. -/
def nineForm : NumberForm := ⟨⟨false, [Fin.last 9], none, none⟩, false, false, nine_wellFormed⟩

/-- So many containers inside each other, arrays and objects by turns, around a number. -/
def tower : Nat → Tree
  | 0 => .number nineForm
  | height + 1 =>
    if height % 2 = 0 then .array noBlanks [⟨noBlanks, tower height, noBlanks⟩]
    else .object noBlanks [⟨noBlanks, ⟨[], noBlanks, noBlanks, tower height⟩, noBlanks⟩]

theorem tower_levels (height : Nat) : (tower height).levels = height := by
  induction height with
  | zero => rfl
  | succ height inductionHypothesis =>
    rw [tower]
    split <;> simp [Tree.levels, elementLevels, memberLevels, inductionHypothesis]

theorem tower_short (height : Nat) : (tower height).Short := by
  induction height with
  | zero =>
    intro literal has _ _
    cases has with
    | here same => simp [← same, nineForm]
  | succ height inductionHypothesis =>
    intro literal has
    rw [tower] at has
    split at has
    · cases has with
      | element member inner =>
        rw [List.mem_singleton.mp member] at inner
        exact inductionHypothesis literal inner
    · cases has with
      | member member inner =>
        rw [List.mem_singleton.mp member] at inner
        exact inductionHypothesis literal inner

/-- The text of such a tower. -/
def towerText (height : Nat) : Text := Padded.text Tree.text ⟨noBlanks, tower height, noBlanks⟩

end Grammar

theorem towers_read_and_given_up :
    (∃ document output, Document.ofText (towerText 200) = .ok document ∧
      convert {} (towerText 200) = .ok output) ∧
    Document.ofText (towerText 1500) = .error .tooDeep ∧
      convert {} (towerText 1500) = .error (.read .tooDeep) ∧
      Generator.convertChecked {} (towerText 1500) = .error (.parse .tooDeep) ∧
      validate (towerText 1500) = some tooDeepMessage := by
  obtain ⟨low, _⟩ := nesting_limits_hold (t := towerText 200) rfl {}
  obtain ⟨_, high⟩ := nesting_limits_hold (t := towerText 1500) rfl {}
  constructor
  · rcases low (tower_levels 200).le with returned | ⟨long, _⟩
    · exact returned
    · exact absurd (tower_short 200) long
  · obtain ⟨refused, converted, checked, _, complained⟩ :=
      high (tower_levels 1500).ge (tower_short 1500)
    exact ⟨refused, converted, checked, complained⟩

end TypeSketch
