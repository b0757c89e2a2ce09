import Mathlib.Data.Bool.AllAny
import Mathlib.Data.List.TakeWhile
import TypeSketch.Json.Reader
import TypeSketch.Proofs.ReadingNumbers
import TypeSketch.Proofs.ReadingStrings

/-!
# Reading containers

Arrays and objects are read by the same functions, applied to values or to members. So
are they here: about the items it is only assumed that each is read from its text, and that
what is read is the text of some item. A text of items with commas and blanks between them
is then read up to the closing mark, and nothing else is.

An item may be a number, which ends only where the text behind it does not go on with it.
Blanks, commas and closing marks do not.
-/

namespace TypeSketch

namespace Grammar

theorem mem_blankMarks {c : CodePoint} : c ∈ blankMarks ↔ c.isJsonBlank = true := by
  simp [blankMarks, Text.ofString, CodePoint.isJsonBlank, or_assoc]

/-- No blanks. -/
def Blanks.none : Blanks := ⟨[], fun _ impossible => absurd impossible List.not_mem_nil⟩

def Blanks.append (first second : Blanks) : Blanks where
  text := first.text ++ second.text
  blank c member := (List.mem_append.mp member).elim (first.blank c) (second.blank c)

end Grammar

namespace Reader

open Grammar NumberLiteral

theorem skipBlanks_blanks (blanks : Blanks) {t : Text}
    (ended : ∀ c, t.head? = some c → c.isJsonBlank = false) :
    skipBlanks (blanks.text ++ t) = t := by
  rw [skipBlanks, List.dropWhile_append_of_pos fun c member =>
    mem_blankMarks.mp (blanks.blank c member)]
  cases t with
  | nil => rfl
  | cons c rest => rw [List.dropWhile_cons_of_neg (Bool.eq_false_iff.mp (ended c rfl))]

/-- What is skipped are blanks. -/
theorem exists_blanks (t : Text) : ∃ blanks : Blanks, t = blanks.text ++ skipBlanks t := by
  refine ⟨⟨t.takeWhile CodePoint.isJsonBlank, ?_⟩, List.takeWhile_append_dropWhile.symm⟩
  intro c member
  exact mem_blankMarks.mpr (List.mem_takeWhile_imp member)

/-- A number ends at blanks and marks of containers. -/
theorem closed_blanks (blanks : Blanks) {mark : Char} (isMark : mark ∈ [',', ']', '}'])
    (t : Text) : Closed (blanks.text ++ .scalar mark :: t) := by
  intro c first
  have ends : ∀ other ∈ [',', ']', '}'], continuesNumber (.scalar other) = false :=
    List.all_iff_forall_prop.mp (by decide)
  have blankEnds : ∀ other ∈ blankMarks, continuesNumber other = false := by decide
  cases found : blanks.text with
  | nil =>
    rw [found] at first
    cases Option.some.inj first
    exact ends mark isMark
  | cons blank others =>
    rw [found] at first
    cases Option.some.inj first
    exact blankEnds _ (blanks.blank _ (found ▸ List.mem_cons_self))

/-- The code points that words and numbers begin with. -/
def plainMarks : List Char := ['n', 't', 'f', '-', '0', '1', '2', '3', '4', '5', '6', '7', '8', '9']

/-- The code points that values begin with. -/
def openingMarks : List Char := ['"', '[', '\x7b'] ++ plainMarks

/-- A text that begins as values do. -/
def Begins (t : Text) : Prop := ∃ c ∈ openingMarks, ∃ rest, t = .scalar c :: rest

/-- Such a text begins with neither a blank nor a mark that closes a container. -/
theorem openingMarks_solid : ∀ c ∈ openingMarks,
    (CodePoint.scalar c).isJsonBlank = false ∧ c ∉ [']', '\x7d'] :=
  List.all_iff_forall_prop.mp (by decide)

/-- An item is read from its text as what it stands for, whatever ends it. -/
structure Reads {α ε : Type} (item : Text → Except ReadFault (α × Text)) (spell : ε → Text)
    (denote : ε → Except ReadFault α) (element : ε) : Prop where
  begins : Begins (spell element)
  reads : ∀ rest, Closed rest → item (spell element ++ rest) = (denote element).map (·, rest)

section Containers

variable {α ε : Type} {close : Char} {item : Text → Except ReadFault (α × Text)}
  {spell : ε → Text} {denote : ε → Except ReadFault α}

/-- Every text that an item is read from begins with the text of what the item stands for. -/
def SoundItem (item : Text → Except ReadFault (α × Text)) (spell : ε → Text)
    (denote : ε → Except ReadFault α) : Prop :=
  ∀ {t rest value}, item t = .ok (value, rest) →
    ∃ element, denote element = .ok value ∧ t = spell element ++ rest

theorem skipBlanks_begins (blanks : Blanks) {t : Text} (begins : Begins t) (rest : Text) :
    skipBlanks (blanks.text ++ (t ++ rest)) = t ++ rest := by
  obtain ⟨c, opens, others, rfl⟩ := begins
  refine skipBlanks_blanks blanks ?_
  intro first same
  cases Option.some.inj same
  exact (openingMarks_solid c opens).1

theorem skipBlanks_mark (blanks : Blanks) {mark : Char} (isMark : mark ∈ [',', ']', '\x7d'])
    (rest : Text) : skipBlanks (blanks.text ++ .scalar mark :: rest) = .scalar mark :: rest := by
  have noBlank : ∀ other ∈ [',', ']', '\x7d'], (CodePoint.scalar other).isJsonBlank = false :=
    List.all_iff_forall_prop.mp (by decide)
  refine skipBlanks_blanks blanks ?_
  intro first same
  cases Option.some.inj same
  exact noBlank mark isMark

theorem items_fault {t : Text} {fault : ReadFault} (read : item t = .error fault) (bound : Nat) :
    items close item (bound + 1) t = .error fault := by
  rw [items, read]
  rfl

theorem items_last {t rest later : Text} {value : α} (read : item t = .ok (value, rest))
    (ended : skipBlanks rest = .scalar close :: later) (bound : Nat) :
    items close item (bound + 1) t = .ok ([value], later) := by
  rw [items, read]
  simp only [bind, Except.bind, ended]
  exact if_pos trivial

theorem items_more {t rest later : Text} {value : α} (read : item t = .ok (value, rest))
    (parted : skipBlanks rest = .scalar ',' :: later) (noComma : ',' ≠ close) (bound : Nat) :
    items close item (bound + 1) t = (items close item bound (skipBlanks later)).map
      fun (others, rest) => (value :: others, rest) := by
  rw [items, read]
  simp only [bind, Except.bind, parted]
  rw [if_neg noComma, if_pos trivial]
  cases items close item bound (skipBlanks later) <;> rfl

/-- The text of items behind the first one, with the closing mark. -/
def tailText (spell : ε → Text) (close : Char) (others : List (Padded ε)) (rest : Text) : Text :=
  others.flatMap (fun element => .scalar ',' :: element.text spell) ++ .scalar close :: rest

theorem closed_tailText (spell : ε → Text) (isClose : close ∈ [']', '\x7d']) (blanks : Blanks)
    (others : List (Padded ε)) (rest : Text) :
    Closed (blanks.text ++ tailText spell close others rest) := by
  cases others with
  | nil => exact closed_blanks blanks (List.mem_cons_of_mem _ isClose) rest
  | cons second later => exact closed_blanks blanks List.mem_cons_self _

/-- Items with commas between them are read up to the closing mark. -/
theorem items_text (isClose : close ∈ [']', '\x7d']) {first : Padded ε} {others : List (Padded ε)}
    (each : ∀ element ∈ first :: others, Reads item spell denote element.item)
    {bound : Nat} (enough : others.length < bound) (rest : Text) :
    items close item bound
        (spell first.item ++ (first.after.text ++ tailText spell close others rest)) =
      ((first :: others).mapM fun element => denote element.item).map (·, rest) := by
  have noComma : ',' ≠ close := by
    rintro rfl
    exact absurd isClose (by decide)
  induction others generalizing first bound with
  | nil =>
    obtain ⟨bound, rfl⟩ := Nat.exists_eq_add_one.mpr enough
    have read := (each first List.mem_cons_self).reads _
      (closed_tailText spell isClose first.after [] rest)
    have ended := skipBlanks_mark first.after (List.mem_cons_of_mem _ isClose) rest
    rw [List.mapM_cons]
    cases meant : denote first.item with
    | error fault => exact items_fault (read.trans (by rw [meant]; rfl)) bound
    | ok value => exact items_last (read.trans (by rw [meant]; rfl)) ended bound
  | cons second later inductionHypothesis =>
    obtain ⟨bound, rfl⟩ := Nat.exists_eq_add_one_of_ne_zero (Nat.ne_zero_of_lt enough)
    have read := (each first List.mem_cons_self).reads _
      (closed_tailText spell isClose first.after (second :: later) rest)
    have tail : tailText spell close (second :: later) rest =
        .scalar ',' :: (second.text spell ++ tailText spell close later rest) := by
      rw [tailText, List.flatMap_cons, List.append_assoc]
      rfl
    have parted : skipBlanks (first.after.text ++ tailText spell close (second :: later) rest) =
        .scalar ',' :: (second.text spell ++ tailText spell close later rest) := by
      rw [tail]
      exact skipBlanks_mark first.after List.mem_cons_self _
    have begun : skipBlanks (second.text spell ++ tailText spell close later rest) =
        spell second.item ++ (second.after.text ++ tailText spell close later rest) := by
      rw [Padded.text, List.append_assoc, List.append_assoc]
      exact skipBlanks_begins second.before (each second (by simp)).begins _
    have others := inductionHypothesis (fun element member =>
      each element (List.mem_cons_of_mem first member)) (Nat.lt_of_succ_lt_succ enough)
    rw [List.mapM_cons]
    cases meant : denote first.item with
    | error fault => exact items_fault (read.trans (by rw [meant]; rfl)) bound
    | ok value =>
      rw [items_more (read.trans (by rw [meant]; rfl)) parted noComma, begun, others]
      cases (second :: later).mapM fun element => denote element.item <;> rfl

/-- So are all items of a container behind its opening mark. -/
theorem container_text (isClose : close ∈ [']', '\x7d']) (gap : Blanks) (elements : List (Padded ε))
    (each : ∀ element ∈ elements, Reads item spell denote element.item)
    {bound : Nat} (enough : elements.length ≤ bound) (rest : Text) :
    container bound close item
        (listText gap (elements.map (Padded.text spell)) ++ .scalar close :: rest) =
      (elements.mapM fun element => denote element.item).map (·, rest) := by
  cases elements with
  | nil =>
    have skipped := skipBlanks_mark gap (List.mem_cons_of_mem _ isClose) rest
    have empty : listText gap [] = gap.text := List.append_nil gap.text
    rw [List.map_nil, empty, container, skipped]
    exact if_pos rfl
  | cons first others =>
    have split : listText gap ((first :: others).map (Padded.text spell)) ++ .scalar close :: rest =
        (gap.append first.before).text ++
          (spell first.item ++ (first.after.text ++ tailText spell close others rest)) := by
      rw [listText, List.map_cons, Text.join_cons, List.flatMap_map, tailText, Padded.text]
      simp only [Blanks.append, List.append_assoc]
      rfl
    have begins := (each first List.mem_cons_self).begins
    have skipped := skipBlanks_begins (gap.append first.before) begins
      (first.after.text ++ tailText spell close others rest)
    obtain ⟨c, opens, later, begun⟩ := begins
    have noClose : c ≠ close := by
      rintro rfl
      exact (openingMarks_solid c opens).2 isClose
    have read := items_text isClose each enough rest
    rw [split, container, skipped]
    rw [begun] at read ⊢
    exact (if_neg noClose).trans read

/-- Items that are read up to a closing mark are spelled as a list of items. -/
theorem items_sound (sound : SoundItem item spell denote) {bound : Nat} {t rest : Text}
    {found : List α} (read : items close item bound t = .ok (found, rest)) :
    ∃ (first : Padded ε) (others : List (Padded ε)),
      ((first :: others).mapM fun padded => denote padded.item) = .ok found ∧
      t = spell first.item ++ (first.after.text ++ tailText spell close others rest) := by
  induction bound generalizing t found with
  | zero => exact absurd read (by simp [items])
  | succ bound inductionHypothesis =>
    rw [items] at read
    obtain ⟨⟨value, behind⟩, readItem, further⟩ := bind_eq_ok_iff.mp read
    obtain ⟨element, meant, rfl⟩ := sound readItem
    obtain ⟨after, skipped⟩ := exists_blanks behind
    dsimp only at further
    split at further
    · next c later marked =>
      rw [marked] at skipped
      split at further
      · next isClose =>
        obtain ⟨rfl, rfl⟩ := Prod.mk.inj (Except.ok.inj further)
        refine ⟨⟨Blanks.none, element, after⟩, [], ?_, ?_⟩
        · rw [List.mapM_cons, meant]
          rfl
        · rw [skipped, isClose]
          rfl
      split at further
      · next isComma =>
        obtain ⟨⟨values, ended⟩, readOthers, same⟩ := bind_eq_ok_iff.mp further
        obtain ⟨rfl, rfl⟩ := Prod.mk.inj (Except.ok.inj same)
        obtain ⟨second, others, meantOthers, split⟩ := inductionHypothesis readOthers
        obtain ⟨before, skippedOthers⟩ := exists_blanks later
        refine ⟨⟨Blanks.none, element, after⟩,
          ⟨before, second.item, second.after⟩ :: others, ?_, ?_⟩
        · rw [List.mapM_cons, meant]
          change (do
            let values ← (second :: others).mapM fun padded : Padded ε => denote padded.item
            return value :: values) = _
          rw [meantOthers]
          rfl
        · rw [skipped, isComma, skippedOthers, split]
          simp [tailText, Padded.text]
      · exact absurd further (by simp)
    · exact absurd further (by simp)

theorem container_sound (sound : SoundItem item spell denote) {bound : Nat} {t rest : Text}
    {found : List α} (read : container bound close item t = .ok (found, rest)) :
    ∃ (gap : Blanks) (elements : List (Padded ε)),
      (elements.mapM fun padded => denote padded.item) = .ok found ∧
      t = listText gap (elements.map (Padded.text spell)) ++ .scalar close :: rest := by
  obtain ⟨gap, skipped⟩ := exists_blanks t
  have filled (listed : items close item bound (skipBlanks t) = .ok (found, rest)) :
      ∃ (gap : Blanks) (elements : List (Padded ε)),
        (elements.mapM fun padded => denote padded.item) = .ok found ∧
        t = listText gap (elements.map (Padded.text spell)) ++ .scalar close :: rest := by
    obtain ⟨first, others, meant, split⟩ := items_sound sound listed
    refine ⟨gap, ⟨Blanks.none, first.item, first.after⟩ :: others, meant, ?_⟩
    rw [skipped, split, listText, List.map_cons, Text.join_cons, List.flatMap_map, tailText]
    simp only [Padded.text, Blanks.none, List.append_assoc]
    rfl
  rw [container] at read
  split at read
  · next c later marked =>
    split at read
    · next isClose =>
      obtain ⟨rfl, rfl⟩ := Prod.mk.inj (Except.ok.inj read)
      refine ⟨gap, [], rfl, ?_⟩
      rw [skipped, marked, isClose]
      exact congrArg (· ++ .scalar close :: later) (List.append_nil gap.text).symm
    · exact filled (marked ▸ read)
  · exact filled read

end Containers

/-! ### Members -/

theorem member_text {ε : Type} {value : Text → Except ReadFault (Document × Text)}
    {spell : ε → Text} {denote : ε → Except ReadFault Document} {keyed : Keyed ε}
    (reads : Reads value spell denote keyed.item) :
    Reads (member value) (Keyed.text spell) (Keyed.meaning denote) keyed where
  begins := ⟨'"', by decide, _, rfl⟩
  reads rest closed := by
    have split : keyed.text spell ++ rest = .scalar '"' ::
        (keyed.key.flatMap Character.text ++ .scalar '"' :: (keyed.afterKey.text ++ .scalar ':' ::
          (keyed.beforeItem.text ++ (spell keyed.item ++ rest)))) := by
      simp [Keyed.text, stringText]
    have colon : skipBlanks (keyed.afterKey.text ++ .scalar ':' ::
        (keyed.beforeItem.text ++ (spell keyed.item ++ rest))) = .scalar ':' ::
        (keyed.beforeItem.text ++ (spell keyed.item ++ rest)) := by
      refine skipBlanks_blanks keyed.afterKey ?_
      intro first same
      cases Option.some.inj same
      rfl
    rw [split, member, StringLiteral.read_characters]
    simp only [bind, Except.bind, colon, skipBlanks_begins keyed.beforeItem reads.begins,
      reads.reads rest closed, Keyed.meaning]
    cases denote keyed.item <;> rfl

theorem member_sound {ε : Type} {value : Text → Except ReadFault (Document × Text)}
    {spell : ε → Text} {denote : ε → Except ReadFault Document}
    (sound : SoundItem value spell denote) :
    SoundItem (member value) (Keyed.text spell) (Keyed.meaning denote) := by
  intro t rest found read
  rw [member.eq_def] at read
  split at read
  · next body =>
    obtain ⟨⟨key, behindKey⟩, readKey, further⟩ := bind_eq_ok_iff.mp read
    obtain ⟨characters, rfl, rfl⟩ := StringLiteral.read_sound readKey
    obtain ⟨afterKey, skipped⟩ := exists_blanks behindKey
    dsimp only at further
    split at further
    · next behindColon colon =>
      obtain ⟨⟨document, ended⟩, readValue, same⟩ := bind_eq_ok_iff.mp further
      obtain ⟨rfl, rfl⟩ := Prod.mk.inj (Except.ok.inj same)
      obtain ⟨element, meant, split⟩ := sound readValue
      obtain ⟨beforeItem, skippedItem⟩ := exists_blanks behindColon
      refine ⟨⟨characters, afterKey, beforeItem, element⟩, ?_, ?_⟩
      · rw [Keyed.meaning, meant]
        rfl
      · rw [skipped, colon, skippedItem, split]
        simp [Keyed.text, stringText]
    · exact absurd further (by simp)
  · exact absurd read (by simp)

end Reader

end TypeSketch
