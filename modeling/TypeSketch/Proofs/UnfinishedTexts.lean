import TypeSketch.Proofs.Reading

/-!
# Texts that break off

A reader that finds the grammar violated stops in front of what it cannot take. What it has taken
by then is not in vain: it is the beginning of some JSON text, so the fault lies no further back
than where the reader stops. This is shown for each function of the reader in terms of what the
function reads. An item of a container, a key or a string that breaks off is completed, and the
rest of the grammar is put around it; with nothing taken any item will do.

The completion stands for a document at the depth that is left, so it has no integer literal that is
too long, and is itself read.
-/

namespace TypeSketch

open Grammar

/-- What is in front of the remaining part of a text begins the text of something that stands for
a value. -/
inductive BreaksOff {α ε : Type} (spell : ε → Text) (denote : ε → Except ReadFault α)
    (t remaining : Text) : Prop where
  | intro (taken missing : Text) (element : ε) (value : α) (split : t = taken ++ remaining)
      (spelled : spell element = taken ++ missing) (meant : denote element = .ok value)

namespace BreaksOff

variable {α β ε δ : Type} {spell : ε → Text} {denote : ε → Except ReadFault α} {t remaining : Text}

/-- Nothing has been taken yet. -/
theorem start (element : ε) {value : α} (meant : denote element = .ok value) :
    BreaksOff spell denote t t :=
  ⟨[], spell element, element, value, rfl, rfl, meant⟩

/-- Something that breaks off inside something larger is completed by the completion of the larger
thing around it. -/
theorem within {larger : δ → Text} {denoteLarger : δ → Except ReadFault β} (wrap : ε → δ)
    (front back : Text)
    (spelled : ∀ element, larger (wrap element) = front ++ (spell element ++ back))
    (meant : ∀ element value, denote element = .ok value →
      ∃ result, denoteLarger (wrap element) = .ok result)
    (brokenOff : BreaksOff spell denote t remaining) :
    BreaksOff larger denoteLarger (front ++ t) remaining := by
  obtain ⟨taken, missing, element, value, split, beginning, stands⟩ := brokenOff
  obtain ⟨result, standsLarger⟩ := meant element value stands
  refine ⟨front ++ taken, missing ++ back, wrap element, result, ?_, ?_, standsLarger⟩
  · rw [split, List.append_assoc]
  · simp only [spelled, beginning, List.append_assoc]

end BreaksOff

/-- Where a reader stops, what it has taken can be completed. -/
def Stops {α ε : Type} (item : Text → Except ReadFault (α × Text)) (spell : ε → Text)
    (denote : ε → Except ReadFault α) : Prop :=
  ∀ ⦃t remaining : Text⦄ ⦃complaint : Complaint⦄,
    item t = .error (.malformed complaint remaining) → BreaksOff spell denote t remaining

namespace StringLiteral

/-- The text of characters, and what they stand for. -/
def charactersText (characters : List Character) : Text := characters.flatMap Character.text

def charactersMeaning (characters : List Character) : Except ReadFault Text :=
  .ok (stringMeaning characters)

/-- Characters break off where one of them is faulty. If it is the end that is missing, the fault is
at the start of the whole literal. -/
theorem pieces_stops {opening t remaining : Text} {complaint : Complaint}
    (read : pieces opening t = .error (.malformed complaint remaining)) :
    remaining = opening ∨ BreaksOff charactersText charactersMeaning t remaining := by
  -- What is done with the pieces behind a character never fails.
  have behind (character : Character) {t : Text} {add : List Piece × Text → List Piece × Text}
      (later : pieces opening t = .error (.malformed complaint remaining) →
        remaining = opening ∨ BreaksOff charactersText charactersMeaning t remaining)
      (read : (pieces opening t >>= fun parts => pure (add parts)) =
        Except.error (.malformed complaint remaining)) :
      remaining = opening ∨
        BreaksOff charactersText charactersMeaning (character.text ++ t) remaining := by
    rcases bind_eq_error_iff.mp read with fails | ⟨_, _, impossible⟩
    · refine (later fails).imp_right fun brokenOff => ?_
      refine brokenOff.within (character :: ·) _ [] (fun characters => ?_)
        fun _ _ _ => ⟨_, rfl⟩
      rw [charactersText, List.flatMap_cons, List.append_nil]
      rfl
    · cases impossible
  have nothing {t : Text} : BreaksOff charactersText charactersMeaning t t :=
    BreaksOff.start [] rfl
  -- A backslash alone may have been one in front of a quote.
  have backslash (t : Text) :
      BreaksOff charactersText charactersMeaning (.scalar '\\' :: t) t :=
    ⟨[.scalar '\\'], [.scalar '"'], [.short ('"', '"') (by decide)], _, rfl, rfl, rfl⟩
  fun_induction pieces opening t with
  | case1 | case3 => exact .inl (ReadFault.malformed.inj (Except.error.inj read)).2.symm
  | case2 => cases read
  | case4 a b c d next others unit isUnit inductionHypothesis =>
    obtain ⟨x, y, z, w, marks, _⟩ := exists_marks_of_unit? isUnit
    have spelled : CodePoint.scalar '\\' :: .scalar 'u' :: a :: b :: c :: d :: next :: others =
        (Character.unit x y z w).text ++ next :: others :=
      congrArg (fun digits => .scalar '\\' :: .scalar 'u' :: (digits ++ next :: others)) marks
    rw [spelled]
    exact behind (.unit x y z w) inductionHypothesis read
  | case5 | case6 =>
    obtain ⟨_, rfl⟩ := ReadFault.malformed.inj (Except.error.inj read)
    exact .inr (backslash _)
  | case7 c others _ _ meant isEscape inductionHypothesis =>
    obtain ⟨mark, rfl, known⟩ := exists_known_of_shortEscape? isEscape
    exact behind (.short (mark, meant) known) inductionHypothesis read
  | case8 | case9 =>
    obtain ⟨_, rfl⟩ := ReadFault.malformed.inj (Except.error.inj read)
    exact .inr nothing
  | case10 c others noQuote noEnd _ _ noEscape noControl inductionHypothesis =>
    have noBackslash : c ≠ .scalar '\\' := by
      intro isBackslash
      cases others with
      | nil => exact noEnd isBackslash rfl
      | cons next later => exact noEscape next later isBackslash rfl
    exact behind (.raw c ⟨Nat.not_lt.mp noControl, noQuote, noBackslash⟩) inductionHypothesis read

/-- A literal breaks off at its opening quote or behind it. -/
theorem read_stops {body remaining : Text} {complaint : Complaint}
    (failed : read (.scalar '"' :: body) body = .error (.malformed complaint remaining)) :
    BreaksOff stringText charactersMeaning (.scalar '"' :: body) remaining := by
  rcases bind_eq_error_iff.mp failed with fails | ⟨_, _, impossible⟩
  · rcases pieces_stops fails with rfl | brokenOff
    · exact BreaksOff.start [] rfl
    · exact brokenOff.within id [.scalar '"'] [.scalar '"'] (fun _ => rfl)
        fun _ value meant => ⟨value, meant⟩
  · cases impossible

end StringLiteral

namespace Reader

section Containers

variable {α ε : Type} {close : Char} {item : Text → Except ReadFault (α × Text)}
  {spell : ε → Text} {denote : ε → Except ReadFault α}

/-- The text of one item and those behind it, with the closing mark. -/
def itemsText (close : Char) (spell : ε → Text) : Padded ε × List (Padded ε) → Text
  | (first, others) => spell first.item ++ (first.after.text ++ tailText spell close others [])

def itemsMeaning (denote : ε → Except ReadFault α) :
    Padded ε × List (Padded ε) → Except ReadFault (List α)
  | (first, others) => (first :: others).mapM fun element => denote element.item

/-- An item at the front of a list with no others behind it. -/
def alone (after : Blanks) (element : ε) : Padded ε × List (Padded ε) :=
  (⟨Blanks.none, element, after⟩, [])

theorem itemsText_alone (after : Blanks) (element : ε) :
    itemsText close spell (alone after element) =
      spell element ++ (after.text ++ [.scalar close]) := rfl

theorem itemsMeaning_alone (after : Blanks) {element : ε} {value : α}
    (meant : denote element = .ok value) :
    itemsMeaning denote (alone after element) = .ok [value] := by
  rw [itemsMeaning, alone, List.mapM_cons, meant]
  rfl

/-- Items break off in one of them, or where a comma or the closing mark is missing behind one. The
bound plays no part here: some item completes the list when it is used up. -/
theorem items_stops (sound : SoundItem item spell denote) (stops : Stops item spell denote)
    (exists_item : ∃ element value, denote element = .ok value) (bound : Nat) :
    Stops (items close item bound) (itemsText close spell) (itemsMeaning denote) := by
  induction bound with
  | zero =>
    intro t remaining complaint read
    obtain ⟨element, value, meant⟩ := exists_item
    obtain ⟨_, rfl⟩ := ReadFault.malformed.inj (Except.error.inj read)
    exact BreaksOff.start _ (itemsMeaning_alone Blanks.none meant)
  | succ bound inductionHypothesis =>
    intro t remaining complaint read
    rw [items] at read
    rcases bind_eq_error_iff.mp read with fails | ⟨⟨value, behind⟩, readItem, further⟩
    · exact (stops fails).within (alone Blanks.none) [] _ (itemsText_alone Blanks.none)
        fun _ _ meant => ⟨_, itemsMeaning_alone Blanks.none meant⟩
    · obtain ⟨element, meant, rfl⟩ := sound readItem
      obtain ⟨after, skipped⟩ := exists_blanks behind
      have parted (missed : remaining = skipBlanks behind) :
          BreaksOff (itemsText close spell) (itemsMeaning denote) (spell element ++ behind)
            remaining := by
        refine ⟨spell element ++ after.text, [.scalar close], alone after element, _, ?_, ?_,
          itemsMeaning_alone after meant⟩
        · rw [missed, List.append_assoc, ← skipped]
        · rw [itemsText_alone, List.append_assoc]
      dsimp only at further
      split at further
      · next c later marked =>
        split at further
        · cases further
        split at further
        · next isComma =>
          rcases bind_eq_error_iff.mp further with fails | ⟨_, _, impossible⟩
          · obtain ⟨before, skippedOthers⟩ := exists_blanks later
            have brokenOff : BreaksOff (itemsText close spell) (itemsMeaning denote)
                (spell element ++ (after.text ++ .scalar ',' :: before.text) ++ skipBlanks later)
                remaining := by
              refine (inductionHypothesis fails).within
                (fun items => (⟨Blanks.none, element, after⟩,
                  ⟨before, items.1.item, items.1.after⟩ :: items.2)) _ [] ?_ ?_
              · rintro ⟨second, others⟩
                simp [itemsText, tailText, Padded.text]
              · rintro ⟨second, others⟩ values meantOthers
                refine ⟨value :: values, ?_⟩
                rw [itemsMeaning, List.mapM_cons, meant]
                change (do
                  let values ← itemsMeaning denote (second, others)
                  return value :: values) = _
                rw [meantOthers]
                rfl
            rw [skipped, marked, isComma, skippedOthers]
            simpa only [List.append_assoc, List.cons_append] using brokenOff
          · cases impossible
        · exact parted (marked ▸ (ReadFault.malformed.inj (Except.error.inj further)).2.symm)
      · exact parted (ReadFault.malformed.inj (Except.error.inj further)).2.symm

/-- What stands between the marks of a container, with the closing mark. -/
def containerText (close : Char) (spell : ε → Text) : Blanks × List (Padded ε) → Text
  | (gap, elements) => listText gap (elements.map (Padded.text spell)) ++ [.scalar close]

def containerMeaning (denote : ε → Except ReadFault α) :
    Blanks × List (Padded ε) → Except ReadFault (List α)
  | (_, elements) => elements.mapM fun element => denote element.item

/-- A container breaks off in its items. -/
theorem container_stops (sound : SoundItem item spell denote) (stops : Stops item spell denote)
    (exists_item : ∃ element value, denote element = .ok value) (bound : Nat) :
    Stops (container bound close item) (containerText close spell) (containerMeaning denote) := by
  intro t remaining complaint read
  obtain ⟨gap, skipped⟩ := exists_blanks t
  have filled (fails : items close item bound (skipBlanks t) =
      .error (.malformed complaint remaining)) :
      BreaksOff (containerText close spell) (containerMeaning denote) t remaining := by
    rw [skipped]
    refine (items_stops sound stops exists_item bound fails).within
      (fun items : Padded ε × List (Padded ε) =>
        (gap, ⟨Blanks.none, items.1.item, items.1.after⟩ :: items.2)) _ [] ?_ ?_
    · rintro ⟨first, others⟩
      simp only [containerText, itemsText, listText, List.map_cons, Text.join_cons,
        List.flatMap_map, tailText, Padded.text, Blanks.none, List.append_assoc, List.append_nil]
      rfl
    · exact fun _ values meant => ⟨values, meant⟩
  rw [container] at read
  split at read
  · next marked =>
    split at read
    · cases read
    · exact filled (marked ▸ read)
  · exact filled read

end Containers

/-- A member breaks off in its key, in front of a colon that is missing, or in its value. -/
theorem member_stops {ε : Type} {value : Text → Except ReadFault (Document × Text)}
    {spell : ε → Text} {denote : ε → Except ReadFault Document} (stops : Stops value spell denote)
    (exists_item : ∃ element document, denote element = .ok document) :
    Stops (member value) (Keyed.text spell) (Keyed.meaning denote) := by
  intro t remaining complaint read
  obtain ⟨sample, document, meant⟩ := exists_item
  have keyed (key : List Character) (afterKey beforeItem : Blanks) {element : ε}
      {document : Document} (meant : denote element = .ok document) :
      Keyed.meaning denote ⟨key, afterKey, beforeItem, element⟩ =
        .ok (stringMeaning key, document) := by
    rw [Keyed.meaning, meant]
    rfl
  rw [member.eq_def] at read
  split at read
  · next body =>
    rcases bind_eq_error_iff.mp read with fails | ⟨⟨key, behindKey⟩, readKey, further⟩
    · refine (StringLiteral.read_stops fails).within
        (fun key => ⟨key, Blanks.none, Blanks.none, sample⟩) [] (.scalar ':' :: spell sample)
        (fun _ => rfl) ?_
      exact fun key _ _ => ⟨_, keyed key Blanks.none Blanks.none meant⟩
    · obtain ⟨characters, rfl, rfl⟩ := StringLiteral.read_sound readKey
      obtain ⟨afterKey, skipped⟩ := exists_blanks behindKey
      have quoted : CodePoint.scalar '"' ::
          (characters.flatMap Character.text ++ .scalar '"' :: behindKey) =
          stringText characters ++ behindKey := by
        simp [stringText]
      rw [quoted]
      dsimp only at further
      split at further
      · next behindColon colon =>
        obtain ⟨beforeItem, skippedItem⟩ := exists_blanks behindColon
        rcases bind_eq_error_iff.mp further with fails | ⟨_, _, impossible⟩
        · have brokenOff : BreaksOff (Keyed.text spell) (Keyed.meaning denote)
              (stringText characters ++ (afterKey.text ++ .scalar ':' :: beforeItem.text) ++
                skipBlanks behindColon) remaining :=
            (stops fails).within (⟨characters, afterKey, beforeItem, ·⟩) _ []
              (fun element => by simp [Keyed.text])
              fun _ _ meant => ⟨_, keyed characters afterKey beforeItem meant⟩
          rw [skipped, colon, skippedItem]
          simpa only [List.append_assoc, List.cons_append] using brokenOff
        · cases impossible
      · obtain ⟨_, rfl⟩ := ReadFault.malformed.inj (Except.error.inj further)
        refine ⟨stringText characters ++ afterKey.text, .scalar ':' :: spell sample,
          ⟨characters, afterKey, Blanks.none, sample⟩, _, ?_, ?_,
          keyed characters afterKey Blanks.none meant⟩
        · rw [List.append_assoc, ← skipped]
        · rw [List.append_assoc]
          rfl
  · obtain ⟨_, rfl⟩ := ReadFault.malformed.inj (Except.error.inj read)
    exact BreaksOff.start _ (keyed [] Blanks.none Blanks.none meant)

/-- Neither a word nor a number breaks off: it is there as a whole or not at all. -/
theorem wordOrNumber_stops {t remaining : Text} {complaint : Complaint}
    (read : wordOrNumber t = .error (.malformed complaint remaining)) : remaining = t := by
  rw [wordOrNumber] at read
  split at read
  · next outcome behind found =>
    obtain ⟨⟨word, own⟩, member, isPrefix⟩ := List.exists_of_findSome?_eq_some found
    obtain ⟨_, _, same⟩ := Option.map_eq_some_iff.mp isPrefix
    obtain ⟨rfl, _⟩ := Prod.mk.inj same
    simp only [words, List.mem_cons, Prod.mk.injEq, List.not_mem_nil, or_false] at member
    rcases member with ⟨_, rfl⟩ | ⟨_, rfl⟩ | ⟨_, rfl⟩ | ⟨_, rfl⟩ | ⟨_, rfl⟩ | ⟨_, rfl⟩ <;>
      cases read
  · split at read
    · next literal behind found =>
      rw [NumberLiteral.number] at read
      split at read
      · split at read <;> cases read
      · cases read
    · exact (ReadFault.malformed.inj (Except.error.inj read)).2.symm

/-- Some value is as short as can be. -/
theorem exists_value (depth : Nat) : ∃ tree document, Tree.meaning depth tree = .ok document :=
  ⟨.word .null, _, by rw [Tree.meaning]⟩

/-- A value breaks off inside its string or container, or nothing of it is there. By induction on
the depth that is left. -/
theorem value_stops (bound depth : Nat) :
    Stops (value bound depth) Tree.text (Tree.meaning depth) := by
  induction depth using Nat.strong_induction_on with
  | _ depth inductionHypothesis =>
    intro t remaining complaint read
    rw [value.eq_def] at read
    split at read
    · rcases bind_eq_error_iff.mp read with fails | ⟨_, _, impossible⟩
      · refine (StringLiteral.read_stops fails).within Tree.string [] []
          (fun characters => (List.append_nil _).symm) fun _ _ _ => ⟨_, by rw [Tree.meaning]⟩
      · cases impossible
    · cases read
    · cases read
    · next lower rest =>
      rcases bind_eq_error_iff.mp read with fails | ⟨_, _, impossible⟩
      · have stops := inductionHypothesis lower (Nat.lt_succ_self lower)
        refine (container_stops (value_sound bound lower) stops (exists_value lower) bound
          fails).within (fun list => Tree.array list.1 list.2) [.scalar '['] []
          ?_ ?_
        · rintro ⟨gap, elements⟩
          simp [Tree.text, elementTexts_eq, containerText]
        · rintro ⟨gap, elements⟩ documents meant
          refine ⟨.array documents, ?_⟩
          rw [containerMeaning] at meant
          rw [Tree.meaning, meant]
          rfl
      · cases impossible
    · next lower rest =>
      rcases bind_eq_error_iff.mp read with fails | ⟨_, _, impossible⟩
      · have stops := inductionHypothesis lower (Nat.lt_succ_self lower)
        have sample : ∃ element document,
            Keyed.meaning (Tree.meaning lower) element = .ok document := by
          obtain ⟨tree, document, meant⟩ := exists_value lower
          exact ⟨⟨[], Blanks.none, Blanks.none, tree⟩, _, by rw [Keyed.meaning, meant]; rfl⟩
        refine (container_stops (member_sound (value_sound bound lower))
          (member_stops stops (exists_value lower)) sample bound fails).within
          (fun list => Tree.object list.1 list.2) [.scalar '\x7b'] [] ?_ ?_
        · rintro ⟨gap, members⟩
          simp [Tree.text, memberTexts_eq, containerText]
        · rintro ⟨gap, members⟩ documents meant
          refine ⟨.object (Entries.ofPairs (· == ·) documents), ?_⟩
          rw [containerMeaning] at meant
          rw [Tree.meaning, meant]
          rfl
      · cases impossible
    · rw [wordOrNumber_stops read]
      obtain ⟨tree, document, meant⟩ := exists_value depth
      exact BreaksOff.start _ meant

/-- Where the reader stops in a text, what is in front begins a JSON text. -/
theorem text_stops {t remaining : Text} {complaint : Complaint}
    (read : text t = .error (.malformed complaint remaining)) :
    BreaksOff (Padded.text Tree.text) (fun form => form.item.meaning Nesting.frames)
      t remaining := by
  obtain ⟨sample, document, meant⟩ := exists_value Nesting.frames
  rw [text] at read
  split at read
  · obtain ⟨_, rfl⟩ := ReadFault.malformed.inj (Except.error.inj read)
    exact BreaksOff.start ⟨Blanks.none, sample, Blanks.none⟩ meant
  · obtain ⟨before, skipped⟩ := exists_blanks t
    rcases bind_eq_error_iff.mp read with fails | ⟨⟨found, behind⟩, readValue, further⟩
    · rw [skipped]
      exact (value_stops _ _ fails).within (⟨before, ·, Blanks.none⟩) before.text []
        (fun _ => rfl) fun _ document meant => ⟨document, meant⟩
    · obtain ⟨tree, meantTree, split⟩ := value_sound _ _ readValue
      obtain ⟨after, skippedEnd⟩ := exists_blanks behind
      dsimp only at further
      split at further
      · cases further
      · obtain ⟨_, rfl⟩ := ReadFault.malformed.inj (Except.error.inj further)
        refine ⟨before.text ++ (tree.text ++ after.text), [], ⟨before, tree, after⟩, found, ?_, ?_,
          meantTree⟩
        · rw [List.append_assoc, List.append_assoc, ← skippedEnd, ← split, ← skipped]
        · rw [List.append_nil]
          rfl

end Reader

end TypeSketch
