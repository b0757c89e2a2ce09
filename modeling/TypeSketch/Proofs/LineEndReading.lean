import TypeSketch.Proofs.LineEnds
import TypeSketch.Proofs.Reading

/-!
# Reading and line ends

A text and the same text with a line feed for every line end are read alike: the values are
equal, and so are the faults, but that what remains at a fault has its line ends replaced as
well. Both ends of a line are blanks between tokens, and tokens are read alike, so every
function of the reader commutes with the replacement.

A pair of a carriage return and a line feed becomes a single line feed, so a text may get
shorter. Its length bounds the items of containers, and any bound that is large enough gives
the same.
-/

namespace TypeSketch

namespace Reader

open Text

/-- Blanks are skipped alike, as both ends of a line are blank. -/
theorem skipBlanks_unifyLineEnds (t : Text) :
    skipBlanks t.unifyLineEnds = (skipBlanks t).unifyLineEnds := by
  have blankReturn : (CodePoint.scalar '\r').isJsonBlank = true := by decide
  have blankFeed : (CodePoint.scalar '\n').isJsonBlank = true := by decide
  unfold skipBlanks
  fun_induction unifyLineEnds t with
  | case1 => rfl
  | case2 rest inductionHypothesis =>
    simpa [List.dropWhile_cons, blankReturn, blankFeed] using inductionHypothesis
  | case3 rest _ inductionHypothesis =>
    simpa [List.dropWhile_cons, blankReturn, blankFeed] using inductionHypothesis
  | case4 c rest _ noReturn inductionHypothesis =>
    by_cases blank : c.isJsonBlank = true
    · rw [List.dropWhile_cons_of_pos blank, List.dropWhile_cons_of_pos blank, inductionHypothesis]
    · rw [List.dropWhile_cons_of_neg blank, List.dropWhile_cons_of_neg blank,
        unifyLineEnds_cons noReturn]

/-- Behind the blanks the text has ended, or goes on with a code point that ends no line. -/
theorem skipBlanks_cases (t : Text) :
    skipBlanks t = [] ∨ ∃ (c : CodePoint) (rest : Text), skipBlanks t = c :: rest ∧
      Text.unifyLineEnds (c :: rest) = c :: rest.unifyLineEnds := by
  cases found : skipBlanks t with
  | nil => exact .inl rfl
  | cons c rest =>
    have solid := List.head?_dropWhile_not CodePoint.isJsonBlank t
    rw [← skipBlanks, found] at solid
    have noReturn : c ≠ .scalar '\r' := by
      rintro rfl
      exact absurd solid (by simp [CodePoint.isJsonBlank])
    exact .inr ⟨c, rest, rfl, unifyLineEnds_cons noReturn rest⟩

/-- Words stand on one line, and no fault of theirs has a place. -/
theorem words_inLine : ∀ entry ∈ words,
    (∀ c ∈ entry.1, c ≠ .scalar '\r' ∧ c ≠ .scalar '\n') ∧
      entry.2.mapError ReadFault.unifyLineEnds = entry.2 := by
  have inLine : ∀ entry ∈ words, ∀ c ∈ entry.1, c ≠ .scalar '\r' ∧ c ≠ .scalar '\n' := by decide
  intro entry member
  refine ⟨inLine entry member, ?_⟩
  simp only [words, List.mem_cons, List.not_mem_nil, or_false] at member
  rcases member with rfl | rfl | rfl | rfl | rfl | rfl <;> rfl

theorem word?_unifyLineEnds (t : Text) :
    word? t.unifyLineEnds = (word? t).map (Prod.map id unifyLineEnds) := by
  have inLine := words_inLine
  unfold word?
  generalize words = entries at inLine ⊢
  induction entries with
  | nil => rfl
  | cons entry others inductionHypothesis =>
    obtain ⟨word, outcome⟩ := entry
    rw [List.forall_mem_cons] at inLine
    rw [List.findSome?_cons, List.findSome?_cons]
    dsimp only
    rw [isPrefixOf?_unifyLineEnds inLine.1.1]
    cases word.isPrefixOf? t with
    | none => exact inductionHypothesis inLine.2
    | some rest => rfl

theorem word?_placeless {t rest : Text} {outcome : Except ReadFault Document}
    (found : word? t = some (outcome, rest)) :
    outcome.mapError ReadFault.unifyLineEnds = outcome := by
  obtain ⟨entry, member, isPrefix⟩ := List.exists_of_findSome?_eq_some found
  obtain ⟨_, _, same⟩ := Option.map_eq_some_iff.mp isPrefix
  rw [← (Prod.mk.inj same).1]
  exact (words_inLine entry member).2

theorem number_placeless (literal : NumberLiteral) :
    literal.number.mapError ReadFault.unifyLineEnds = literal.number := by
  rw [NumberLiteral.number]
  split
  · split <;> rfl
  · rfl

/-- What is read as a whole, with no place in its faults, is read alike. -/
theorem unified_placeless {α β : Type} {outcome : Except ReadFault α}
    (placeless : outcome.mapError ReadFault.unifyLineEnds = outcome) (use : α → β) (rest : Text) :
    outcome.map (fun found => (use found, rest.unifyLineEnds)) =
      unified (outcome.map fun found => (use found, rest)) := by
  cases outcome with
  | error fault => exact congrArg Except.error (Except.error.inj placeless).symm
  | ok value => rfl

/-- A word or a number is read alike. -/
theorem wordOrNumber_unifyLineEnds (t : Text) :
    wordOrNumber t.unifyLineEnds = unified (wordOrNumber t) := by
  rw [wordOrNumber, wordOrNumber, word?_unifyLineEnds]
  cases word : word? t with
  | some found => exact unified_placeless (word?_placeless word) id found.2
  | none =>
    rw [Option.map_none, NumberLiteral.read?_unifyLineEnds]
    cases NumberLiteral.read? t with
    | none => rfl
    | some found => exact unified_placeless (number_placeless found.1) Json.number found.2

/-- A function reads alike from a text and from the text with unified line ends. -/
def ReadsAlike {α : Type} (read : Text → Except ReadFault (α × Text)) : Prop :=
  ∀ t : Text, read t.unifyLineEnds = unified (read t)

/-- Steps that read alike, one after the other, read alike together. -/
theorem unified_bind {α β : Type} {first : Except ReadFault (α × Text)}
    {next nextUnified : α × Text → Except ReadFault (β × Text)}
    (alike : ∀ (value : α) (rest : Text),
      nextUnified (value, rest.unifyLineEnds) = unified (next (value, rest))) :
    unified first >>= nextUnified = unified (first >>= next) := by
  cases first with
  | error fault => rfl
  | ok found => exact alike found.1 found.2

section Containers

variable {α : Type} {close : Char} {item : Text → Except ReadFault (α × Text)}

/-- Items are read alike when each of them is. -/
theorem items_unifyLineEnds (alike : ReadsAlike item) (bound : Nat) :
    ReadsAlike (items close item bound) := by
  induction bound with
  | zero => exact fun _ => rfl
  | succ bound inductionHypothesis =>
    intro t
    rw [items, items, alike t]
    refine unified_bind fun value rest => ?_
    dsimp only
    rw [skipBlanks_unifyLineEnds]
    rcases skipBlanks_cases rest with ended | ⟨c, later, behind, kept⟩
    · rw [ended]
      rfl
    rw [behind, kept]
    cases c with
    | surrogate =>
      dsimp only
      rw [← kept]
      rfl
    | scalar c =>
      dsimp only
      by_cases isClose : c = close
      · rw [if_pos isClose, if_pos isClose]
        rfl
      by_cases isComma : c = ','
      · rw [if_neg isClose, if_neg isClose, if_pos isComma, if_pos isComma,
          skipBlanks_unifyLineEnds, inductionHypothesis (skipBlanks later)]
        exact unified_bind fun _ _ => rfl
      · rw [if_neg isClose, if_neg isClose, if_neg isComma, if_neg isComma, ← kept]
        rfl

/-- So is a container. -/
theorem container_unifyLineEnds (alike : ReadsAlike item) (bound : Nat) :
    ReadsAlike (container bound close item) := by
  intro t
  have listed : items close item bound (skipBlanks t).unifyLineEnds =
      unified (items close item bound (skipBlanks t)) := items_unifyLineEnds alike bound _
  rw [container, container, skipBlanks_unifyLineEnds]
  rcases skipBlanks_cases t with ended | ⟨c, later, behind, kept⟩
  · rw [ended] at listed ⊢
    exact listed
  rw [behind, kept] at listed
  rw [behind, kept]
  cases c with
  | surrogate => exact listed
  | scalar c =>
    dsimp only
    by_cases isClose : c = close
    · rw [if_pos isClose, if_pos isClose]
      rfl
    · rw [if_neg isClose, if_neg isClose]
      exact listed

end Containers

/-- Behind its quote a key is a string literal, a colon comes behind the key and a value behind
the colon. -/
theorem member_quoted (value : Text → Except ReadFault (Document × Text)) (body : Text) :
    member value (.scalar '"' :: body) =
      StringLiteral.read (.scalar '"' :: body) body >>= fun (key, rest) =>
        if (skipBlanks rest).head? = some (.scalar ':') then
          value (skipBlanks (skipBlanks rest).tail) >>= fun (found, rest) =>
            .ok ((key, found), rest)
        else .error (.malformed .colon (skipBlanks rest)) := by
  rw [member]
  refine congrArg _ (funext fun found => ?_)
  dsimp only
  split
  · next rest behind =>
    rw [behind]
    rfl
  · next noColon =>
    rw [if_neg fun first => noColon _ (eq_cons_of_head? first)]

theorem member_unquoted (value : Text → Except ReadFault (Document × Text)) {t : Text}
    (unquoted : t.head? ≠ some (.scalar '"')) :
    member value t = .error (.malformed .propertyName t) := by
  rw [member]
  rintro body rfl
  exact unquoted rfl

/-- A member is read alike when its value is. -/
theorem member_unifyLineEnds {value : Text → Except ReadFault (Document × Text)}
    (alike : ReadsAlike value) : ReadsAlike (member value) := by
  intro t
  by_cases quoted : t.head? = some (.scalar '"')
  · obtain ⟨body, rfl⟩ : ∃ body, t = .scalar '"' :: body := ⟨_, eq_cons_of_head? quoted⟩
    have key := StringLiteral.read_unifyLineEnds (.scalar '"' :: body) body
    rw [unifyLineEnds_cons (by decide)] at key ⊢
    rw [member_quoted, member_quoted, key]
    refine unified_bind fun key rest => ?_
    have colon := unifyLineEnds_head? (.scalar ':') (by decide) (skipBlanks rest)
    simp only [skipBlanks_unifyLineEnds, colon]
    split
    · next first =>
      rw [unifyLineEnds_tail first (by decide), skipBlanks_unifyLineEnds, alike]
      exact unified_bind fun _ _ => rfl
    · rfl
  · have unquoted := (unifyLineEnds_head? (.scalar '"') (by decide) t).not.mpr quoted
    rw [member_unquoted value quoted, member_unquoted value unquoted]
    rfl

/-- A value is read alike, by induction on the depth that is left. -/
theorem value_unifyLineEnds (bound depth : Nat) : ReadsAlike (value bound depth) := by
  have inLine : ∀ mark ∈ ['"', '[', '\x7b'],
      CodePoint.scalar mark ≠ .scalar '\r' ∧ CodePoint.scalar mark ≠ .scalar '\n' :=
    List.all_iff_forall_prop.mp (by decide)
  induction depth using Nat.strong_induction_on with
  | _ depth inductionHypothesis =>
    intro t
    by_cases plain : ∀ mark ∈ ['"', '[', '\x7b'], t.head? ≠ some (.scalar mark)
    · have plainUnified : ∀ mark ∈ ['"', '[', '\x7b'],
          t.unifyLineEnds.head? ≠ some (.scalar mark) := by
        intro mark isMark
        rw [Ne, unifyLineEnds_head? _ (inLine mark isMark)]
        exact plain mark isMark
      rw [value_plain bound depth plain, value_plain bound depth plainUnified]
      exact wordOrNumber_unifyLineEnds t
    · push Not at plain
      obtain ⟨mark, isMark, first⟩ := plain
      obtain ⟨body, rfl⟩ : ∃ body, t = .scalar mark :: body := ⟨_, eq_cons_of_head? first⟩
      have kept := unifyLineEnds_cons (inLine mark isMark).1 body
      simp only [List.mem_cons, List.not_mem_nil, or_false] at isMark
      rcases isMark with rfl | rfl | rfl
      · have string := StringLiteral.read_unifyLineEnds (.scalar '"' :: body) body
        rw [kept] at string ⊢
        rw [value, value, string]
        exact unified_bind fun _ _ => rfl
      · rw [kept]
        cases depth with
        | zero => rfl
        | succ depth =>
          have alike := inductionHypothesis depth (Nat.lt_succ_self depth)
          rw [value, value, container_unifyLineEnds alike]
          exact unified_bind fun _ _ => rfl
      · rw [kept]
        cases depth with
        | zero => rfl
        | succ depth =>
          have alike := inductionHypothesis depth (Nat.lt_succ_self depth)
          rw [value, value, container_unifyLineEnds (member_unifyLineEnds alike)]
          exact unified_bind fun _ _ => rfl

/-! ### Bounds -/

/-- Whatever is read takes something of the text. -/
def Consumes {α : Type} (read : Text → Except ReadFault (α × Text)) : Prop :=
  ∀ ⦃t rest : Text⦄ ⦃found : α⦄, read t = .ok (found, rest) → rest.length < t.length

theorem value_consumes (bound depth : Nat) : Consumes (value bound depth) := by
  intro t rest document read
  obtain ⟨tree, _, rfl⟩ := value_sound bound depth read
  obtain ⟨c, _, others, begins⟩ := text_begins tree
  rw [begins, List.length_append, List.length_cons]
  omega

theorem skipBlanks_length (t : Text) : (skipBlanks t).length ≤ t.length :=
  (List.dropWhile_suffix _).length_le

theorem literal_shorter {opening t rest meant : Text}
    (found : StringLiteral.read opening t = .ok (meant, rest)) : rest.length < t.length := by
  obtain ⟨characters, _, rfl⟩ := StringLiteral.read_sound found
  rw [List.length_append, List.length_cons]
  omega

theorem member_consumes {value : Text → Except ReadFault (Document × Text)}
    (consumes : Consumes value) : Consumes (member value) := by
  intro t rest found read
  by_cases quoted : t.head? = some (.scalar '"')
  · obtain ⟨body, rfl⟩ : ∃ body, t = .scalar '"' :: body := ⟨_, eq_cons_of_head? quoted⟩
    rw [member_quoted] at read
    obtain ⟨⟨key, behind⟩, readKey, further⟩ := bind_eq_ok_iff.mp read
    have keyShorter := literal_shorter readKey
    dsimp only at further
    split at further
    · obtain ⟨⟨document, ended⟩, readValue, same⟩ := bind_eq_ok_iff.mp further
      obtain ⟨rfl, rfl⟩ := Prod.mk.inj (Except.ok.inj same)
      have valueShorter := consumes readValue
      have skipped := skipBlanks_length behind
      have skippedBehind := skipBlanks_length (skipBlanks behind).tail
      rw [List.length_tail] at skippedBehind
      rw [List.length_cons]
      dsimp only at valueShorter ⊢
      omega
    · exact absurd further (by simp)
  · rw [member_unquoted value quoted] at read
    exact absurd read (by simp)

section Bounds

variable {α : Type} {close : Char} {first second : Text → Except ReadFault (α × Text)}

/-- Two functions read the same from every text up to a length. -/
def AgreeWithin (limit : Nat) (first second : Text → Except ReadFault (α × Text)) : Prop :=
  ∀ t : Text, t.length ≤ limit → first t = second t

/-- The bound for the items makes no difference when it is larger than the text. -/
theorem items_bound {limit : Nat} (agree : AgreeWithin limit first second)
    (consumes : Consumes second) {bound : Nat} : ∀ {other : Nat} {t : Text}, t.length ≤ limit →
      t.length < bound → t.length < other →
      items close first bound t = items close second other t := by
  induction bound with
  | zero => exact fun _ impossible => absurd impossible (Nat.not_lt_zero _)
  | succ bound inductionHypothesis =>
    intro other t within enough enoughOther
    obtain ⟨other, rfl⟩ := Nat.exists_eq_add_one_of_ne_zero (Nat.ne_zero_of_lt enoughOther)
    rw [items, items, agree t within]
    apply bind_congr_ok
    rintro ⟨value, rest⟩ read
    have shorter := consumes read
    have skipped := skipBlanks_length rest
    dsimp only
    split
    · next c later behind =>
      have skippedLater := skipBlanks_length later
      rw [behind, List.length_cons] at skipped
      have others : items close first bound (skipBlanks later) =
          items close second other (skipBlanks later) :=
        inductionHypothesis (by omega) (by omega) (by omega)
      rw [others]
    · rfl

theorem container_bound {limit : Nat} (agree : AgreeWithin limit first second)
    (consumes : Consumes second) {bound other : Nat} {t : Text} (within : t.length ≤ limit)
    (enough : t.length < bound) (enoughOther : t.length < other) :
    container bound close first t = container other close second t := by
  have skipped := skipBlanks_length t
  have listed : items close first bound (skipBlanks t) = items close second other (skipBlanks t) :=
    items_bound agree consumes (by omega) (skipped.trans_lt enough) (skipped.trans_lt enoughOther)
  rw [container, container]
  split
  · next c rest behind =>
    rw [behind] at listed
    rw [listed]
  · exact listed

end Bounds

theorem member_bound {limit : Nat} {first second : Text → Except ReadFault (Document × Text)}
    (agree : AgreeWithin limit first second) :
    AgreeWithin limit (member first) (member second) := by
  intro t within
  by_cases quoted : t.head? = some (.scalar '"')
  · obtain ⟨body, rfl⟩ : ∃ body, t = .scalar '"' :: body := ⟨_, eq_cons_of_head? quoted⟩
    rw [member_quoted, member_quoted]
    apply bind_congr_ok
    rintro ⟨key, rest⟩ read
    have shorter := literal_shorter read
    have skipped := skipBlanks_length rest
    have skippedBehind := skipBlanks_length (skipBlanks rest).tail
    rw [List.length_tail] at skippedBehind
    rw [List.length_cons] at within
    dsimp only
    rw [agree _ (by omega)]
  · rw [member_unquoted first quoted, member_unquoted second quoted]

/-- A value is read the same within any bounds that are as large as the text. -/
theorem value_bound (depth : Nat) {limit bound other : Nat} (enough : limit ≤ bound)
    (enoughOther : limit ≤ other) : AgreeWithin limit (value bound depth) (value other depth) := by
  induction depth using Nat.strong_induction_on with
  | _ depth inductionHypothesis =>
    intro t within
    rw [value.eq_def, value.eq_def]
    split
    · rfl
    · rfl
    · rfl
    · next lower rest =>
      have agree := inductionHypothesis lower (Nat.lt_succ_self lower)
      rw [List.length_cons] at within
      have elements : container bound ']' (value bound lower) rest =
          container other ']' (value other lower) rest :=
        container_bound agree (value_consumes other lower) (by omega) (by omega) (by omega)
      dsimp only
      rw [elements]
    · next lower rest =>
      have agree := member_bound (inductionHypothesis lower (Nat.lt_succ_self lower))
      rw [List.length_cons] at within
      have members : container bound '\x7d' (member (value bound lower)) rest =
          container other '\x7d' (member (value other lower)) rest :=
        container_bound agree (member_consumes (value_consumes other lower))
          (by omega) (by omega) (by omega)
      dsimp only
      rw [members]
    · rfl

/-! ### Texts -/

/-- The text of a document is read alike. -/
theorem text_unifyLineEnds (t : Text) :
    text t.unifyLineEnds = (text t).mapError ReadFault.unifyLineEnds := by
  have mark := unifyLineEnds_head? (.ofNat 0xFEFF) (by decide) t
  by_cases marked : t.head? = some (.ofNat 0xFEFF)
  · rw [text, text, if_pos marked, if_pos (mark.mpr marked)]
    rfl
  · rw [text, text, if_neg marked, if_neg (mark.not.mpr marked)]
    have shorter := unifyLineEnds_length t
    have skipped := skipBlanks_length t.unifyLineEnds
    have bounded := value_bound Nesting.frames (Nat.le_refl _) shorter _ skipped
    rw [bounded, skipBlanks_unifyLineEnds, value_unifyLineEnds]
    cases value t.length Nesting.frames (skipBlanks t) with
    | error fault => rfl
    | ok found =>
      obtain ⟨document, rest⟩ := found
      simp only [unified, bind, Except.bind, skipBlanks_unifyLineEnds]
      rcases skipBlanks_cases rest with ended | ⟨c, later, behind, kept⟩
      · rw [ended]
        rfl
      · rw [behind, kept]
        exact congrArg (Except.error ∘ ReadFault.malformed .extraData) kept.symm

end Reader

namespace Document

/-- A text and the text with unified line ends have the same document, and without one the faults
correspond. -/
theorem ofText_unifyLineEnds (t : Text) :
    ofText t.unifyLineEnds = (ofText t).mapError ReadFault.unifyLineEnds := by
  rw [ofText, ofText, Reader.text_unifyLineEnds]
  cases Reader.text t with
  | error fault => rfl
  | ok document =>
    simp only [Except.mapError, bind, Except.bind]
    split <;> rfl

end Document

end TypeSketch
