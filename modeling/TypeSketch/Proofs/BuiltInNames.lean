import Mathlib.Data.List.Forall2
import TypeSketch.Proofs.Inhabitants

/-!
# Names of built-in types

A type is written as a word whether it is primitive or declared, so a declaration that bears
the name of a primitive type would take its place. Five of the six names begin with a small
letter, as no declared name does. The sixth is `Date`: an object under a key such as `date`
is declared by this name, and by nothing else, since a number behind another candidate
does not give it.

While there is no such object, a property is typed `Date` if and only if the member it
stands for is a string that begins with a date and a time of day. To say this of all
declarations, each is led back to an object in the value, member by member.
-/

namespace TypeSketch

variable {ρ : Type}

/-- Different primitive types have different names. -/
theorem Primitive.text_injective {a b : Primitive} (same : a.text = b.text) : a = b := by
  have read := Primitive.ofText?_text a
  rw [same, Primitive.ofText?_text b] at read
  exact (Option.some.inj read).symm

namespace Generator

/-- The properties that a walk gives to members: each has the key of its member and a type
that a walk over the member returns. -/
def Describes (style : Style) (properties : List (Text × TypeExpr)) (members : Members ρ) :
    Prop :=
  List.Forall₂ (fun property member => property.1 = member.1 ∧
    ∃ name before after, Declares style name member.2 before property.2 after) properties members

theorem declaresAll_describes {style : Style} {members : Members ρ}
    {properties : List (Text × TypeExpr)} {registry result : Registry Entry}
    (walked : DeclaresAll style members registry properties result) :
    Describes style properties members := by
  induction members generalizing registry properties with
  | nil =>
    cases walked
    exact .nil
  | cons member rest inductionHypothesis =>
    cases walked with
    | cons head tail => exact .cons ⟨rfl, _, _, _, head⟩ (inductionHypothesis tail)

/-- Whether an entry is the declaration of an object which is found in one of the values. -/
def DeclaredFrom (style : Style) (values : List (Json ρ)) (entry : Text × Entry) : Prop :=
  ∃ (declaration : Declaration) (members : Members ρ), entry = declaration.entry style ∧
    Describes style declaration.properties members ∧
    ∃ value ∈ values, Json.Occurs (.object members) value

mutual

/-- What a walk inserts are declarations of objects in the value. -/
theorem declares_origin {style : Style} {name : Text} {value : Json ρ} {type : TypeExpr}
    {registry result : Registry Entry}
    (walked : Declares style name value registry type result) {entry : Text × Entry}
    (inserted : entry ∈ result.inserted) :
    entry ∈ registry.inserted ∨ DeclaredFrom style [value] entry := by
  match walked with
  | .scalar _ | .empty | .mixed _ => exact .inl inserted
  | .uniform _ inner =>
    rcases declares_origin inner inserted with old | ⟨declaration, members, isEntry, described,
      other, isFirst, occurs⟩
    · exact .inl old
    · rw [List.mem_singleton.mp isFirst] at occurs
      exact .inr ⟨declaration, members, isEntry, described, _, List.mem_cons_self,
        .element List.mem_cons_self occurs⟩
  | @Declares.object _ _ name _ properties registry _ inner =>
    rw [Registry.complete_inserted] at inserted
    rcases List.mem_append.mp inserted with earlier | own
    · rcases declaresAll_origin inner earlier with old | ⟨declaration, members, isEntry,
        described, other, isMember, occurs⟩
      · exact .inl old
      · obtain ⟨⟨key, member⟩, inMembers, rfl⟩ := List.mem_map.mp isMember
        exact .inr ⟨declaration, members, isEntry, described, _, List.mem_cons_self,
          .member inMembers occurs⟩
    · exact .inr ⟨⟨registry.freeName name, properties⟩, _, List.mem_singleton.mp own,
        declaresAll_describes inner, _, List.mem_cons_self, .here⟩

theorem declaresAll_origin {style : Style} {members : Members ρ}
    {properties : List (Text × TypeExpr)} {registry result : Registry Entry}
    (walked : DeclaresAll style members registry properties result) {entry : Text × Entry}
    (inserted : entry ∈ result.inserted) :
    entry ∈ registry.inserted ∨ DeclaredFrom style (members.map Prod.snd) entry := by
  match walked with
  | .nil => exact .inl inserted
  | .cons head tail =>
    rcases declaresAll_origin tail inserted with earlier | ⟨declaration, inside, isEntry,
      described, value, isMember, occurs⟩
    · rcases declares_origin head earlier with old | ⟨declaration, inside, isEntry, described,
        value, isFirst, occurs⟩
      · exact .inl old
      · refine .inr ⟨declaration, inside, isEntry, described, value, ?_, occurs⟩
        exact List.mem_singleton.mp isFirst ▸ List.mem_cons_self
    · exact .inr ⟨declaration, inside, isEntry, described, value,
        List.mem_cons_of_mem _ isMember, occurs⟩

end

/-- The text of an array type is the name of no primitive type. -/
theorem array_text_ne (element : TypeExpr) (type : Primitive) :
    (TypeExpr.array element).text ≠ type.text := by
  intro same
  have ending := congrArg List.getLast? same
  rw [TypeExpr.text, List.getLast?_append_of_ne_nil _ (by decide)] at ending
  revert ending
  cases type <;> decide

/-- A type is written `Date` exactly for a string that begins with a date and a time of day,
unless it refers to a declaration of this name. -/
theorem declares_date_iff {style : Style} {name : Text} {value : Json ρ} {type : TypeExpr}
    {registry result : Registry Entry}
    (walked : Declares style name value registry type result)
    (undeclared : Primitive.date.text ∉ type.references) :
    type.text = Primitive.date.text ↔
      ∃ string, value = .string string ∧ string.isTimestamp = true := by
  match walked with
  | .scalar isScalar =>
    cases value with
    | null | bool | number =>
      constructor
      · intro same
        exact absurd (Primitive.text_injective same) (by simp [Json.primitive])
      · rintro ⟨_, impossible, _⟩
        exact absurd impossible (by simp)
    | string string =>
      rw [TypeExpr.text, Json.primitive]
      by_cases timestamp : string.isTimestamp = true
      · rw [if_pos timestamp]
        exact ⟨fun _ => ⟨string, rfl, timestamp⟩, fun _ => rfl⟩
      · rw [if_neg timestamp]
        constructor
        · intro same
          exact absurd (Primitive.text_injective same) (by decide)
        · rintro ⟨_, same, dated⟩
          exact absurd (Json.string.inj same ▸ dated) timestamp
    | array | object | foreign => exact absurd isScalar Bool.false_ne_true
  | .empty | .mixed _ | .uniform _ _ =>
    constructor
    · intro same
      exact absurd same (array_text_ne _ _)
    · rintro ⟨_, impossible, _⟩
      exact absurd impossible (by simp)
  | .object _ =>
    constructor
    · intro same
      exact absurd (List.mem_singleton.mpr same.symm) undeclared
    · rintro ⟨_, impossible, _⟩
      exact absurd impossible (by simp)

/-- Whether a property has the key of a member, and the type `Date` exactly if this is a
string that begins with a date and a time of day. -/
def DatesExactly (property : Text × TypeExpr) (member : Text × Json ρ) : Prop :=
  property.1 = member.1 ∧ (property.2.text = Primitive.date.text ↔
    ∃ string, member.2 = .string string ∧ string.isTimestamp = true)

/-- Without a declaration named `Date`, every declaration is that of an object in the value,
with its keys in order and the type `Date` for its timestamps alone. -/
theorem declarations_dates {style : Style} {value : Json ρ} {registry : Registry Entry}
    (returned : declarations style value = .ok registry)
    (dateless : Primitive.date.text ∉ registry.names) {name : Text} {entry : Entry}
    (inserted : (name, entry) ∈ registry.inserted) :
    ∃ (declaration : Declaration) (members : Members ρ), declaration.name = name ∧
      entry = .declared style declaration ∧ Json.Occurs (.object members) value ∧
      List.Forall₂ DatesExactly declaration.properties members := by
  obtain ⟨type, walked⟩ := declarations_iff.mp returned
  have sound := declarations_sound returned
  rcases declares_origin (generate_declares walked) inserted with impossible | origin
  · exact absurd impossible List.not_mem_nil
  · obtain ⟨declaration, members, isEntry, described, found, isValue, occurs⟩ := origin
    obtain ⟨rfl, rfl⟩ := Prod.mk.inj isEntry
    rw [List.mem_singleton.mp isValue] at occurs
    refine ⟨declaration, members, rfl, rfl, occurs, ?_⟩
    have undeclared : ∀ property ∈ declaration.properties,
        Primitive.date.text ∉ property.2.references := by
      intro property member dated
      refine dateless (sound.references_inserted inserted ?_)
      exact List.mem_flatMap.mpr ⟨property, member, dated⟩
    refine ((List.forall₂_and_left _ _).mpr ⟨undeclared, described⟩).imp ?_
    rintro property member ⟨noDate, sameKey, _, _, _, typed⟩
    exact ⟨sameKey, declares_date_iff typed noDate⟩

/-- No declaration has the name of a primitive type but `Date`, and this one is declared if
and only if an object that is visited has it as its candidate. -/
theorem declared_primitive_iff {style : Style} {value : Json ρ} {registry : Registry Entry}
    (returned : declarations style value = .ok registry) (type : Primitive) :
    type.text ∈ registry.names ↔
      type = .date ∧ Primitive.date.text ∈ (value.visited TypeName.root).names := by
  have inserted := declarations_inserted returned
  let named := ((value.visited TypeName.root).reserve (.empty : Registry Entry)).1
  have listed : registry.names = named.declarations.map Declaration.name := by
    rw [Registry.names, inserted, List.map_map]
    rfl
  have given : named.names = (Registry.reserveEach (value.visited TypeName.root).names
      (.empty : Registry Entry)).1 := by rw [Outline.reserve_names]
  have dated : Primitive.date.text ∈ named.names ↔
      Primitive.date.text ∈ (value.visited TypeName.root).names := by
    rw [given, TypeName.mem_reserveEach_iff (by decide)]
    exact and_iff_left rfl
  rw [listed, (Outline.declarations_names named).mem_iff]
  constructor
  · intro member
    have word := Outline.reserve_words (value.visited_words (by decide)) _ _ member
    have isDate : type = .date := TypeName.eq_date_of_word word
    subst isDate
    exact ⟨rfl, dated.mp member⟩
  · rintro ⟨rfl, candidate⟩
    exact dated.mpr candidate

/-- A text that converts has declared names that are no names of primitive types, except that
an object which is a candidate for `Date` takes this name. If there is none, every
declaration is that of an object of the document, and it has the type `Date` for those
members that are strings beginning with a date and a time of day, and for no others. -/
theorem primitive_names_undeclared_except_date {style : Style} {text output : Text}
    (returned : convert style text = .ok output) :
    ∃ (document : Document) (registry : Registry Entry),
      Document.ofText text = .ok document ∧ declarations style document = .ok registry ∧
      output = registry.text ∧
      (∀ type : Primitive, type.text ∈ registry.names ↔
        type = .date ∧ Primitive.date.text ∈ (document.visited TypeName.root).names) ∧
      (Primitive.date.text ∉ (document.visited TypeName.root).names →
        ∀ name entry, (name, entry) ∈ registry.inserted →
          ∃ (declaration : Declaration) (members : Members Empty), declaration.name = name ∧
            entry = .declared style declaration ∧ Json.Occurs (.object members) document ∧
            List.Forall₂ DatesExactly declaration.properties members) := by
  obtain ⟨document, registry, read, walked, rendered⟩ := convert_iff.mp returned
  have declared := declared_primitive_iff walked
  refine ⟨document, registry, read, walked, rendered, declared, ?_⟩
  intro noCandidate name entry inserted
  have dateless : Primitive.date.text ∉ registry.names := fun dated =>
    noCandidate ((declared .date).mp dated).2
  exact declarations_dates walked dateless inserted

/-- A text whose inner object asks for a name that resembles `Date`. -/
def stampedText : Text :=
  "\x7b\"dates\": \x7b\"at\": \"2025-03-30T12:00:00Z\", \"on\": \"2025-03-30\"\x7d\x7d"

def stampedMembers : Members Empty :=
  [("dates", .object [("at", .string "2025-03-30T12:00:00Z"), ("on", .string "2025-03-30")])]

theorem stamped_dates_exactly :
    ∃ (document : Document) (registry : Registry Entry),
      convert {} stampedText = .ok registry.text ∧
      declarations {} document = .ok registry ∧
      (∀ type : Primitive, type.text ∉ registry.names) ∧
      ∀ name entry, (name, entry) ∈ registry.inserted →
        ∃ (declaration : Declaration) (members : Members Empty), declaration.name = name ∧
          entry = .declared {} declaration ∧ Json.Occurs (.object members) document ∧
          List.Forall₂ DatesExactly declaration.properties members := by
  have read : Document.ofText stampedText = .ok (.object stampedMembers) := rfl
  have typed : (runOn .empty (generate {} TypeName.root (.object stampedMembers))).1.toOption =
      some (.named TypeName.root) := by decide +kernel
  obtain ⟨registry, walked⟩ := runOn_returns typed
  have returned : convert {} stampedText = .ok registry.text :=
    convert_iff.mpr ⟨_, registry, read, declarations_iff.mpr ⟨_, walked⟩, rfl⟩
  obtain ⟨document, result, readAgain, declared, rendered, primitives, origins⟩ :=
    primitive_names_undeclared_except_date returned
  have same : document = .object stampedMembers := Except.ok.inj (readAgain.symm.trans read)
  subst same
  have noCandidate : Primitive.date.text ∉
      ((Json.object stampedMembers).visited TypeName.root).names := by decide +kernel
  exact ⟨_, result, rendered ▸ returned, declared,
    fun type named => noCandidate ((primitives type).mp named).2, origins noCandidate⟩

/-- An object under the key `date`, beside a timestamp. -/
def datedText : Text := "\x7b\"date\": \x7b\x7d, \"at\": \"2025-03-30T12:00:00Z\"\x7d"

def datedMembers : Members Empty :=
  [("date", .object []), ("at", .string "2025-03-30T12:00:00Z")]

/-- The object is declared as `Date`, which is the type of the timestamp as well. -/
theorem object_declared_as_date :
    ∃ registry : Registry Entry,
      convert {} datedText = .ok registry.text ∧
      Document.ofText datedText = .ok (.object datedMembers) ∧
      declarations {} (.object datedMembers) = .ok registry ∧
      Primitive.date.text ∈ registry.names ∧
      registry.inserted.getLast? = some (TypeName.root, .declared {} ⟨TypeName.root,
        [("date", .named "Date"), ("at", .primitive .date)]⟩) := by
  have read : Document.ofText datedText = .ok (.object datedMembers) := rfl
  have typed : (runOn .empty (generate {} TypeName.root (.object datedMembers))).1.toOption =
      some (.named TypeName.root) := by decide +kernel
  have named : (runOn .empty (generate {} TypeName.root (.object datedMembers))).2.names =
      [Primitive.date.text, TypeName.root] := by decide +kernel
  have last : (runOn .empty (generate {} TypeName.root (.object datedMembers))).2.inserted.getLast?
      = some (TypeName.root, .declared {} ⟨TypeName.root,
        [("date", .named "Date"), ("at", .primitive .date)]⟩) := by decide +kernel
  obtain ⟨registry, walked⟩ := runOn_returns typed
  rw [walked] at named last
  have declared := declarations_iff.mpr ⟨_, walked⟩
  exact ⟨registry, convert_iff.mpr ⟨_, registry, read, declared, rfl⟩, read, declared,
    named ▸ List.mem_cons_self, last⟩

end Generator

end TypeSketch
