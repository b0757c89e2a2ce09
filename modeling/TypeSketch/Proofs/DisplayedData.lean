import TypeSketch.Datum.Display
import TypeSketch.Proofs.Fallible
import TypeSketch.Proofs.Inhabitants

/-!
# Data that can be displayed

A display goes through all containers of a datum, with a frame for each of them, and writes all
numbers that it finds there. So it is missing for two reasons only: more containers stand inside
each other than there are frames, or an integer has more digits than are written. Data and JSON
values may be inside each other, and the two are gone through together, by induction on the frames.

Frames are a limit and nothing else. A datum that is not nested too deeply for some of them is
displayed with more of them just as it is with these.
-/

namespace TypeSketch.Datum

mutual

/-- Whether there are no more than so many containers inside each other, of whatever kind. -/
def nestedWithin : Nat → Datum → Bool
  | _, .none | _, .bool _ | _, .number _ | _, .text _ | _, .bytes _ | _, .instanceOf _ => true
  | 0, _ => false
  | frames + 1, .list items => items.all (nestedWithin frames)
  | frames + 1, .tuple items => items.all (nestedWithin frames)
  | frames + 1, .set items => items.all (nestedWithin frames)
  | frames + 1, .mapping items =>
    items.all fun (key, value) => nestedWithin frames key && nestedWithin frames value
  | frames + 1, .json value => jsonNestedWithin frames value

def jsonNestedWithin : Nat → Json Datum → Bool
  | _, .null | _, .bool _ | _, .number _ | _, .string _ => true
  | 0, _ => false
  | frames + 1, .array elements => elements.all (jsonNestedWithin frames)
  | frames + 1, .object members => members.all fun (_, value) => jsonNestedWithin frames value
  | frames + 1, .foreign value => nestedWithin frames value

end

/-- A number that is found in a datum when all of it is displayed: keys and sets are gone through,
and so are JSON values and what is foreign in them. -/
inductive Shows (number : Number) : Datum → Prop where
  | number : Shows number (.number number)
  | listItem {items : List Datum} {item : Datum} (member : item ∈ items)
      (within : Shows number item) : Shows number (.list items)
  | tupleItem {items : List Datum} {item : Datum} (member : item ∈ items)
      (within : Shows number item) : Shows number (.tuple items)
  | setItem {items : List Datum} {item : Datum} (member : item ∈ items)
      (within : Shows number item) : Shows number (.set items)
  | mappingKey {items : List (Datum × Datum)} {key value : Datum} (member : (key, value) ∈ items)
      (within : Shows number key) : Shows number (.mapping items)
  | mappingValue {items : List (Datum × Datum)} {key value : Datum} (member : (key, value) ∈ items)
      (within : Shows number value) : Shows number (.mapping items)
  | ready {value : Json Datum} (occurs : Json.Occurs (.number number) value) :
      Shows number (.json value)
  | foreign {value : Json Datum} {raw : Datum} (occurs : Json.Occurs (.foreign raw) value)
      (within : Shows number raw) : Shows number (.json value)

/-- No integer in a datum has more digits than are written. -/
def Writable (datum : Datum) : Prop := ∀ number, Shows number datum → number.isLong = false

/-- What a fault says about a datum for which there are so many frames. -/
def DisplayFault.About (frames : Nat) (datum : Datum) : DisplayFault → Prop
  | .tooDeep => datum.nestedWithin frames = false
  | .longInteger => ∃ number, Shows number datum ∧ number.isLong = true

/-- A display fails for a reason: its fault says something true. -/
structure Explained (frames : Nat) : Prop where
  data : ∀ datum fault, displayWithin frames datum = .error fault → fault.About frames datum
  values : ∀ value fault, displayJsonWithin frames value = .error fault →
    fault.About (frames + 1) (.json value)

variable {frames : Nat} {fault : DisplayFault}

/-- What is true of a part is true of the container around it, which takes a frame more. -/
theorem DisplayFault.About.outer {more : Nat} {inner outer : Datum}
    (about : fault.About frames inner)
    (nests : inner.nestedWithin frames = false → outer.nestedWithin more = false)
    (shows : ∀ number, Shows number inner → Shows number outer) : fault.About more outer := by
  cases fault with
  | tooDeep => exact nests about
  | longInteger =>
    obtain ⟨number, found, long⟩ := about
    exact ⟨number, shows number found, long⟩

/-- A number fails for its digits alone, whatever the frames. -/
theorem about_number {number : Number} {outer : Datum}
    (failed : numberText number = .error fault) (shown : Shows number outer) :
    fault.About frames outer := by
  rw [numberText] at failed
  split at failed
  · next long =>
    cases failed
    exact ⟨number, shown, long⟩
  · cases failed

/-- A sequence fails as one of its items does. -/
theorem Explained.sequence (explained : Explained frames) {items : List Datum} {outer : Datum}
    (failed : items.mapM (displayWithin frames) = .error fault)
    (nests : outer.nestedWithin (frames + 1) = items.all (nestedWithin frames))
    (shows : ∀ item ∈ items, ∀ number, Shows number item → Shows number outer) :
    fault.About (frames + 1) outer := by
  obtain ⟨item, member, failedItem⟩ := error_of_mapM_error failed
  refine (explained.data item fault failedItem).outer (fun deep => ?_) (shows item member)
  rw [nests, List.all_eq_false]
  exact ⟨item, member, Bool.eq_false_iff.mp deep⟩

theorem explained_zero : Explained 0 where
  data datum fault failed := by
    cases datum with
    | number => exact about_number failed .number
    | none | bool | text | bytes | instanceOf => cases failed
    | list | tuple | mapping | json => cases failed; rfl
    | set items =>
      cases items with
      | nil => cases failed
      | cons => cases failed; rfl
  values value fault failed := by
    cases value with
    | number =>
      rw [displayJsonWithin, map_eq_error_iff] at failed
      exact about_number failed (.ready .here)
    | null | bool | string => cases failed
    | array | object | foreign => cases failed; rfl

/-- A fault with one more frame is one of a part. -/
theorem Explained.outer (explained : Explained frames) (datum : Datum)
    (failed : displayWithin (frames + 1) datum = .error fault) :
    fault.About (frames + 1) datum := by
  cases datum with
  | number => exact about_number failed .number
  | none | bool | text | bytes | instanceOf => cases failed
  | list items =>
    rw [displayWithin, map_eq_error_iff] at failed
    exact explained.sequence failed rfl fun _ member _ => .listItem member
  | tuple items =>
    rw [displayWithin, map_eq_error_iff] at failed
    exact explained.sequence failed rfl fun _ member _ => .tupleItem member
  | set items =>
    cases items with
    | nil => cases failed
    | cons first rest =>
      rw [displayWithin, map_eq_error_iff] at failed
      · exact explained.sequence failed rfl fun _ member _ => .setItem member
      · simp
  | mapping items =>
    rw [displayWithin, map_eq_error_iff] at failed
    obtain ⟨⟨key, value⟩, member, failedItem⟩ := error_of_mapM_error failed
    rcases bind_eq_error_iff.mp failedItem with ofKey | ⟨_, _, further⟩
    · exact (explained.data key fault ofKey).outer
        (fun deep => List.all_eq_false.mpr ⟨_, member, by simp [deep]⟩) fun _ => .mappingKey member
    · rcases bind_eq_error_iff.mp further with ofValue | ⟨_, _, impossible⟩
      · exact (explained.data value fault ofValue).outer
          (fun deep => List.all_eq_false.mpr ⟨_, member, by simp [deep]⟩)
          fun _ => .mappingValue member
      · cases impossible
  | json value =>
    rw [displayWithin] at failed
    exact explained.values value fault failed

/-- So it is for a JSON value. -/
theorem Explained.outerJson (explained : Explained frames) (value : Json Datum)
    (failed : displayJsonWithin (frames + 1) value = .error fault) :
    fault.About (frames + 2) (.json value) := by
  cases value with
  | number =>
    rw [displayJsonWithin, map_eq_error_iff] at failed
    exact about_number failed (.ready .here)
  | null | bool | string => cases failed
  | array elements =>
    rw [displayJsonWithin, map_eq_error_iff] at failed
    obtain ⟨element, member, failedElement⟩ := error_of_mapM_error failed
    refine (explained.values element fault failedElement).outer
      (fun deep => List.all_eq_false.mpr ⟨element, member, by simpa [nestedWithin] using deep⟩) ?_
    intro number shown
    cases shown with
    | ready occurs => exact .ready (.element member occurs)
    | foreign occurs within => exact .foreign (.element member occurs) within
  | object members =>
    rw [displayJsonWithin, map_eq_error_iff] at failed
    obtain ⟨⟨key, value⟩, member, failedMember⟩ := error_of_mapM_error failed
    rcases bind_eq_error_iff.mp failedMember with ofValue | ⟨_, _, impossible⟩
    · refine (explained.values value fault ofValue).outer
        (fun deep => List.all_eq_false.mpr ⟨_, member, by simpa [nestedWithin] using deep⟩) ?_
      intro number shown
      cases shown with
      | ready occurs => exact .ready (.member member occurs)
      | foreign occurs within => exact .foreign (.member member occurs) within
    · cases impossible
  | foreign raw =>
    rw [displayJsonWithin] at failed
    exact (explained.data raw fault failed).outer id fun _ => .foreign .here

theorem explained (frames : Nat) : Explained frames := by
  induction frames with
  | zero => exact explained_zero
  | succ frames inductionHypothesis =>
    exact ⟨fun datum _ => inductionHypothesis.outer datum,
      fun value _ => inductionHypothesis.outerJson value⟩

/-- What the frames are enough for is displayed alike with more of them. -/
structure Suffices (frames more : Nat) : Prop where
  data : ∀ datum, nestedWithin frames datum = true →
    displayWithin more datum = displayWithin frames datum
  values : ∀ value, jsonNestedWithin frames value = true →
    displayJsonWithin more value = displayJsonWithin frames value

variable {more : Nat}

theorem Suffices.items (enough : Suffices frames more) {items : List Datum}
    (nested : items.all (nestedWithin frames) = true) :
    items.mapM (displayWithin more) = items.mapM (displayWithin frames) := by
  rw [List.all_eq_true] at nested
  exact mapM_congr_mem fun item member => enough.data item (nested item member)

/-- Frames that are enough for the parts are enough, with one more, for the whole. -/
theorem Suffices.outer (enough : Suffices frames more) (datum : Datum)
    (nested : nestedWithin (frames + 1) datum = true) :
    displayWithin (more + 1) datum = displayWithin (frames + 1) datum := by
  cases datum with
  | none | bool | number | text | bytes | instanceOf => rw [displayWithin, displayWithin]
  | list items =>
    rw [nestedWithin] at nested
    rw [displayWithin, displayWithin, enough.items nested]
  | tuple items =>
    rw [nestedWithin] at nested
    rw [displayWithin, displayWithin, enough.items nested]
  | set items =>
    cases items with
    | nil => rw [displayWithin, displayWithin]
    | cons first rest =>
      rw [nestedWithin] at nested
      rw [displayWithin, displayWithin, enough.items nested] <;> simp
  | mapping items =>
    rw [nestedWithin, List.all_eq_true] at nested
    rw [displayWithin, displayWithin]
    refine congrArg _ (mapM_congr_mem ?_)
    rintro ⟨key, value⟩ member
    have parts := nested _ member
    rw [Bool.and_eq_true] at parts
    change (displayWithin more key >>= fun _ => displayWithin more value >>= _) = _
    rw [enough.data key parts.1, enough.data value parts.2]
  | json value =>
    rw [nestedWithin] at nested
    rw [displayWithin, displayWithin]
    exact enough.values value nested

theorem Suffices.outerJson (enough : Suffices frames more) (value : Json Datum)
    (nested : jsonNestedWithin (frames + 1) value = true) :
    displayJsonWithin (more + 1) value = displayJsonWithin (frames + 1) value := by
  cases value with
  | null | bool | number | string => rw [displayJsonWithin, displayJsonWithin]
  | array elements =>
    rw [jsonNestedWithin, List.all_eq_true] at nested
    rw [displayJsonWithin, displayJsonWithin]
    exact congrArg _ (mapM_congr_mem fun element member =>
      enough.values element (nested element member))
  | object members =>
    rw [jsonNestedWithin, List.all_eq_true] at nested
    rw [displayJsonWithin, displayJsonWithin]
    refine congrArg _ (mapM_congr_mem ?_)
    rintro ⟨key, value⟩ member
    change (displayJsonWithin more value >>= _) = _
    rw [enough.values value (nested _ member)]
  | foreign raw =>
    rw [jsonNestedWithin] at nested
    rw [displayJsonWithin, displayJsonWithin]
    exact enough.data raw nested

end TypeSketch.Datum
