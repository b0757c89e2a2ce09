import TypeSketch.Datum.Display

/-!
# Admitting host data as JSON

Loose data is admitted as a JSON value when every part of it can be one. Parts that are
JSON values already are taken as they are, without a look at their members. The first
offence from left to right is reported; in an item of a mapping the key is looked at
before the value. A report on a key shows it, within the frames that are left where it
stands; a key that cannot be shown is refused for that. Numbers are admitted whatever
their value.
-/

namespace TypeSketch.Datum

/-- Why a datum is no JSON value. -/
inductive Refusal where
  | unsupported (typeName : Text)
  /-- A key that is no text, with its display. -/
  | keyNotText (key : Datum) (shown : Text)
  /-- A key that is no text and has no display either. -/
  | keyNotShown (key : Datum) (fault : DisplayFault)
  | tooDeep

/-- The refusal of a key that is no text, in a budget of frames for its display. -/
def refusedKey (frames : Nat) (key : Datum) : Refusal :=
  match key.displayWithin frames with
  | .ok shown => .keyNotText key shown
  | .error fault => .keyNotShown key fault

/-- The JSON value that a datum stands for. A sequence takes two frames, a mapping one. -/
def toJsonWithin : Nat → Datum → Except Refusal (Json Datum)
  | _, .json value => .ok value
  | _, .none => .ok .null
  | _, .bool value => .ok (.bool value)
  | _, .number value => .ok (.number value)
  | _, .text value => .ok (.string value)
  | _, .set _ => .error (.unsupported "set")
  | _, .bytes _ => .error (.unsupported "bytes")
  | _, .instanceOf typeName => .error (.unsupported typeName)
  | frames + 2, .list items => .array <$> items.mapM (toJsonWithin frames)
  | frames + 2, .tuple items => .array <$> items.mapM (toJsonWithin frames)
  | frames + 1, .mapping items =>
    .object <$> items.mapM fun ((key, value) : Datum × Datum) =>
      match key with
      | .text key => (key, ·) <$> toJsonWithin frames value
      | _ => .error (refusedKey frames key)
  | _, _ => .error .tooDeep

/-- The JSON value that a datum stands for, within the nesting limit. -/
def toJson (datum : Datum) : Except Refusal (Json Datum) := toJsonWithin Nesting.frames datum

namespace Refusal

/-- What is said about a refusal. One for a limit, of nesting or of digits, has no words of its
own. -/
def message? : Refusal → Option Text
  | .unsupported typeName => some (("Unsupported JSON value of type " : Text) ++ typeName)
  | .keyNotText _ shown => some (("JSON object keys must be strings, got " : Text) ++ shown)
  | .keyNotShown _ _ | .tooDeep => Option.none

end Refusal

end TypeSketch.Datum
