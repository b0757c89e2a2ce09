import TypeSketch.Datum.Admission
import TypeSketch.Generator
import TypeSketch.Json.Reader

/-!
# Conversion

A text or a datum is converted to the text of its declarations, which is empty when
there is no object to declare. A text is read first and host data are admitted first;
each step has faults of its own. Validation reads a text and forgets the document.
-/

namespace TypeSketch

/-- Why a text is not converted. -/
inductive ConvertFault where
  | read (fault : ReadFault)
  | walk (fault : WalkFault Empty)

/-- Why a datum is not converted. -/
inductive DatumFault where
  | refused (refusal : Datum.Refusal)
  | walk (fault : WalkFault Datum)

/-- The declarations of a text. -/
def convert (style : Style) (text : Text) : Except ConvertFault Text := do
  let document ← (Document.ofText text).mapError .read
  let registry ← (Generator.declarations style document).mapError .walk
  return registry.text

/-- The declarations of a datum. -/
def convertDatum (style : Style) (datum : Datum) : Except DatumFault Text := do
  let value ← datum.toJson.mapError .refused
  let registry ← (Generator.declarations style value).mapError .walk
  return registry.text

/-- What is wrong with a text, if anything is; a blank text is not complained about. -/
def validate (text : Text) : Option Text :=
  if text.isBlank then none
  else match Document.ofText text with
    | .ok _ => none
    | .error fault => some (fault.message text)

/-- What is said about a conversion that reads well and fails afterwards. -/
def conversionFailed : Text := "Failed to generate TypeScript declarations."

/-- What is said about a text that is not converted. -/
def ConvertFault.message (text : Text) : ConvertFault → Text
  | .read fault => fault.message text
  | .walk _ => conversionFailed

/-- How much of a display is shown for a foreign member. -/
def shownLength : Nat := 100

/-- What is said about a foreign member where a JSON value is needed, if it has a display. The
display has a budget of its own: the frames of the walk are not counted. -/
def foreignMessage (value : Datum) : Except Datum.DisplayFault Text :=
  value.display.map fun (shown : Text) =>
    ("Expected code to be unreachable, but got: " : Text) ++
      (if shownLength < shown.length then shown.take shownLength ++ ("..." : Text) else shown)

end TypeSketch
