import TypeSketch.Proofs.Admission
import TypeSketch.Proofs.CheckedWalk
import TypeSketch.Proofs.Conversion

/-!
# How conversions fail

A conversion is a sequence of steps each of which has refusals of its own. Loose data may hold what
no JSON value can be; a member of a ready-made value may be none; an insertion may ask for a name
that was never reserved; and every walk may be nested too deeply. Here all these refusals are kept
apart from the first step to the last, and for a text the steps are taken on what reading gives at
first.

Most of them are never met. What is read from a text is admitted unless it is nested too deeply, and
no foreign member is in it. No insertion is refused. A datum is found unfit just when admission
refuses it in words, and a foreign member is met only if one is held by an array or an object among
its ready-made parts.

A datum that is refused, or a foreign member that is met, has to be shown. This fails by itself when
an integer in it has more digits than are written, so `Presentable` is the assumption that there is
no such integer where something may have to be shown.
-/

namespace TypeSketch

/-- What an error is about, with what is said about it. -/
inductive Cause where
  /-- Something that no JSON value can be. -/
  | unfit (message : Text)
  /-- Something else where a JSON value was expected. -/
  | unexpected (message : Text)
  /-- An insertion that the registry refuses. -/
  | neverReserved (message : Text)
  /-- An integer that is not written, in what would have to be shown. -/
  | digits (message : Text)
  /-- Nesting beyond the limit. -/
  | depth
deriving DecidableEq

/-- How a conversion fails. -/
inductive Failure where
  /-- The text is no JSON text that can be read. -/
  | parse (fault : ReadFault)
  /-- What has been read is refused for a cause that reading does not reckon with. -/
  | escaped (cause : Cause)
  /-- The conversion is given up for a cause. -/
  | conversion (cause : Cause)
deriving DecidableEq

/-- The cause when something cannot be displayed. -/
def Datum.DisplayFault.cause (fault : DisplayFault) : Cause :=
  match fault.message? with
  | some message => .digits message
  | Option.none => .depth

/-- The cause when a datum is refused: what is said of the refusal, or the reason why its key is not
shown. -/
def Datum.Refusal.cause (refusal : Datum.Refusal) : Cause :=
  match refusal, refusal.message? with
  | _, some message => .unfit message
  | .keyNotShown _ fault, Option.none => fault.cause
  | _, Option.none => .depth

def WalkFault.cause : WalkFault Datum → Cause
  | .foreign value =>
    match foreignMessage value with
    | .ok message => .unexpected message
    | .error fault => fault.cause
  | .tooDeep => .depth

def DatumFault.failure : DatumFault → Failure
  | .refused refusal => .conversion refusal.cause
  | .walk fault => .conversion fault.cause

def ConvertFault.failure : ConvertFault → Failure
  | .read fault => .parse fault
  | .walk fault => .conversion (fault.map Empty.elim).cause

namespace Generator

/-- The output for a value, with every insertion checked. -/
def outputChecked (style : Style) (value : Json Datum) : Except Failure Text :=
  match runChecked (generateChecked style TypeName.root value) .empty with
  | (.ok (.ok _), registry) => .ok registry.text
  | (.ok (.error refusal), _) => .error (.conversion (.neverReserved refusal.message))
  | (.error fault, _) => .error (.conversion fault.cause)

/-- The output for a datum, with every insertion checked. -/
def convertDatumChecked (style : Style) (datum : Datum) : Except Failure Text := do
  let value ← datum.toJson.mapError fun refusal => .conversion refusal.cause
  outputChecked style value

/-- The value that a text is read as: what reading gives is loose data, and these are admitted.
Nesting beyond the limit is a fault of the text. Any other refusal is kept apart here, also one for
digits, which would be reported as a fault of the text as well. -/
def readChecked (text : Text) : Except Failure (Json Datum) := do
  let document ← (Reader.text text).mapError .parse
  match (Document.loose document).toJson with
  | .ok value => return value
  | .error refusal =>
    match refusal.cause with
    | .depth => throw (.parse .tooDeep)
    | cause => throw (.escaped cause)

/-- The output for a text, with every insertion checked: what is read is converted like a
ready-made value. -/
def convertChecked (style : Style) (text : Text) : Except Failure Text := do
  let value ← readChecked text
  convertDatumChecked style (.json value)

/-- No insertion is refused, so the output is that of the declarations. -/
theorem outputChecked_exact (style : Style) (value : Json Datum) :
    outputChecked style value =
      ((declarations style value).mapError fun fault => .conversion fault.cause).map
        Registry.text := by
  rw [outputChecked, generateChecked_exact, declarations]
  rcases runOn .empty (generate style TypeName.root value) with ⟨fault | type, registry⟩ <;> rfl

/-- What is read is never refused but for its nesting. -/
theorem readChecked_exact (text : Text) :
    readChecked text =
      ((Document.ofText text).mapError Failure.parse).map Document.ready := by
  rw [readChecked, Document.ofText]
  cases Reader.text text with
  | error fault => rfl
  | ok document =>
    have admitted := Document.loose_admitted document Nesting.frames
    change (match (Document.loose document).toJsonWithin Nesting.frames with
      | .ok value => Except.ok value
      | .error refusal =>
        match refusal.cause with
        | .depth => .error (.parse .tooDeep)
        | cause => .error (.escaped cause)) =
      (Except.mapError Failure.parse (if document.admissibleWithin Nesting.frames then
        .ok document else .error .tooDeep)).map Document.ready
    rw [admitted]
    by_cases shallow : document.admissibleWithin Nesting.frames = true
    · rw [if_pos shallow, if_pos shallow]
      rfl
    · rw [if_neg shallow, if_neg shallow]
      rfl

/-- The declarations of a document are those of the ready-made value. -/
theorem declarations_ready (style : Style) (document : Document) :
    declarations style document.ready =
      (declarations style document).mapError (WalkFault.map Empty.elim) := by
  have redeclared (declaration : Declaration) :
      id (Entry.declared style declaration) = .declared style declaration := rfl
  have mirrored := declarations_mirror redeclared (Json.map_alike (σ := Datum) Empty.elim document)
  rw [Registry.map_id] at mirrored
  rw [Document.ready, mirrored]
  cases declarations style document <;> rfl

theorem convertChecked_exact (style : Style) (text : Text) :
    convertChecked style text = (convert style text).mapError ConvertFault.failure := by
  rw [convertChecked, readChecked_exact, convert]
  cases Document.ofText text with
  | error fault => rfl
  | ok document =>
    change outputChecked style document.ready =
      ((declarations style document).mapError _ >>= _).mapError _
    rw [outputChecked_exact, declarations_ready]
    cases declarations style document <;> rfl

variable {style : Style} {datum : Datum}

-- The last case is met: a key of this length cannot be shown, and nothing is said about the key.
example : convertDatumChecked {} (.mapping [(.number (.int (10 ^ 5000)), .none)]) =
    .error (.conversion Datum.DisplayFault.longInteger.cause) := by decide +kernel

/-- A mapping with a number as a key. -/
def numbered : Datum := .mapping [(.number (.int 1), .none)]

end Generator

end TypeSketch
