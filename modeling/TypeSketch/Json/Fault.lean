import TypeSketch.Text.LineEnd

/-!
# Faults in a JSON text

Reading stops at the first fault. A fault in the grammar has a place: the text that
remains there, which is a suffix of the document. The other faults concern a whole
token or the document, and have no place.
-/

namespace TypeSketch

/-- What the grammar finds wrong at a place. -/
inductive Complaint where
  | value
  | propertyName
  | colon
  | comma
  | extraData
  | unterminatedString
  | controlCharacter
  | escape
  | unicodeEscape
  | byteOrderMark
deriving DecidableEq, Repr

/-- Why a text is refused. -/
inductive ReadFault where
  /-- The grammar is violated where the text that remains begins. -/
  | malformed (complaint : Complaint) (remaining : Text)
  /-- A word that names a number which JSON cannot express. -/
  | constant (word : Text)
  /-- An integer literal with more digits than are read. -/
  | longInteger (digits : Nat)
  /-- More containers inside each other than the nesting limit allows. -/
  | tooDeep
deriving DecidableEq, Repr

/-- The most digits of an integer that is read or written. -/
def maxIntegerDigits : Nat := 4300

namespace Complaint

def text : Complaint → Text
  | .value => "Expecting value"
  | .propertyName => "Expecting property name enclosed in double quotes"
  | .colon => "Expecting ':' delimiter"
  | .comma => "Expecting ',' delimiter"
  | .extraData => "Extra data"
  | .unterminatedString => "Unterminated string starting at"
  | .controlCharacter => "Invalid control character at"
  | .escape => "Invalid \\escape"
  | .unicodeEscape => "Invalid \\uXXXX escape"
  | .byteOrderMark => "Unexpected UTF-8 BOM (decode using utf-8-sig)"

end Complaint

namespace ReadFault

/-- The words for an offset in a document. -/
def placeText (document : Text) (offset : Nat) : Text :=
  "line " ++ Text.numeral (document.lineAt offset) ++ " column " ++
    Text.numeral (document.columnAt offset) ++ " (char " ++ Text.numeral offset ++ ")"

/-- What is said about a fault of a document. -/
def reason (document : Text) : ReadFault → Text
  | .malformed complaint remaining =>
    complaint.text ++ ": " ++ placeText document (document.length - remaining.length)
  | .constant word => "Unexpected token " ++ word
  | .longInteger digits =>
    "Exceeds the limit (" ++ Text.numeral maxIntegerDigits ++
      " digits) for integer string conversion: value has " ++ Text.numeral digits ++
      " digits; use sys.set_int_max_str_digits() to increase the limit"
  | .tooDeep => "Document is nested too deeply"

/-- The whole message for a fault of a document. -/
def message (document : Text) (fault : ReadFault) : Text :=
  "Invalid JSON: " ++ fault.reason document

end ReadFault

end TypeSketch
