import TypeSketch.Console.Emoji

/-!
# Markup

A console reads tags in a text: an opening bracket, a small letter or one of three marks,
and whatever follows up to the nearest closing bracket, without another opening bracket.
A text that is shown literally keeps its tags and the backslashes in front of them. What
stands between is shown without the backslash of an escaped bracket. Emoji codes are
replaced within a segment only, and some controls are left out.
-/

namespace TypeSketch.Markup

def openBracket : CodePoint := .scalar '['

def closeBracket : CodePoint := .scalar ']'

def backslash : CodePoint := .scalar '\\'

/-- Whether a tag can begin with a code point. -/
def startsTag : CodePoint → Bool
  | .scalar c => ('a' ≤ c && c ≤ 'z') || c == '#' || c == '/' || c == '@'
  | .surrogate _ => false

/-- What follows an opening bracket and holds no other one, cut into the rest of a tag and
the text behind the tag; none if the bracket opens no tag. -/
def tag? : Text → Option (Text × Text)
  | [] => none
  | c :: field =>
    match field.dropWhile (· != closeBracket) with
    | [] => none
    | close :: rest =>
      if startsTag c then some (c :: field.takeWhile (· != closeBracket) ++ [close], rest) else none

/-- The backslashes at the end of a text. -/
def trailingBackslashes (t : Text) : Text := (t.reverse.takeWhile (· == backslash)).reverse

/-- What precedes the backslashes at the end of a text. -/
def withoutTrailingBackslashes (t : Text) : Text :=
  (t.reverse.dropWhile (· == backslash)).reverse

/-- The segments of a text, from what precedes its next opening bracket and the fields behind
its brackets. A tag is a segment, and so are the backslashes in front of it. -/
def segmentsFrom (preceding : Text) : List Text → List Text
  | [] => [preceding]
  | field :: later =>
    match tag? field with
    | none => segmentsFrom (preceding ++ openBracket :: field) later
    | some (tag, rest) =>
      [withoutTrailingBackslashes preceding, trailingBackslashes preceding, openBracket :: tag] ++
        segmentsFrom rest later

/-- The segments of a text. -/
def segments (t : Text) : List Text :=
  let (first, later) := t.fields openBracket
  segmentsFrom first later

/-- A text without the backslashes that stand right before an opening bracket. -/
def unescaped : Text → Text
  | [] => []
  | c :: rest =>
    let shown := unescaped rest
    if c = backslash && rest.head? = some openBracket then shown else c :: shown

/-- The controls that a console leaves out: bell, backspace, vertical tab, form feed and
carriage return. -/
def isDropped (c : CodePoint) : Bool := [7, 8, 11, 12, 13].contains c.toNat

/-- What a console shows for a segment. -/
def segmentShown (segment : Text) : Text :=
  (Emoji.replaceCodes (unescaped segment)).filter (!isDropped ·)

/-- A text with a second backslash at its end if it ends in a single one, which would
otherwise escape what comes next. -/
def closed (t : Text) : Text :=
  if (trailingBackslashes t).length = 1 then t ++ [backslash] else t

/-- What a console shows for a text that is meant literally. -/
def literal (t : Text) : Text := (segments (closed t)).flatMap segmentShown

end TypeSketch.Markup
