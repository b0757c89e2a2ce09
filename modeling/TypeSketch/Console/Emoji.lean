import TypeSketch.Console.EmojiTable
import TypeSketch.Text.Ascii
import TypeSketch.Text.Blank
import TypeSketch.Text.Fields

/-!
# Emoji codes

A code is the name of an emoji between two colons, without blanks. It may end in a hyphen
and the word text or emoji, which asks for that look of the emoji. Capitals count as small
letters. A code whose name is unknown stays as it is with both of its colons, and the
colon at its end opens no other code.
-/

namespace TypeSketch.Emoji

/-- The small letters of the capitals outside ASCII whose small letters are in names. -/
def smallLetters : List (Nat × Nat) :=
  [(0xC3, 0xE3), (0xC5, 0xE5), (0xC7, 0xE7), (0xC9, 0xE9), (0xCD, 0xED), (0xD4, 0xF4),
    (0x212A, 0x6B), (0x212B, 0xE5)]

/-- The small letter of a capital, as far as names have it. -/
def lowered (c : CodePoint) : CodePoint :=
  ((smallLetters.lookup c.toNat).map CodePoint.ofNat).getD c.toLower

/-- The endings that ask for a look, with the selector that gives the emoji this look. -/
def looks : List (Text × CodePoint) := [("-text", .ofNat 0xFE0E), ("-emoji", .ofNat 0xFE0F)]

/-- The name in a code, and the selector that its ending asks for, if it has one. -/
def nameAndLook (code : Text) : Text × Text :=
  match looks.find? fun (ending, _) => ending.isSuffixOf code with
  | some (ending, selector) => (code.take (code.length - ending.length), [selector])
  | none => (code, [])

/-- The emoji that the inside of a code stands for. -/
def ofCode? (code : Text) : Option Text :=
  let (name, selector) := nameAndLook code
  (table.lookup (name.map lowered)).map (· ++ selector)

/-- The text of the fields behind the colons of a text, with emoji for codes. -/
def replaceFields : List Text → Text
  | [] => []
  | [last] => .scalar ':' :: last
  | code :: after :: later =>
    if code.any CodePoint.isBlank then .scalar ':' :: code ++ replaceFields (after :: later)
    else match ofCode? code with
      | some emoji => emoji ++ after ++ replaceFields later
      | none => .scalar ':' :: code ++ .scalar ':' :: after ++ replaceFields later

/-- A text with emoji for its codes. -/
def replaceCodes (t : Text) : Text :=
  let (first, later) := t.fields (.scalar ':')
  first ++ replaceFields later

end TypeSketch.Emoji
