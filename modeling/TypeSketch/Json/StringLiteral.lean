import TypeSketch.Json.Fault

/-!
# String literals

A string literal is read in two steps. The first takes it apart into code points that
stand for themselves, short escapes, and units of sixteen bits spelled by four
hexadecimal digits. The second joins a high surrogate unit with the low one directly
after it; a surrogate that stands in the text itself is never joined.
-/

namespace TypeSketch.StringLiteral

/-- A code point, or a unit of sixteen bits spelled by number. -/
inductive Piece where
  | literal (c : CodePoint)
  | unit (u : Fin 0x10000)
deriving DecidableEq, Repr

/-- The value of a hexadecimal digit in either case. -/
def hexDigit? : CodePoint → Option (Fin 16)
  | .surrogate _ => none
  | .scalar c =>
    if '0' ≤ c ∧ c ≤ '9' then some (Fin.ofNat 16 (c.toNat - '0'.toNat))
    else if 'a' ≤ c ∧ c ≤ 'f' then some (Fin.ofNat 16 (c.toNat - 'a'.toNat + 10))
    else if 'A' ≤ c ∧ c ≤ 'F' then some (Fin.ofNat 16 (c.toNat - 'A'.toNat + 10))
    else none

/-- The unit that four hexadecimal digits spell. -/
def unit? (a b c d : CodePoint) : Option (Fin 0x10000) := do
  let a ← hexDigit? a
  let b ← hexDigit? b
  let c ← hexDigit? c
  let d ← hexDigit? d
  return ⟨((a.val * 16 + b.val) * 16 + c.val) * 16 + d.val, by omega⟩

/-- The code point that a letter or mark stands for after a backslash. -/
def shortEscape? : CodePoint → Option Char
  | .scalar '"' => some '"'
  | .scalar '\\' => some '\\'
  | .scalar '/' => some '/'
  | .scalar 'b' => some '\x08'
  | .scalar 'f' => some '\x0c'
  | .scalar 'n' => some '\n'
  | .scalar 'r' => some '\r'
  | .scalar 't' => some '\t'
  | _ => none

/-- The pieces up to the closing quote, and the text after it. A missing end is blamed on
the text that begins with the opening quote. An escape by number needs some text behind
it, the closing quote at least. -/
def pieces (opening : Text) : Text → Except ReadFault (List Piece × Text)
  | [] => .error (.malformed .unterminatedString opening)
  | .scalar '"' :: rest => .ok ([], rest)
  | .scalar '\\' :: [] => .error (.malformed .unterminatedString opening)
  | .scalar '\\' :: .scalar 'u' :: a :: b :: c :: d :: next :: rest =>
    match unit? a b c d with
    | some u => do
      let (tail, rest) ← pieces opening (next :: rest)
      return (.unit u :: tail, rest)
    | none =>
      .error (.malformed .unicodeEscape (.scalar 'u' :: a :: b :: c :: d :: next :: rest))
  | .scalar '\\' :: .scalar 'u' :: rest =>
    .error (.malformed .unicodeEscape (.scalar 'u' :: rest))
  | .scalar '\\' :: c :: rest =>
    match shortEscape? c with
    | some e => do
      let (tail, rest) ← pieces opening rest
      return (.literal (.scalar e) :: tail, rest)
    | none => .error (.malformed .escape (.scalar '\\' :: c :: rest))
  | c :: rest =>
    if c.toNat < 0x20 then .error (.malformed .controlCharacter (c :: rest))
    else do
      let (tail, rest) ← pieces opening rest
      return (.literal c :: tail, rest)

def isHighSurrogate (n : Nat) : Bool := 0xD800 ≤ n && n < 0xDC00

def isLowSurrogate (n : Nat) : Bool := 0xDC00 ≤ n && n < 0xE000

/-- The text that the pieces denote. -/
def denote : List Piece → Text
  | [] => []
  | .literal c :: rest => c :: denote rest
  | .unit high :: .unit low :: rest =>
    if isHighSurrogate high.val && isLowSurrogate low.val then
      .ofNat (0x10000 + (high.val - 0xD800) * 0x400 + (low.val - 0xDC00)) :: denote rest
    else .ofNat high.val :: denote (.unit low :: rest)
  | .unit u :: rest => .ofNat u.val :: denote rest

/-- The text of a literal whose opening quote is past, and the text after it. -/
def read (opening body : Text) : Except ReadFault (Text × Text) := do
  let (tail, rest) ← pieces opening body
  return (denote tail, rest)

end TypeSketch.StringLiteral
