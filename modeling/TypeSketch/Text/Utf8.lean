import TypeSketch.Text.CodePoint

/-!
# UTF-8

Text is stored in files as UTF-8. Decoding stops at the first sequence that is not
well formed and says where it lies and what is wrong with it: a byte that cannot
lead a sequence, a byte that cannot continue one, or the end of the data inside one.
Encoding stops at the first run of lone surrogates, which have no UTF-8 form.
-/

namespace TypeSketch.Utf8

/-- What makes a byte sequence ill formed. -/
inductive Defect where
  | start
  | continuation
  | truncated
deriving DecidableEq, Repr

/-- The place of an ill-formed sequence: its offset, its length and its first byte. -/
structure DecodeFault where
  offset : Nat
  length : Nat
  lead : UInt8
  defect : Defect
deriving DecidableEq, Repr

/-- The place of a run of lone surrogates: its offset, its length and its first
code point. -/
structure EncodeFault where
  offset : Nat
  length : Nat
  first : CodePoint
deriving DecidableEq, Repr

/-- A sequence whose end is not reached: where it began, its lead byte, the bits read
so far, how many bytes are owed, and the bounds of the next one. -/
structure Pending where
  offset : Nat
  lead : UInt8
  bits : Nat
  owed : Nat
  low : UInt8
  high : UInt8

/-- The sequence that a byte of 80 or more leads. The bounds of the second byte leave
out overlong forms, the surrogates, and what lies beyond the code space. -/
def pendingOf (offset : Nat) (lead : UInt8) : Option Pending :=
  if lead < 0xC2 then none
  else if lead < 0xE0 then some ⟨offset, lead, lead.toNat - 0xC0, 1, 0x80, 0xBF⟩
  else if lead < 0xF0 then
    some ⟨offset, lead, lead.toNat - 0xE0, 2, if lead = 0xE0 then 0xA0 else 0x80,
      if lead = 0xED then 0x9F else 0xBF⟩
  else if lead < 0xF5 then
    some ⟨offset, lead, lead.toNat - 0xF0, 3, if lead = 0xF0 then 0x90 else 0x80,
      if lead = 0xF4 then 0x8F else 0xBF⟩
  else none

/-- Decodes the bytes from an offset on, inside a sequence or between two. -/
def decodeFrom (offset : Nat) (pending : Option Pending) : List UInt8 → Except DecodeFault Text
  | [] => match pending with
    | none => .ok []
    | some p => .error ⟨p.offset, offset - p.offset, p.lead, .truncated⟩
  | byte :: rest => match pending with
    | none =>
      if byte < 0x80 then (.ofNat byte.toNat :: ·) <$> decodeFrom (offset + 1) none rest
      else match pendingOf offset byte with
        | none => .error ⟨offset, 1, byte, .start⟩
        | some p => decodeFrom (offset + 1) (some p) rest
    | some p =>
      if p.low ≤ byte && byte ≤ p.high then
        let bits := p.bits * 64 + (byte.toNat - 0x80)
        if p.owed ≤ 1 then (.ofNat bits :: ·) <$> decodeFrom (offset + 1) none rest
        else decodeFrom (offset + 1) (some ⟨p.offset, p.lead, bits, p.owed - 1, 0x80, 0xBF⟩) rest
      else .error ⟨p.offset, offset - p.offset, p.lead, .continuation⟩

/-- The text that the bytes spell. -/
def decode (bytes : List UInt8) : Except DecodeFault Text := decodeFrom 0 none bytes

/-- The bytes of one character, by the size of its number. -/
def encodeChar (c : Char) : List UInt8 :=
  let n := c.toNat
  let tail (k : Nat) : UInt8 := UInt8.ofNat (0x80 + k % 64)
  if n < 0x80 then [UInt8.ofNat n]
  else if n < 0x800 then [UInt8.ofNat (0xC0 + n / 64), tail n]
  else if n < 0x10000 then [UInt8.ofNat (0xE0 + n / 4096), tail (n / 64), tail n]
  else [UInt8.ofNat (0xF0 + n / 262144), tail (n / 4096), tail (n / 64), tail n]

/-- Encodes the code points from an offset on. -/
def encodeFrom (offset : Nat) : Text → Except EncodeFault (List UInt8)
  | [] => .ok []
  | .scalar c :: rest => (encodeChar c ++ ·) <$> encodeFrom (offset + 1) rest
  | .surrogate s :: rest =>
    .error ⟨offset, 1 + (rest.takeWhile CodePoint.isSurrogate).length, .surrogate s⟩

/-- The bytes that spell the text. -/
def encode (t : Text) : Except EncodeFault (List UInt8) := encodeFrom 0 t

/-- A text without lone surrogates can always be stored. -/
theorem encodeFrom_isOk (t : Text) (offset : Nat) :
    (encodeFrom offset t).isOk = !t.hasSurrogate := by
  induction t generalizing offset with
  | nil => rfl
  | cons c rest inductionHypothesis =>
    cases c with
    | scalar c =>
      have tail := inductionHypothesis (offset + 1)
      simp only [encodeFrom, Text.hasSurrogate, List.any_cons, CodePoint.isSurrogate,
        Bool.false_or] at tail ⊢
      rw [← tail]
      cases encodeFrom (offset + 1) rest <;> rfl
    | surrogate s => simp [encodeFrom, Text.hasSurrogate, CodePoint.isSurrogate, Except.isOk,
        Except.toBool]

/-- The span of a fault in words: one position, or the first and the last of several. -/
def span (single plural : Text) (offset length : Nat) : Text :=
  if length ≤ 1 then single ++ " in position " ++ Text.numeral offset
  else plural ++ " in position " ++ Text.numeral offset ++ "-" ++ Text.numeral (offset + length - 1)

namespace Defect

def message : Defect → Text
  | .start => "invalid start byte"
  | .continuation => "invalid continuation byte"
  | .truncated => "unexpected end of data"

end Defect

namespace DecodeFault

def message (fault : DecodeFault) : Text :=
  "'utf-8' codec can't decode " ++
    span ("byte 0x" ++ Text.hexadecimal 2 fault.lead.toNat) "bytes" fault.offset fault.length ++
    ": " ++ fault.defect.message

end DecodeFault

namespace EncodeFault

def message (fault : EncodeFault) : Text :=
  "'utf-8' codec can't encode " ++
    span ("character '\\u" ++ Text.hexadecimal 4 fault.first.toNat ++ "'") "characters"
      fault.offset fault.length ++
    ": surrogates not allowed"

end EncodeFault

end TypeSketch.Utf8
