import Mathlib.Tactic.IntervalCases
import TypeSketch.Proofs.Fallible
import TypeSketch.Text.Utf8

/-!
# Stored text

A text that can be stored as UTF-8 is read back from its bytes. Character by character the
first byte announces how many follow it, and each of these lies between the bounds that the
bytes before it leave, since characters are neither overlong nor surrogates nor beyond the
code space. What can be stored are the texts without lone surrogates.

Only the bytes of a text are read at all: the same bounds leave no other sequence for a character.
So bytes are read exactly if they are those of some text, and then as this text.
-/

namespace TypeSketch.Utf8

theorem toNat_byte {n : Nat} (small : n < 256) : (UInt8.ofNat n).toNat = n := by
  rw [UInt8.toNat_ofNat']
  exact Nat.mod_eq_of_lt small

/-- A byte below 80 stands for itself. -/
theorem decodeFrom_single {n : Nat} (small : n < 0x80) (offset : Nat) (rest : List UInt8) :
    decodeFrom offset none (UInt8.ofNat n :: rest) =
      (.ofNat n :: ·) <$> decodeFrom (offset + 1) none rest := by
  have value : (UInt8.ofNat n).toNat = n := toNat_byte (by omega)
  have low : UInt8.ofNat n < 0x80 := by
    rw [UInt8.lt_iff_toNat_lt, value]
    exact small
  rw [decodeFrom, if_pos low, value]

/-- A byte of 80 or more begins the sequence that it leads. -/
theorem decodeFrom_lead {n : Nat} (high : 0x80 ≤ n) (small : n < 256) {pending : Pending}
    {offset : Nat} (leads : pendingOf offset (UInt8.ofNat n) = some pending)
    (rest : List UInt8) :
    decodeFrom offset none (UInt8.ofNat n :: rest) =
      decodeFrom (offset + 1) (some pending) rest := by
  have noSingle : ¬UInt8.ofNat n < 0x80 := by
    rw [UInt8.lt_iff_toNat_lt, toNat_byte small]
    exact Nat.not_lt.mpr high
  rw [decodeFrom, if_neg noSingle, leads]

section Sequences

variable {n : Nat} {low high : UInt8} (bounds : low.toNat ≤ n ∧ n ≤ high.toNat)
  (place : Nat) (lead : UInt8) (bits offset : Nat) (rest : List UInt8)

include bounds

/-- The byte of a number between two others lies between their bytes. -/
theorem byte_between : (UInt8.ofNat n).toNat = n ∧
    (decide (low ≤ UInt8.ofNat n) && decide (UInt8.ofNat n ≤ high)) = true := by
  have value : (UInt8.ofNat n).toNat = n := toNat_byte (Nat.lt_of_le_of_lt bounds.2 high.toNat_lt)
  rw [Bool.and_eq_true, decide_eq_true_eq, decide_eq_true_eq, UInt8.le_iff_toNat_le,
    UInt8.le_iff_toNat_le, value]
  exact ⟨rfl, bounds⟩

/-- A byte between the bounds adds its bits to a sequence that owes more than this one. -/
theorem decodeFrom_middle (owed : Nat) :
    decodeFrom offset (some ⟨place, lead, bits, owed + 2, low, high⟩) (UInt8.ofNat n :: rest) =
      decodeFrom (offset + 1)
        (some ⟨place, lead, bits * 64 + (n - 0x80), owed + 1, 0x80, 0xBF⟩) rest := by
  obtain ⟨value, inside⟩ := byte_between bounds
  rw [decodeFrom, if_pos inside, value]
  exact if_neg (by simp)

/-- The last byte that is owed ends the sequence. -/
theorem decodeFrom_last :
    decodeFrom offset (some ⟨place, lead, bits, 1, low, high⟩) (UInt8.ofNat n :: rest) =
      (.ofNat (bits * 64 + (n - 0x80)) :: ·) <$> decodeFrom (offset + 1) none rest := by
  obtain ⟨value, inside⟩ := byte_between bounds
  rw [decodeFrom, if_pos inside, value]
  exact if_pos (Nat.le_refl 1)

end Sequences

/-- The sequence of two bytes that a byte leads. -/
theorem pendingOf_two {k : Nat} (range : 2 ≤ k ∧ k < 32) (offset : Nat) :
    pendingOf offset (UInt8.ofNat (0xC0 + k)) =
      some ⟨offset, UInt8.ofNat (0xC0 + k), k, 1, 0x80, 0xBF⟩ := by
  have value : (UInt8.ofNat (0xC0 + k)).toNat = 0xC0 + k := toNat_byte (by omega)
  have low : ¬UInt8.ofNat (0xC0 + k) < 0xC2 := by
    rw [UInt8.lt_iff_toNat_lt, value]
    exact Nat.not_lt.mpr (Nat.add_le_add_left range.1 0xC0)
  have high : UInt8.ofNat (0xC0 + k) < 0xE0 := by
    rw [UInt8.lt_iff_toNat_lt, value]
    exact Nat.add_lt_add_left range.2 0xC0
  rw [pendingOf, if_neg low, if_pos high, value, Nat.add_sub_cancel_left]

/-- The sequence of three bytes that a byte leads. -/
theorem pendingOf_three {k : Nat} (range : k < 16) (offset : Nat) :
    pendingOf offset (UInt8.ofNat (0xE0 + k)) =
      some ⟨offset, UInt8.ofNat (0xE0 + k), k, 2, if k = 0 then 0xA0 else 0x80,
        if k = 13 then 0x9F else 0xBF⟩ := by
  interval_cases k <;> rfl

/-- The sequence of four bytes that a byte leads. -/
theorem pendingOf_four {k : Nat} (range : k < 5) (offset : Nat) :
    pendingOf offset (UInt8.ofNat (0xF0 + k)) =
      some ⟨offset, UInt8.ofNat (0xF0 + k), k, 3, if k = 0 then 0x90 else 0x80,
        if k = 4 then 0x8F else 0xBF⟩ := by
  interval_cases k <;> rfl

/-- The second of three bytes lies between the bounds that the first one leaves. -/
theorem second_of_three {n : Nat} (range : 0x800 ≤ n ∧ n < 0x10000)
    (scalar : n < 0xD800 ∨ 0xE000 ≤ n) :
    (if n / 4096 = 0 then 0xA0 else 0x80 : UInt8).toNat ≤ 0x80 + n / 64 % 64 ∧
      0x80 + n / 64 % 64 ≤ (if n / 4096 = 13 then 0x9F else 0xBF : UInt8).toNat := by
  constructor
  · split
    · change 0xA0 ≤ _
      omega
    · change 0x80 ≤ _
      omega
  · split
    · change _ ≤ 0x9F
      omega
    · change _ ≤ 0xBF
      omega

/-- The second of four bytes does so as well. -/
theorem second_of_four {n : Nat} (range : 0x10000 ≤ n ∧ n < 0x110000) :
    (if n / 262144 = 0 then 0x90 else 0x80 : UInt8).toNat ≤ 0x80 + n / 4096 % 64 ∧
      0x80 + n / 4096 % 64 ≤ (if n / 262144 = 4 then 0x8F else 0xBF : UInt8).toNat := by
  constructor
  · split
    · change 0x90 ≤ _
      omega
    · change 0x80 ≤ _
      omega
  · split
    · change _ ≤ 0x8F
      omega
    · change _ ≤ 0xBF
      omega

/-- The bytes of a character are decoded as this character. -/
theorem decodeFrom_encodeChar (c : Char) (offset : Nat) (rest : List UInt8) :
    decodeFrom offset none (encodeChar c ++ rest) =
      (.scalar c :: ·) <$> decodeFrom (offset + (encodeChar c).length) none rest := by
  have range := CodePoint.scalar_range c
  have named : CodePoint.ofNat c.toNat = .scalar c := CodePoint.ofNat_toNat (.scalar c)
  rw [encodeChar]
  generalize c.toNat = n at range named ⊢
  -- The cases are the sizes of the number, by the length of the sequence.
  dsimp only
  have tail (k : Nat) : (0x80 : UInt8).toNat ≤ 0x80 + k % 64 ∧
      0x80 + k % 64 ≤ (0xBF : UInt8).toNat := by
    change 0x80 ≤ _ ∧ _ ≤ 0xBF
    omega
  split
  · next small =>
    rw [List.singleton_append, decodeFrom_single small, named]
    rfl
  split
  · next small =>
    have lead : 2 ≤ n / 64 ∧ n / 64 < 32 := by omega
    have whole : n / 64 * 64 + (0x80 + n % 64 - 0x80) = n := by omega
    change decodeFrom offset none (_ :: _ :: rest) = _
    rw [decodeFrom_lead (by omega) (by omega) (pendingOf_two lead offset),
      decodeFrom_last (tail n), whole, named]
    rfl
  split
  · next small =>
    have lead : n / 4096 < 16 := by omega
    have second := second_of_three (n := n) (by omega) (by omega)
    have whole : (n / 4096 * 64 + (0x80 + n / 64 % 64 - 0x80)) * 64 +
        (0x80 + n % 64 - 0x80) = n := by omega
    change decodeFrom offset none (_ :: _ :: _ :: rest) = _
    rw [decodeFrom_lead (by omega) (by omega) (pendingOf_three lead offset),
      decodeFrom_middle second, decodeFrom_last (tail n), whole, named]
    rfl
  · have lead : n / 262144 < 5 := by omega
    have second := second_of_four (n := n) (by omega)
    have whole : ((n / 262144 * 64 + (0x80 + n / 4096 % 64 - 0x80)) * 64 +
        (0x80 + n / 64 % 64 - 0x80)) * 64 + (0x80 + n % 64 - 0x80) = n := by omega
    change decodeFrom offset none (_ :: _ :: _ :: _ :: rest) = _
    rw [decodeFrom_lead (by omega) (by omega) (pendingOf_four lead offset),
      decodeFrom_middle second, decodeFrom_middle (tail (n / 64)), decodeFrom_last (tail n),
      whole, named]
    rfl

/-- What is encoded is decoded again, wherever it stands. -/
theorem decodeFrom_encodeFrom {t : Text} {bytes : List UInt8} {offset : Nat}
    (encoded : encodeFrom offset t = .ok bytes) (place : Nat) :
    decodeFrom place none bytes = .ok t := by
  induction t generalizing bytes offset place with
  | nil =>
    cases Except.ok.inj encoded
    rfl
  | cons c rest inductionHypothesis =>
    cases c with
    | surrogate s => exact absurd encoded (by simp [encodeFrom])
    | scalar c =>
      rw [encodeFrom, map_eq_ok_iff] at encoded
      obtain ⟨others, encodedOthers, rfl⟩ := encoded
      rw [decodeFrom_encodeChar, inductionHypothesis encodedOthers]
      rfl

/-- A text that is stored is read back. -/
theorem decode_encode {t : Text} {bytes : List UInt8} (encoded : encode t = .ok bytes) :
    decode bytes = .ok t := decodeFrom_encodeFrom encoded 0

/-- A sequence under way goes on with a byte between its bounds. -/
theorem decodeFrom_pending_ok {offset place bits owed : Nat} {lead low high : UInt8}
    (continues : 0x80 ≤ low) {bytes : List UInt8} {t : Text}
    (decoded : decodeFrom offset (some ⟨place, lead, bits, owed, low, high⟩) bytes = .ok t) :
    ∃ a later, bytes = UInt8.ofNat (0x80 + a) :: later ∧
      low.toNat ≤ 0x80 + a ∧ 0x80 + a ≤ high.toNat ∧
      (if owed ≤ 1 then (.ofNat (bits * 64 + a) :: ·) <$> decodeFrom (offset + 1) none later
      else decodeFrom (offset + 1) (some ⟨place, lead, bits * 64 + a, owed - 1, 0x80, 0xBF⟩)
        later) = .ok t := by
  cases bytes with
  | nil => exact nomatch decoded
  | cons byte later =>
    rw [decodeFrom] at decoded
    split at decoded
    · next inside =>
      simp only [Bool.and_eq_true, decide_eq_true_eq, UInt8.le_iff_toNat_le] at inside continues
      replace continues : 0x80 ≤ low.toNat := continues
      have digits : 0x80 + (byte.toNat - 0x80) = byte.toNat :=
        Nat.add_sub_cancel' (Nat.le_trans continues inside.1)
      refine ⟨byte.toNat - 0x80, later, ?_, ?_, ?_, decoded⟩
      · rw [digits, UInt8.ofNat_toNat]
      · rw [digits]
        exact inside.1
      · rw [digits]
        exact inside.2
    · exact nomatch decoded

/-- A byte that leads a sequence leads one of two, three or four bytes. -/
theorem pendingOf_cases {offset : Nat} {byte : UInt8} {pending : Pending}
    (leads : pendingOf offset byte = some pending) :
    (∃ k, (2 ≤ k ∧ k < 32) ∧ byte = UInt8.ofNat (0xC0 + k)) ∨
      (∃ k, k < 16 ∧ byte = UInt8.ofNat (0xE0 + k)) ∨
      ∃ k, k < 5 ∧ byte = UInt8.ofNat (0xF0 + k) := by
  have isAbove {base : Nat} (above : base ≤ byte.toNat) :
      byte = UInt8.ofNat (base + (byte.toNat - base)) := by
    rw [Nat.add_sub_cancel' above, UInt8.ofNat_toNat]
  rw [pendingOf] at leads
  simp only [UInt8.lt_iff_toNat_lt] at leads
  split at leads
  · exact nomatch leads
  next least =>
  replace least : 0xC2 ≤ byte.toNat := Nat.not_lt.mp least
  split at leads
  · next most =>
    replace most : byte.toNat < 0xE0 := most
    exact .inl ⟨byte.toNat - 0xC0, by omega, isAbove (by omega)⟩
  next least =>
  replace least : 0xE0 ≤ byte.toNat := Nat.not_lt.mp least
  split at leads
  · next most =>
    replace most : byte.toNat < 0xF0 := most
    exact .inr (.inl ⟨byte.toNat - 0xE0, by omega, isAbove least⟩)
  next least =>
  replace least : 0xF0 ≤ byte.toNat := Nat.not_lt.mp least
  split at leads
  · next most =>
    replace most : byte.toNat < 0xF5 := most
    exact .inr (.inr ⟨byte.toNat - 0xF0, by omega, isAbove least⟩)
  · exact nomatch leads

/-- The number of a character gives the character. -/
theorem ofNat_scalar {n : Nat} (range : n < 0xD800 ∨ (0xE000 ≤ n ∧ n < 0x110000)) :
    ∃ c : Char, CodePoint.ofNat n = .scalar c ∧ c.toNat = n := by
  have outside : ¬(0xD800 ≤ n ∧ n < 0xE000) := by omega
  have numbered := CodePoint.toNat_ofNat (n := n) (by omega)
  rw [CodePoint.ofNat, dif_neg outside] at numbered ⊢
  exact ⟨Char.ofNat n, rfl, numbered⟩

/-- A lower bound that is raised in one case. -/
theorem least_of_ite {special : Prop} [Decidable special] {raised usual : UInt8} {n : Nat}
    (order : usual ≤ raised) (least : (if special then raised else usual).toNat ≤ n) :
    usual.toNat ≤ n ∧ (special → raised.toNat ≤ n) := by
  split at least
  · exact ⟨Nat.le_trans (UInt8.le_iff_toNat_le.mp order) least, fun _ => least⟩
  · next isUsual => exact ⟨least, fun isSpecial => absurd isSpecial isUsual⟩

/-- An upper bound that is lowered in one case. -/
theorem most_of_ite {special : Prop} [Decidable special] {lowered usual : UInt8} {n : Nat}
    (order : lowered ≤ usual) (most : n ≤ (if special then lowered else usual).toNat) :
    n ≤ usual.toNat ∧ (special → n ≤ lowered.toNat) := by
  split at most
  · exact ⟨Nat.le_trans most (UInt8.le_iff_toNat_le.mp order), fun _ => most⟩
  · next isUsual => exact ⟨most, fun isSpecial => absurd isSpecial isUsual⟩

section Lengths

variable {c : Char} {a b d : Nat} (tails : a < 64 ∧ b < 64 ∧ d < 64)

include tails

/-- The bytes of a character, by the digits of its number to the base 64. -/
theorem encodeChar_two {k : Nat} (lead : 2 ≤ k ∧ k < 32) (number : c.toNat = k * 64 + a) :
    encodeChar c = [UInt8.ofNat (0xC0 + k), UInt8.ofNat (0x80 + a)] := by
  have first : (k * 64 + a) / 64 = k := by omega
  have second : (k * 64 + a) % 64 = a := by omega
  simp only [encodeChar, number, first, second]
  rw [if_neg (by omega), if_pos (by omega)]

theorem encodeChar_three {k : Nat} (lead : k < 16) (second : k = 0 → 0x20 ≤ a)
    (number : c.toNat = (k * 64 + a) * 64 + b) :
    encodeChar c = [UInt8.ofNat (0xE0 + k), UInt8.ofNat (0x80 + a), UInt8.ofNat (0x80 + b)] := by
  have large : 0x800 ≤ (k * 64 + a) * 64 + b := by
    rcases Nat.eq_zero_or_pos k with zero | positive
    · have above := second zero
      omega
    · omega
  have first : ((k * 64 + a) * 64 + b) / 4096 = k := by omega
  have middle : ((k * 64 + a) * 64 + b) / 64 % 64 = a := by omega
  have last : ((k * 64 + a) * 64 + b) % 64 = b := by omega
  simp only [encodeChar, number, first, middle, last]
  rw [if_neg (by omega), if_neg (by omega), if_pos (by omega)]

theorem encodeChar_four {k : Nat} (lead : k < 5) (second : k = 0 → 0x10 ≤ a)
    (number : c.toNat = ((k * 64 + a) * 64 + b) * 64 + d) :
    encodeChar c = [UInt8.ofNat (0xF0 + k), UInt8.ofNat (0x80 + a), UInt8.ofNat (0x80 + b),
      UInt8.ofNat (0x80 + d)] := by
  have large : 0x10000 ≤ ((k * 64 + a) * 64 + b) * 64 + d := by
    rcases Nat.eq_zero_or_pos k with zero | positive
    · have above := second zero
      omega
    · omega
  have first : (((k * 64 + a) * 64 + b) * 64 + d) / 262144 = k := by omega
  have middle : (((k * 64 + a) * 64 + b) * 64 + d) / 4096 % 64 = a := by omega
  have third : (((k * 64 + a) * 64 + b) * 64 + d) / 64 % 64 = b := by omega
  have last : (((k * 64 + a) * 64 + b) * 64 + d) % 64 = d := by omega
  simp only [encodeChar, number, first, middle, third, last]
  rw [if_neg (by omega), if_neg (by omega), if_neg (by omega)]

end Lengths

/-- What begins with a byte begins with the bytes of a character. The cases are the lengths of the
sequence, as the first byte tells them. -/
theorem decodeFrom_cons_ok {offset : Nat} {byte : UInt8} {bytes : List UInt8} {t : Text}
    (decoded : decodeFrom offset none (byte :: bytes) = .ok t) :
    ∃ (c : Char) (later : List UInt8) (others : Text) (place : Nat),
      byte :: bytes = encodeChar c ++ later ∧ t = .scalar c :: others ∧
      decodeFrom place none later = .ok others := by
  by_cases small : byte.toNat < 0x80
  · have single := decodeFrom_single small offset bytes
    rw [UInt8.ofNat_toNat, decoded] at single
    obtain ⟨others, decodedOthers, rfl⟩ := map_eq_ok_iff.mp single.symm
    obtain ⟨c, isChar, number⟩ := ofNat_scalar (n := byte.toNat) (by omega)
    refine ⟨c, bytes, others, _, ?_, by rw [isChar], decodedOthers⟩
    rw [encodeChar, number]
    simp [small]
  have notSmall : ¬byte < 0x80 := by rwa [UInt8.lt_iff_toNat_lt]
  rw [decodeFrom, if_neg notSmall] at decoded
  cases leads : pendingOf offset byte with
  | none =>
    rw [leads] at decoded
    exact nomatch decoded
  | some pending =>
    rw [leads] at decoded
    dsimp only at decoded
    rcases pendingOf_cases leads with ⟨k, range, rfl⟩ | ⟨k, range, rfl⟩ | ⟨k, range, rfl⟩
    · obtain rfl := Option.some.inj ((pendingOf_two range offset).symm.trans leads)
      obtain ⟨a, later, rfl, -, most, decoded⟩ := decodeFrom_pending_ok (by decide) decoded
      obtain ⟨others, decodedOthers, rfl⟩ := map_eq_ok_iff.mp decoded
      replace most : 0x80 + a ≤ 0xBF := most
      obtain ⟨c, isChar, number⟩ := ofNat_scalar (n := k * 64 + a) (by omega)
      refine ⟨c, later, others, _, ?_, by rw [isChar], decodedOthers⟩
      rw [encodeChar_two (b := 0) (d := 0) (by omega) range number]
      rfl
    · obtain rfl := Option.some.inj ((pendingOf_three range offset).symm.trans leads)
      obtain ⟨a, _, rfl, leastA, mostA, decoded⟩ :=
        decodeFrom_pending_ok (by split <;> decide) decoded
      obtain ⟨b, later, rfl, -, mostB, decoded⟩ := decodeFrom_pending_ok (by decide) decoded
      obtain ⟨others, decodedOthers, rfl⟩ := map_eq_ok_iff.mp decoded
      replace leastA : 0x80 ≤ 0x80 + a ∧ (k = 0 → 0xA0 ≤ 0x80 + a) :=
        least_of_ite (by decide) leastA
      replace mostA : 0x80 + a ≤ 0xBF ∧ (k = 13 → 0x80 + a ≤ 0x9F) :=
        most_of_ite (by decide) mostA
      replace mostB : 0x80 + b ≤ 0xBF := mostB
      obtain ⟨c, isChar, number⟩ := ofNat_scalar (n := (k * 64 + a) * 64 + b) (by omega)
      refine ⟨c, later, others, _, ?_, by rw [isChar], decodedOthers⟩
      rw [encodeChar_three (d := 0) (by omega) range (by omega) number]
      rfl
    · obtain rfl := Option.some.inj ((pendingOf_four range offset).symm.trans leads)
      obtain ⟨a, _, rfl, leastA, mostA, decoded⟩ :=
        decodeFrom_pending_ok (by split <;> decide) decoded
      obtain ⟨b, _, rfl, -, mostB, decoded⟩ := decodeFrom_pending_ok (by decide) decoded
      obtain ⟨d, later, rfl, -, mostD, decoded⟩ := decodeFrom_pending_ok (by decide) decoded
      obtain ⟨others, decodedOthers, rfl⟩ := map_eq_ok_iff.mp decoded
      replace leastA : 0x80 ≤ 0x80 + a ∧ (k = 0 → 0x90 ≤ 0x80 + a) :=
        least_of_ite (by decide) leastA
      replace mostA : 0x80 + a ≤ 0xBF ∧ (k = 4 → 0x80 + a ≤ 0x8F) :=
        most_of_ite (by decide) mostA
      replace mostB : 0x80 + b ≤ 0xBF := mostB
      replace mostD : 0x80 + d ≤ 0xBF := mostD
      obtain ⟨c, isChar, number⟩ :=
        ofNat_scalar (n := ((k * 64 + a) * 64 + b) * 64 + d) (by omega)
      refine ⟨c, later, others, _, ?_, by rw [isChar], decodedOthers⟩
      rw [encodeChar_four (by omega) range (by omega) number]
      rfl

/-- What is decoded is encoded in the same bytes, wherever it stands. By induction on the text,
which is shorter by the first character. -/
theorem encodeFrom_decodeFrom {t : Text} {bytes : List UInt8} {offset : Nat}
    (decoded : decodeFrom offset none bytes = .ok t) (place : Nat) :
    encodeFrom place t = .ok bytes := by
  induction t generalizing bytes offset place with
  | nil =>
    cases bytes with
    | nil => rfl
    | cons byte rest =>
      obtain ⟨_, _, _, _, _, impossible, _⟩ := decodeFrom_cons_ok decoded
      exact nomatch impossible
  | cons c others inductionHypothesis =>
    cases bytes with
    | nil => exact nomatch decoded
    | cons byte rest =>
      obtain ⟨char, later, _, _, begins, same, decodedLater⟩ := decodeFrom_cons_ok decoded
      obtain ⟨rfl, rfl⟩ := List.cons.inj same
      rw [encodeFrom, inductionHypothesis decodedLater, begins]
      rfl

/-- Bytes are decoded to a text just when they are its bytes. -/
theorem decode_eq_ok_iff {t : Text} {bytes : List UInt8} :
    decode bytes = .ok t ↔ encode t = .ok bytes :=
  ⟨fun decoded => encodeFrom_decodeFrom decoded 0, decode_encode⟩

/-- Bytes are faulty just when no text has them. -/
theorem decode_error_iff {bytes : List UInt8} :
    (∃ fault, decode bytes = .error fault) ↔ ∀ text, encode text ≠ .ok bytes := by
  constructor
  · rintro ⟨fault, faulty⟩ text encoded
    rw [decode_encode encoded] at faulty
    exact nomatch faulty
  · intro noText
    cases decoded : decode bytes with
    | error fault => exact ⟨fault, rfl⟩
    | ok text => exact absurd (decode_eq_ok_iff.mp decoded) (noText text)

/-- A text can be stored just when no surrogate stands alone in it. -/
theorem encode_ok_iff (t : Text) :
    (∃ bytes, encode t = .ok bytes) ↔ t.hasSurrogate = false := by
  have stored := encodeFrom_isOk t 0
  rw [encode]
  cases encoded : encodeFrom 0 t with
  | error fault =>
    rw [encoded] at stored
    simpa [Except.isOk, Except.toBool] using stored
  | ok bytes =>
    rw [encoded] at stored
    simpa [Except.isOk, Except.toBool] using stored

end TypeSketch.Utf8
