import CookedMode.Proofs.Text.Utf8

/-!
# Only texts can be decoded

Strict decoding accepts a byte string only if it is the UTF-8 form of a text, and then gives
that text: a first byte with the bytes that may follow it is the only form of its character.
-/

namespace CookedMode.Utf8

/-- What a byte that begins a character contributes to it, and what has to follow. -/
inductive Lead (byte : UInt8) : Nat → List ByteRange → Prop where
  | one (high : byte.toNat < 0x80) : Lead byte byte.toNat []
  | two (low : 0xC2 ≤ byte.toNat) (high : byte.toNat < 0xE0) :
      Lead byte (byte.toNat - 0xC0) [anyTail]
  | three (low : 0xE0 ≤ byte.toNat) (high : byte.toNat < 0xF0) :
      Lead byte (byte.toNat - 0xE0) [secondOfThree byte.toNat, anyTail]
  | four (low : 0xF0 ≤ byte.toNat) (high : byte.toNat ≤ 0xF4) :
      Lead byte (byte.toNat - 0xF0) [secondOfFour byte.toNat, anyTail, anyTail]

theorem lead?_eq_none {byte : UInt8}
    (outside : 0x80 ≤ byte.toNat ∧ byte.toNat < 0xC2 ∨ 0xF4 < byte.toNat) : lead? byte = none := by
  simp only [lead?, UInt8.lt_iff_toNat_lt, beq_iff_eq, ← UInt8.toNat_inj]
  rcases outside with ⟨low, high⟩ | low
  · simp [show ¬byte.toNat < 128 by omega, high]
  · simp [show ¬byte.toNat < 128 by omega, show ¬byte.toNat < 194 by omega,
      show ¬byte.toNat < 224 by omega, show ¬byte.toNat < 240 by omega,
      show ¬byte.toNat < 244 by omega, show byte.toNat ≠ 224 by omega,
      show byte.toNat ≠ 237 by omega, show byte.toNat ≠ 240 by omega,
      show byte.toNat ≠ 244 by omega]

theorem lead_of_lead? {byte : UInt8} {bits : Nat} {ranges : List ByteRange}
    (lead : lead? byte = some (bits, ranges)) : Lead byte bits ranges := by
  have byteEq : UInt8.ofNat byte.toNat = byte := UInt8.ofNat_toNat
  by_cases one : byte.toNat < 0x80
  · have leadEq := lead?_one one
    rw [byteEq, lead, Option.some.injEq, Prod.mk.injEq] at leadEq
    rw [leadEq.1, leadEq.2]
    exact .one one
  by_cases gap : byte.toNat < 0xC2
  · rw [lead?_eq_none (by omega)] at lead
    cases lead
  by_cases two : byte.toNat < 0xE0
  · have leadEq := lead?_two (Nat.not_lt.mp gap) two
    rw [byteEq, lead, Option.some.injEq, Prod.mk.injEq] at leadEq
    rw [leadEq.1, leadEq.2]
    exact .two (Nat.not_lt.mp gap) two
  by_cases three : byte.toNat < 0xF0
  · have leadEq := lead?_three (Nat.not_lt.mp two) three
    rw [byteEq, lead, Option.some.injEq, Prod.mk.injEq] at leadEq
    rw [leadEq.1, leadEq.2]
    exact .three (Nat.not_lt.mp two) three
  by_cases four : byte.toNat ≤ 0xF4
  · have leadEq := lead?_four (Nat.not_lt.mp three) four
    rw [byteEq, lead, Option.some.injEq, Prod.mk.injEq] at leadEq
    rw [leadEq.1, leadEq.2]
    exact .four (Nat.not_lt.mp three) four
  · rw [lead?_eq_none (by omega)] at lead
    cases lead

/-- The second byte of three is a byte that continues a character, no shorter form would do, and
no surrogate begins. -/
theorem secondOfThree_bounds (first : Nat) :
    0x80 ≤ (secondOfThree first).first.toNat ∧ (secondOfThree first).last.toNat < 0xC0 ∧
      (first = 0xE0 → 0xA0 ≤ (secondOfThree first).first.toNat) ∧
      (first = 0xED → (secondOfThree first).last.toNat < 0xA0) := by
  unfold secondOfThree
  split
  case isTrue isFirst => simp [isFirst]
  case isFalse notFirst =>
    split
    case isTrue isSurrogate => simp [isSurrogate]
    case isFalse notSurrogate => simp [anyTail, notFirst, notSurrogate]

theorem secondOfFour_bounds (first : Nat) :
    0x80 ≤ (secondOfFour first).first.toNat ∧ (secondOfFour first).last.toNat < 0xC0 ∧
      (first = 0xF0 → 0x90 ≤ (secondOfFour first).first.toNat) ∧
      (first = 0xF4 → (secondOfFour first).last.toNat < 0x90) := by
  unfold secondOfFour
  split
  case isTrue isFirst => simp [isFirst]
  case isFalse notFirst =>
    split
    case isTrue isLast => simp [isLast]
    case isFalse notLast => simp [anyTail, notFirst, notLast]

/-- A character goes on with a byte in its range. -/
theorem exists_of_tail {code taken result : Nat} {range : ByteRange} {ranges : List ByteRange}
    {bytes : List UInt8} (complete : tail code taken (range :: ranges) bytes = .complete result) :
    ∃ byte rest, bytes = byte :: rest ∧ range.first.toNat ≤ byte.toNat ∧
      byte.toNat ≤ range.last.toNat ∧
      tail (code * 64 + (byte.toNat - 0x80)) (taken + 1) ranges rest = .complete result := by
  cases bytes with
  | nil => cases complete
  | cons byte rest =>
      rw [tail] at complete
      split at complete
      case isTrue inRange =>
        simp only [ByteRange.contains, Bool.and_eq_true, decide_eq_true_eq,
          UInt8.le_iff_toNat_le] at inRange
        exact ⟨byte, rest, rfl, inRange.1, inRange.2, complete⟩
      case isFalse => cases complete

theorem exists_of_tail_any {code taken result : Nat} {ranges : List ByteRange}
    {bytes : List UInt8} (complete : tail code taken (anyTail :: ranges) bytes = .complete result) :
    ∃ byte rest, bytes = byte :: rest ∧ 0x80 ≤ byte.toNat ∧ byte.toNat ≤ 0xBF ∧
      tail (code * 64 + (byte.toNat - 0x80)) (taken + 1) ranges rest = .complete result :=
  exists_of_tail complete

theorem eq_of_tail_nil {code taken result : Nat} {bytes : List UInt8}
    (complete : tail code taken [] bytes = .complete result) : code = result := by
  rw [tail] at complete
  cases complete
  rfl

theorem val_ofNat {code : Nat} (valid : code < 0xD800 ∨ 0xDFFF < code ∧ code < 0x110000) :
    (Char.ofNat code).val.toNat = code := by
  have isValid : code.isValidChar := valid
  rw [Char.ofNat, dif_pos isValid]
  rfl

/-- A first byte with the bytes that complete its character is the form of that character. -/
theorem encode_of_complete {byte : UInt8} {rest : List UInt8} {bits code : Nat}
    {ranges : List ByteRange} (lead : lead? byte = some (bits, ranges))
    (complete : tail bits 0 ranges rest = .complete code) :
    String.utf8EncodeChar (Char.ofNat code) = byte :: rest.take ranges.length := by
  cases lead_of_lead? lead with
  | one high =>
      obtain rfl := eq_of_tail_nil complete
      have valEq : (Char.ofNat byte.toNat).val.toNat = byte.toNat := val_ofNat (by omega)
      simp only [String.utf8EncodeChar, valEq]
      rw [if_pos (by omega), UInt8.ofNat_toNat]
      rfl
  | two low high =>
      obtain ⟨second, rest, rfl, secondLow, secondHigh, complete⟩ := exists_of_tail_any complete
      obtain rfl := eq_of_tail_nil complete
      generalize codeEq : (byte.toNat - 0xC0) * 64 + (second.toNat - 0x80) = code
      have valEq : (Char.ofNat code).val.toNat = code := val_ofNat (by omega)
      simp only [String.utf8EncodeChar, valEq]
      rw [if_neg (by omega), if_pos (by omega)]
      have firstEq : code / 64 % 32 + 0xC0 = byte.toNat := by omega
      have secondEq : code % 64 + 0x80 = second.toNat := by omega
      rw [firstEq, secondEq, UInt8.ofNat_toNat, UInt8.ofNat_toNat]
      rfl
  | three low high =>
      obtain ⟨secondFirst, secondLast, shortest, scalar⟩ := secondOfThree_bounds byte.toNat
      obtain ⟨second, rest, rfl, secondLow, secondHigh, complete⟩ := exists_of_tail complete
      obtain ⟨third, rest, rfl, thirdLow, thirdHigh, complete⟩ := exists_of_tail_any complete
      obtain rfl := eq_of_tail_nil complete
      generalize codeEq : ((byte.toNat - 0xE0) * 64 + (second.toNat - 0x80)) * 64 +
        (third.toNat - 0x80) = code
      have valEq : (Char.ofNat code).val.toNat = code := val_ofNat (by omega)
      simp only [String.utf8EncodeChar, valEq]
      rw [if_neg (by omega), if_neg (by omega), if_pos (by omega)]
      have firstEq : code / 4096 % 16 + 0xE0 = byte.toNat := by omega
      have secondEq : code / 64 % 64 + 0x80 = second.toNat := by omega
      have thirdEq : code % 64 + 0x80 = third.toNat := by omega
      rw [firstEq, secondEq, thirdEq, UInt8.ofNat_toNat, UInt8.ofNat_toNat, UInt8.ofNat_toNat]
      rfl
  | four low high =>
      obtain ⟨secondFirst, secondLast, shortest, scalar⟩ := secondOfFour_bounds byte.toNat
      obtain ⟨second, rest, rfl, secondLow, secondHigh, complete⟩ := exists_of_tail complete
      obtain ⟨third, rest, rfl, thirdLow, thirdHigh, complete⟩ := exists_of_tail_any complete
      obtain ⟨fourth, rest, rfl, fourthLow, fourthHigh, complete⟩ := exists_of_tail_any complete
      obtain rfl := eq_of_tail_nil complete
      generalize codeEq : (((byte.toNat - 0xF0) * 64 + (second.toNat - 0x80)) * 64 +
        (third.toNat - 0x80)) * 64 + (fourth.toNat - 0x80) = code
      have valEq : (Char.ofNat code).val.toNat = code := val_ofNat (by omega)
      simp only [String.utf8EncodeChar, valEq]
      rw [if_neg (by omega), if_neg (by omega), if_neg (by omega)]
      have firstEq : code / 262144 % 8 + 0xF0 = byte.toNat := by omega
      have secondEq : code / 4096 % 64 + 0x80 = second.toNat := by omega
      have thirdEq : code / 64 % 64 + 0x80 = third.toNat := by omega
      have fourthEq : code % 64 + 0x80 = fourth.toNat := by omega
      rw [firstEq, secondEq, thirdEq, fourthEq, UInt8.ofNat_toNat, UInt8.ofNat_toNat,
        UInt8.ofNat_toNat, UInt8.ofNat_toNat]
      rfl

/-- Pieces that are all characters are the characters of the bytes. -/
theorem encode_of_chars? {bytes : List UInt8} {position : Nat} {chars : List Char}
    (decoded : chars? position (pieces bytes) = .ok chars) :
    chars.flatMap String.utf8EncodeChar = bytes := by
  induction bytes using pieces.induct generalizing position chars with
  | case1 =>
      rw [pieces] at decoded
      cases decoded
      rfl
  | case2 byte rest noLead ih =>
      rw [pieces, noLead] at decoded
      cases decoded
  | case3 byte rest bits ranges lead code complete ih =>
      rw [pieces, lead] at decoded
      simp only [complete, chars?] at decoded
      split at decoded
      case h_1 others othersEq =>
        cases decoded
        rw [List.flatMap_cons, encode_of_complete lead complete, ih othersEq, List.cons_append,
          List.take_append_drop]
      case h_2 => cases decoded
  | case4 byte rest bits ranges lead taken flaw broken ih =>
      rw [pieces, lead] at decoded
      simp only [broken, chars?] at decoded
      cases decoded

theorem decode?_eq_ok_iff {bytes : List UInt8} {text : String} :
    decode? bytes = .ok text ↔ bytes = encode text := by
  constructor
  · intro decoded
    unfold decode? at decoded
    split at decoded
    case h_1 chars charsEq =>
      cases decoded
      rw [encode, String.toList_ofList, encode_of_chars? charsEq]
    case h_2 => cases decoded
  · rintro rfl
    exact decode?_encode text

end CookedMode.Utf8
