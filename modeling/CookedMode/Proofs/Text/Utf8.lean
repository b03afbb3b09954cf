import CookedMode.Text.Utf8

/-!
# Texts survive UTF-8

The bytes of a text are cut into exactly its characters again, so both ways of decoding give
the text back.  A byte below 0x80 is always a character of its own, which is why line ends
can be told apart before decoding.
-/

namespace CookedMode.Utf8

theorem toNat_ofNat {code : Nat} (small : code < 256) : (UInt8.ofNat code).toNat = code := by
  rw [UInt8.toNat_ofNat']
  exact Nat.mod_eq_of_lt small

/-- The range of the second byte after the first byte of three. -/
def secondOfThree (first : Nat) : ByteRange :=
  if first = 0xE0 then ⟨0xA0, 0xBF⟩ else if first = 0xED then ⟨0x80, 0x9F⟩ else anyTail

/-- The range of the second byte after the first byte of four. -/
def secondOfFour (first : Nat) : ByteRange :=
  if first = 0xF0 then ⟨0x90, 0xBF⟩ else if first = 0xF4 then ⟨0x80, 0x8F⟩ else anyTail

theorem lead?_one {first : Nat} (high : first < 0x80) :
    lead? (UInt8.ofNat first) = some (first, []) := by
  have byte : (UInt8.ofNat first).toNat = first := toNat_ofNat (by omega)
  have ascii : UInt8.ofNat first < 0x80 := by
    rw [UInt8.lt_iff_toNat_lt, byte]
    exact high
  rw [lead?, if_pos ascii, byte]

theorem lead?_two {first : Nat} (low : 0xC2 ≤ first) (high : first < 0xE0) :
    lead? (UInt8.ofNat first) = some (first - 0xC0, [anyTail]) := by
  have byte : (UInt8.ofNat first).toNat = first := toNat_ofNat (by omega)
  simp only [lead?, UInt8.lt_iff_toNat_lt, byte]
  simp [show ¬first < 128 by omega, show ¬first < 194 by omega, high]

theorem lead?_three {first : Nat} (low : 0xE0 ≤ first) (high : first < 0xF0) :
    lead? (UInt8.ofNat first) = some (first - 0xE0, [secondOfThree first, anyTail]) := by
  have byte : (UInt8.ofNat first).toNat = first := toNat_ofNat (by omega)
  simp only [lead?, secondOfThree, UInt8.lt_iff_toNat_lt, beq_iff_eq, ← UInt8.toNat_inj, byte]
  simp [show ¬first < 128 by omega, show ¬first < 194 by omega, show ¬first < 224 by omega,
    high]
  split
  · simp_all
  · split <;> simp_all

theorem lead?_four {first : Nat} (low : 0xF0 ≤ first) (high : first ≤ 0xF4) :
    lead? (UInt8.ofNat first) =
      some (first - 0xF0, [secondOfFour first, anyTail, anyTail]) := by
  have byte : (UInt8.ofNat first).toNat = first := toNat_ofNat (by omega)
  simp only [lead?, secondOfFour, UInt8.lt_iff_toNat_lt, beq_iff_eq, ← UInt8.toNat_inj, byte]
  simp [show ¬first < 128 by omega, show ¬first < 194 by omega, show ¬first < 224 by omega,
    show ¬first < 240 by omega, show first ≠ 224 by omega, show first ≠ 237 by omega]
  by_cases isFirst : first = 240
  · simp [isFirst]
  · by_cases isLast : first = 244
    · simp [isLast]
    · simp [isFirst, isLast, show first < 244 by omega]

/-- A byte that follows in its range adds six bits. -/
theorem tail_cons {code taken first last bits : Nat} {ranges : List ByteRange}
    (rest : List UInt8) (low : first ≤ bits + 128) (high : bits + 128 ≤ last) (small : last < 256) :
    tail code taken (⟨UInt8.ofNat first, UInt8.ofNat last⟩ :: ranges)
        (UInt8.ofNat (bits + 128) :: rest) =
      tail (code * 64 + bits) (taken + 1) ranges rest := by
  have byte : (UInt8.ofNat (bits + 128)).toNat = bits + 128 := toNat_ofNat (by omega)
  have inRange : ByteRange.contains ⟨UInt8.ofNat first, UInt8.ofNat last⟩
      (UInt8.ofNat (bits + 128)) = true := by
    simp only [ByteRange.contains, Bool.and_eq_true, decide_eq_true_eq, UInt8.le_iff_toNat_le,
      byte]
    rw [toNat_ofNat small, toNat_ofNat (by omega : first < 256)]
    exact ⟨low, high⟩
  rw [tail, if_pos inRange, byte, Nat.add_sub_cancel]

theorem tail_any {code taken bits : Nat} {ranges : List ByteRange} (rest : List UInt8)
    (small : bits < 64) :
    tail code taken (anyTail :: ranges) (UInt8.ofNat (bits + 128) :: rest) =
      tail (code * 64 + bits) (taken + 1) ranges rest :=
  tail_cons rest (Nat.le_add_left _ _) (by omega : bits + 128 ≤ 0xBF) (by decide)

/-- The second byte of three: no shorter form would do, and no surrogate begins. -/
theorem tail_secondOfThree {first code taken bits : Nat} {ranges : List ByteRange}
    (rest : List UInt8) (small : bits < 64) (shortest : first = 0xE0 → 32 ≤ bits)
    (scalar : first = 0xED → bits < 32) :
    tail code taken (secondOfThree first :: ranges) (UInt8.ofNat (bits + 128) :: rest) =
      tail (code * 64 + bits) (taken + 1) ranges rest := by
  unfold secondOfThree
  split
  case isTrue isFirst =>
    have := shortest isFirst
    exact tail_cons rest (by omega : 0xA0 ≤ bits + 128) (by omega : bits + 128 ≤ 0xBF) (by decide)
  case isFalse =>
    split
    case isTrue isSurrogate =>
      have := scalar isSurrogate
      exact tail_cons rest (by omega : 0x80 ≤ bits + 128) (by omega : bits + 128 ≤ 0x9F)
        (by decide)
    case isFalse => exact tail_any rest small

/-- The second byte of four: no shorter form would do, and the last code point is not
passed. -/
theorem tail_secondOfFour {first code taken bits : Nat} {ranges : List ByteRange}
    (rest : List UInt8) (small : bits < 64) (shortest : first = 0xF0 → 16 ≤ bits)
    (scalar : first = 0xF4 → bits < 16) :
    tail code taken (secondOfFour first :: ranges) (UInt8.ofNat (bits + 128) :: rest) =
      tail (code * 64 + bits) (taken + 1) ranges rest := by
  unfold secondOfFour
  split
  case isTrue isFirst =>
    have := shortest isFirst
    exact tail_cons rest (by omega : 0x90 ≤ bits + 128) (by omega : bits + 128 ≤ 0xBF) (by decide)
  case isFalse =>
    split
    case isTrue isLast =>
      have := scalar isLast
      exact tail_cons rest (by omega : 0x80 ≤ bits + 128) (by omega : bits + 128 ≤ 0x8F)
        (by decide)
    case isFalse => exact tail_any rest small

theorem pieces_char {first : UInt8} {bits code : Nat} {ranges : List ByteRange}
    {following rest : List UInt8} (lead : lead? first = some (bits, ranges))
    (goesOn : tail bits 0 ranges (following ++ rest) = .complete code)
    (width : following.length = ranges.length) :
    pieces (first :: following ++ rest) = .char (Char.ofNat code) :: pieces rest := by
  rw [List.cons_append, pieces, lead]
  simp only [goesOn]
  rw [← width, List.drop_left]

/-- The bytes of a character are one piece. -/
theorem pieces_utf8EncodeChar (char : Char) (rest : List UInt8) :
    pieces (String.utf8EncodeChar char ++ rest) = .char char :: pieces rest := by
  have valid : char.val.toNat < 0xD800 ∨ 0xDFFF < char.val.toNat ∧ char.val.toNat < 0x110000 :=
    char.valid
  have charEq : Char.ofNat char.val.toNat = char := Char.ofNat_toNat char
  simp only [String.utf8EncodeChar]
  generalize codeEq : char.val.toNat = code at *
  split
  case isTrue one =>
    rw [← charEq]
    exact pieces_char (lead?_one (by omega)) rfl rfl
  case isFalse more =>
    split
    case isTrue two =>
      rw [← charEq]
      refine pieces_char (lead?_two (by omega) (by omega)) ?_ rfl
      rw [List.cons_append, tail_any _ (by omega)]
      rw [tail]
      congr 1
      omega
    case isFalse more =>
      split
      case isTrue three =>
        rw [← charEq]
        refine pieces_char (lead?_three (by omega) (by omega)) ?_ rfl
        rw [List.cons_append, tail_secondOfThree _ (by omega) (by omega) (by omega),
          List.cons_append, tail_any _ (by omega), tail]
        congr 1
        omega
      case isFalse four =>
        rw [← charEq]
        refine pieces_char (lead?_four (by omega) (by omega)) ?_ rfl
        rw [List.cons_append, tail_secondOfFour _ (by omega) (by omega) (by omega),
          List.cons_append, tail_any _ (by omega), List.cons_append, tail_any _ (by omega), tail]
        congr 1
        omega

theorem pieces_encode (text : String) : pieces (encode text) = text.toList.map .char := by
  have all (chars : List Char) :
      pieces (chars.flatMap String.utf8EncodeChar) = chars.map .char := by
    induction chars with
    | nil => rw [List.flatMap_nil, pieces]; rfl
    | cons char chars ih => rw [List.flatMap_cons, pieces_utf8EncodeChar, ih]; rfl
  exact all text.toList

@[simp] theorem decode_encode (text : String) : decode (encode text) = text := by
  rw [decode, pieces_encode, List.map_map]
  have shown : Piece.shown ∘ Piece.char = id := rfl
  rw [shown, List.map_id, String.ofList_toList]

@[simp] theorem decode?_encode (text : String) : decode? (encode text) = .ok text := by
  have all (chars : List Char) (position : Nat) :
      chars? position (chars.map .char) = .ok chars := by
    induction chars generalizing position with
    | nil => rfl
    | cons char chars ih => simp [chars?, ih]
  rw [decode?, pieces_encode, all]
  simp

/-- A byte below 0x80 in the bytes of a text is a character of the text. -/
theorem mem_of_mem_encode {text : String} (code : Nat) (ascii : code < 0x80)
    (member : UInt8.ofNat code ∈ encode text) : Char.ofNat code ∈ text.toList := by
  rw [encode, List.mem_flatMap] at member
  obtain ⟨char, isChar, inBytes⟩ := member
  have valid : char.val.toNat < 0xD800 ∨ 0xDFFF < char.val.toNat ∧ char.val.toNat < 0x110000 :=
    char.valid
  have codeEq : code = char.val.toNat := by
    have byteEq {other : Nat} (small : other < 256) (same : UInt8.ofNat code = UInt8.ofNat other) :
        code = other := by
      have := congrArg UInt8.toNat same
      rwa [toNat_ofNat (by omega), toNat_ofNat small] at this
    simp only [String.utf8EncodeChar] at inBytes
    split at inBytes
    case isTrue =>
      rw [List.mem_singleton] at inBytes
      exact byteEq (by omega) inBytes
    case isFalse =>
      -- every byte of a longer form is 0x80 or more
      split at inBytes
      case isTrue =>
        rcases List.mem_cons.mp inBytes with same | inBytes
        · exact absurd (byteEq (by omega) same) (by omega)
        · exact absurd (byteEq (by omega) (List.mem_singleton.mp inBytes)) (by omega)
      case isFalse =>
        split at inBytes <;>
          simp only [List.mem_cons, List.not_mem_nil, or_false] at inBytes
        · rcases inBytes with same | same | same <;>
            exact absurd (byteEq (by omega) same) (by omega)
        · rcases inBytes with same | same | same | same <;>
            exact absurd (byteEq (by omega) same) (by omega)
  rw [codeEq]
  exact (Char.ofNat_toNat char).symm ▸ isChar

end CookedMode.Utf8
