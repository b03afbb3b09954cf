import CookedMode.Text.Quoted

/-!
# UTF-8

Decoding first cuts the bytes into pieces.  A piece is either a character or a
maximal ill-formed part: the longest run of bytes that begins a character and
that the next byte, or the end, breaks off.  Strict decoding fails at the first
ill-formed piece and says where it lies; replacing decoding puts U+FFFD in the
place of each.
-/

namespace CookedMode.Utf8

/-- The bytes of a text. -/
def encode (text : String) : List UInt8 :=
  text.toList.flatMap String.utf8EncodeChar

/-- What is wrong with an ill-formed piece. -/
inductive Flaw where
  /-- No character begins with this byte. -/
  | start
  /-- The next byte does not continue the character. -/
  | continuation
  /-- The bytes end inside a character. -/
  | truncated
  deriving DecidableEq, Repr

/-- The wording of a flaw. -/
def Flaw.message : Flaw → String
  | start => "invalid start byte"
  | continuation => "invalid continuation byte"
  | truncated => "unexpected end of data"

/-- A piece of a byte string. -/
inductive Piece where
  | char (value : Char)
  | flawed (first : UInt8) (size : Nat) (flaw : Flaw)
  deriving DecidableEq, Repr

/-- An inclusive range of bytes. -/
structure ByteRange where
  first : UInt8
  last : UInt8

/-- Whether a byte lies in a range. -/
def ByteRange.contains (range : ByteRange) (byte : UInt8) : Bool :=
  range.first ≤ byte && byte ≤ range.last

/-- Every continuation byte. -/
def anyTail : ByteRange := ⟨0x80, 0xBF⟩

/-- The bits a first byte contributes and the ranges of the bytes that have to
follow it.  The second byte is restricted where a shorter form, a surrogate or a
code point beyond the last one would begin. -/
def lead? (byte : UInt8) : Option (Nat × List ByteRange) :=
  if byte < 0x80 then some (byte.toNat, [])
  else if byte < 0xC2 then none
  else if byte < 0xE0 then some (byte.toNat - 0xC0, [anyTail])
  else if byte == 0xE0 then some (0, [⟨0xA0, 0xBF⟩, anyTail])
  else if byte == 0xED then some (0xD, [⟨0x80, 0x9F⟩, anyTail])
  else if byte < 0xF0 then some (byte.toNat - 0xE0, [anyTail, anyTail])
  else if byte == 0xF0 then some (0, [⟨0x90, 0xBF⟩, anyTail, anyTail])
  else if byte < 0xF4 then some (byte.toNat - 0xF0, [anyTail, anyTail, anyTail])
  else if byte == 0xF4 then some (4, [⟨0x80, 0x8F⟩, anyTail, anyTail])
  else none

/-- How the bytes after a first byte go on. -/
inductive Tail where
  | complete (code : Nat)
  | broken (taken : Nat) (flaw : Flaw)
  deriving DecidableEq, Repr

/-- Read the bytes that have to follow a first byte. -/
def tail (code taken : Nat) : List ByteRange → List UInt8 → Tail
  | [], _ => .complete code
  | _ :: _, [] => .broken taken .truncated
  | range :: ranges, byte :: rest =>
    if range.contains byte then
      tail (code * 64 + (byte.toNat - 0x80)) (taken + 1) ranges rest
    else .broken taken .continuation

/-- Cut a byte string into pieces. -/
def pieces (bytes : List UInt8) : List Piece :=
  match bytes with
  | [] => []
  | byte :: rest =>
    match lead? byte with
    | none => .flawed byte 1 .start :: pieces rest
    | some (bits, ranges) =>
      match tail bits 0 ranges rest with
      | .complete code => .char (Char.ofNat code) :: pieces (rest.drop ranges.length)
      | .broken taken flaw => .flawed byte (taken + 1) flaw :: pieces (rest.drop taken)
termination_by bytes.length
decreasing_by all_goals grind

/-- Where and why bytes are not a text. -/
structure Error where
  /-- The first byte of the ill-formed piece. -/
  first : UInt8
  /-- The number of bytes before it. -/
  position : Nat
  /-- The number of its bytes. -/
  size : Nat
  flaw : Flaw
  deriving DecidableEq, Repr

/-- The report of a decoding error. -/
def Error.message (error : Error) : String :=
  let place :=
    if error.size = 1 then
      "byte 0x" ++ Text.hex 2 error.first.toNat ++ " in position " ++ toString error.position
    else
      "bytes in position " ++ toString error.position ++ "-" ++
        toString (error.position + error.size - 1)
  "'utf-8' codec can't decode " ++ place ++ ": " ++ error.flaw.message

/-- The characters of pieces that begin at a position, or the first ill-formed
one. -/
def chars? (position : Nat) : List Piece → Except Error (List Char)
  | [] => .ok []
  | .char value :: rest =>
    match chars? (position + value.utf8Size) rest with
    | .ok chars => .ok (value :: chars)
    | .error error => .error error
  | .flawed first size flaw :: _ => .error ⟨first, position, size, flaw⟩

/-- The text of a byte string, which has to be well-formed. -/
def decode? (bytes : List UInt8) : Except Error String :=
  match chars? 0 (pieces bytes) with
  | .ok chars => .ok (String.ofList chars)
  | .error error => .error error

/-- The character that stands for an ill-formed piece. -/
def replacement : Char := Char.ofNat 0xFFFD

/-- The character a piece is shown as. -/
def Piece.shown : Piece → Char
  | .char value => value
  | .flawed _ _ _ => replacement

/-- The text of a byte string, each ill-formed piece replaced. -/
def decode (bytes : List UInt8) : String :=
  String.ofList ((pieces bytes).map Piece.shown)

end CookedMode.Utf8
