/-!
# Numbers and bytes in base sixteen

Digits are written in lower case, padded with zeros to a width, and read in either
case.
-/

namespace CookedMode.Text

/-- The digits of a number in base sixteen, padded with zeros to a width. -/
def hex (width value : Nat) : String :=
  let digits := Nat.toDigits 16 value
  String.ofList (List.replicate (width - digits.length) '0' ++ digits)

/-- The digits of bytes, two for each. -/
def hexOfBytes (bytes : List UInt8) : String :=
  String.join (bytes.map fun byte => hex 2 byte.toNat)

/-- The value of a digit in base sixteen. -/
def hexDigit? (char : Char) : Option Nat :=
  if char.isDigit then some (char.toNat - 0x30)
  else if 'a' ≤ char ∧ char ≤ 'f' then some (char.toNat - 0x61 + 10)
  else if 'A' ≤ char ∧ char ≤ 'F' then some (char.toNat - 0x41 + 10)
  else none

/-- The number of some digits in base sixteen. -/
def hexNumber? (digits : List Char) : Option Nat :=
  digits.foldl
    (fun value? char =>
      match value?, hexDigit? char with
      | some value, some digit => some (value * 16 + digit)
      | _, _ => none)
    (some 0)

/-- The bytes of some digits, two for each. -/
def bytesOfHex? : List Char → Option (List UInt8)
  | [] => some []
  | [_] => none
  | high :: low :: rest =>
    match hexNumber? [high, low], bytesOfHex? rest with
    | some byte, some bytes => some (byte.toUInt8 :: bytes)
    | _, _ => none

end CookedMode.Text
