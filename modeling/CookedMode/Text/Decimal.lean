import CookedMode.Text.Blank

/-!
# Decimal numerals

The decimal digits of every script, as Unicode 14.0 has them, and the numerals that are
made of them.  Single underscores may separate the digits of a numeral.
-/

namespace CookedMode.Text

/-- The zeros of all scripts in ascending order.  The other digits of a script follow its
zero. -/
def zeros : Array Nat := #[
  0x30, 0x660, 0x6F0, 0x7C0, 0x966, 0x9E6, 0xA66, 0xAE6, 0xB66, 0xBE6, 0xC66, 0xCE6, 0xD66,
  0xDE6, 0xE50, 0xED0, 0xF20, 0x1040, 0x1090, 0x17E0, 0x1810, 0x1946, 0x19D0, 0x1A80, 0x1A90,
  0x1B50, 0x1BB0, 0x1C40, 0x1C50, 0xA620, 0xA8D0, 0xA900, 0xA9D0, 0xA9F0, 0xAA50, 0xABF0,
  0xFF10, 0x104A0, 0x10D30, 0x11066, 0x110F0, 0x11136, 0x111D0, 0x112F0, 0x11450, 0x114D0,
  0x11650, 0x116C0, 0x11730, 0x118E0, 0x11950, 0x11C50, 0x11D50, 0x11DA0, 0x16A60, 0x16AC0,
  0x16B50, 0x1D7CE, 0x1D7D8, 0x1D7E2, 0x1D7EC, 0x1D7F6, 0x1E140, 0x1E2F0, 0x1E950, 0x1FBF0]

/-- The value of an ASCII digit. -/
def asciiDigit? (char : Char) : Option Nat :=
  if char.isDigit then some (char.toNat - 0x30) else none

/-- The value of a digit of any script. -/
def digit? (char : Char) : Option Nat :=
  (zeros.find? fun first => first ≤ char.toNat && char.toNat < first + 10).map (char.toNat - ·)

/-- Read on in a numeral.  `value` is what has been read, and `separated` tells that no
underscore may come now and that there has to be a digit. -/
def numeralFrom? (digit? : Char → Option Nat) (value : Nat) (separated : Bool) :
    List Char → Option Nat
  | [] => if separated then none else some value
  | char :: rest =>
    if char == '_' then if separated then none else numeralFrom? digit? value true rest
    else
      match digit? char with
      | some digit => numeralFrom? digit? (value * 10 + digit) false rest
      | none => none

/-- The number of a numeral. -/
def numeral? (digit? : Char → Option Nat) (text : List Char) : Option Nat :=
  numeralFrom? digit? 0 true text

/-- White space around a number: the information separators do not belong to it. -/
def isNumberSpace (char : Char) : Bool :=
  isBlankChar char && !(0x1C ≤ char.toNat && char.toNat ≤ 0x1F)

/-- A text without the white space around a number. -/
def trimNumber (text : List Char) : List Char :=
  ((text.dropWhile isNumberSpace).reverse.dropWhile isNumberSpace).reverse

/-- The most digits of a number that is read. -/
def mostDigits : Nat := 4300

/-- The integer of a text: a sign, if any, and a numeral. -/
def integer? (text : List Char) : Option Int :=
  let natural? (digits : List Char) : Option Int :=
    if mostDigits < (digits.filter (· != '_')).length then none
    else (numeral? digit? digits).map Int.ofNat
  match trimNumber text with
  | '-' :: digits => (natural? digits).map (-·)
  | '+' :: digits => natural? digits
  | digits => natural? digits

end CookedMode.Text
