/-!
# Binary floating-point numbers of 64 bits

A finite number is a sign, a mantissa and a power of two.  Decimal texts are
rounded to the nearest number, ties to the even mantissa, in exact arithmetic.  A
number is shown by the fewest digits that read back as the same number, and among
those by the nearest.
-/

namespace CookedMode

/-- A floating-point number. -/
inductive Binary64 where
  /-- The number `mantissa * 2 ^ exponent`, or its negative. -/
  | finite (negative : Bool) (mantissa : Nat) (exponent : Int)
  | infinite (negative : Bool)
  | nan
  deriving DecidableEq, Repr, Inhabited

namespace Binary64

/-- The number of bits of a mantissa. -/
def precision : Nat := 53

/-- The exponent of the smallest numbers. -/
def leastExponent : Int := -1074

/-- The exponent of the largest numbers. -/
def greatestExponent : Int := 971

/-- The quotient rounded to the nearest number, ties to the even one. -/
def roundQuotient (num den : Nat) : Nat :=
  let quotient := num / den
  let rest := num % den
  if 2 * rest < den then quotient
  else if den < 2 * rest then quotient + 1
  else quotient + quotient % 2

/-- The rational `num / den` divided by `2 ^ exponent` and rounded. -/
def scaledQuotient (num den : Nat) (exponent : Int) : Nat :=
  if 0 ≤ exponent then roundQuotient num (den * Nat.pow 2 exponent.toNat)
  else roundQuotient (num * Nat.pow 2 exponent.natAbs) den

/-- The number nearest to a positive rational. -/
def ofRatio (negative : Bool) (num den : Nat) : Binary64 :=
  if num = 0 then finite negative 0 0
  else
    let guess := max leastExponent ((num.log2 : Int) - (den.log2 : Int) - precision)
    let exponent :=
      if scaledQuotient num den guess < Nat.pow 2 precision then guess else guess + 1
    let mantissa := scaledQuotient num den exponent
    let (mantissa, exponent) :=
      if mantissa < Nat.pow 2 precision then (mantissa, exponent) else (mantissa / 2, exponent + 1)
    if greatestExponent < exponent then infinite negative
    else finite negative mantissa exponent

/-- More decimal places than this before or after the point leave no finite
number, or nothing. -/
def decimalLimit : Int := 400

/-- The number nearest to `digits * 10 ^ scale`. -/
def ofDecimal (negative : Bool) (digits : Nat) (scale : Int) : Binary64 :=
  if digits = 0 then finite negative 0 0
  else if decimalLimit < scale + (Nat.toDigits 10 digits).length then infinite negative
  else if scale + (Nat.toDigits 10 digits).length < -decimalLimit then finite negative 0 0
  else if 0 ≤ scale then ofRatio negative (digits * Nat.pow 10 scale.toNat) 1
  else ofRatio negative digits (Nat.pow 10 scale.natAbs)

/-- The number nearest to an integer times a power of two. -/
def ofScaled (significand : Int) (exponent : Int) : Binary64 :=
  let negative := significand < 0
  if 0 ≤ exponent then ofRatio negative (significand.natAbs * Nat.pow 2 exponent.toNat) 1
  else ofRatio negative significand.natAbs (Nat.pow 2 exponent.natAbs)

/-- The number nearest to an integer. -/
def ofInt (value : Int) : Binary64 := ofScaled value 0

/-- The negative of a number. -/
def neg : Binary64 → Binary64
  | finite negative mantissa exponent => finite (!negative) mantissa exponent
  | infinite negative => infinite (!negative)
  | nan => nan

/-- A mantissa with its sign. -/
def signed (negative : Bool) (mantissa : Nat) : Int :=
  if negative then -(mantissa : Int) else mantissa

/-- The rounded sum of two numbers. -/
def add : Binary64 → Binary64 → Binary64
  | finite negative mantissa exponent, finite otherNegative otherMantissa otherExponent =>
    let least := min exponent otherExponent
    ofScaled
      (signed negative (mantissa * Nat.pow 2 (exponent - least).toNat) +
        signed otherNegative (otherMantissa * Nat.pow 2 (otherExponent - least).toNat))
      least
  | infinite negative, infinite other => if negative == other then infinite negative else nan
  | infinite negative, finite .. => infinite negative
  | finite .., infinite negative => infinite negative
  | nan, _ => nan
  | _, nan => nan

/-- The rounded product of a number and a positive integer. -/
def scale (factor : Nat) : Binary64 → Binary64
  | finite negative mantissa exponent =>
    match ofInt factor with
    | finite _ otherMantissa otherExponent =>
      match ofScaled (mantissa * otherMantissa : Nat) (exponent + otherExponent) with
      | finite _ mantissa exponent => finite negative mantissa exponent
      | _ => infinite negative
    | _ => infinite negative
  | number => number

/-- The digits at the front of a text, and the text after them. -/
def leadingDigits (text : List Char) : List Char × List Char :=
  (text.takeWhile Char.isDigit, text.dropWhile Char.isDigit)

/-- The number of some decimal digits. -/
def digitsValue (digits : List Char) : Nat :=
  digits.foldl (fun value char => value * 10 + (char.toNat - 0x30)) 0

/-- The exponent that a text consists of: nothing, or the letter and an integer. -/
def exponentOf? : List Char → Option Int
  | [] => some 0
  | mark :: rest =>
    if mark != 'e' && mark != 'E' then none
    else
      let (negative, digits) :=
        match rest with
        | '-' :: digits => (true, digits)
        | '+' :: digits => (false, digits)
        | digits => (false, digits)
      if digits.isEmpty || !digits.all Char.isDigit then none
      else some (signed negative (digitsValue digits))

/-- The number of a decimal text without a sign: digits, a point and more digits,
and an exponent; or a word. -/
def ofUnsigned? (negative : Bool) (text : List Char) : Option Binary64 :=
  let word := String.ofList (text.map Char.toLower)
  if word == "inf" || word == "infinity" then some (infinite negative)
  else if word == "nan" then some nan
  else
    let (whole, rest) := leadingDigits text
    let (fraction, rest) :=
      match rest with
      | '.' :: rest => leadingDigits rest
      | rest => ([], rest)
    if whole.isEmpty && fraction.isEmpty then none
    else
      (exponentOf? rest).map fun exponent =>
        ofDecimal negative (digitsValue (whole ++ fraction)) (exponent - fraction.length)

/-- The number of a decimal text. -/
def ofText? : List Char → Option Binary64
  | '-' :: text => ofUnsigned? true text
  | '+' :: text => ofUnsigned? false text
  | text => ofUnsigned? false text

/-- The integer of a number without a fraction. -/
def toInt? : Binary64 → Option Int
  | finite negative mantissa exponent =>
    let magnitude? : Option Nat :=
      if 0 ≤ exponent then some (mantissa * Nat.pow 2 exponent.toNat)
      else
        let unit := Nat.pow 2 exponent.natAbs
        if mantissa % unit = 0 then some (mantissa / unit) else none
    magnitude?.map fun magnitude => if negative then -(magnitude : Int) else magnitude
  | infinite _ => none
  | nan => none

/-- The same number whatever power of two it is written with. -/
def sameMagnitude (mantissa : Nat) (exponent : Int) : Binary64 → Bool
  | finite _ otherMantissa otherExponent =>
    let least := min exponent otherExponent
    mantissa * Nat.pow 2 (exponent - least).toNat ==
      otherMantissa * Nat.pow 2 (otherExponent - least).toNat
  | _ => false

/-- The decimal point of a positive number: it lies between `10 ^ (point - 1)` and
`10 ^ point`. -/
def pointOf (num den : Nat) : Int :=
  let guess : Int := (Nat.toDigits 10 num).length - (Nat.toDigits 10 den).length
  let reaches (point : Int) : Bool :=
    if 0 ≤ point then Nat.pow 10 point.toNat * den ≤ num else den ≤ num * Nat.pow 10 point.natAbs
  if reaches guess then guess + 1 else guess

/-- A decimal of some number of digits next to a positive number that reads back as
it, the nearer one if there are two. -/
def decimalOf? (mantissa : Nat) (exponent : Int) (num den count : Nat) (point : Int) :
    Option Nat :=
  let scale := point - count
  let (scaledNum, scaledDen) :=
    if 0 ≤ scale then (num, den * Nat.pow 10 scale.toNat)
    else (num * Nat.pow 10 scale.natAbs, den)
  let below := scaledNum / scaledDen
  let rest := scaledNum % scaledDen
  let candidates :=
    if 2 * rest < scaledDen || (2 * rest == scaledDen && below % 2 == 0) then
      [below, below + 1]
    else [below + 1, below]
  candidates.find? fun digits =>
    digits != 0 && sameMagnitude mantissa exponent (ofDecimal false digits scale)

/-- The shortest digits of a positive number and the place of its point. -/
def shortest (mantissa : Nat) (exponent : Int) : List Char × Int :=
  let (num, den) :=
    if 0 ≤ exponent then (mantissa * Nat.pow 2 exponent.toNat, 1)
    else (mantissa, Nat.pow 2 exponent.natAbs)
  let point := pointOf num den
  let found? := (List.range 17).findSome? fun count =>
    decimalOf? mantissa exponent num den (count + 1) point |>.map fun digits =>
      (Nat.toDigits 10 digits, point + (Nat.toDigits 10 digits).length - (count + 1))
  match found? with
  | some (digits, point) =>
    (digits.take 1 ++ ((digits.drop 1).reverse.dropWhile (· == '0')).reverse, point)
  | none => (['0'], 1)

/-- The exponents of ten that are written positionally, and how an exponent is
written: at least two digits after its sign. -/
structure Format where
  leastPoint : Int
  greatestPoint : Int
  exponentWidth : Nat

/-- Numbers from one ten-thousandth up to below ten to the sixteenth are written
positionally. -/
def format : Format := ⟨-3, 16, 2⟩

/-- An exponent of ten. -/
def exponentText (exponent : Int) : String :=
  let digits := Nat.toDigits 10 exponent.natAbs
  (if exponent < 0 then "e-" else "e+") ++
    String.ofList (List.replicate (format.exponentWidth - digits.length) '0' ++ digits)

/-- Digits with their point. -/
def positionalText (digits : List Char) (point : Int) : String :=
  if point ≤ 0 then
    "0." ++ String.ofList (List.replicate point.natAbs '0' ++ digits)
  else
    let whole := digits.take point.toNat
    let fraction := digits.drop point.toNat
    String.ofList (whole ++ List.replicate (point.toNat - whole.length) '0') ++ "." ++
      (if fraction.isEmpty then "0" else String.ofList fraction)

/-- The text of a number. -/
def text : Binary64 → String
  | nan => "nan"
  | infinite negative => if negative then "-inf" else "inf"
  | finite negative mantissa exponent =>
    (if negative then "-" else "") ++
      if mantissa = 0 then "0.0"
      else
        let (digits, point) := shortest mantissa exponent
        if format.leastPoint ≤ point ∧ point ≤ format.greatestPoint then
          positionalText digits point
        else
          String.ofList (digits.take 1) ++
            (if digits.length = 1 then "" else "." ++ String.ofList (digits.drop 1)) ++
            exponentText (point - 1)

end Binary64

end CookedMode
