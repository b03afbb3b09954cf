import CookedMode.Data.Value
import CookedMode.Text.Decimal
import CookedMode.Yaml.Tag

/-!
# Values of scalars

The tag of a scalar says how its text is read.  A tag that was asked for may not fit
the text, so reading can fail.
-/

namespace CookedMode.Yaml

open Text (hexDigit?)

/-- The value of a digit of any script in a base of at most sixteen. -/
def digitOf? (base : Nat) (char : Char) : Option Nat :=
  (hexDigit? char <|> Text.digit? char).filter (· < base)

/-- The letter that may come after a zero in front of the digits of a base. -/
def baseLetter? (base : Nat) : Option Char :=
  if base == 2 then some 'b' else if base == 8 then some 'o' else if base == 16 then some 'x'
  else none

/-- Digits without a zero and the letter of the base in front of them. -/
def withoutBaseLetter (base : Nat) : List Char → List Char
  | '0' :: letter :: digits =>
    if (baseLetter? base).any (· == letter.toLower) then digits else '0' :: letter :: digits
  | digits => digits

/-- The integer of a text in a base.  White space around it means nothing. -/
def integerIn (base : Nat) (text : List Char) : Except Nonsense Int :=
  let trimmed := Text.trimNumber text
  let negative := trimmed.head? == some '-'
  let digits := withoutBaseLetter base (unsigned trimmed)
  let value? := digits.foldl
    (fun value? char =>
      value?.bind fun value => (digitOf? base char).map fun digit => value * base + digit)
    (some 0)
  match value? with
  | some value =>
    if digits.isEmpty then .error (.notInteger base (String.ofList text))
    else if base == 10 && Text.mostDigits < digits.length then .error (.tooLong digits.length)
    else .ok (if negative then -(value : Int) else value)
  | none => .error (.notInteger base (String.ofList text))

/-- The number of digits in base sixty, the first one greatest. -/
def sexagesimal (digits : List Int) : Int :=
  digits.foldl (fun value digit => value * 60 + digit) 0

/-- A text without underscores. -/
def withoutUnderscores (text : List Char) : List Char :=
  text.filter (· != '_')

/-- The integer of a text without a sign. -/
def magnitude (text : List Char) : Except Nonsense Int :=
  match text with
  | [] => .error .emptyNumber
  | ['0'] => .ok 0
  | '0' :: 'b' :: digits => integerIn 2 digits
  | '0' :: 'x' :: digits => integerIn 16 digits
  | '0' :: _ => integerIn 8 text
  | _ =>
    if text.contains ':' then ((cutAtColons text).mapM (integerIn 10)).map sexagesimal
    else integerIn 10 text

/-- The integer of a scalar. -/
def integerValue (text : String) : Except Nonsense Int :=
  match withoutUnderscores text.toList with
  | [] => .error .emptyNumber
  | '-' :: body => (magnitude body).map (-·)
  | '+' :: body => magnitude body
  | body => magnitude body

/-- The number of a text without a sign.  White space around it means nothing. -/
def floatOf (text : List Char) : Except Nonsense Binary64 :=
  match Binary64.ofText? (Text.trim text) with
  | some number => .ok number
  | none => .error (.notFloat (String.ofList text))

/-- The sum of numbers, the last of which counts once, and every other one sixty times
as often as the one after it. -/
def sumOfSixtieths (parts : List Binary64) : Binary64 :=
  (parts.reverse.foldl
    (fun (sum, factor) part => (sum.add (part.scale factor), factor * 60))
    (Binary64.finite false 0 0, 1)).1

/-- The number of a text in lower case without a sign. -/
def floatMagnitude (text : List Char) : Except Nonsense Binary64 :=
  if text == ".inf".toList then .ok (.infinite false)
  else if text == ".nan".toList then .ok .nan
  else if text.contains ':' then ((cutAtColons text).mapM floatOf).map sumOfSixtieths
  else floatOf text

/-- The number of a scalar. -/
def floatValue (text : String) : Except Nonsense Binary64 :=
  match (withoutUnderscores text.toList).map Char.toLower with
  | [] => .error .emptyNumber
  | '-' :: body => (floatMagnitude body).map Binary64.neg
  | '+' :: body => floatMagnitude body
  | body => floatMagnitude body

/-- Whether a year has a leap day. -/
def isLeapYear (year : Nat) : Bool :=
  year % 4 == 0 && (year % 100 != 0 || year % 400 == 0)

/-- The number of days of a month. -/
def daysOf (year month : Nat) : Nat :=
  if month == 2 then if isLeapYear year then 29 else 28
  else if [4, 6, 9, 11].contains month then 30
  else 31

/-- The literal of a duration in minutes. -/
def durationLiteral (minutes : Int) : String :=
  let days := minutes.fdiv (24 * 60)
  let seconds := minutes.fmod (24 * 60) * 60
  let parts :=
    (if days == 0 then [] else ["days=" ++ toString days]) ++
      if seconds == 0 then [] else ["seconds=" ++ toString seconds]
  "datetime.timedelta(" ++
    (if parts.isEmpty then "0" else String.intercalate ", " parts) ++ ")"

/-- The literal of an offset, which has to be shorter than a day. -/
def offsetLiteral (offset : Bool × Nat × Nat) : Except Nonsense String :=
  let (negative, hours, minutes) := offset
  let total := Binary64.signed negative (hours * 60 + minutes)
  if total.natAbs < 24 * 60 then
    .ok (if total == 0 then "datetime.timezone.utc"
      else "datetime.timezone(" ++ durationLiteral total ++ ")")
  else .error (.offset (durationLiteral total))

/-- Check a date. -/
def checkDate (year month day : Nat) : Except Nonsense Unit :=
  if year = 0 then .error .year
  else if month = 0 ∨ 12 < month then .error .month
  else if day = 0 ∨ daysOf year month < day then .error .day
  else .ok ()

/-- Check a time of day. -/
def checkTime (hour minute second : Nat) : Except Nonsense Unit :=
  if 23 < hour then .error .hour
  else if 59 < minute then .error .minute
  else if 59 < second then .error .second
  else .ok ()

/-- The microseconds of the digits after the point of the seconds. -/
def microseconds (fraction : List Char) : Nat :=
  let digits := fraction.take 6
  Binary64.digitsValue (digits ++ List.replicate (6 - digits.length) '0')

/-- The value of a point in time: a date, or a date and a time of day. -/
def momentValue (moment : Timestamp) : Except Nonsense Value := do
  let month := Timestamp.number moment.month
  let day := Timestamp.number moment.day
  let offset ← moment.offset.mapM offsetLiteral
  checkDate moment.year month day
  match moment.time with
  | none =>
    return .moment "date"
      ("datetime.date(" ++ String.intercalate ", " ([moment.year, month, day].map toString) ++ ")")
  | some (hour, minute, second) =>
    checkTime hour minute second
    let micro := microseconds moment.fraction
    let small :=
      if micro != 0 then [second, micro] else if second != 0 then [second] else []
    let numbers := [moment.year, month, day, hour, minute] ++ small
    return .moment "datetime"
      ("datetime.datetime(" ++
        String.intercalate ", "
          (numbers.map toString ++ (offset.map fun text => "tzinfo=" ++ text).toList) ++ ")")

/-- The value of a scalar that is a point in time. -/
def timestampValue (text : String) : Except Nonsense Value :=
  match Timestamp.ofText? text.toList with
  | some moment => momentValue moment
  | none => .error .notTimestamp

/-- The digits of base sixty-four. -/
def base64Digits : List Char :=
  "ABCDEFGHIJKLMNOPQRSTUVWXYZabcdefghijklmnopqrstuvwxyz0123456789+/".toList

/-- Read bytes in base sixty-four.  `count` tells how many digits of a group of four
were read, `left` holds the bits of the last digit that are still to be used, and
`pads` counts the equals signs since then.  Other characters mean nothing. -/
def base64Bytes (count left pads : Nat) : List Char → Option (List UInt8)
  | [] => if count = 0 then some [] else none
  | char :: rest =>
    if char == '=' then
      if 2 ≤ count ∧ 4 ≤ count + (pads + 1) then some []
      else base64Bytes count left (if 2 ≤ count then pads + 1 else pads) rest
    else
      match base64Digits.idxOf? char with
      | none => base64Bytes count left pads rest
      | some digit =>
        match count with
        | 0 => base64Bytes 1 digit 0 rest
        | 1 => (base64Bytes 2 (digit % 16) 0 rest).map ((left * 4 + digit / 16).toUInt8 :: ·)
        | 2 => (base64Bytes 3 (digit % 4) 0 rest).map ((left * 16 + digit / 4).toUInt8 :: ·)
        | _ => (base64Bytes 0 0 0 rest).map ((left * 64 + digit).toUInt8 :: ·)

/-- The bytes of a scalar. -/
def binaryValue (text : String) : Except Flaw Value :=
  if text.toList.any fun char => 0x80 ≤ char.toNat then .error .unsuitableTag
  else
    match base64Bytes 0 0 0 text.toList with
    | some bytes => .ok (.bytes bytes)
    | none => .error .unsuitableTag

/-- The boolean of a word in any case. -/
def booleanValue (text : String) : Except Nonsense Bool :=
  let word := text.map Char.toLower
  match booleanWords.lookup word with
  | some value => .ok value
  | none => .error (.notBoolean word)

/-- The value of a scalar. -/
def scalarValue (tag : Tag) (text : String) : Except Error Value :=
  match tag with
  | .null => .ok .null
  | .text => .ok (.text text)
  | .bool => ((booleanValue text).map Value.bool).mapError .nonsense
  | .int => ((integerValue text).map Value.int).mapError .nonsense
  | .float => ((floatValue text).map Value.float).mapError .nonsense
  | .timestamp => (timestampValue text).mapError .nonsense
  | .binary => (binaryValue text).mapError .malformed
  | _ => .error (.malformed .unsuitableTag)

end CookedMode.Yaml
