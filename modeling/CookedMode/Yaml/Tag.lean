import CookedMode.Number.Binary64
import CookedMode.Yaml.Token

/-!
# Tags

The tag of a node says what kind of value it stands for.  A plain scalar without a
tag gets one from the way it is spelled, as version 1.1 of YAML has it.
-/

namespace CookedMode.Yaml

open Text (hexDigit?)

/-- What kind of value a node stands for. -/
inductive Tag where
  | null
  | bool
  | int
  | float
  | text
  | timestamp
  | binary
  | sequence
  | mapping
  | set
  | omap
  | pairs
  /-- The key of mappings to be merged. -/
  | merge
  /-- The key of the value that a mapping stands for where a scalar is wanted. -/
  | default
  /-- A tag that no value has. -/
  | other (name : String)
  deriving DecidableEq, Repr, Inhabited

namespace Tag

/-- The stem of the tags that YAML itself defines. -/
def stem : String := "tag:yaml.org,2002:"

/-- The tags that can be asked for by name. -/
def named : List (String × Tag) :=
  [("null", null), ("bool", bool), ("int", int), ("float", float), ("str", text),
    ("timestamp", timestamp), ("binary", binary), ("seq", sequence), ("map", mapping),
    ("set", set), ("omap", omap), ("pairs", pairs), ("merge", merge), ("value", default)]

/-- The tag of a name. -/
def ofName (name : String) : Tag :=
  match named.find? fun (short, _) => stem ++ short == name with
  | some (_, tag) => tag
  | none => other name

end Tag

/-- A text without a sign at its front. -/
def unsigned : List Char → List Char
  | '-' :: text => text
  | '+' :: text => text
  | text => text

/-- Whether a character is a decimal digit or an underscore. -/
def isDigitMark (char : Char) : Bool := char.isDigit || char == '_'

/-- Whether a character is an octal digit. -/
def isOctal (char : Char) : Bool := '0' ≤ char && char ≤ '7'

/-- Whether a text is a digit and then digits and underscores. -/
def isNumeral : List Char → Bool
  | [] => false
  | char :: rest => char.isDigit && rest.all isDigitMark

/-- Whether a text is a number below sixty. -/
def isSixtieth : List Char → Bool
  | [unit] => unit.isDigit
  | [ten, unit] => '0' ≤ ten && ten ≤ '5' && unit.isDigit
  | _ => false

/-- Cut a text at every colon. -/
def cutAtColons : List Char → List (List Char)
  | [] => [[]]
  | char :: rest =>
    match cutAtColons rest with
    | [] => [[char]]
    | first :: others => if char == ':' then [] :: first :: others else (char :: first) :: others

/-- Whether a text is a numeral and, after colons, numbers below sixty. -/
def isSexagesimal (text : List Char) : Bool :=
  match cutAtColons text with
  | [] => false
  | first :: others => isNumeral first && others.all isSixtieth

/-- Whether a text is spelled as an integer. -/
def isIntegerText (text : List Char) : Bool :=
  match unsigned text with
  | [] => false
  | '0' :: 'b' :: digits =>
    !digits.isEmpty && digits.all fun char => char == '0' || char == '1' || char == '_'
  | '0' :: 'x' :: digits =>
    !digits.isEmpty && digits.all fun char => (hexDigit? char).isSome || char == '_'
  | '0' :: digits => digits.all fun char => isOctal char || char == '_'
  | body => isSexagesimal body

/-- Whether a text is nothing or an exponent with a sign. -/
def isExponent : List Char → Bool
  | [] => true
  | mark :: sign :: digits =>
    (mark == 'e' || mark == 'E') && (sign == '-' || sign == '+') && !digits.isEmpty &&
      digits.all Char.isDigit
  | _ => false

/-- Whether a text is spelled as a number with a point. -/
def isFloatText (text : List Char) : Bool :=
  let body := unsigned text
  if [".inf", ".Inf", ".INF"].contains (String.ofList body) then true
  else if [".nan", ".NaN", ".NAN"].contains (String.ofList text) then true
  else
    let whole := body.takeWhile fun char => isDigitMark char || char == ':'
    match body.drop whole.length with
    | '.' :: rest =>
      let fraction := rest.takeWhile isDigitMark
      let after := rest.drop fraction.length
      if whole.isEmpty then
        body.length == text.length && isNumeral fraction && isExponent after
      else if whole.contains ':' then isSexagesimal whole && after.isEmpty
      else isNumeral whole && isExponent after
    | _ => false

/-- A point in time as it is written: a date, perhaps with a time of day, and that
perhaps with an offset. -/
structure Timestamp where
  year : Nat
  /-- The digits of the month and of the day. -/
  month : List Char
  day : List Char
  time : Option (Nat × Nat × Nat) := none
  /-- The digits after the point of the seconds. -/
  fraction : List Char := []
  /-- The hours and minutes of an offset, and whether it is negative. -/
  offset : Option (Bool × Nat × Nat) := none
  deriving DecidableEq, Repr

namespace Timestamp

/-- Take digits from the front of a text, at least and at most so many. -/
def takeDigits? (least most : Nat) (text : List Char) : Option (List Char × List Char) :=
  let digits := (text.take most).takeWhile Char.isDigit
  if digits.length < least then none else some (digits, text.drop digits.length)

/-- Take a character from the front of a text. -/
def takeChar? (expected : Char) : List Char → Option (List Char)
  | [] => none
  | char :: rest => if char == expected then some rest else none

/-- The number of some digits. -/
def number (digits : List Char) : Nat := Binary64.digitsValue digits

/-- Skip spaces and tabs. -/
def skipBlanks (text : List Char) : List Char :=
  text.dropWhile fun char => char == ' ' || char == '\t'

/-- The offset that a text consists of; none if it is not said. -/
def offset? (text : List Char) : Option (Option (Bool × Nat × Nat)) :=
  if text.isEmpty then some none
  else
    match skipBlanks text with
    | ['Z'] => some (some (false, 0, 0))
    | sign :: rest =>
      if sign != '-' && sign != '+' then none
      else do
        let (hours, rest) ← takeDigits? 1 2 rest
        if rest.isEmpty then some (some (sign == '-', number hours, 0))
        else
          let rest ← takeChar? ':' rest
          let (minutes, rest) ← takeDigits? 2 2 rest
          if rest.isEmpty then some (some (sign == '-', number hours, number minutes)) else none
    | [] => none

/-- The text after the separator between a date and a time of day. -/
def afterSeparator? : List Char → Option (List Char)
  | [] => none
  | char :: rest =>
    if char == 'T' || char == 't' then some rest
    else if char == ' ' || char == '\t' then some (skipBlanks rest)
    else none

/-- The point in time of a text. -/
def ofText? (text : List Char) : Option Timestamp := do
  let (year, rest) ← takeDigits? 4 4 text
  let rest ← takeChar? '-' rest
  let (month, rest) ← takeDigits? 1 2 rest
  let rest ← takeChar? '-' rest
  let (day, rest) ← takeDigits? 1 2 rest
  if rest.isEmpty then some { year := number year, month, day }
  else
    let rest ← afterSeparator? rest
    let (hour, rest) ← takeDigits? 1 2 rest
    let rest ← takeChar? ':' rest
    let (minute, rest) ← takeDigits? 2 2 rest
    let rest ← takeChar? ':' rest
    let (second, rest) ← takeDigits? 2 2 rest
    let (fraction, rest) :=
      match rest with
      | '.' :: rest => Binary64.leadingDigits rest
      | rest => ([], rest)
    let offset ← offset? rest
    some
      { year := number year, month, day, time := some (number hour, number minute, number second),
        fraction, offset }

end Timestamp

/-- Whether a text is spelled as a point in time.  A date alone needs two digits for
its month and its day. -/
def isTimestampText (text : List Char) : Bool :=
  match Timestamp.ofText? text with
  | none => false
  | some moment => moment.time.isSome || (moment.month.length == 2 && moment.day.length == 2)

/-- The words that stand for yes and for no, in lower case. -/
def booleanWords : List (String × Bool) :=
  [("yes", true), ("no", false), ("true", true), ("false", false), ("on", true), ("off", false)]

/-- Whether a word is written in lower case, in upper case, or with a capital. -/
def isWordOf (word : String) (text : List Char) : Bool :=
  let letters := word.toList
  text == letters || text == letters.map Char.toUpper ||
    text == (letters.take 1).map Char.toUpper ++ letters.drop 1

/-- The tag of a plain scalar. -/
def Tag.ofPlain (text : String) : Tag :=
  let chars := text.toList
  if text == "" || text == "~" || isWordOf "null" chars then .null
  else if booleanWords.any fun (word, _) => isWordOf word chars then .bool
  else if isFloatText chars then .float
  else if isIntegerText chars then .int
  else if isTimestampText chars then .timestamp
  else if text == "<<" then .merge
  else if text == "=" then .default
  else if text == "!" || text == "&" || text == "*" then .other (Tag.stem ++ "yaml")
  else .text

end CookedMode.Yaml
