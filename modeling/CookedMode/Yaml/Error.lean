import CookedMode.Text.Quoted

/-!
# Errors of YAML documents

A document is malformed if its characters, its layout or its structure break the
rules of YAML, or if it asks for something that no plain value is.  A scalar can
also be well-formed and yet stand for nothing, as the thirteenth month does.
-/

namespace CookedMode.Yaml

/-- Why a document is malformed. -/
inductive Flaw where
  /-- A character that may not be in a document. -/
  | unprintable
  /-- A character that begins no token. -/
  | unexpectedCharacter
  /-- A line that has to be a key is not followed by a colon. -/
  | missingColon
  | misplacedItem
  | misplacedKey
  | misplacedValue
  | directive
  | anchorName
  | tag
  | blockHeader
  | unclosedQuote
  | unknownEscape
  | markerInQuote
  | expectedNode
  | expectedEntry
  | expectedDocument
  | severalDocuments
  | undefinedHandle
  | duplicateAnchor
  | undefinedAlias
  | mergedNonMapping
  | keyNotScalar
  /-- The tag does not fit the node, or is not known. -/
  | unsuitableTag
  | tooDeep
  deriving DecidableEq, Repr

/-- Why a scalar stands for nothing. -/
inductive Nonsense where
  | notInteger (base : Nat) (text : String)
  | tooLong (digits : Nat)
  | notFloat (text : String)
  | notBoolean (text : String)
  | notTimestamp
  | emptyNumber
  | year
  | month
  | day
  | hour
  | minute
  | second
  | offset (literal : String)
  | codePoint
  deriving DecidableEq, Repr

/-- The report of a scalar that stands for nothing. -/
def Nonsense.message : Nonsense → String
  | notInteger base text =>
    "invalid literal for int() with base " ++ toString base ++ ": " ++ Text.quoted text
  | tooLong digits =>
    "Exceeds the limit (4300 digits) for integer string conversion: value has " ++
      toString digits ++ " digits; use sys.set_int_max_str_digits() to increase the limit"
  | notFloat text => "could not convert string to float: " ++ Text.quoted text
  | notBoolean text => Text.quoted text
  | notTimestamp => "'NoneType' object has no attribute 'groupdict'"
  | emptyNumber => "string index out of range"
  | year => "year 0 is out of range"
  | month => "month must be in 1..12"
  | day => "day is out of range for month"
  | hour => "hour must be in 0..23"
  | minute => "minute must be in 0..59"
  | second => "second must be in 0..59"
  | offset literal =>
    "offset must be a timedelta strictly between -timedelta(hours=24) and " ++
      "timedelta(hours=24), not " ++ literal ++ "."
  | codePoint => "chr() arg not in range(0x110000)"

/-- Why a document has no value. -/
inductive Error where
  | malformed (flaw : Flaw)
  | nonsense (nonsense : Nonsense)
  deriving DecidableEq, Repr

end CookedMode.Yaml
