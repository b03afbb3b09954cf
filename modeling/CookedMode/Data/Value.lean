import CookedMode.Number.Binary64
import CookedMode.Text.Quoted

/-!
# Values of data documents

A data document holds a value: a scalar, a list, or a mapping whose entries keep
their order.  Reports show a value as a literal.
-/

namespace CookedMode

/-- A value of a data document. -/
inductive Value where
  | null
  | bool (value : Bool)
  | int (value : Int)
  | float (value : Binary64)
  | text (value : String)
  | bytes (value : List UInt8)
  /-- A date or a moment, by the name of its type and its literal. -/
  | moment (type literal : String)
  | list (items : List Value)
  /-- A list of pairs. -/
  | pairs (entries : List (Value × Value))
  | set (items : List Value)
  | map (entries : List (Value × Value))
  deriving Repr, Inhabited

namespace Value

/-- The name of the type of a value. -/
def typeName : Value → String
  | null => "NoneType"
  | bool _ => "bool"
  | int _ => "int"
  | float _ => "float"
  | text _ => "str"
  | bytes _ => "bytes"
  | moment type _ => type
  | list _ => "list"
  | pairs _ => "list"
  | set _ => "set"
  | map _ => "dict"

/-- Whether a value stands for a document without content. -/
def isEmpty : Value → Bool
  | null => true
  | bool value => !value
  | int value => value == 0
  | float (.finite _ mantissa _) => mantissa == 0
  | float _ => false
  | text value => value.isEmpty
  | bytes value => value.isEmpty
  | moment _ _ => false
  | list items => items.isEmpty
  | pairs entries => entries.isEmpty
  | set items => items.isEmpty
  | map entries => entries.isEmpty

/-- The number a value is equal to, if it is a whole one. -/
def wholeNumber? : Value → Option Int
  | bool value => some (if value then 1 else 0)
  | int value => some value
  | float value => value.toInt?
  | _ => none

/-- Whether two scalars are the same key of a mapping.  Numbers are compared by
their values, whatever their types. -/
def isSameKey (left right : Value) : Bool :=
  match left, right with
  | null, null => true
  | text left, text right => left == right
  | bytes left, bytes right => left == right
  | moment leftType left, moment rightType right => leftType == rightType && left == right
  | left, right =>
    match left.wholeNumber?, right.wholeNumber? with
    | some left, some right => left == right
    | none, none =>
      match left, right with
      | float left, float right => left == right && left != .nan
      | _, _ => false
    | _, _ => false

/-- Whether a value can be a key of a mapping. -/
def isKey : Value → Bool
  | list _ | pairs _ | set _ | map _ => false
  | _ => true

/-- Put an entry into a mapping.  A key that is there already keeps its place and
gets the new value. -/
def insert (entries : List (Value × Value)) (key value : Value) : List (Value × Value) :=
  match entries with
  | [] => [(key, value)]
  | (other, old) :: rest =>
    if other.isSameKey key then (other, value) :: rest
    else (other, old) :: insert rest key value

/-- The value of a name in a mapping. -/
def lookup? (entries : List (Value × Value)) (name : String) : Option Value :=
  match entries with
  | [] => none
  | (text key, value) :: rest => if key == name then some value else lookup? rest name
  | _ :: rest => lookup? rest name

/-- A byte inside the literal of a byte string. -/
def byteLiteral (quote : Char) (byte : UInt8) : String :=
  let char := Char.ofNat byte.toNat
  if char == quote || char == '\\' then String.ofList ['\\', char]
  else if char == '\n' then "\\n"
  else if char == '\r' then "\\r"
  else if char == '\t' then "\\t"
  else if 0x20 ≤ byte && byte < 0x7F then char.toString
  else "\\x" ++ Text.hex 2 byte.toNat

/-- The literal of a byte string. -/
def bytesLiteral (bytes : List UInt8) : String :=
  let quote := Text.quoteFor (String.ofList (bytes.map fun byte => Char.ofNat byte.toNat))
  "b" ++ quote.toString ++ String.join (bytes.map (byteLiteral quote)) ++ quote.toString

mutual

/-- The literal of a value. -/
def literal : Value → String
  | null => "None"
  | bool value => if value then "True" else "False"
  | int value => toString value
  | float value => value.text
  | text value => Text.quoted value
  | bytes value => bytesLiteral value
  | moment _ literal => literal
  | list items => "[" ++ String.intercalate ", " (literals items) ++ "]"
  | pairs entries => "[" ++ String.intercalate ", " (pairLiterals "(" ", " ")" entries) ++ "]"
  | set items =>
    if items.isEmpty then "set()"
    else "\x7b" ++ String.intercalate ", " (literals items) ++ "\x7d"
  | map entries => "\x7b" ++ String.intercalate ", " (pairLiterals "" ": " "" entries) ++ "\x7d"

/-- The literals of several values. -/
def literals : List Value → List String
  | [] => []
  | value :: rest => value.literal :: literals rest

/-- The literals of several pairs, between two texts and with one in the middle. -/
def pairLiterals (opening middle closing : String) : List (Value × Value) → List String
  | [] => []
  | (key, value) :: rest =>
    (opening ++ key.literal ++ middle ++ value.literal ++ closing) ::
      pairLiterals opening middle closing rest

end

end Value

end CookedMode
