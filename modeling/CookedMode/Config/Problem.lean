import CookedMode.Fault
import CookedMode.Text.Quoted

/-!
# Problems of a configuration

Reading a configuration collects every problem it finds.  A problem has a place, a
cause and the offending value.  A reading is either valid or has problems, and
readings combine: the problems of all parts are reported in order.
-/

namespace CookedMode.Config

/-- One step on the way to a value inside a document. -/
inductive Place where
  /-- The value of a name. -/
  | name (name : String)
  /-- The item of a list, or the value of a number. -/
  | number (number : Int)
  deriving DecidableEq, Repr

namespace Place

/-- The text of a place. -/
def text : Place → String
  | .name text => text
  | .number value => toString value

end Place

/-- Why a value is refused. -/
inductive Cause where
  /-- It cannot be read: the kind of what is wrong with it, and the wording. -/
  | unreadable (kind message : String)
  | notSection (model : String)
  | belowOne
  /-- Names that denote no flag or control character. -/
  | unknownNames (kind : NameKind) (names : List String)
  /-- A control character bound to something that is not a byte. -/
  | notByte (control : String) (value : Int)
  deriving DecidableEq, Repr

namespace Cause

/-- The kind of a cause. -/
def kind : Cause → String
  | unreadable kind _ => kind
  | notSection _ => "model_type"
  | belowOne => "greater_than_equal"
  | unknownNames _ _ | notByte _ _ => "value_error"

/-- The wording of a cause. -/
def message : Cause → String
  | unreadable _ message => message
  | notSection model => "Input should be a valid dictionary or instance of " ++ model
  | belowOne => "Input should be greater than or equal to 1"
  | unknownNames kind names =>
    "Value error, Unknown " ++ kind.expected ++ ": " ++ String.intercalate ", " names
  | notByte control value =>
    "Value error, Control char " ++ control ++ " must be between 0 and 255, got " ++
      toString value

end Cause

/-- What a report shows of a value. -/
structure Shown where
  literal : String
  typeName : String
  deriving DecidableEq, Repr

/-- A value that is refused, and where it is. -/
structure Problem where
  place : List Place
  cause : Cause
  input : Shown
  deriving Repr

namespace Problem

/-- The longest literal that a report shows in full, in bytes. -/
def longestLiteral : Nat := 50

/-- The longest beginning of a text that has at most some number of bytes. -/
def startBytes (limit : Nat) : List Char → List Char
  | [] => []
  | char :: rest =>
    if char.utf8Size ≤ limit then char :: startBytes (limit - char.utf8Size) rest else []

/-- A literal, with its middle left out if it is long. -/
def shortened (literal : String) : String :=
  if literal.utf8ByteSize ≤ longestLiteral then literal
  else
    let half := longestLiteral / 2
    String.ofList (startBytes half literal.toList) ++ "..." ++
      String.ofList (startBytes (half - 1) literal.toList.reverse).reverse

/-- The report of a problem. -/
def report (problem : Problem) : String :=
  (if problem.place.isEmpty then ""
    else String.intercalate "." (problem.place.map Place.text) ++ "\n") ++
  "  " ++ problem.cause.message ++ " [type=" ++ problem.cause.kind ++ ", input_value=" ++
    shortened problem.input.literal ++ ", input_type=" ++ problem.input.typeName ++ "]"

/-- The report of several problems. -/
def reportAll (problems : List Problem) : String :=
  toString problems.length ++ " validation error" ++
    (if problems.length = 1 then "" else "s") ++ " for Config\n" ++
    String.intercalate "\n" (problems.map report)

/-- The same problem, one step further inside. -/
def below (place : Place) (problem : Problem) : Problem :=
  { problem with place := place :: problem.place }

end Problem

/-- What reading a value gives. -/
inductive Reading (α : Type) where
  | valid (value : α)
  | invalid (problems : List Problem)

namespace Reading

/-- Apply a function to what is read. -/
def map {α β : Type} (function : α → β) : Reading α → Reading β
  | valid value => valid (function value)
  | invalid problems => invalid problems

/-- Combine two readings.  The problems of both are kept. -/
def combine {α β : Type} (functions : Reading (α → β)) (values : Reading α) : Reading β :=
  match functions, values with
  | valid function, valid value => valid (function value)
  | valid _, invalid problems => invalid problems
  | invalid problems, valid _ => invalid problems
  | invalid problems, invalid more => invalid (problems ++ more)

/-- Go on with what is read, if it is valid. -/
def andThen {α β : Type} (reading : Reading α) (next : α → Reading β) : Reading β :=
  match reading with
  | valid value => next value
  | invalid problems => invalid problems

/-- The same reading, one step further inside. -/
def below {α : Type} (place : Place) : Reading α → Reading α
  | valid value => valid value
  | invalid problems => invalid (problems.map (Problem.below place))

/-- A value refused for a cause. -/
def refuse {α : Type} (input : Shown) (cause : Cause) : Reading α :=
  invalid [⟨[], cause, input⟩]

instance : Functor Reading where
  map := map

instance : Seq Reading where
  seq functions values := combine functions (values ())

variable {α β : Type}

theorem map_eq_valid_iff {function : α → β} {reading : Reading α} {value : β} :
    function <$> reading = .valid value ↔
      ∃ first, reading = .valid first ∧ function first = value := by
  cases reading with
  | valid first => simp [Functor.map, map]
  | invalid problems => simp [Functor.map, map]

theorem seq_eq_valid_iff {functions : Reading (α → β)} {reading : Reading α} {value : β} :
    functions <*> reading = .valid value ↔
      ∃ function first, functions = .valid function ∧ reading = .valid first ∧
        function first = value := by
  cases functions <;> cases reading <;> simp [Seq.seq, combine]

theorem andThen_eq_valid_iff {reading : Reading α} {next : α → Reading β} {value : β} :
    reading.andThen next = .valid value ↔
      ∃ first, reading = .valid first ∧ next first = .valid value := by
  cases reading <;> simp [andThen]

theorem below_eq_valid_iff {place : Place} {reading : Reading α} {value : α} :
    reading.below place = .valid value ↔ reading = .valid value := by
  cases reading <;> simp [below]

/-- A reading is invalid if and only if it is not valid. -/
theorem exists_invalid_iff {reading : Reading α} :
    (∃ problems, reading = .invalid problems) ↔ ∀ value, reading ≠ .valid value := by
  cases reading <;> simp

end Reading

end CookedMode.Config
