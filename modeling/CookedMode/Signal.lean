/-!
# Signals and the control characters that raise them

A control character is a name that attributes may bind to a byte.  Each control
character raises one signal, and the two enumerations keep the names under which
configurations and reports spell them.
-/

namespace CookedMode

/-- The signals a control character can raise. -/
inductive Signal where
  | int
  | quit
  | susp
  | info
  deriving DecidableEq, Repr

namespace Signal

/-- Every signal, in the order in which control characters are checked. -/
def all : List Signal := [.int, .quit, .susp, .info]

/-- The name of a signal in configurations and reports. -/
def name : Signal → String
  | int => "INT"
  | quit => "QUIT"
  | susp => "SUSP"
  | info => "INFO"

/-- The signal of a name. -/
def ofName? (name : String) : Option Signal :=
  all.find? (·.name == name)

@[simp] theorem ofName?_name (signal : Signal) : ofName? signal.name = some signal := by
  cases signal <;> decide

end Signal

/-- The control characters that raise signals. -/
inductive ControlChar where
  | intr
  | quit
  | susp
  | status
  deriving DecidableEq, Repr

namespace ControlChar

/-- Every control character, in checking order.  The status query comes last, so
that a byte bound to several control characters keeps the signal that discards
it. -/
def all : List ControlChar := [.intr, .quit, .susp, .status]

/-- The name of a control character in configurations and reports. -/
def name : ControlChar → String
  | intr => "INTR"
  | quit => "QUIT"
  | susp => "SUSP"
  | status => "STATUS"

/-- The control character of a name. -/
def ofName? (name : String) : Option ControlChar :=
  all.find? (·.name == name)

@[simp] theorem ofName?_name (control : ControlChar) :
    ofName? control.name = some control := by
  cases control <;> decide

/-- The signal a control character raises. -/
def signal : ControlChar → Signal
  | intr => .int
  | quit => .quit
  | susp => .susp
  | status => .info

/-- A status query leaves its byte in the input; the other control characters
discard theirs. -/
def discards : ControlChar → Bool
  | status => false
  | _ => true

/-- The control character whose caret form announces a signal.  A status query
is not announced. -/
def announcing? : Signal → Option ControlChar
  | .int => some .intr
  | .quit => some .quit
  | .susp => some .susp
  | .info => none

end ControlChar

end CookedMode
