import CookedMode.Signal

/-!
# Attributes of a line discipline

Attributes are plain data: seven flags in three groups and a table that binds
control characters to bytes.  Since they are values, whoever holds attributes
holds a snapshot that no later change reaches.
-/

namespace CookedMode

/-- The carriage return byte. -/
def cr : UInt8 := 0x0D

/-- The line feed byte. -/
def lf : UInt8 := 0x0A

/-- The delete byte. -/
def del : UInt8 := 0x7F

/-- Flags of input processing. -/
inductive InputFlag where
  /-- Drop carriage returns. -/
  | igncr
  /-- Turn a carriage return into a line feed. -/
  | icrnl
  /-- Turn a line feed into a carriage return. -/
  | inlcr
  deriving DecidableEq, Repr

namespace InputFlag

/-- Every input flag. -/
def all : List InputFlag := [.igncr, .icrnl, .inlcr]

/-- The name of an input flag. -/
def name : InputFlag → String
  | igncr => "IGNCR"
  | icrnl => "ICRNL"
  | inlcr => "INLCR"

/-- The input flag of a name. -/
def ofName? (name : String) : Option InputFlag :=
  all.find? (·.name == name)

@[simp] theorem ofName?_name (flag : InputFlag) : ofName? flag.name = some flag := by
  cases flag <;> decide

end InputFlag

/-- Flags of output processing. -/
inductive OutputFlag where
  /-- Process output at all. -/
  | opost
  /-- Write a line feed as carriage return and line feed. -/
  | onlcr
  deriving DecidableEq, Repr

namespace OutputFlag

/-- Every output flag. -/
def all : List OutputFlag := [.opost, .onlcr]

/-- The name of an output flag. -/
def name : OutputFlag → String
  | opost => "OPOST"
  | onlcr => "ONLCR"

/-- The output flag of a name. -/
def ofName? (name : String) : Option OutputFlag :=
  all.find? (·.name == name)

@[simp] theorem ofName?_name (flag : OutputFlag) : ofName? flag.name = some flag := by
  cases flag <;> decide

end OutputFlag

/-- Flags of the local modes. -/
inductive LocalFlag where
  /-- Echo accepted input. -/
  | echo
  /-- Let control characters raise signals. -/
  | isig
  deriving DecidableEq, Repr

namespace LocalFlag

/-- Every local flag. -/
def all : List LocalFlag := [.echo, .isig]

/-- The name of a local flag. -/
def name : LocalFlag → String
  | echo => "ECHO"
  | isig => "ISIG"

/-- The local flag of a name. -/
def ofName? (name : String) : Option LocalFlag :=
  all.find? (·.name == name)

@[simp] theorem ofName?_name (flag : LocalFlag) : ofName? flag.name = some flag := by
  cases flag <;> decide

end LocalFlag

/-- A flag of any of the three groups. -/
inductive Flag where
  | ofInput (flag : InputFlag)
  | ofOutput (flag : OutputFlag)
  | ofLocal (flag : LocalFlag)
  deriving DecidableEq, Repr

/-- The value a control character was to be bound to is not a byte. -/
structure Unbindable where
  control : ControlChar
  value : Int
  deriving DecidableEq, Repr

/-- The report of a value that is not a byte. -/
def Unbindable.message (unbindable : Unbindable) : String :=
  "control char " ++ unbindable.control.name ++ " must be a byte value, got " ++
    toString unbindable.value

/-- The settings of a line discipline.  A flag is clear and a control character
unbound unless said otherwise. -/
structure Attributes where
  igncr : Bool := false
  icrnl : Bool := false
  inlcr : Bool := false
  opost : Bool := false
  onlcr : Bool := false
  echo : Bool := false
  isig : Bool := false
  intr : Option UInt8 := none
  quit : Option UInt8 := none
  susp : Option UInt8 := none
  status : Option UInt8 := none
  deriving DecidableEq, Repr, Inhabited

namespace Attributes

/-- The byte each control character is bound to in cooked mode. -/
def cookedControl : ControlChar → UInt8
  | .intr => 0x03
  | .quit => 0x1C
  | .susp => 0x1A
  | .status => 0x14

/-- Cooked mode: a carriage return ends a line on input, a line feed returns the
carriage on output, and both echo and signals are on. -/
def cooked : Attributes where
  icrnl := true
  opost := true
  onlcr := true
  echo := true
  isig := true
  intr := some (cookedControl .intr)
  quit := some (cookedControl .quit)
  susp := some (cookedControl .susp)
  status := some (cookedControl .status)

/-- Whether a flag is set. -/
def flag (attributes : Attributes) : Flag → Bool
  | .ofInput .igncr => attributes.igncr
  | .ofInput .icrnl => attributes.icrnl
  | .ofInput .inlcr => attributes.inlcr
  | .ofOutput .opost => attributes.opost
  | .ofOutput .onlcr => attributes.onlcr
  | .ofLocal .echo => attributes.echo
  | .ofLocal .isig => attributes.isig

/-- Set or clear a flag. -/
def setFlag (attributes : Attributes) (flag : Flag) (value : Bool) : Attributes :=
  match flag with
  | .ofInput .igncr => { attributes with igncr := value }
  | .ofInput .icrnl => { attributes with icrnl := value }
  | .ofInput .inlcr => { attributes with inlcr := value }
  | .ofOutput .opost => { attributes with opost := value }
  | .ofOutput .onlcr => { attributes with onlcr := value }
  | .ofLocal .echo => { attributes with echo := value }
  | .ofLocal .isig => { attributes with isig := value }

/-- The byte a control character is bound to. -/
def control (attributes : Attributes) : ControlChar → Option UInt8
  | .intr => attributes.intr
  | .quit => attributes.quit
  | .susp => attributes.susp
  | .status => attributes.status

/-- Bind a control character to a byte, or unbind it. -/
def bind (attributes : Attributes) (control : ControlChar) (byte : Option UInt8) :
    Attributes :=
  match control with
  | .intr => { attributes with intr := byte }
  | .quit => { attributes with quit := byte }
  | .susp => { attributes with susp := byte }
  | .status => { attributes with status := byte }

@[simp] theorem flag_setFlag_self (attributes : Attributes) (flag : Flag) (value : Bool) :
    (attributes.setFlag flag value).flag flag = value := by
  cases flag with
  | ofInput flag => cases flag <;> rfl
  | ofOutput flag => cases flag <;> rfl
  | ofLocal flag => cases flag <;> rfl

theorem flag_setFlag_of_ne (attributes : Attributes) {flag other : Flag}
    (value : Bool) (different : other ≠ flag) :
    (attributes.setFlag flag value).flag other = attributes.flag other := by
  rcases flag with (_ | _ | _) | (_ | _) | (_ | _) <;>
    rcases other with (_ | _ | _) | (_ | _) | (_ | _) <;>
      first | rfl | exact absurd rfl different

@[simp] theorem control_bind_self (attributes : Attributes) (control : ControlChar)
    (byte : Option UInt8) : (attributes.bind control byte).control control = byte := by
  cases control <;> rfl

theorem control_bind_of_ne (attributes : Attributes) {control other : ControlChar}
    (byte : Option UInt8) (different : other ≠ control) :
    (attributes.bind control byte).control other = attributes.control other := by
  cases control <;> cases other <;> first | rfl | exact absurd rfl different

/-- The byte of an integer, if it is one. -/
def byte? (value : Int) : Option UInt8 :=
  if 0 ≤ value ∧ value ≤ 0xFF then some value.toNat.toUInt8 else none

/-- Bind a control character to an integer, which has to be a byte, or unbind
it. -/
def bind? (attributes : Attributes) (control : ControlChar) (value : Option Int) :
    Except Unbindable Attributes :=
  match value with
  | none => .ok (attributes.bind control none)
  | some value =>
    match byte? value with
    | some byte => .ok (attributes.bind control (some byte))
    | none => .error ⟨control, value⟩

/-- Bind each control character of a table in turn. -/
def bindAll? (attributes : Attributes) :
    List (ControlChar × Int) → Except Unbindable Attributes
  | [] => .ok attributes
  | (control, value) :: rest =>
    match attributes.bind? control (some value) with
    | .ok attributes => attributes.bindAll? rest
    | .error unbindable => .error unbindable

/-- Set every flag of a list. -/
def setAll (attributes : Attributes) (flags : List Flag) : Attributes :=
  flags.foldl (·.setFlag · true) attributes

/-- Attributes with exactly the given flags set and control characters bound. -/
def ofParts? (flags : List Flag) (controls : List (ControlChar × Int)) :
    Except Unbindable Attributes :=
  (({} : Attributes).setAll flags).bindAll? controls

/-- The first control character, in checking order, that an integer is bound
to. -/
def controlFor? (attributes : Attributes) (value : Int) : Option ControlChar :=
  ControlChar.all.find? fun control =>
    (attributes.control control).any fun byte => (byte.toNat : Int) == value

/-- The signal an integer raises. -/
def signalFor? (attributes : Attributes) (value : Int) : Option Signal :=
  (attributes.controlFor? value).map ControlChar.signal

end Attributes

end CookedMode
