import CookedMode.Attributes
import CookedMode.Channel
import CookedMode.Dimensions
import CookedMode.History.Basic

/-!
# Configurations

A configuration has a section for the history and one for the terminal.  Flags and
control characters are kept by name, in the order in which they were given.
-/

namespace CookedMode

/-- The configuration of the history. -/
structure HistoryConfig where
  enabled : Bool := true
  /-- The history file; without one, or with an empty name, nothing is kept. -/
  file : Option String := some "~/.termline_history"
  maxSize : Int := History.standardSize
  policy : SearchMatch := .contains
  permission : Permission := {}
  deriving DecidableEq, Repr, Inhabited

/-- The configuration of the attributes; cooked mode unless said otherwise. -/
structure AttributesConfig where
  inputFlags : List String := [InputFlag.icrnl.name]
  outputFlags : List String := [OutputFlag.opost.name, OutputFlag.onlcr.name]
  localFlags : List String := [LocalFlag.echo.name, LocalFlag.isig.name]
  controls : List (String × Int) :=
    ControlChar.all.map fun control =>
      (control.name, ((Attributes.cookedControl control).toNat : Int))
  deriving DecidableEq, Repr, Inhabited

/-- The configuration of the terminal. -/
structure TerminalConfig where
  cols : Int := Dimensions.defaultCols
  rows : Int := Dimensions.defaultRows
  capacity : Int := Channel.standardCapacity
  attributes : AttributesConfig := {}
  deriving DecidableEq, Repr, Inhabited

/-- A configuration. -/
structure Config where
  history : HistoryConfig := {}
  terminal : TerminalConfig := {}
  deriving DecidableEq, Repr, Inhabited

namespace AttributesConfig

/-- The flags of some names, if each is one. -/
def flags? {α : Type} (ofName? : String → Option α) (wrap : α → Flag) :
    List String → Option (List Flag)
  | [] => some []
  | name :: rest =>
    match ofName? name, flags? ofName? wrap rest with
    | some flag, some flags => some (wrap flag :: flags)
    | _, _ => none

/-- The control characters of some names, if each is one. -/
def controls? : List (String × Int) → Option (List (ControlChar × Int))
  | [] => some []
  | (name, value) :: rest =>
    match ControlChar.ofName? name, controls? rest with
    | some control, some controls => some ((control, value) :: controls)
    | _, _ => none

/-- The attributes of a configuration, if every name is known and every control
character is bound to a byte. -/
def attributes? (config : AttributesConfig) : Option Attributes :=
  match flags? InputFlag.ofName? .ofInput config.inputFlags,
    flags? OutputFlag.ofName? .ofOutput config.outputFlags,
    flags? LocalFlag.ofName? .ofLocal config.localFlags,
    controls? config.controls with
  | some input, some output, some modes, some controls =>
    (Attributes.ofParts? (input ++ output ++ modes) controls).toOption
  | _, _, _, _ => none

end AttributesConfig

namespace TerminalConfig

/-- The size of the terminal, if it is one. -/
def dimensions? (config : TerminalConfig) : Option Dimensions :=
  (Dimensions.of? config.cols config.rows).toOption

/-- The channel of the terminal, if it can have the capacity. -/
def channel? (config : TerminalConfig) : Option Channel :=
  (Channel.of? config.capacity).toOption

end TerminalConfig

namespace HistoryConfig

/-- The empty history, if it can have the size. -/
def history? (config : HistoryConfig) : Option History :=
  (History.of? config.maxSize config.policy config.permission).toOption

/-- The path of the history file, if there is to be one. -/
def path? (config : HistoryConfig) : Option String :=
  config.file.filter fun file => !file.isEmpty

end HistoryConfig

end CookedMode
