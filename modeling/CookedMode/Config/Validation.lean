import CookedMode.Config.Basic
import CookedMode.Config.Field

/-!
# Reading a configuration

A document becomes a configuration when each of its fields can be read and each
section passes its checks.  A check runs only on a field that could be read.
Unknown fields mean nothing.
-/

namespace CookedMode.Config

open Config.Field Readable

variable {δ : Type} [Readable δ]

/-- The names of a list that denote nothing. -/
def unknownNames (known : List String) (names : List String) : List String :=
  names.filter fun name => !known.contains name

/-- Check that every name of a list is known. -/
def checkNames (input : δ) (kind : NameKind) (known names : List String) :
    Reading (List String) :=
  match unknownNames known names with
  | [] => .valid names
  | unknown => .refuse (shown input) (.unknownNames kind unknown)

/-- The first control character that is bound to something that is not a byte. -/
def notByte? (controls : List (String × Int)) : Option (String × Int) :=
  controls.find? fun (_, value) => value < 0 || 255 < value

/-- Check that every control character is known and bound to a byte. -/
def checkControls (input : δ) (controls : List (String × Int)) :
    Reading (List (String × Int)) :=
  match unknownNames (ControlChar.all.map ControlChar.name) (controls.map (·.1)) with
  | [] =>
    match notByte? controls with
    | none => .valid controls
    | some (control, value) => .refuse (shown input) (.notByte control value)
  | unknown => .refuse (shown input) (.unknownNames .controlChar unknown)

/-- Read flags of a group. -/
def flagNames (kind : NameKind) (known : List String) (input : δ) : Reading (List String) :=
  (textList input).andThen (checkNames input kind known)

/-- Read bindings of control characters. -/
def bindings (input : δ) : Reading (List (String × Int)) :=
  (numberTable input).andThen (checkControls input)

/-- Read the permission of the history file. -/
def readPermission (entries : String → Option δ) : Reading Permission :=
  let default : Permission := {}
  Permission.mk <$> field entries "readable" default.readable boolean
    <*> field entries "readable_owner_only" default.readableOwnerOnly boolean
    <*> field entries "writable" default.writable boolean
    <*> field entries "writable_owner_only" default.writableOwnerOnly boolean
    <*> field entries "executable" default.executable boolean
    <*> field entries "executable_owner_only" default.executableOwnerOnly boolean

/-- Read the section of the history. -/
def readHistory (entries : String → Option δ) : Reading HistoryConfig :=
  let default : HistoryConfig := {}
  HistoryConfig.mk <$> field entries "enabled" default.enabled boolean
    <*> field entries "file" default.file optionalText
    <*> field entries "max_size" default.maxSize positive
    <*> field entries "search_match" default.policy policy
    <*> field entries "permission" default.permission
      (readSection "PermissionConfig" readPermission)

/-- Read the section of the attributes. -/
def readAttributes (entries : String → Option δ) : Reading AttributesConfig :=
  let default : AttributesConfig := {}
  AttributesConfig.mk
    <$> field entries "input_flags" default.inputFlags
      (flagNames .inputFlag (InputFlag.all.map InputFlag.name))
    <*> field entries "output_flags" default.outputFlags
      (flagNames .outputFlag (OutputFlag.all.map OutputFlag.name))
    <*> field entries "local_flags" default.localFlags
      (flagNames .localFlag (LocalFlag.all.map LocalFlag.name))
    <*> field entries "control_chars" default.controls bindings

/-- Read the section of the terminal. -/
def readTerminal (entries : String → Option δ) : Reading TerminalConfig :=
  let default : TerminalConfig := {}
  TerminalConfig.mk <$> field entries "cols" default.cols positive
    <*> field entries "rows" default.rows positive
    <*> field entries "channel_capacity" default.capacity positive
    <*> field entries "attributes" default.attributes
      (readSection "AttributesConfig" readAttributes)

/-- Read both sections. -/
def readConfig (entries : String → Option δ) : Reading Config :=
  let default : Config := {}
  Config.mk
    <$> field entries "history" default.history (readSection "HistoryConfig" readHistory)
    <*> field entries "terminal" default.terminal (readSection "TerminalConfig" readTerminal)

/-- The configuration of a document. -/
def ofValue (document : δ) : Reading Config :=
  readSection "Config" readConfig document

end CookedMode.Config
