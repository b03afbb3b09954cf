import CookedMode.Config.Validation
import Mathlib.Data.List.Basic

/-!
# What the checks of a configuration let pass

The fields of a document are read first, each for itself, and checks follow.  Read without the
checks, a document gives a configuration of which nothing is known but the kinds of its fields.
The checks let pass exactly those whose names are known and whose numbers lie in their bounds.
-/

namespace CookedMode

/-- Every name is known, and every control character is bound to a byte. -/
structure AttributesConfig.Sound (config : AttributesConfig) : Prop where
  inputFlags : ∀ name ∈ config.inputFlags, (InputFlag.ofName? name).isSome
  outputFlags : ∀ name ∈ config.outputFlags, (OutputFlag.ofName? name).isSome
  localFlags : ∀ name ∈ config.localFlags, (LocalFlag.ofName? name).isSome
  controls : ∀ entry ∈ config.controls, (ControlChar.ofName? entry.1).isSome
  bytes : ∀ entry ∈ config.controls, 0 ≤ entry.2 ∧ entry.2 ≤ 0xFF

/-- The attributes are sound and every size is positive. -/
structure TerminalConfig.Sound (config : TerminalConfig) : Prop where
  cols : 1 ≤ config.cols
  rows : 1 ≤ config.rows
  capacity : 1 ≤ config.capacity
  attributes : config.attributes.Sound

/-- The history can hold an entry. -/
def HistoryConfig.Sound (config : HistoryConfig) : Prop := 1 ≤ config.maxSize

/-- Both sections are sound. -/
structure Config.Sound (config : Config) : Prop where
  history : config.history.Sound
  terminal : config.terminal.Sound

namespace Config

open Config.Field Readable

variable {δ : Type} [Readable δ]

/-- Read the section of the attributes without its checks. -/
def attributesFields (entries : String → Option δ) : Reading AttributesConfig :=
  let default : AttributesConfig := {}
  AttributesConfig.mk <$> field entries "input_flags" default.inputFlags textList
    <*> field entries "output_flags" default.outputFlags textList
    <*> field entries "local_flags" default.localFlags textList
    <*> field entries "control_chars" default.controls numberTable

/-- Read the section of the terminal without its checks. -/
def terminalFields (entries : String → Option δ) : Reading TerminalConfig :=
  let default : TerminalConfig := {}
  TerminalConfig.mk <$> field entries "cols" default.cols integer
    <*> field entries "rows" default.rows integer
    <*> field entries "channel_capacity" default.capacity integer
    <*> field entries "attributes" default.attributes
      (readSection "AttributesConfig" attributesFields)

/-- Read the section of the history without its checks. -/
def historyFields (entries : String → Option δ) : Reading HistoryConfig :=
  let default : HistoryConfig := {}
  HistoryConfig.mk <$> field entries "enabled" default.enabled boolean
    <*> field entries "file" default.file optionalText
    <*> field entries "max_size" default.maxSize integer
    <*> field entries "search_match" default.policy policy
    <*> field entries "permission" default.permission
      (readSection "PermissionConfig" readPermission)

/-- Read both sections without their checks. -/
def configFields (entries : String → Option δ) : Reading Config :=
  let default : Config := {}
  Config.mk <$> field entries "history" default.history (readSection "HistoryConfig" historyFields)
    <*> field entries "terminal" default.terminal (readSection "TerminalConfig" terminalFields)

/-- The configuration of a document, if each of its fields is of the right kind. -/
def fields (document : δ) : Reading Config :=
  readSection "Config" configFields document

theorem attributes_eq_valid_iff {input output modes : Reading (List String)}
    {controls : Reading (List (String × Int))} {config : AttributesConfig} :
    AttributesConfig.mk <$> input <*> output <*> modes <*> controls = .valid config ↔
      input = .valid config.inputFlags ∧ output = .valid config.outputFlags ∧
        modes = .valid config.localFlags ∧ controls = .valid config.controls := by
  simp only [Reading.seq_eq_valid_iff, Reading.map_eq_valid_iff]
  constructor
  · rintro ⟨_, _, ⟨_, _, ⟨_, _, ⟨_, inputEq, rfl⟩, outputEq, rfl⟩, modesEq, rfl⟩, controlsEq, rfl⟩
    exact ⟨inputEq, outputEq, modesEq, controlsEq⟩
  · rintro ⟨inputEq, outputEq, modesEq, controlsEq⟩
    exact ⟨_, _, ⟨_, _, ⟨_, _, ⟨_, inputEq, rfl⟩, outputEq, rfl⟩, modesEq, rfl⟩, controlsEq, rfl⟩

theorem terminal_eq_valid_iff {cols rows capacity : Reading Int}
    {attributes : Reading AttributesConfig} {config : TerminalConfig} :
    TerminalConfig.mk <$> cols <*> rows <*> capacity <*> attributes = .valid config ↔
      cols = .valid config.cols ∧ rows = .valid config.rows ∧
        capacity = .valid config.capacity ∧ attributes = .valid config.attributes := by
  simp only [Reading.seq_eq_valid_iff, Reading.map_eq_valid_iff]
  constructor
  · rintro ⟨_, _, ⟨_, _, ⟨_, _, ⟨_, colsEq, rfl⟩, rowsEq, rfl⟩, capacityEq, rfl⟩, partsEq, rfl⟩
    exact ⟨colsEq, rowsEq, capacityEq, partsEq⟩
  · rintro ⟨colsEq, rowsEq, capacityEq, partsEq⟩
    exact ⟨_, _, ⟨_, _, ⟨_, _, ⟨_, colsEq, rfl⟩, rowsEq, rfl⟩, capacityEq, rfl⟩, partsEq, rfl⟩

theorem history_eq_valid_iff {enabled : Reading Bool} {file : Reading (Option String)}
    {maxSize : Reading Int} {policy : Reading SearchMatch} {permission : Reading Permission}
    {config : HistoryConfig} :
    HistoryConfig.mk <$> enabled <*> file <*> maxSize <*> policy <*> permission = .valid config ↔
      enabled = .valid config.enabled ∧ file = .valid config.file ∧
        maxSize = .valid config.maxSize ∧ policy = .valid config.policy ∧
        permission = .valid config.permission := by
  simp only [Reading.seq_eq_valid_iff, Reading.map_eq_valid_iff]
  constructor
  · rintro ⟨_, _, ⟨_, _, ⟨_, _, ⟨_, _, ⟨_, enabledEq, rfl⟩, fileEq, rfl⟩, sizeEq, rfl⟩, policyEq,
      rfl⟩, permissionEq, rfl⟩
    exact ⟨enabledEq, fileEq, sizeEq, policyEq, permissionEq⟩
  · rintro ⟨enabledEq, fileEq, sizeEq, policyEq, permissionEq⟩
    exact ⟨_, _, ⟨_, _, ⟨_, _, ⟨_, _, ⟨_, enabledEq, rfl⟩, fileEq, rfl⟩, sizeEq, rfl⟩, policyEq,
      rfl⟩, permissionEq, rfl⟩

theorem config_eq_valid_iff {history : Reading HistoryConfig} {terminal : Reading TerminalConfig}
    {config : Config} :
    Config.mk <$> history <*> terminal = .valid config ↔
      history = .valid config.history ∧ terminal = .valid config.terminal := by
  simp only [Reading.seq_eq_valid_iff, Reading.map_eq_valid_iff]
  constructor
  · rintro ⟨_, _, ⟨_, historyEq, rfl⟩, terminalEq, rfl⟩
    exact ⟨historyEq, terminalEq⟩
  · rintro ⟨historyEq, terminalEq⟩
    exact ⟨_, _, ⟨_, historyEq, rfl⟩, terminalEq, rfl⟩

/-- Something is read as without a check, and only if it passes the check. -/
def Checked {Input α : Type} (read parse : Input → Reading α) (good : α → Prop) : Prop :=
  ∀ input value, read input = .valid value ↔ parse input = .valid value ∧ good value

section

variable {α : Type} {good : α → Prop}

omit [Readable δ] in
/-- A field that may be missing is checked if the value it has then passes the check. -/
theorem Checked.field {read parse : δ → Reading α} (checked : Checked read parse good)
    (name : String) {otherwise : α} (standard : good otherwise) :
    Checked (fun entries => Field.field entries name otherwise read)
      (fun entries => Field.field entries name otherwise parse) good := by
  intro entries value
  dsimp only [Field.field]
  cases entries name with
  | some given =>
    simp only [Reading.below_eq_valid_iff]
    exact checked given value
  | none =>
    -- the value of a missing field is not checked, so it has to be good by itself
    constructor
    · intro same
      cases same
      exact ⟨rfl, standard⟩
    · exact And.left

theorem Checked.readSection {read parse : (String → Option δ) → Reading α}
    (checked : Checked read parse good) (model : String) :
    Checked (Field.readSection model read) (Field.readSection model parse) good := by
  intro input value
  dsimp only [Field.readSection]
  cases entries? input with
  | some entries => exact checked entries value
  | none => simp [Reading.refuse]

end

theorem checked_positive : Checked (positive (δ := δ)) integer (1 ≤ ·) := by
  intro input value
  rw [positive, Reading.andThen_eq_valid_iff]
  constructor
  · rintro ⟨first, readEq, checkEq⟩
    split at checkEq <;> cases checkEq
    exact ⟨readEq, by omega⟩
  · rintro ⟨readEq, atLeastOne⟩
    exact ⟨value, readEq, if_neg (by omega)⟩

theorem unknownNames_eq_nil_iff {known names : List String} :
    unknownNames known names = [] ↔ ∀ name ∈ names, name ∈ known := by
  simp [unknownNames, List.filter_eq_nil_iff]

/-- A name is known if and only if it is that of some value of a kind. -/
theorem mem_map_name_iff {α : Type} {all : List α} {label : α → String} {name : String} :
    name ∈ all.map label ↔ (all.find? (label · == name)).isSome := by
  simp [List.find?_isSome]

theorem checked_flagNames {α : Type} (kind : NameKind) (all : List α) (label : α → String) :
    Checked (flagNames (δ := δ) kind (all.map label)) textList
      fun names => ∀ name ∈ names, (all.find? (label · == name)).isSome := by
  intro input value
  rw [flagNames, Reading.andThen_eq_valid_iff]
  simp only [← mem_map_name_iff, ← unknownNames_eq_nil_iff]
  constructor
  · rintro ⟨names, readEq, checkEq⟩
    unfold checkNames at checkEq
    split at checkEq <;> cases checkEq
    case h_1 none => exact ⟨readEq, none⟩
  · rintro ⟨readEq, none⟩
    exact ⟨value, readEq, by rw [checkNames, none]⟩

theorem notByte?_eq_none_iff {controls : List (String × Int)} :
    notByte? controls = none ↔ ∀ entry ∈ controls, 0 ≤ entry.2 ∧ entry.2 ≤ 0xFF := by
  simp only [notByte?, List.find?_eq_none]
  grind

theorem checked_bindings :
    Checked (bindings (δ := δ)) numberTable fun controls =>
      (∀ entry ∈ controls, (ControlChar.ofName? entry.1).isSome) ∧
        ∀ entry ∈ controls, 0 ≤ entry.2 ∧ entry.2 ≤ 0xFF := by
  intro input value
  have known : unknownNames (ControlChar.all.map ControlChar.name) (value.map (·.1)) = [] ↔
      ∀ entry ∈ value, (ControlChar.ofName? entry.1).isSome := by
    rw [unknownNames_eq_nil_iff, List.forall_mem_map]
    simp only [mem_map_name_iff, ControlChar.ofName?]
  simp only [bindings, Reading.andThen_eq_valid_iff, ← known, ← notByte?_eq_none_iff]
  constructor
  · rintro ⟨controls, readEq, checkEq⟩
    -- bytes are looked at only once all names are known
    unfold checkControls at checkEq
    split at checkEq
    case h_1 none =>
      split at checkEq <;> cases checkEq
      case h_1 bytes => exact ⟨readEq, none, bytes⟩
    case h_2 => cases checkEq
  · rintro ⟨readEq, none, bytes⟩
    exact ⟨value, readEq, by simp only [checkControls, none, bytes]⟩

/-- The attributes that nothing is said about pass the checks. -/
theorem sound_attributes : ({} : AttributesConfig).Sound where
  inputFlags := by decide
  outputFlags := by decide
  localFlags := by decide
  controls := by decide
  bytes := by decide

theorem sound_terminal : ({} : TerminalConfig).Sound where
  cols := by decide
  rows := by decide
  capacity := by decide
  attributes := sound_attributes

theorem sound_history : ({} : HistoryConfig).Sound := by
  unfold HistoryConfig.Sound
  decide

theorem checked_attributes :
    Checked (readAttributes (δ := δ)) attributesFields AttributesConfig.Sound := by
  have input := (checked_flagNames (δ := δ) .inputFlag InputFlag.all InputFlag.name).field
    "input_flags" sound_attributes.inputFlags
  have output := (checked_flagNames (δ := δ) .outputFlag OutputFlag.all OutputFlag.name).field
    "output_flags" sound_attributes.outputFlags
  have modes := (checked_flagNames (δ := δ) .localFlag LocalFlag.all LocalFlag.name).field
    "local_flags" sound_attributes.localFlags
  have controls := (checked_bindings (δ := δ)).field
    "control_chars" ⟨sound_attributes.controls, sound_attributes.bytes⟩
  intro entries config
  rw [readAttributes, attributesFields, attributes_eq_valid_iff, attributes_eq_valid_iff,
    input, output, modes, controls]
  constructor
  · rintro ⟨⟨inputEq, input⟩, ⟨outputEq, output⟩, ⟨modesEq, modes⟩, controlsEq, controls, bytes⟩
    exact ⟨⟨inputEq, outputEq, modesEq, controlsEq⟩, ⟨input, output, modes, controls, bytes⟩⟩
  · rintro ⟨⟨inputEq, outputEq, modesEq, controlsEq⟩, input, output, modes, controls, bytes⟩
    exact ⟨⟨inputEq, input⟩, ⟨outputEq, output⟩, ⟨modesEq, modes⟩, controlsEq, controls, bytes⟩

theorem checked_terminal :
    Checked (readTerminal (δ := δ)) terminalFields TerminalConfig.Sound := by
  have cols := (checked_positive (δ := δ)).field "cols" sound_terminal.cols
  have rows := (checked_positive (δ := δ)).field "rows" sound_terminal.rows
  have capacity := (checked_positive (δ := δ)).field "channel_capacity" sound_terminal.capacity
  have attributes := ((checked_attributes (δ := δ)).readSection "AttributesConfig").field
    "attributes" sound_terminal.attributes
  intro entries config
  rw [readTerminal, terminalFields, terminal_eq_valid_iff, terminal_eq_valid_iff,
    cols, rows, capacity, attributes]
  constructor
  · rintro ⟨⟨colsEq, cols⟩, ⟨rowsEq, rows⟩, ⟨capacityEq, capacity⟩, attributesEq, attributes⟩
    exact ⟨⟨colsEq, rowsEq, capacityEq, attributesEq⟩, ⟨cols, rows, capacity, attributes⟩⟩
  · rintro ⟨⟨colsEq, rowsEq, capacityEq, attributesEq⟩, cols, rows, capacity, attributes⟩
    exact ⟨⟨colsEq, cols⟩, ⟨rowsEq, rows⟩, ⟨capacityEq, capacity⟩, attributesEq, attributes⟩

theorem checked_history :
    Checked (readHistory (δ := δ)) historyFields HistoryConfig.Sound := by
  have maxSize := (checked_positive (δ := δ)).field "max_size" sound_history
  intro entries config
  rw [readHistory, historyFields, history_eq_valid_iff, history_eq_valid_iff, maxSize,
    HistoryConfig.Sound]
  constructor
  · rintro ⟨enabledEq, fileEq, ⟨maxSizeEq, positive⟩, policyEq, permissionEq⟩
    exact ⟨⟨enabledEq, fileEq, maxSizeEq, policyEq, permissionEq⟩, positive⟩
  · rintro ⟨⟨enabledEq, fileEq, maxSizeEq, policyEq, permissionEq⟩, positive⟩
    exact ⟨enabledEq, fileEq, ⟨maxSizeEq, positive⟩, policyEq, permissionEq⟩

theorem checked_config : Checked (readConfig (δ := δ)) configFields Config.Sound := by
  have history :=
    ((checked_history (δ := δ)).readSection "HistoryConfig").field "history" sound_history
  have terminal :=
    ((checked_terminal (δ := δ)).readSection "TerminalConfig").field "terminal" sound_terminal
  intro entries config
  rw [readConfig, configFields, config_eq_valid_iff, config_eq_valid_iff, history, terminal]
  constructor
  · rintro ⟨⟨historyEq, history⟩, terminalEq, terminal⟩
    exact ⟨⟨historyEq, terminalEq⟩, ⟨history, terminal⟩⟩
  · rintro ⟨⟨historyEq, terminalEq⟩, history, terminal⟩
    exact ⟨⟨historyEq, history⟩, terminalEq, terminal⟩

/-- A document gives a configuration if and only if its fields do and the configuration is
sound. -/
theorem ofValue_eq_valid_iff {document : δ} {config : Config} :
    ofValue document = .valid config ↔ fields document = .valid config ∧ config.Sound :=
  checked_config.readSection "Config" document config

end Config

end CookedMode
