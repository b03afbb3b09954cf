import CookedMode.Proofs.Config.Attributes
import CookedMode.Proofs.Config.Document
import CookedMode.Proofs.Workspace.Restart

/-!
# Checks and constructions agree

What a configuration says is looked at twice: by the checks when it is read, and again when the
parts of a workspace are made of it.  The checks let pass what can be made and nothing else, so a
configuration that was read can only fail for what its history file is like.
-/

namespace CookedMode

/-- Something in the section of the terminal is refused by what makes the terminal of it. -/
inductive TerminalConfig.Flawed (config : TerminalConfig) : Prop where
  | inputFlag {name : String} (listed : name ∈ config.attributes.inputFlags)
    (unknown : InputFlag.ofName? name = none)
  | outputFlag {name : String} (listed : name ∈ config.attributes.outputFlags)
    (unknown : OutputFlag.ofName? name = none)
  | localFlag {name : String} (listed : name ∈ config.attributes.localFlags)
    (unknown : LocalFlag.ofName? name = none)
  | control {entry : String × Int} (listed : entry ∈ config.attributes.controls)
    (unknown : ControlChar.ofName? entry.1 = none)
  | byte {entry : String × Int} {control : ControlChar} {unbindable : Unbindable}
    (listed : entry ∈ config.attributes.controls)
    (named : ControlChar.ofName? entry.1 = some control)
    (refused : Attributes.ofParts? [] [(control, entry.2)] = .error unbindable)
  | size {error : Dimensions.Error}
    (refused : Dimensions.of? config.cols config.rows = .error error)
  | capacity {error : Channel.CapacityError}
    (refused : Channel.of? config.capacity = .error error)

/-- The size of the history is refused. -/
def HistoryConfig.Flawed (config : HistoryConfig) : Prop :=
  ∃ error, History.of? config.maxSize config.policy config.permission = .error error

theorem Dimensions.exists_error_iff {cols rows : Int} :
    (∃ error, Dimensions.of? cols rows = .error error) ↔ cols < 1 ∨ rows < 1 := by
  unfold Dimensions.of?
  split
  case isTrue narrow => simp [narrow]
  case isFalse wide =>
    split
    case isTrue low => simp [low]
    case isFalse high => simp [wide, high]

theorem Channel.exists_error_iff {capacity : Int} :
    (∃ error, Channel.of? capacity = .error error) ↔ capacity < 1 := by
  unfold Channel.of?
  split
  case isTrue small => simp [small]
  case isFalse large => simp [large]

theorem History.exists_error_iff {maxSize : Int} {policy : SearchMatch} {permission : Permission} :
    (∃ error, History.of? maxSize policy permission = .error error) ↔ maxSize < 1 := by
  unfold History.of?
  split
  case isTrue small => simp [small]
  case isFalse large => simp [large]

theorem Attributes.exists_error_iff (control : ControlChar) {value : Int} :
    (∃ unbindable, Attributes.ofParts? [] [(control, value)] = .error unbindable) ↔
      ¬ (0 ≤ value ∧ value ≤ 0xFF) := by
  by_cases isByte : 0 ≤ value ∧ value ≤ 0xFF <;>
    simp [ofParts?, bindAll?, bind?, byte?, isByte]

theorem TerminalConfig.Sound.not_flawed {config : TerminalConfig} (sound : config.Sound) :
    ¬ config.Flawed := by
  intro flawed
  cases flawed with
  | inputFlag listed unknown =>
    exact Option.isSome_iff_ne_none.mp (sound.attributes.inputFlags _ listed) unknown
  | outputFlag listed unknown =>
    exact Option.isSome_iff_ne_none.mp (sound.attributes.outputFlags _ listed) unknown
  | localFlag listed unknown =>
    exact Option.isSome_iff_ne_none.mp (sound.attributes.localFlags _ listed) unknown
  | control listed unknown =>
    exact Option.isSome_iff_ne_none.mp (sound.attributes.controls _ listed) unknown
  | byte listed named refused =>
    exact (Attributes.exists_error_iff _).mp ⟨_, refused⟩ (sound.attributes.bytes _ listed)
  | size refused =>
    have small := Dimensions.exists_error_iff.mp ⟨_, refused⟩
    have cols := sound.cols
    have rows := sound.rows
    omega
  | capacity refused =>
    have small := Channel.exists_error_iff.mp ⟨_, refused⟩
    have capacity := sound.capacity
    omega

theorem TerminalConfig.attributes_sound_of_not_flawed {config : TerminalConfig}
    (flawless : ¬ config.Flawed) : config.attributes.Sound := by
  have controls (entry : String × Int) (listed : entry ∈ config.attributes.controls) :
      (ControlChar.ofName? entry.1).isSome :=
    Option.isSome_iff_ne_none.mpr fun unknown => flawless (.control listed unknown)
  have bytes (entry : String × Int) (listed : entry ∈ config.attributes.controls) :
      0 ≤ entry.2 ∧ entry.2 ≤ 0xFF := by
    by_contra noByte
    obtain ⟨control, named⟩ := Option.isSome_iff_exists.mp (controls entry listed)
    obtain ⟨unbindable, refused⟩ := (Attributes.exists_error_iff control).mpr noByte
    exact flawless (.byte listed named refused)
  exact
    { inputFlags := fun name listed =>
        Option.isSome_iff_ne_none.mpr fun unknown => flawless (.inputFlag listed unknown)
      outputFlags := fun name listed =>
        Option.isSome_iff_ne_none.mpr fun unknown => flawless (.outputFlag listed unknown)
      localFlags := fun name listed =>
        Option.isSome_iff_ne_none.mpr fun unknown => flawless (.localFlag listed unknown)
      controls
      bytes }

theorem TerminalConfig.not_flawed_iff {config : TerminalConfig} :
    ¬ config.Flawed ↔ config.Sound := by
  refine ⟨fun flawless => ?_, Sound.not_flawed⟩
  have size : ¬ (config.cols < 1 ∨ config.rows < 1) := fun small =>
    (Dimensions.exists_error_iff.mpr small).elim fun _ refused => flawless (.size refused)
  have capacity : ¬ config.capacity < 1 := fun small =>
    (Channel.exists_error_iff.mpr small).elim fun _ refused => flawless (.capacity refused)
  exact
    { cols := by omega
      rows := by omega
      capacity := by omega
      attributes := attributes_sound_of_not_flawed flawless }

theorem HistoryConfig.not_flawed_iff {config : HistoryConfig} : ¬ config.Flawed ↔ config.Sound := by
  rw [Flawed, History.exists_error_iff, Int.not_lt, Sound]

/-- How the history file of a configuration can fail: its path begins with a home that is not
known, or what is there cannot be read. -/
inductive HistoryConfig.StoreFails (config : HistoryConfig) (files : FileSystem) :
    OpenError → Prop where
  | home {error : Path.HomeError} (storeEq : config.store? files.homePath = .error error) :
    StoreFails config files (.home error)
  | file {store : Store} {error : FileError}
    (storeEq : config.store? files.homePath = .ok (some store))
    (loadEq : store.load files = .error error) : StoreFails config files (.file error)

/-- Opening the history of a sound section fails only with its file. -/
theorem HistoryConfig.openHistory_eq_error_iff {config : HistoryConfig} {files : FileSystem}
    {error : OpenError} (sound : config.Sound) :
    config.openHistory files = .error error ↔ config.StoreFails files error := by
  obtain ⟨history, historyEq⟩ := config.exists_history? sound
  constructor
  · intro failed
    cases storeEq : config.store? files.homePath with
    | error reason =>
      simp only [openHistory, storeEq, Except.error.injEq] at failed
      exact failed ▸ .home storeEq
    | ok found =>
      cases found with
      | none => simp [openHistory, storeEq, historyEq] at failed
      | some store =>
        cases loadEq : store.load files with
        | error reason =>
          simp only [openHistory, storeEq, historyEq, loadEq, Except.error.injEq] at failed
          exact failed ▸ .file storeEq loadEq
        | ok loaded => simp [openHistory, storeEq, historyEq, loadEq] at failed
  · intro fails
    cases fails with
    | home storeEq => simp only [openHistory, storeEq]
    | file storeEq loadEq => simp only [openHistory, storeEq, historyEq, loadEq]

/-- The parts of a workspace can be made of a sound configuration, and the workspace is made of
them unless the history file fails. -/
theorem Config.Sound.makes {config : Config} (sound : config.Sound) :
    ∃ attributes size channel history,
      config.terminal.attributes.attributes? = some attributes ∧
      config.terminal.dimensions? = some size ∧
      config.terminal.channel? = some channel ∧
      config.history.history? = some history ∧
      ∀ listener files,
        (∃ kept store notices, Workspace.ofConfig config listener files =
          .ok (⟨{ line := { attributes, listener, outlet := channel }, history := kept, size },
            store, files⟩, notices)) ∨
        ∃ error, config.history.StoreFails files error ∧
          Workspace.ofConfig config listener files = .error error := by
  obtain ⟨attributes, attributesEq⟩ := Option.isSome_iff_exists.mp
    (AttributesConfig.isSome_attributes?_iff.mpr sound.terminal.attributes)
  obtain ⟨size, sizeEq⟩ := Workspace.exists_dimensions? sound.terminal.cols sound.terminal.rows
  obtain ⟨channel, channelEq⟩ := Workspace.exists_channel? sound.terminal.capacity
  obtain ⟨history, historyEq⟩ := config.history.exists_history? sound.history
  refine ⟨attributes, size, channel, history, attributesEq, sizeEq, channelEq, historyEq,
    fun listener files => ?_⟩
  cases openEq : config.history.openHistory files with
  | error error =>
    have fails := (HistoryConfig.openHistory_eq_error_iff sound.history).mp openEq
    exact .inr ⟨error, fails, by simp only [Workspace.ofConfig, openEq]⟩
  | ok opened =>
    refine .inl ⟨opened.1.history, opened.1.store, ?_⟩
    simp only [Workspace.ofConfig, openEq, Workspace.sessionOf?, attributesEq, sizeEq, channelEq]
    exact ⟨_, rfl⟩

namespace Config

open Config.Field Readable

variable {δ : Type} [Readable δ]

/-- What is read without a check is refused if and only if it does not pass the check. -/
theorem Checked.invalid_iff {Input α : Type} {read parse : Input → Reading α} {good : α → Prop}
    (checked : Checked read parse good) {input : Input} {value : α}
    (parsed : parse input = .valid value) :
    (∃ problems, read input = .invalid problems) ↔ ¬ good value := by
  rw [Reading.exists_invalid_iff]
  constructor
  · intro refused isGood
    exact refused value ((checked input value).mpr ⟨parsed, isGood⟩)
  · intro bad other accepted
    obtain ⟨otherEq, isGood⟩ := (checked input other).mp accepted
    cases parsed.symm.trans otherEq
    exact bad isGood

theorem checked_ofValue : Checked (ofValue (δ := δ)) fields Config.Sound :=
  fun _ _ => ofValue_eq_valid_iff

theorem flawed_iff_not_sound {config : Config} :
    config.terminal.Flawed ∨ config.history.Flawed ↔ ¬ config.Sound := by
  rw [← not_iff_not, not_or, not_not, TerminalConfig.not_flawed_iff, HistoryConfig.not_flawed_iff]
  exact ⟨fun ⟨terminal, history⟩ => ⟨history, terminal⟩,
    fun sound => ⟨sound.terminal, sound.history⟩⟩

theorem control_eq_none_of_given {entries : String → Option δ} {given : δ}
    {config : AttributesConfig} {attributes : Attributes} {control : ControlChar}
    (givenEq : entries "control_chars" = some given)
    (read : readAttributes entries = .valid config)
    (built : config.attributes? = some attributes) (leftOut : control.name ∉ names given) :
    attributes.control control = none := by
  obtain ⟨parsed, -⟩ := (checked_attributes entries config).mp read
  rw [attributesFields, attributes_eq_valid_iff] at parsed
  obtain ⟨-, -, -, controlsEq⟩ := parsed
  rw [field, givenEq, Reading.below_eq_valid_iff] at controlsEq
  refine AttributesConfig.control_eq_none built fun entry listed same => ?_
  exact leftOut ((mem_names_iff controlsEq).mpr (same ▸ List.mem_map_of_mem listed))

/-- The checks of a configuration let pass what can be made and nothing else.  Of what is read,
the parts of a workspace can be made, and only the history file can still fail.  Of fields that
are of the right kinds, as those of any configuration are in a document, a section is refused
exactly when it holds something that cannot be made.  Attributes depend on the sets of the names
in their lists, and leave unbound what a given table leaves out. -/
theorem checks_agree (document : δ) :
    (∀ config, ofValue document = .valid config →
      fields document = .valid config ∧
      ∃ attributes size channel history,
        config.terminal.attributes.attributes? = some attributes ∧
        config.terminal.dimensions? = some size ∧
        config.terminal.channel? = some channel ∧
        config.history.history? = some history ∧
        ∀ listener files,
          (∃ kept store notices, Workspace.ofConfig config listener files =
            .ok (⟨{ line := { attributes, listener, outlet := channel }, history := kept, size },
              store, files⟩, notices)) ∨
          ∃ error, config.history.StoreFails files error ∧
            Workspace.ofConfig config listener files = .error error) ∧
    (∀ config, fields document = .valid config →
      ((∃ problems, ofValue document = .invalid problems) ↔
        config.terminal.Flawed ∨ config.history.Flawed)) ∧
    (∀ config : Config, (config.terminal.attributes.controls.map Prod.fst).Nodup →
      fields config.document = .valid config) ∧
    (∀ (entries : String → Option δ) config, terminalFields entries = .valid config →
      ((∃ problems, readTerminal entries = .invalid problems) ↔ config.Flawed)) ∧
    (∀ (entries : String → Option δ) config, historyFields entries = .valid config →
      ((∃ problems, readHistory entries = .invalid problems) ↔ config.Flawed)) ∧
    (∀ config other : AttributesConfig, config.Alike other →
      config.attributes? = other.attributes?) ∧
    (∀ (entries : String → Option δ) (given : δ) config attributes, ∀ control : ControlChar,
      entries "control_chars" = some given →
      readAttributes entries = .valid config → config.attributes? = some attributes →
      control.name ∉ names given → attributes.control control = none) := by
  refine ⟨fun config accepted => ?_, fun config parsed => ?_, fun config => fields_document,
    fun entries config parsed => ?_, fun entries config parsed => ?_,
    fun config other alike => alike.attributes?_eq, fun _ _ _ _ _ => control_eq_none_of_given⟩
  · obtain ⟨parsed, sound⟩ := ofValue_eq_valid_iff.mp accepted
    exact ⟨parsed, sound.makes⟩
  · rw [checked_ofValue.invalid_iff parsed, flawed_iff_not_sound]
  · rw [checked_terminal.invalid_iff parsed, ← TerminalConfig.not_flawed_iff, not_not]
  · rw [checked_history.invalid_iff parsed, ← HistoryConfig.not_flawed_iff, not_not]

/-- A flag may be listed twice, and the table need not name every control character.  The same
document with a number that is no byte is refused. -/
theorem checks_agree_partly_bound :
    let table (number : Int) := [(Value.text "QUIT", Value.int number)]
    let entries (number : Int) :=
      [(Value.text "input_flags", Value.list [.text "IGNCR", .text "ICRNL", .text "IGNCR"]),
        (.text "control_chars", .map (table number))]
    let document (number : Int) : Value :=
      .map [(.text "terminal", .map [(.text "attributes", .map (entries number))])]
    let given (flags : List String) (number : Int) : AttributesConfig :=
      { inputFlags := flags, controls := [("QUIT", number)] }
    (∃ config attributes, ofValue (document 4) = .valid config ∧
      config.terminal.attributes.attributes? = some attributes ∧
      (given ["ICRNL", "IGNCR"] 4).attributes? = some attributes ∧
      attributes.control .intr = none) ∧
    ∃ problems, ofValue (document 256) = .invalid problems := by
  intro table entries document given
  let config (number : Int) : Config :=
    { terminal := { attributes := given ["IGNCR", "ICRNL", "IGNCR"] number } }
  obtain ⟨makes, -, -, -, -, sets, unbound⟩ := checks_agree (document 4)
  obtain ⟨-, refused, -⟩ := checks_agree (document 256)
  have accepted : ofValue (document 4) = .valid (config 4) := rfl
  have parsed : fields (document 256) = .valid (config 256) := rfl
  have alike : (given ["IGNCR", "ICRNL", "IGNCR"] 4).Alike (given ["ICRNL", "IGNCR"] 4) :=
    { inputFlags := by simp [given, or_comm]
      outputFlags := fun _ => Iff.rfl
      localFlags := fun _ => Iff.rfl
      controls := rfl }
  have leftOut : ControlChar.intr.name ∉ names (Value.map (table 4)) := by decide
  have noByte : (config 256).terminal.Flawed :=
    .byte (List.mem_singleton_self ("QUIT", 256)) rfl rfl
  obtain ⟨-, attributes, _, _, _, attributesEq, -⟩ := makes (config 4) accepted
  exact ⟨⟨config 4, attributes, accepted, attributesEq, sets _ _ alike ▸ attributesEq,
    unbound (Value.lookup? (entries 4)) (.map (table 4)) _ attributes .intr rfl rfl attributesEq
      leftOut⟩,
    (refused (config 256) parsed).mpr (.inl noByte)⟩

end Config

end CookedMode
