import CookedMode.Proofs.Config.Checks

/-!
# The attributes of a configuration

Attributes can be made of a configuration if and only if it is sound.  A flag is set if its name
is listed, wherever and however often; a control character is bound only if the table names it.
-/

namespace CookedMode

section

variable {α β : Type} {function : α → Option β}

theorem isSome_mapM_iff {inputs : List α} :
    (inputs.mapM function).isSome ↔ ∀ input ∈ inputs, (function input).isSome := by
  induction inputs with
  | nil => simp
  | cons input rest hypothesis =>
    rw [List.forall_mem_cons, ← hypothesis, List.mapM_cons]
    cases function input <;> cases rest.mapM function <;> simp

theorem mem_of_mapM {inputs : List α} {outputs : List β}
    (outputsEq : inputs.mapM function = some outputs) {output : β} :
    output ∈ outputs ↔ ∃ input ∈ inputs, function input = some output := by
  induction inputs generalizing outputs with
  | nil =>
    cases outputsEq
    simp
  | cons input rest hypothesis =>
    rw [List.mapM_cons] at outputsEq
    cases firstEq : function input with
    | none => simp [firstEq] at outputsEq
    | some first =>
      cases restEq : rest.mapM function with
      | none => simp [firstEq, restEq] at outputsEq
      | some others =>
        simp only [firstEq, restEq, Option.bind_eq_bind, Option.bind_some, Option.pure_def,
          Option.some.injEq] at outputsEq
        rw [← outputsEq, List.mem_cons, hypothesis restEq, List.exists_mem_cons_iff, firstEq,
          Option.some.injEq, eq_comm]

end

namespace Attributes

variable {attributes : Attributes}

theorem eq_of_flag_of_control {left right : Attributes}
    (flags : ∀ flag, left.flag flag = right.flag flag)
    (controls : ∀ control, left.control control = right.control control) : left = right := by
  rw [Attributes.mk.injEq]
  exact ⟨flags (.ofInput .igncr), flags (.ofInput .icrnl), flags (.ofInput .inlcr),
    flags (.ofOutput .opost), flags (.ofOutput .onlcr), flags (.ofLocal .echo),
    flags (.ofLocal .isig), controls .intr, controls .quit, controls .susp, controls .status⟩

@[simp] theorem control_setFlag (flag : Flag) (value : Bool) (control : ControlChar) :
    (attributes.setFlag flag value).control control = attributes.control control := by
  rcases flag with (_ | _ | _) | (_ | _) | (_ | _) <;> rfl

theorem flag_setAll (attributes : Attributes) (flags : List Flag) (flag : Flag) :
    (attributes.setAll flags).flag flag = (attributes.flag flag || decide (flag ∈ flags)) := by
  induction flags generalizing attributes with
  | nil => simp [setAll]
  | cons first rest hypothesis =>
    refine (hypothesis (attributes.setFlag first true)).trans ?_
    by_cases same : flag = first
    · simp [same]
    · simp [same, flag_setFlag_of_ne attributes true same]

theorem control_setAll (attributes : Attributes) (flags : List Flag) (control : ControlChar) :
    (attributes.setAll flags).control control = attributes.control control := by
  induction flags generalizing attributes with
  | nil => rfl
  | cons first rest hypothesis =>
    exact (hypothesis (attributes.setFlag first true)).trans (control_setFlag first true control)

/-- Neither the order nor the repetition of flags matters. -/
theorem setAll_congr {left right : List Flag} (same : ∀ flag, flag ∈ left ↔ flag ∈ right) :
    attributes.setAll left = attributes.setAll right := by
  refine eq_of_flag_of_control (fun flag => ?_) fun control => ?_
  · simp only [flag_setAll, same]
  · rw [control_setAll, control_setAll]

theorem exists_bind?_iff (attributes : Attributes) (control : ControlChar) {value : Int} :
    (∃ bound, attributes.bind? control (some value) = .ok bound) ↔
      0 ≤ value ∧ value ≤ 0xFF := by
  by_cases isByte : 0 ≤ value ∧ value ≤ 0xFF <;> simp [bind?, byte?, isByte]

/-- A table can be bound if and only if it holds bytes. -/
theorem exists_bindAll?_iff {controls : List (ControlChar × Int)} :
    (∃ bound, attributes.bindAll? controls = .ok bound) ↔
      ∀ entry ∈ controls, 0 ≤ entry.2 ∧ entry.2 ≤ 0xFF := by
  induction controls generalizing attributes with
  | nil => simp [bindAll?]
  | cons entry rest hypothesis =>
    rw [List.forall_mem_cons, ← exists_bind?_iff attributes entry.1]
    cases bindEq : attributes.bind? entry.1 (some entry.2) with
    | ok bound => simp [bindAll?, bindEq, hypothesis]
    | error unbindable => simp [bindAll?, bindEq]

/-- A control character that a table does not bind stays as it is. -/
theorem control_bindAll? {controls : List (ControlChar × Int)} {bound : Attributes}
    {control : ControlChar} (boundEq : attributes.bindAll? controls = .ok bound)
    (leftOut : ∀ entry ∈ controls, entry.1 ≠ control) :
    bound.control control = attributes.control control := by
  induction controls generalizing attributes with
  | nil =>
    cases boundEq
    rfl
  | cons entry rest hypothesis =>
    obtain ⟨different, leftOut⟩ := List.forall_mem_cons.mp leftOut
    cases byteEq : byte? entry.2 with
    | none => simp [bindAll?, bind?, byteEq] at boundEq
    | some byte =>
      simp only [bindAll?, bind?, byteEq] at boundEq
      rw [hypothesis boundEq leftOut, control_bind_of_ne _ _ different.symm]

end Attributes

theorem ControlChar.name_of_ofName? {name : String} {control : ControlChar}
    (named : ControlChar.ofName? name = some control) : control.name = name := by
  have same := List.find?_some named
  exact eq_of_beq same

namespace AttributesConfig

theorem flags?_eq_mapM {α : Type} (ofName? : String → Option α) (wrap : α → Flag)
    (names : List String) :
    flags? ofName? wrap names = names.mapM fun name => (ofName? name).map wrap := by
  induction names with
  | nil => rfl
  | cons name rest hypothesis =>
    rw [flags?, hypothesis, List.mapM_cons]
    cases ofName? name <;> cases rest.mapM fun name => (ofName? name).map wrap <;> rfl

theorem controls?_eq_mapM (table : List (String × Int)) :
    controls? table =
      table.mapM fun entry => (ControlChar.ofName? entry.1).map (·, entry.2) := by
  induction table with
  | nil => rfl
  | cons entry rest hypothesis =>
    rw [controls?, hypothesis, List.mapM_cons]
    cases ControlChar.ofName? entry.1 <;>
      cases rest.mapM fun entry => (ControlChar.ofName? entry.1).map (·, entry.2) <;> rfl

/-- There are flags of some names if and only if each name is known. -/
theorem isSome_flags?_iff {α : Type} {ofName? : String → Option α} {wrap : α → Flag}
    {names : List String} :
    (flags? ofName? wrap names).isSome ↔ ∀ name ∈ names, (ofName? name).isSome := by
  simp only [flags?_eq_mapM, isSome_mapM_iff, Option.isSome_map]

theorem exists_flags? {α : Type} {ofName? : String → Option α} (wrap : α → Flag)
    {names : List String} (known : ∀ name ∈ names, (ofName? name).isSome) :
    ∃ flags, flags? ofName? wrap names = some flags :=
  Option.isSome_iff_exists.mp (isSome_flags?_iff.mpr known)

/-- The flags of a list of names depend on the set of the names only. -/
theorem exists_flags?_of_same {α : Type} {ofName? : String → Option α} {wrap : α → Flag}
    {names others : List String} {flags : List Flag}
    (flagsEq : flags? ofName? wrap names = some flags)
    (same : ∀ name, name ∈ names ↔ name ∈ others) :
    ∃ equals, flags? ofName? wrap others = some equals ∧ ∀ flag, flag ∈ flags ↔ flag ∈ equals := by
  have known := isSome_flags?_iff.mp (Option.isSome_of_eq_some flagsEq)
  obtain ⟨equals, equalsEq⟩ := exists_flags? wrap fun name listed =>
    known name ((same name).mpr listed)
  refine ⟨equals, equalsEq, fun flag => ?_⟩
  rw [flags?_eq_mapM] at flagsEq equalsEq
  simp only [mem_of_mapM flagsEq, mem_of_mapM equalsEq, same]

theorem isSome_controls?_iff {table : List (String × Int)} :
    (controls? table).isSome ↔ ∀ entry ∈ table, (ControlChar.ofName? entry.1).isSome := by
  simp only [controls?_eq_mapM, isSome_mapM_iff, Option.isSome_map]

theorem mem_of_controls? {table : List (String × Int)} {controls : List (ControlChar × Int)}
    (controlsEq : controls? table = some controls) {control : ControlChar} {value : Int} :
    (control, value) ∈ controls ↔
      ∃ name, (name, value) ∈ table ∧ ControlChar.ofName? name = some control := by
  rw [controls?_eq_mapM] at controlsEq
  rw [mem_of_mapM controlsEq]
  simp only [Option.map_eq_some_iff, Prod.mk.injEq, Prod.exists]
  constructor
  · rintro ⟨name, _, listed, _, known, rfl, rfl⟩
    exact ⟨name, listed, known⟩
  · rintro ⟨name, listed, known⟩
    exact ⟨name, value, listed, control, known, rfl, rfl⟩

variable {config other : AttributesConfig} {attributes : Attributes}

theorem attributes?_eq_some_iff :
    config.attributes? = some attributes ↔
      ∃ input output modes controls,
        flags? InputFlag.ofName? .ofInput config.inputFlags = some input ∧
        flags? OutputFlag.ofName? .ofOutput config.outputFlags = some output ∧
        flags? LocalFlag.ofName? .ofLocal config.localFlags = some modes ∧
        controls? config.controls = some controls ∧
        Attributes.ofParts? (input ++ output ++ modes) controls = .ok attributes := by
  unfold attributes?
  constructor
  · intro built
    split at built
    case h_1 input output modes controls inputEq outputEq modesEq controlsEq =>
      refine ⟨input, output, modes, controls, inputEq, outputEq, modesEq, controlsEq, ?_⟩
      cases parts : Attributes.ofParts? (input ++ output ++ modes) controls with
      | ok made =>
        rw [parts] at built
        cases built
        rfl
      | error unbindable =>
        rw [parts] at built
        cases built
    case h_2 => cases built
  · rintro ⟨input, output, modes, controls, inputEq, outputEq, modesEq, controlsEq, made⟩
    rw [inputEq, outputEq, modesEq, controlsEq]
    exact congrArg Except.toOption made

/-- Attributes can be made of a configuration if and only if it is sound. -/
theorem isSome_attributes?_iff : config.attributes?.isSome ↔ config.Sound := by
  constructor
  · intro isSome
    obtain ⟨attributes, built⟩ := Option.isSome_iff_exists.mp isSome
    obtain ⟨input, output, modes, controls, inputEq, outputEq, modesEq, controlsEq, made⟩ :=
      attributes?_eq_some_iff.mp built
    have known := isSome_controls?_iff.mp (Option.isSome_of_eq_some controlsEq)
    refine
      { inputFlags := isSome_flags?_iff.mp (Option.isSome_of_eq_some inputEq)
        outputFlags := isSome_flags?_iff.mp (Option.isSome_of_eq_some outputEq)
        localFlags := isSome_flags?_iff.mp (Option.isSome_of_eq_some modesEq)
        controls := known
        bytes := fun entry listed => ?_ }
    obtain ⟨control, named⟩ := Option.isSome_iff_exists.mp (known entry listed)
    exact Attributes.exists_bindAll?_iff.mp ⟨attributes, made⟩ (control, entry.2)
      ((mem_of_controls? controlsEq).mpr ⟨entry.1, listed, named⟩)
  · intro sound
    obtain ⟨input, inputEq⟩ := exists_flags? .ofInput sound.inputFlags
    obtain ⟨output, outputEq⟩ := exists_flags? .ofOutput sound.outputFlags
    obtain ⟨modes, modesEq⟩ := exists_flags? .ofLocal sound.localFlags
    obtain ⟨controls, controlsEq⟩ :=
      Option.isSome_iff_exists.mp (isSome_controls?_iff.mpr sound.controls)
    have bytes (entry : ControlChar × Int) (bound : entry ∈ controls) :
        0 ≤ entry.2 ∧ entry.2 ≤ 0xFF := by
      obtain ⟨name, listed, -⟩ := (mem_of_controls? controlsEq).mp bound
      exact sound.bytes (name, entry.2) listed
    obtain ⟨attributes, made⟩ := Attributes.exists_bindAll?_iff.mpr bytes
    exact Option.isSome_of_eq_some (attributes?_eq_some_iff.mpr
      ⟨input, output, modes, controls, inputEq, outputEq, modesEq, controlsEq, made⟩)

/-- Two configurations list the same flags and bind the same control characters. -/
structure Alike (config other : AttributesConfig) : Prop where
  inputFlags : ∀ name, name ∈ config.inputFlags ↔ name ∈ other.inputFlags
  outputFlags : ∀ name, name ∈ config.outputFlags ↔ name ∈ other.outputFlags
  localFlags : ∀ name, name ∈ config.localFlags ↔ name ∈ other.localFlags
  controls : config.controls = other.controls

theorem Alike.symm (alike : config.Alike other) : other.Alike config where
  inputFlags name := (alike.inputFlags name).symm
  outputFlags name := (alike.outputFlags name).symm
  localFlags name := (alike.localFlags name).symm
  controls := alike.controls.symm

theorem Alike.attributes?_eq_some (alike : config.Alike other)
    (built : config.attributes? = some attributes) : other.attributes? = some attributes := by
  obtain ⟨input, output, modes, controls, inputEq, outputEq, modesEq, controlsEq, made⟩ :=
    attributes?_eq_some_iff.mp built
  obtain ⟨input', inputEq', sameInput⟩ := exists_flags?_of_same inputEq alike.inputFlags
  obtain ⟨output', outputEq', sameOutput⟩ := exists_flags?_of_same outputEq alike.outputFlags
  obtain ⟨modes', modesEq', sameModes⟩ := exists_flags?_of_same modesEq alike.localFlags
  -- the lists of flags may differ, but not as sets, and only that matters to setting them
  have same (flag : Flag) :
      flag ∈ input' ++ output' ++ modes' ↔ flag ∈ input ++ output ++ modes := by
    simp only [List.mem_append, sameInput, sameOutput, sameModes]
  refine attributes?_eq_some_iff.mpr ⟨input', output', modes', controls, inputEq', outputEq',
    modesEq', alike.controls ▸ controlsEq, ?_⟩
  rw [← made, Attributes.ofParts?, Attributes.ofParts?, Attributes.setAll_congr same]

/-- The attributes depend on the sets of the listed names only. -/
theorem Alike.attributes?_eq (alike : config.Alike other) :
    config.attributes? = other.attributes? :=
  Option.ext fun _ => ⟨alike.attributes?_eq_some, alike.symm.attributes?_eq_some⟩

/-- A control character that the table does not name is unbound. -/
theorem control_eq_none (built : config.attributes? = some attributes) {control : ControlChar}
    (leftOut : ∀ entry ∈ config.controls, entry.1 ≠ control.name) :
    attributes.control control = none := by
  obtain ⟨input, output, modes, controls, -, -, -, controlsEq, made⟩ :=
    attributes?_eq_some_iff.mp built
  rw [Attributes.control_bindAll? made ?_, Attributes.control_setAll]
  · cases control <;> rfl
  · rintro ⟨other, value⟩ bound same
    obtain ⟨name, listed, named⟩ := (mem_of_controls? controlsEq).mp bound
    exact leftOut (name, value) listed (same ▸ (ControlChar.name_of_ofName? named).symm)

end AttributesConfig

end CookedMode
