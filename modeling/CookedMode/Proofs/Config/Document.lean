import CookedMode.Config.Document
import CookedMode.Config.Kinds
import CookedMode.Proofs.Config.Checks

/-!
# Documents of configurations

Every configuration is what the fields of its document say, whether it is sound or not.
-/

namespace CookedMode.Config

open Config.Field Config.Kind

theorem enter_of_notMem {table : List (String × Int)} {name : String} {value : Int}
    (fresh : name ∉ table.map Prod.fst) : enter table name value = table ++ [(name, value)] := by
  induction table with
  | nil => rfl
  | cons first rest hypothesis =>
    rw [List.map_cons, List.mem_cons, not_or] at fresh
    rw [enter, if_neg (Ne.symm fresh.1), hypothesis fresh.2, List.cons_append]

/-- A table stays as it is if its names are distinct. -/
theorem tabulate_of_nodup {entries : List (String × Int)}
    (distinct : (entries.map Prod.fst).Nodup) : tabulate entries = entries := by
  -- what is in the table and what is still to come have distinct names all along
  suffices appends : ∀ rest table : List (String × Int), ((table ++ rest).map Prod.fst).Nodup →
      rest.foldl (fun table entry => enter table entry.1 entry.2) table = table ++ rest from
    appends entries [] distinct
  intro rest
  induction rest with
  | nil => exact fun table _ => (List.append_nil table).symm
  | cons first rest hypothesis =>
    intro table distinct
    have fresh : first.1 ∉ table.map Prod.fst := fun listed => by
      rw [List.map_append, List.map_cons, List.nodup_append] at distinct
      exact distinct.2.2 _ listed _ List.mem_cons_self rfl
    rw [List.foldl_cons, enter_of_notMem fresh, List.append_cons table first rest]
    exact hypothesis (table ++ [first]) (List.append_cons table first rest ▸ distinct)

theorem textList_texts (texts : List String) : Kind.textList (.texts texts) = .valid texts := by
  suffices all : ∀ number, Kind.texts number (texts.map .text) = .valid texts from all 0
  induction texts with
  | nil => exact fun _ => rfl
  | cons first rest hypothesis =>
    intro number
    rw [List.map_cons, Kind.texts, hypothesis]
    rfl

theorem numbers_record (controls : List (String × Int)) :
    numbers (controls.map fun entry => (.text entry.1, .int entry.2)) = .valid controls := by
  induction controls with
  | nil => rfl
  | cons first rest hypothesis =>
    rw [List.map_cons, numbers, hypothesis]
    rfl

theorem historyFields_document (config : HistoryConfig) :
    readSection "HistoryConfig" historyFields config.document = .valid config := by
  obtain ⟨enabled, file, maxSize, policy, permission⟩ := config
  cases file <;> cases policy <;> rfl

theorem attributesFields_document {config : AttributesConfig}
    (distinct : (config.controls.map Prod.fst).Nodup) :
    readSection "AttributesConfig" attributesFields config.document = .valid config := by
  have tableEq :
      Kind.numberTable (.record (config.controls.map fun entry => (entry.1, .int entry.2))) =
        .valid config.controls := by
    rw [Value.record, List.map_map, Kind.numberTable]
    exact Reading.map_eq_valid_iff.mpr
      ⟨config.controls, numbers_record config.controls, tabulate_of_nodup distinct⟩
  exact attributes_eq_valid_iff.mpr
    ⟨Reading.below_eq_valid_iff.mpr (textList_texts config.inputFlags),
      Reading.below_eq_valid_iff.mpr (textList_texts config.outputFlags),
      Reading.below_eq_valid_iff.mpr (textList_texts config.localFlags),
      Reading.below_eq_valid_iff.mpr tableEq⟩

theorem terminalFields_document {config : TerminalConfig}
    (distinct : (config.attributes.controls.map Prod.fst).Nodup) :
    readSection "TerminalConfig" terminalFields config.document = .valid config :=
  terminal_eq_valid_iff.mpr ⟨rfl, rfl, rfl,
    Reading.below_eq_valid_iff.mpr (attributesFields_document distinct)⟩

/-- The fields of a document give the configuration back that it was made of. -/
theorem fields_document {config : Config}
    (distinct : (config.terminal.attributes.controls.map Prod.fst).Nodup) :
    fields config.document = .valid config :=
  config_eq_valid_iff.mpr
    ⟨Reading.below_eq_valid_iff.mpr (historyFields_document config.history),
      Reading.below_eq_valid_iff.mpr (terminalFields_document distinct)⟩

end CookedMode.Config
