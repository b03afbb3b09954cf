import CookedMode.Config.Basic
import CookedMode.Data.Value

/-!
# Configurations as documents

A configuration is written as a document that names every field.  Reading it gives the
configuration back, provided that all its names are known and all its numbers allowed.
-/

namespace CookedMode

/-- A mapping with names as its keys. -/
def Value.record (fields : List (String × Value)) : Value :=
  .map (fields.map fun (name, value) => (.text name, value))

/-- A list of texts. -/
def Value.texts (texts : List String) : Value :=
  .list (texts.map .text)

/-- A permission as a document. -/
def Permission.document (permission : Permission) : Value :=
  .record [
    ("readable", .bool permission.readable),
    ("readable_owner_only", .bool permission.readableOwnerOnly),
    ("writable", .bool permission.writable),
    ("writable_owner_only", .bool permission.writableOwnerOnly),
    ("executable", .bool permission.executable),
    ("executable_owner_only", .bool permission.executableOwnerOnly)]

/-- The configuration of the history as a document. -/
def HistoryConfig.document (config : HistoryConfig) : Value :=
  .record [
    ("enabled", .bool config.enabled),
    ("file", (config.file.map Value.text).getD .null),
    ("max_size", .int config.maxSize),
    ("search_match", .text config.policy.name),
    ("permission", config.permission.document)]

/-- The configuration of the attributes as a document. -/
def AttributesConfig.document (config : AttributesConfig) : Value :=
  .record [
    ("input_flags", .texts config.inputFlags),
    ("output_flags", .texts config.outputFlags),
    ("local_flags", .texts config.localFlags),
    ("control_chars",
      .record (config.controls.map fun (name, value) => (name, .int value)))]

/-- The configuration of the terminal as a document. -/
def TerminalConfig.document (config : TerminalConfig) : Value :=
  .record [
    ("cols", .int config.cols),
    ("rows", .int config.rows),
    ("channel_capacity", .int config.capacity),
    ("attributes", config.attributes.document)]

/-- A configuration as a document. -/
def Config.document (config : Config) : Value :=
  .record [("history", config.history.document), ("terminal", config.terminal.document)]

end CookedMode
