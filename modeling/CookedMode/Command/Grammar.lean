import CookedMode.Text.Decimal

/-!
# The grammar of the command line

A verb has options and either an operand or verbs of its own, one of which has to be
chosen.  Every option and operand says which setting it makes of its text, and every verb
with no others below it says what the settings ask for.
-/

namespace CookedMode

/-- What the program is asked to do. -/
inductive Command where
  /-- Show the newest entries of the history, or all of them. -/
  | list (limit : Option Int)
  /-- Show the entries that match a term: from the oldest one on if `forward`, and only
  those that begin with the term if `leading`. -/
  | search (term : String) (forward leading : Bool)
  /-- Remove all entries of the history. -/
  | clear
  /-- Feed a file through a terminal, and keep the lines if `save`. -/
  | replay (file : String) (save : Bool)
  deriving DecidableEq, Repr

namespace Command

/-- What the words of a command line set. -/
structure Settings where
  config : Option String := none
  verbose : Bool := false
  limit : Option Int := none
  term : String := ""
  forward : Bool := false
  leading : Bool := false
  file : String := ""
  save : Bool := false
  deriving DecidableEq, Repr

/-- What an option does. -/
inductive Effect where
  /-- Show the help of the verb and stop. -/
  | help
  /-- Show the version and stop. -/
  | version
  /-- Make a setting. -/
  | set (setting : Settings → Settings)
  /-- Make a setting of a value, which the help calls by a name.  Reports name the kind of
  value when a text is none. -/
  | take (placeholder kind : String) (setting : String → Option (Settings → Settings))

/-- An option: its names, the shorter one first, and what it is for. -/
structure Opt where
  names : List String
  effect : Effect
  summary : String

/-- Whether an option takes a value. -/
def Opt.takesValue (option : Opt) : Bool :=
  match option.effect with
  | .take .. => true
  | _ => false

/-- An operand, for which a word has to be given. -/
structure Operand where
  name : String
  summary : String
  setting : String → Settings → Settings

/-- A verb of the command line. -/
inductive Verb where
  /-- A verb that does something, with an operand or without. -/
  | simple (name summary : String) (options : List Opt) (operand : Option Operand)
      (command : Settings → Command)
  /-- A verb that needs another one, and the name by which reports call that. -/
  | group (name summary : String) (options : List Opt) (choice : String) (members : List Verb)

namespace Verb

/-- The name of a verb. -/
def name : Verb → String
  | simple name _ _ _ _ => name
  | group name _ _ _ _ => name

/-- What a verb is for. -/
def summary : Verb → String
  | simple _ summary _ _ _ => summary
  | group _ summary _ _ _ => summary

/-- The options of a verb. -/
def options : Verb → List Opt
  | simple _ _ options _ _ => options
  | group _ _ options _ _ => options

end Verb

/-- The name of the program. -/
def programName : String := "termline"

/-- The version of the program. -/
def programVersion : String := "0.1.0"

/-- The option that asks for help. -/
def helpOption : Opt where
  names := ["-h", "--help"]
  effect := .help
  summary := "show this help message and exit"

/-- List the newest entries. -/
def listVerb : Verb :=
  .simple "list" "List history entries, oldest first"
    [helpOption,
      { names := ["-n", "--limit"]
        effect := .take "LIMIT" "int" fun text =>
          (Text.integer? text.toList).map fun count settings =>
            { settings with limit := some count }
        summary := "Show only the newest N entries" }]
    none
    fun settings => .list settings.limit

/-- Search the entries. -/
def searchVerb : Verb :=
  .simple "search" "Search history entries"
    [helpOption,
      { names := ["--forward"]
        effect := .set fun settings => { settings with forward := true }
        summary := "Search oldest to newest (default: newest to oldest)" },
      { names := ["--prefix"]
        effect := .set fun settings => { settings with leading := true }
        summary := "Match entries starting with TERM instead of containing it" }]
    (some
      { name := "term", summary := "Text to search for"
        setting := fun term settings => { settings with term } })
    fun settings => .search settings.term settings.forward settings.leading

/-- Remove the entries. -/
def clearVerb : Verb :=
  .simple "clear" "Remove every history entry" [helpOption] none fun _ => .clear

/-- Look after the history. -/
def historyVerb : Verb :=
  .group "history" "Inspect persisted history" [helpOption] "history_command"
    [listVerb, searchVerb, clearVerb]

/-- Feed a file through a terminal. -/
def replayVerb : Verb :=
  .simple "replay" "Feed raw bytes through a line discipline terminal"
    [helpOption,
      { names := ["--save"]
        effect := .set fun settings => { settings with save := true }
        summary := "Persist submitted lines to the history file" }]
    (some
      { name := "file", summary := "File with raw terminal input, or - for stdin"
        setting := fun file settings => { settings with file } })
    fun settings => .replay settings.file settings.save

/-- The whole command line. -/
def program : Verb :=
  .group programName "termline - line discipline and history tools"
    [helpOption,
      { names := ["-V", "--version"], effect := .version
        summary := "show program's version number and exit" },
      { names := ["-c", "--config"]
        effect := .take "CONFIG" "str" fun path =>
          some fun settings => { settings with config := some path }
        summary := "Path to YAML config (default: $TERMLINE_CONFIG_PATH or termline.yaml)" },
      { names := ["-v", "--verbose"]
        effect := .set fun settings => { settings with verbose := true }
        summary := "Show debug logs" }]
    "command" [historyVerb, replayVerb]

end Command

end CookedMode
