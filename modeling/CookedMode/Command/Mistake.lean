import CookedMode.Command.Help
import CookedMode.Text.Quoted

/-!
# Mistakes on the command line

Why words are refused, and the report of it, which shows the usage of the verb first.
-/

namespace CookedMode.Command

/-- Why the words of a command line are refused. -/
inductive Mistake where
  /-- A word begins the names of several options. -/
  | ambiguous (word : String) (names : List String)
  /-- No value follows an option that takes one. -/
  | noValue (names : List String)
  /-- A value is attached to an option that takes none. -/
  | needlessValue (names : List String) (value : String)
  /-- A text is no value of the kind that an option takes. -/
  | badValue (names : List String) (kind value : String)
  /-- A word is none of the verbs that can be chosen from. -/
  | unknownVerb (choice word : String) (members : List String)
  /-- An operand is missing. -/
  | missing (name : String)
  /-- Some words mean nothing. -/
  | meaningless (words : List String)
  /-- The configuration has problems. -/
  | badConfig (path report : String)
  /-- The configuration names no history file. -/
  | noHistoryFile
  /-- A path holds the character that ends paths. -/
  | nulInPath
  deriving DecidableEq, Repr

/-- The wording of a mistake. -/
def Mistake.message : Mistake → String
  | ambiguous word names =>
    "ambiguous option: " ++ word ++ " could match " ++ ", ".intercalate names
  | noValue names => "argument " ++ "/".intercalate names ++ ": expected one argument"
  | needlessValue names value =>
    "argument " ++ "/".intercalate names ++ ": ignored explicit argument " ++ Text.quoted value
  | badValue names kind value =>
    "argument " ++ "/".intercalate names ++ ": invalid " ++ kind ++ " value: " ++
      Text.quoted value
  | unknownVerb choice word members =>
    "argument " ++ choice ++ ": invalid choice: " ++ Text.quoted word ++ " (choose from " ++
      ", ".intercalate (members.map Text.quoted) ++ ")"
  | missing name => "the following arguments are required: " ++ name
  | meaningless words => "unrecognized arguments: " ++ " ".intercalate words
  | badConfig path report => "invalid config " ++ path ++ ": " ++ report
  | noHistoryFile => "history file is not configured"
  | nulInPath => "embedded null byte"

/-- The report of a mistake that was made at the verb that some names lead to. -/
def Mistake.report (mistake : Mistake) (verb : Verb) (path : List String) : String :=
  verb.usage path ++ "\n" ++ " ".intercalate path ++ ": error: " ++ mistake.message ++ "\n"

end CookedMode.Command
