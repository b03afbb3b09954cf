import CookedMode.Command.Grammar

/-!
# Usage and help

The usage of a verb is one line.  Its help adds a table of what can be written after the
verb, in which the explanations stand in a column of their own.
-/

namespace CookedMode.Command

/-- A name of an option, and what stands for its value. -/
def Opt.withValue (option : Opt) (name : String) : String :=
  match option.effect with
  | .take placeholder .. => name ++ " " ++ placeholder
  | _ => name

/-- An option in a usage. -/
def Opt.usage (option : Opt) : String :=
  "[" ++ option.withValue (option.names.headD "") ++ "]"

/-- The names that can be chosen from. -/
def choices (members : List Verb) : String :=
  "\x7b" ++ ",".intercalate (members.map Verb.name) ++ "\x7d"

namespace Verb

/-- What follows the options of a verb in its usage. -/
def operandUsage : Verb → List String
  | simple _ _ _ operand _ => operand.toList.map Operand.name
  | group _ _ _ _ members => [choices members ++ " ..."]

/-- The usage of the verb that some names lead to. -/
def usage (verb : Verb) (path : List String) : String :=
  "usage: " ++ " ".intercalate (path ++ verb.options.map Opt.usage ++ verb.operandUsage)

end Verb

/-- An entry of a help: what can be written, and what that is for. -/
structure HelpEntry where
  indent : Nat := 2
  form : String
  summary : Option String

/-- The entry of an option. -/
def Opt.helpEntry (option : Opt) : HelpEntry where
  form := ", ".intercalate (option.names.map option.withValue)
  summary := some option.summary

/-- The entries for what follows the options of a verb. -/
def Verb.operandEntries : Verb → List HelpEntry
  | .simple _ _ _ operand _ =>
    operand.toList.map fun operand =>
      { form := operand.name, summary := some operand.summary }
  | .group _ _ _ _ members =>
    { form := choices members, summary := none } ::
      members.map fun member =>
        { indent := 4, form := member.name, summary := some member.summary }

/-- The column after the last one of a help. -/
def helpWidth : Nat := 78

/-- Where the explanations begin at the latest. -/
def farthestColumn : Nat := 24

/-- Where the explanations begin: two columns after the longest form, if that is not too
far.  Forms count as if none was indented more than the others. -/
def summaryColumn (entries : List HelpEntry) : Nat :=
  min ((entries.map (·.form.length + 4)).foldl max 0) farthestColumn

/-- Spaces. -/
def blanks (count : Nat) : String :=
  String.ofList (List.replicate count ' ')

/-- Words packed into lines of at most some characters.  `line` is the line so far. -/
def packWords (width : Nat) (line : String) : List String → List String
  | [] => [line]
  | word :: rest =>
    if line.isEmpty then packWords width word rest
    else if line.length + 1 + word.length ≤ width then packWords width (line ++ " " ++ word) rest
    else line :: packWords width word rest

/-- The lines of an entry.  An explanation begins in the line of its form, unless that is
too long. -/
def HelpEntry.lines (column : Nat) (entry : HelpEntry) : List String :=
  let head := blanks entry.indent ++ entry.form
  match entry.summary with
  | none => [head]
  | some summary =>
    let pieces := packWords (helpWidth - column) "" (summary.splitOn " ")
    let below := pieces.map (blanks column ++ ·)
    if head.length + 2 ≤ column then
      match pieces with
      | [] => [head]
      | first :: _ => (head ++ blanks (column - head.length) ++ first) :: below.drop 1
    else head :: below

/-- A section of a help, if it has any entries. -/
def helpSection (column : Nat) (title : String) (entries : List HelpEntry) : List (List String) :=
  if entries.isEmpty then []
  else [(title ++ ":") :: entries.flatMap (HelpEntry.lines column)]

/-- The help of the verb that some names lead to.  That of the whole program says what it
is for. -/
def Verb.help (verb : Verb) (path : List String) : String :=
  let operands := verb.operandEntries
  let options := verb.options.map Opt.helpEntry
  let column := summaryColumn (operands ++ options)
  let blocks := [verb.usage path] :: (if path.length ≤ 1 then [[verb.summary]] else []) ++
    helpSection column "positional arguments" operands ++ helpSection column "options" options
  "\n\n".intercalate (blocks.map ("\n".intercalate ·)) ++ "\n"

end CookedMode.Command
