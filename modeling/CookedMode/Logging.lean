import CookedMode.Text.Utf8
import CookedMode.Signal

/-!
# Log levels and log records

A level is a number; the usual ones have names.  A record is a message of the
program with its level, and is shown when its level reaches that of the log.
-/

namespace CookedMode

/-- The level of a log or of a record. -/
abbrev LogLevel := Int

namespace LogLevel

def debug : LogLevel := 10
def info : LogLevel := 20
def warning : LogLevel := 30
def error : LogLevel := 40
def critical : LogLevel := 50

/-- The names of levels. -/
def names : List (String × LogLevel) :=
  [("CRITICAL", critical), ("FATAL", critical), ("ERROR", error), ("WARN", warning),
    ("WARNING", warning), ("INFO", info), ("DEBUG", debug), ("NOTSET", 0)]

/-- A letter in upper case, as far as the names of levels need it: besides the
ASCII letters, two others have one of them as their upper case. -/
def upper (char : Char) : Char :=
  if char == 'ı' then 'I' else if char == 'ſ' then 'S' else char.toUpper

/-- The level of a name in any case.  A name that is none means warnings. -/
def ofName (name : String) : LogLevel :=
  ((names.lookup (name.map upper)).getD warning)

/-- The level of the log when the environment may name one. -/
def ofEnvironment (setting : Option String) : LogLevel :=
  ofName (setting.getD "WARNING")

end LogLevel

/-- The log of the program: its level, and how many handlers write it. -/
structure Log where
  level : LogLevel := LogLevel.warning
  handlers : Nat := 0
  deriving DecidableEq, Repr, Inhabited

/-- Set the log up for a level.  A handler is added only if there is none. -/
def Log.setUp (log : Log) (level : LogLevel) : Log where
  level := level
  handlers := if log.handlers = 0 then 1 else log.handlers

/-- Why a line of a history file is skipped. -/
inductive LineFault where
  /-- Its bytes are no text. -/
  | undecodable (error : Utf8.Error)
  /-- It holds a backslash that begins no escape, and this is what follows. -/
  | badEscape (next : Option Char)
  deriving DecidableEq, Repr

/-- The wording of a line's fault. -/
def LineFault.message : LineFault → String
  | undecodable error => error.message
  | badEscape next => "invalid escape sequence: \\" ++ String.ofList next.toList

/-- A record of the log. -/
inductive Notice where
  | lineSkipped (path : String) (number : Nat) (fault : LineFault)
  | linesSkipped (path : String) (count : Nat)
  | historyWritten (path : String) (entries : Nat)
  | historyLoaded (entries : Nat)
  | historySaved (entries : Nat)
  | containerCreated (file : Option String) (maxSize : Nat)
  | lineSubmitted (length : Nat)
  | signalDispatched (signal : Signal)
  | replayFinished (bytes lines signals : Nat)
  deriving DecidableEq, Repr

namespace Notice

/-- The level of a record. -/
def level : Notice → LogLevel
  | lineSkipped .. | linesSkipped .. => .warning
  | replayFinished .. => .info
  | _ => .debug

/-- The name of a record's level. -/
def levelName : Notice → String
  | lineSkipped .. | linesSkipped .. => "WARNING"
  | replayFinished .. => "INFO"
  | _ => "DEBUG"

/-- The message of a record. -/
def message : Notice → String
  | lineSkipped path number fault =>
    "Skipping corrupt history line path=" ++ path ++ " line=" ++ toString number ++ ": " ++
      fault.message
  | linesSkipped path count =>
    "Skipped " ++ toString count ++ " corrupt history lines path=" ++ path
  | historyWritten path entries =>
    "History written path=" ++ path ++ " entries=" ++ toString entries
  | historyLoaded entries => "History loaded entries=" ++ toString entries
  | historySaved entries => "History saved entries=" ++ toString entries
  | containerCreated file maxSize =>
    "Container created history_file=" ++ file.getD "None" ++ " max_size=" ++ toString maxSize
  | lineSubmitted length => "Line submitted length=" ++ toString length
  | signalDispatched signal => "Dispatching signal=" ++ signal.name
  | replayFinished bytes lines signals =>
    "Replay finished bytes=" ++ toString bytes ++ " lines=" ++ toString lines ++
      " signals=" ++ toString signals

/-- Whether a log of a level shows a record. -/
def shownAt (notice : Notice) (level : LogLevel) : Bool :=
  level ≤ notice.level

end Notice

end CookedMode
