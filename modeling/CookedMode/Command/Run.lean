import CookedMode.Command.Display
import CookedMode.Command.Parsing
import CookedMode.Config.Loading
import CookedMode.Session.Replay
import CookedMode.Workspace

/-!
# Running the program

A run takes the words of the command line, the files and what else surrounds the program
to a report: how the run ends, what it writes, the files after it, and its log.
-/

namespace CookedMode.Command

/-- What surrounds a run. -/
structure Surroundings where
  files : FileSystem
  /-- The bytes of the standard input. -/
  input : List UInt8 := []
  /-- The path of the configuration, if the environment names one. -/
  configPath : Option String := none
  /-- The level of the log, if the environment names one. -/
  logLevel : Option String := none

/-- What a run leaves to others: how documents are loaded, and how things are shown. -/
structure Libraries (ε δ : Type) where
  load : Config.Loader ε δ
  console : Console

/-- Documents are in YAML, and things are shown on the screen. -/
def Libraries.standard : Libraries Yaml.Error Value where
  load := Config.yaml
  console := .screen

/-- An error that nothing catches. -/
inductive Uncaught (ε : Type := Yaml.Error) where
  | loading (error : Config.LoadError ε)
  | opening (error : OpenError)
  deriving Repr

/-- The wording of an error that nothing catches. -/
def Uncaught.message : Uncaught → String
  | loading (.file error) => error.message
  | loading (.undecodable error) => error.message
  | loading (.document (.nonsense nonsense)) => nonsense.message
  | loading (.document (.malformed _)) => "the configuration is no well-formed document"
  | loading (.invalid problems) => Config.Problem.reportAll problems
  | opening (.home error) => error.message
  | opening (.file error) => error.message
  | opening .impossible => "the configuration asks for something impossible"

/-- How a run ends. -/
inductive Ending (ε : Type := Yaml.Error) where
  | exit (code : Nat)
  | escaped (error : Uncaught ε)
  deriving Repr

/-- What comes of a run. -/
structure Report (ε : Type := Yaml.Error) where
  ending : Ending ε
  output : String := ""
  errors : String := ""
  files : FileSystem
  /-- The records of the main part of the program. -/
  notices : List Notice := []
  /-- The records of the reader. -/
  readerNotices : List Notice := []

variable {ε δ : Type}

/-- The report of a mistake that the program as a whole has noticed. -/
def Report.ofMistake (files : FileSystem) (mistake : Mistake) : Report ε where
  ending := .exit 2
  errors := mistake.report program programPath
  files := files

/-- The report of a failed operation on files. -/
def Report.ofFileError (files : FileSystem) : FileError → Report ε
  | .nul => .ofMistake files .nulInPath
  | error =>
    { ending := .exit 1
      errors := programName ++ ": " ++ error.message ++ "\n"
      files }

/-- The report of a history that cannot be opened. -/
def Report.ofOpenError (files : FileSystem) : OpenError → Report ε
  | .file error => .ofFileError files error
  | .home .nul => .ofMistake files .nulInPath
  | error => { ending := .escaped (.opening error), files }

/-- The report of a configuration that cannot be loaded from a path. -/
def Report.ofLoadError (files : FileSystem) (path : String) :
    Config.LoadError ε → Report ε
  | .invalid problems => .ofMistake files (.badConfig path (Config.Problem.reportAll problems))
  | error => { ending := .escaped (.loading error), files }

/-- The report of a command line that was not read to its end. -/
def Report.ofStop (files : FileSystem) : Stop → Report ε
  | .help verb path => { ending := .exit 0, output := verb.help path, files }
  | .version =>
    { ending := .exit 0, output := programName ++ " " ++ programVersion ++ "\n", files }
  | .refused mistake verb path =>
    { ending := .exit 2, errors := mistake.report verb path, files }

/-- Put records before those of a report. -/
def Report.after (report : Report ε) (notices : List Notice) : Report ε :=
  { report with notices := notices ++ report.notices }

/-- Do something with the history of a configuration, which has to be kept in a file. -/
def withHistory (config : HistoryConfig) (files : FileSystem)
    (act : KeptHistory → Report ε) : Report ε :=
  match config.openHistory files with
  | .error error => .ofOpenError files error
  | .ok (kept, notices) =>
    (if kept.store.isNone then .ofMistake files .noHistoryFile else act kept).after notices

/-- The position of the first entry to be listed. -/
def firstListed (limit : Option Int) (size : Nat) : Nat :=
  match limit with
  | none => 0
  | some limit => if limit < size then size - limit.toNat else 0

/-- List the newest entries. -/
def runList (console : Console) (config : HistoryConfig) (files : FileSystem)
    (limit : Option Int) : Report ε :=
  withHistory config files fun kept =>
    let entries := kept.history.entries
    let first := firstListed limit entries.length
    { ending := .exit 0, output := showEntries console first (entries.drop first), files }

/-- The direction of a search. -/
def searchDirection (forward : Bool) : SearchDirection :=
  if forward then .forward else .reverse

/-- The configuration of a history that is searched, perhaps at the front of entries only. -/
def searchConfig (config : HistoryConfig) (leading : Bool) : HistoryConfig :=
  if leading then { config with policy := .leading } else config

/-- What searching a history finds until it has gone once around. -/
def matchesIn (history : History) (term : String) (direction : SearchDirection) :
    List (Option String) :=
  let count := history.entries.countP fun entry => history.policy.accepts entry term
  (history.setDirection direction).searches term count

/-- Show the entries that match a term. -/
def runSearch (console : Console) (config : HistoryConfig) (files : FileSystem) (term : String)
    (forward leading : Bool) : Report ε :=
  withHistory (searchConfig config leading) files fun kept =>
    let direction := searchDirection forward
    let entries := matchesIn kept.history term direction
    { ending := .exit 0
      output := showMatches console term direction (entries.filterMap id)
      files }

/-- Remove all entries. -/
def runClear (console : Console) (config : HistoryConfig) (files : FileSystem) : Report ε :=
  withHistory config files fun kept =>
    let keeping := { kept with history := kept.history.clear }.keep files
    match keeping.error with
    | some error => (Report.ofFileError keeping.files error).after keeping.notices
    | none =>
      { ending := .exit 0
        output := showRemoved console kept.history.size
        files := keeping.files
        notices := keeping.notices }

/-- The bytes to replay. -/
def replayInput (surroundings : Surroundings) (file : String) :
    Except FileError (List UInt8) :=
  if file == "-" then .ok surroundings.input
  else surroundings.files.read (Path.ofString file)

/-- Report a replay of some number of bytes in a workspace: the session that it leaves, and the
lines that were read. -/
def reportReplay (console : Console) (workspace : Workspace) (size : Nat) (save : Bool)
    (replayed : Session × List String) : Report ε :=
  let (session, lines) := replayed
  let workspace := { workspace with session }
  let signals := session.signals
  let told := signals.map Notice.signalDispatched
  let keeping : Keeping := if save then workspace.keepHistory else { files := workspace.files }
  let report : Report ε :=
    match keeping.error with
    | some error => .ofFileError keeping.files error
    | none =>
      { ending := .exit 0
        output := showReplay console (Event.masterBytes session.line.trace.toList) lines signals
        files := keeping.files
        notices := [.replayFinished size lines.length signals.length] }
  { report.after (told ++ keeping.notices) with readerNotices := session.notices }

/-- Replay some bytes in a workspace. -/
def replayIn (console : Console) (workspace : Workspace) (data : List UInt8) (save : Bool) :
    Report ε :=
  reportReplay console workspace data.length save (workspace.session.replay data)

/-- Feed bytes through the terminal of a configuration. -/
def runReplay (console : Console) (config : Config) (surroundings : Surroundings) (file : String)
    (save : Bool) : Report ε :=
  match replayInput surroundings file with
  | .error error => .ofFileError surroundings.files error
  | .ok data =>
    match Workspace.ofConfig config (some (.recorder programName)) surroundings.files with
    | .error error => .ofOpenError surroundings.files error
    | .ok (workspace, notices) => (replayIn console workspace data save).after notices

/-- Do what a command asks for. -/
def perform (console : Console) (config : Config) (surroundings : Surroundings) :
    Command → Report ε
  | .list limit => runList console config.history surroundings.files limit
  | .search term forward leading =>
    runSearch console config.history surroundings.files term forward leading
  | .clear => runClear console config.history surroundings.files
  | .replay file save => runReplay console config surroundings file save

/-- A report with the records that a log of some level shows. -/
def Report.atLevel (report : Report ε) (level : LogLevel) : Report ε :=
  { report with
    notices := report.notices.filter (·.shownAt level)
    readerNotices := report.readerNotices.filter (·.shownAt level) }

/-- Run the program with some libraries on the words after its name. -/
def runWith [Config.Readable δ] (libraries : Libraries ε δ) (surroundings : Surroundings)
    (words : List String) : Report ε :=
  let standardConfig := surroundings.configPath.getD Config.standardPath
  match Arguments.ofWords standardConfig words with
  | .error stop => .ofStop surroundings.files stop
  | .ok arguments =>
    let level :=
      if arguments.verbose then LogLevel.debug else .ofEnvironment surroundings.logLevel
    let report :=
      match Config.loadWith libraries.load surroundings.files (Path.ofString arguments.config) with
      | .error error => Report.ofLoadError surroundings.files arguments.config error
      | .ok config => perform libraries.console config surroundings arguments.command
    report.atLevel level

/-- Run the program on the words after its name. -/
def run (surroundings : Surroundings) (words : List String) : Report :=
  runWith .standard surroundings words

end CookedMode.Command
