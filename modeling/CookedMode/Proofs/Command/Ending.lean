import CookedMode.Command.Run
import CookedMode.Proofs.Config.Agreement
import CookedMode.Proofs.Config.Loading

/-!
# How a run ends

Whatever the files hold, and whatever loads documents and shows things, a run that has something to
do ends with success or with a report of what went wrong, unless an error passes all handlers.  The
handlers miss what they were not written for: a configuration that cannot be read, any failure of
what loads documents, and a history file in a home that is not known.
-/

namespace CookedMode.Command

variable {ε δ : Type}

/-- A run ends with success, or with a line about a failed operation on files, or with the usage
and a mistake. -/
inductive Report.Graceful (report : Report ε) : Prop where
  | done (ending : report.ending = .exit 0) (errors : report.errors = "")
  | failed {error : FileError} (ending : report.ending = .exit 1)
    (errors : report.errors = programName ++ ": " ++ error.message ++ "\n")
  | refused {mistake : Mistake} (ending : report.ending = .exit 2)
    (errors : report.errors = mistake.report program programPath)

namespace Report

variable {report : Report ε} {files : FileSystem}

theorem Graceful.ending_ne_escaped (graceful : report.Graceful) (error : Uncaught ε) :
    report.ending ≠ .escaped error := by
  cases graceful with
  | done ending _ | failed ending _ | refused ending _ => simp [ending]

/-- Records do not change how a run ends. -/
theorem Graceful.of_eq {other : Report ε} (graceful : report.Graceful)
    (ending : other.ending = report.ending) (errors : other.errors = report.errors) :
    other.Graceful := by
  cases graceful with
  | done isDone noErrors => exact .done (ending.trans isDone) (errors.trans noErrors)
  | failed hasFailed told => exact .failed (ending.trans hasFailed) (errors.trans told)
  | refused isRefused told => exact .refused (ending.trans isRefused) (errors.trans told)

theorem Graceful.after (graceful : report.Graceful) (notices : List Notice) :
    (report.after notices).Graceful :=
  graceful.of_eq rfl rfl

theorem Graceful.withReader (graceful : report.Graceful) (notices : List Notice) :
    { report with readerNotices := notices }.Graceful :=
  graceful.of_eq rfl rfl

theorem Graceful.atLevel (graceful : report.Graceful) (level : LogLevel) :
    (report.atLevel level).Graceful :=
  graceful.of_eq rfl rfl

theorem graceful_ofMistake (files : FileSystem) (mistake : Mistake) :
    (ofMistake files mistake : Report ε).Graceful :=
  .refused rfl rfl

theorem graceful_ofFileError (files : FileSystem) (error : FileError) :
    (ofFileError files error : Report ε).Graceful := by
  cases error with
  | refused cause path => exact .failed rfl rfl
  | nul => exact graceful_ofMistake files .nulInPath

/-- A history file that cannot be read is reported; a home that is not known is not. -/
theorem graceful_ofOpenError {config : HistoryConfig} {error : OpenError}
    (fails : config.StoreFails files error)
    (known : config.store? files.homePath ≠ .error .unknown) :
    (ofOpenError files error : Report ε).Graceful := by
  cases fails with
  | @home error storeEq =>
    cases error with
    | unknown => exact absurd storeEq known
    | nul => exact graceful_ofMistake files .nulInPath
  | file _ _ => exact graceful_ofFileError files _

end Report

section

variable {config : HistoryConfig} {files : FileSystem}

theorem graceful_withHistory {act : KeptHistory → Report ε} (sound : config.Sound)
    (known : config.store? files.homePath ≠ .error .unknown)
    (acts : ∀ kept, (act kept).Graceful) : (withHistory config files act).Graceful := by
  cases openEq : config.openHistory files with
  | error error =>
    have fails := (HistoryConfig.openHistory_eq_error_iff sound).mp openEq
    simp only [withHistory, openEq]
    exact Report.graceful_ofOpenError fails known
  | ok opened =>
    simp only [withHistory, openEq]
    refine Report.Graceful.after ?_ opened.2
    split
    · exact Report.graceful_ofMistake files .noHistoryFile
    · exact acts opened.1

theorem withHistory_of_home {act : KeptHistory → Report ε}
    (storeEq : config.store? files.homePath = .error .unknown) :
    (withHistory config files act).ending = .escaped (.opening (.home .unknown)) := by
  simp only [withHistory, HistoryConfig.openHistory, storeEq, Report.ofOpenError]

theorem store?_searchConfig (config : HistoryConfig) (leading : Bool) (home : Path.Home) :
    (searchConfig config leading).store? home = config.store? home := by
  cases leading <;> rfl

theorem sound_searchConfig (sound : config.Sound) (leading : Bool) :
    (searchConfig config leading).Sound := by
  cases leading <;> exact sound

end

theorem graceful_reportReplay (console : Console) (workspace : Workspace) (size : Nat) (save : Bool)
    (replayed : Session × List String) :
    (reportReplay console workspace size save replayed : Report ε).Graceful := by
  unfold reportReplay
  refine Report.Graceful.withReader (Report.Graceful.after ?_ _) _
  split
  case h_1 error _ => exact Report.graceful_ofFileError _ error
  case h_2 => exact .done rfl rfl

/-- A command comes to open the history, which a replay does after reading its input. -/
def OpensHistory (surroundings : Surroundings) : Command → Prop
  | .replay file _ => ∃ data, replayInput surroundings file = .ok data
  | _ => True

section

variable {console : Console} {config : Config} {surroundings : Surroundings} {command : Command}

/-- A command for which the home is known, or that does not come to ask for it, tells what went
wrong. -/
theorem graceful_perform (sound : config.Sound)
    (known : OpensHistory surroundings command →
      config.history.store? surroundings.files.homePath ≠ .error .unknown) :
    (perform console config surroundings command : Report ε).Graceful := by
  cases command with
  | list limit =>
    exact graceful_withHistory sound.history (known trivial) fun kept => .done rfl rfl
  | search term forward leading =>
    refine graceful_withHistory (sound_searchConfig sound.history leading) ?_
      fun kept => .done rfl rfl
    simp only [store?_searchConfig]
    exact known trivial
  | clear =>
    refine graceful_withHistory sound.history (known trivial) fun kept => ?_
    dsimp only
    split
    · exact (Report.graceful_ofFileError _ _).after _
    · exact .done rfl rfl
  | replay file save =>
    -- the input comes first, so the home does not matter to a replay without one
    cases inputEq : replayInput surroundings file with
    | error error =>
      simp only [perform, runReplay, inputEq]
      exact Report.graceful_ofFileError surroundings.files error
    | ok data =>
      obtain ⟨attributes, size, channel, history, -, -, -, -, makes⟩ := sound.makes
      rcases makes (some (.recorder programName)) surroundings.files with
        ⟨kept, store, notices, made⟩ | ⟨error, fails, made⟩
      · simp only [perform, runReplay, inputEq, made]
        exact (graceful_reportReplay console _ data.length save _).after notices
      · simp only [perform, runReplay, inputEq, made]
        exact Report.graceful_ofOpenError fails (known ⟨data, inputEq⟩)

theorem perform_of_home (opens : OpensHistory surroundings command)
    (storeEq : config.history.store? surroundings.files.homePath = .error .unknown) :
    (perform console config surroundings command : Report ε).ending =
      .escaped (.opening (.home .unknown)) := by
  cases command with
  | list limit => exact withHistory_of_home storeEq
  | search term forward leading =>
    exact withHistory_of_home ((store?_searchConfig config.history leading _).trans storeEq)
  | clear => exact withHistory_of_home storeEq
  | replay file save =>
    obtain ⟨data, inputEq⟩ := opens
    simp only [perform, runReplay, inputEq, Workspace.ofConfig, HistoryConfig.openHistory, storeEq,
      Report.ofOpenError]

end

variable [Config.Readable δ]

/-- An error that passes the handlers of a run: the configuration never came to be a document, or
the home of the history file is not known. -/
inductive Missed (libraries : Libraries ε δ) (surroundings : Surroundings)
    (arguments : Arguments) : Uncaught ε → Prop where
  | loading {error : Config.LoadError ε}
    (unloadable : Config.Unloadable libraries.load surroundings.files
      (Path.ofString arguments.config) error) :
    Missed libraries surroundings arguments (.loading error)
  | home {config : Config}
    (loadEq : Config.loadWith libraries.load surroundings.files
      (Path.ofString arguments.config) = .ok config)
    (opens : OpensHistory surroundings arguments.command)
    (storeEq : config.history.store? surroundings.files.homePath = .error .unknown) :
    Missed libraries surroundings arguments (.opening (.home .unknown))

section

variable {libraries : Libraries ε δ} {surroundings : Surroundings} {words : List String}
  {arguments : Arguments}

theorem run_of_loaded {config : Config}
    (complete : Arguments.ofWords (surroundings.configPath.getD Config.standardPath) words =
      .ok arguments)
    (loadEq : Config.loadWith libraries.load surroundings.files
      (Path.ofString arguments.config) = .ok config) :
    ∃ level, runWith libraries surroundings words =
      (perform libraries.console config surroundings arguments.command).atLevel level := by
  simp only [runWith, complete, loadEq]
  exact ⟨_, rfl⟩

theorem run_of_not_loaded {error : Config.LoadError ε}
    (complete : Arguments.ofWords (surroundings.configPath.getD Config.standardPath) words =
      .ok arguments)
    (loadEq : Config.loadWith libraries.load surroundings.files
      (Path.ofString arguments.config) = .error error) :
    ∃ level, runWith libraries surroundings words =
      (Report.ofLoadError surroundings.files arguments.config error).atLevel level := by
  simp only [runWith, complete, loadEq]
  exact ⟨_, rfl⟩

theorem ending_of_missed {error : Uncaught ε}
    (complete : Arguments.ofWords (surroundings.configPath.getD Config.standardPath) words =
      .ok arguments)
    (missed : Missed libraries surroundings arguments error) :
    (runWith libraries surroundings words).ending = .escaped error := by
  cases missed with
  | loading unloadable =>
    obtain ⟨level, runEq⟩ := run_of_not_loaded complete unloadable.load_eq
    rw [runEq]
    cases unloadable with
    | lost | unread => rfl
    | @unreadable _ unreadable => cases unreadable <;> rfl
  | home loadEq opens storeEq =>
    obtain ⟨level, runEq⟩ := run_of_loaded complete loadEq
    rw [runEq]
    exact perform_of_home opens storeEq

theorem graceful_run
    (complete : Arguments.ofWords (surroundings.configPath.getD Config.standardPath) words =
      .ok arguments)
    (caught : ∀ error, ¬ Missed libraries surroundings arguments error) :
    (runWith libraries surroundings words).Graceful := by
  rcases Config.load_cases libraries.load surroundings.files (Path.ofString arguments.config) with
    ⟨config, loadEq, sound⟩ | ⟨problems, loadEq⟩ | ⟨error, -, unloadable⟩
  · obtain ⟨level, runEq⟩ := run_of_loaded complete loadEq
    have known (opens : OpensHistory surroundings arguments.command)
        (storeEq : config.history.store? surroundings.files.homePath = .error .unknown) : False :=
      caught _ (.home loadEq opens storeEq)
    rw [runEq]
    exact (graceful_perform sound known).atLevel level
  · obtain ⟨level, runEq⟩ := run_of_not_loaded complete loadEq
    rw [runEq]
    exact (Report.graceful_ofMistake _ _).atLevel level
  · exact absurd (.loading unloadable) (caught _)

end

/-- Whatever loads documents, a run that has something to do lets an error escape exactly when the
handlers miss it, and otherwise ends with success or a report of what went wrong. -/
theorem run_ends (libraries : Libraries ε δ) (surroundings : Surroundings) (words : List String)
    {arguments : Arguments}
    (complete : Arguments.ofWords (surroundings.configPath.getD Config.standardPath) words =
      .ok arguments) :
    (∀ error, (runWith libraries surroundings words).ending = .escaped error ↔
      Missed libraries surroundings arguments error) ∧
    ((∀ error, ¬ Missed libraries surroundings arguments error) →
      (runWith libraries surroundings words).Graceful) := by
  refine ⟨fun error => ⟨fun escaped => ?_, ending_of_missed complete⟩, graceful_run complete⟩
  -- were nothing missed, nothing would escape; and what is missed is what escapes
  by_contra notMissed
  by_cases caught : ∀ other, ¬ Missed libraries surroundings arguments other
  · exact (graceful_run complete caught).ending_ne_escaped error escaped
  · obtain ⟨other, missed⟩ := not_forall_not.mp caught
    cases (ending_of_missed complete missed).symm.trans escaped
    exact notMissed missed

/-- A directory in the place of the history file is reported. -/
theorem run_ends_directory_as_history :
    let files : FileSystem := { nodes := [([".termline_history"], .directory)] }
    let surroundings : Surroundings := { files }
    let words := ["history", "list"]
    let arguments : Arguments :=
      { config := "termline.yaml", verbose := false, command := .list none }
    Arguments.ofWords Config.standardPath words = .ok arguments ∧
    (∀ error, ¬ Missed .standard surroundings arguments error) ∧
    (run surroundings words).Graceful ∧ (run surroundings words).ending = .exit 1 := by
  intro files surroundings words arguments
  let path : Path := ⟨"/", [".termline_history"]⟩
  have complete : Arguments.ofWords (surroundings.configPath.getD Config.standardPath) words =
      .ok arguments := rfl
  have missing : surroundings.files.exists? (Path.ofString "termline.yaml") = .ok false := by
    decide +kernel
  have loadEq : Config.loadWith Config.yaml surroundings.files (Path.ofString "termline.yaml") =
      .ok {} := by
    simp only [Config.loadWith, missing]
  have storeEq : ({} : HistoryConfig).store? surroundings.files.homePath =
      .ok (some ⟨path, 500⟩) := by decide +kernel
  have found : surroundings.files.exists? path = .ok true := by decide +kernel
  have readEq : surroundings.files.read path = .error (.refused .isDirectory path) := by
    decide +kernel
  have openEq : ({} : HistoryConfig).openHistory surroundings.files =
      .error (.file (.refused .isDirectory path)) := by
    refine (HistoryConfig.openHistory_eq_error_iff Config.sound_history).mpr (.file storeEq ?_)
    simp only [Store.load, found, readEq]
  have caught (error : Uncaught) : ¬ Missed .standard surroundings arguments error := by
    intro missed
    cases missed with
    | loading unloadable => cases loadEq.symm.trans unloadable.load_eq
    | home otherEq _ unknown =>
      cases loadEq.symm.trans otherEq
      cases storeEq.symm.trans unknown
  have ending : (run surroundings words).ending = .exit 1 := by
    obtain ⟨level, runEq⟩ : ∃ level, runWith .standard surroundings words = _ :=
      run_of_loaded complete loadEq
    rw [run, runEq]
    simp only [arguments, perform, runList, withHistory, openEq]
    rfl
  exact ⟨complete, caught, (run_ends .standard surroundings words complete).2 caught, ending⟩

/-- A directory in the place of the configuration is an error that escapes. -/
theorem directory_escapes :
    let surroundings : Surroundings := { files := { nodes := [(["conf"], .directory)] } }
    let words := ["-c", "conf", "history", "list"]
    Arguments.ofWords Config.standardPath words =
      .ok { config := "conf", verbose := false, command := .list none } ∧
    (run surroundings words).ending =
      .escaped (.loading (.file (.refused .isDirectory (Path.ofString "conf")))) ∧
    ¬ (run surroundings words).Graceful := by
  intro surroundings words
  let arguments : Arguments := { config := "conf", verbose := false, command := .list none }
  have complete : Arguments.ofWords Config.standardPath words = .ok arguments := rfl
  have found : surroundings.files.exists? (Path.ofString "conf") = .ok true := by decide +kernel
  have readEq : surroundings.files.read (Path.ofString "conf") =
      .error (.refused .isDirectory (Path.ofString "conf")) := by decide +kernel
  have missed : Missed .standard surroundings arguments (.loading (.file _)) :=
    .loading (.unread found readEq)
  have escaped : (run surroundings words).ending =
      .escaped (.loading (.file (.refused .isDirectory (Path.ofString "conf")))) :=
    ending_of_missed complete missed
  exact ⟨complete, escaped, fun graceful => graceful.ending_ne_escaped _ escaped⟩

end CookedMode.Command
