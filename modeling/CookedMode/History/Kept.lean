import CookedMode.Config.Basic
import CookedMode.History.Store

/-!
# Histories that are kept in files

A configuration says where a history is kept.  Opening the history submits what the
file holds; keeping it writes the newest entries back.
-/

namespace CookedMode

/-- Why the history of a configuration cannot be opened. -/
inductive OpenError where
  | home (error : Path.HomeError)
  | file (error : FileError)
  /-- The configuration asks for something impossible. -/
  | impossible
  deriving DecidableEq, Repr

/-- A history and the store that it is kept in, if any. -/
structure KeptHistory where
  history : History
  store : Option Store := none

namespace HistoryConfig

/-- The store of the history file, if there is to be one. -/
def store? (config : HistoryConfig) (home : Path.Home) : Except Path.HomeError (Option Store) :=
  match config.path? with
  | none => .ok none
  | some path => (Store.of? home (Path.ofString path) config.maxSize).map some

/-- A history that takes pushes only if the configuration says so. -/
def applyTo (config : HistoryConfig) (history : History) : History :=
  if config.enabled then history else history.disable

/-- The history of a configuration with what its file holds, and the reports of
loading it. -/
def openHistory (config : HistoryConfig) (files : FileSystem) :
    Except OpenError (KeptHistory × List Notice) :=
  match config.store? files.homePath, config.history? with
  | .error error, _ => .error (.home error)
  | .ok _, none => .error .impossible
  | .ok none, some history => .ok ({ history := config.applyTo history }, [])
  | .ok (some store), some history =>
    match store.load files with
    | .error error => .error (.file error)
    | .ok (entries, notices) =>
      let history := history.pushAll entries
      .ok ({ history := config.applyTo history, store := some store },
        notices ++ [.historyLoaded history.size])

end HistoryConfig

/-- The outcome of keeping a history. -/
structure Keeping where
  files : FileSystem
  error : Option FileError := none
  notices : List Notice := []

namespace KeptHistory

/-- Write the newest entries to the store, if there is one. -/
def keep (kept : KeptHistory) (files : FileSystem) : Keeping :=
  match kept.store with
  | none => { files }
  | some store =>
    let saving := store.save kept.history.kept kept.history.permission files
    match saving.error with
    | some error => { files := saving.last files, error := some error }
    | none =>
      { files := saving.last files
        notices :=
          [store.written kept.history.kept, .historySaved kept.history.size] }

end KeptHistory

end CookedMode
