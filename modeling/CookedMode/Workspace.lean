import CookedMode.History.Kept
import CookedMode.Session

/-!
# Workspaces

A workspace is a session that a configuration describes, together with the store of
its history and the files around it.  Shutting it down closes the channel and keeps
the history.
-/

namespace CookedMode

/-- A configured session and the files around it. -/
structure Workspace where
  session : Session
  store : Option Store
  files : FileSystem

namespace Workspace

/-- The session of a configuration, if it asks for nothing impossible. -/
def sessionOf? (config : TerminalConfig) (listener : Option Listener) (history : History) :
    Option Session :=
  match config.attributes.attributes?, config.dimensions?, config.channel? with
  | some attributes, some size, some channel =>
    some { line := { attributes, listener, outlet := channel }, history, size }
  | _, _, _ => none

/-- The workspace of a configuration, and the reports of setting it up. -/
def ofConfig (config : Config) (listener : Option Listener) (files : FileSystem) :
    Except OpenError (Workspace × List Notice) :=
  match config.history.openHistory files with
  | .error error => .error error
  | .ok (kept, notices) =>
    match sessionOf? config.terminal listener kept.history with
    | none => .error .impossible
    | some session =>
      .ok ({ session, store := kept.store, files },
        notices ++
          [.containerCreated config.history.file config.history.maxSize.toNat])

/-- Write the history of the session to its store, if there is one. -/
def keepHistory (workspace : Workspace) : Keeping :=
  { history := workspace.session.history, store := workspace.store : KeptHistory }.keep
    workspace.files

/-- Close the channel as the call of a number, and keep the history as it is then. -/
def shutdown (workspace : Workspace) (number : Nat) : Workspace × Keeping :=
  let workspace := { workspace with session := workspace.session.act number .close }
  let keeping := workspace.keepHistory
  ({ workspace with files := keeping.files }, keeping)

end Workspace

end CookedMode
