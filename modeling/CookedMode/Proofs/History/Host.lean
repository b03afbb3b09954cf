import CookedMode.Proofs.File.System
import CookedMode.History.Store

/-!
# Saving on a host

Whether a directory can be made or a file can be opened is not for the files alone to say: a
disk may be full, and a file may belong to somebody else.  Nor do bytes have to reach a file
all at once.  A host decides in these matters, and to save as such is to save on a host that
refuses nothing.  Until the file is open, a save on any host makes directories at most, and
leaves every regular file as it was.
-/

namespace CookedMode

namespace Store.Saving

variable {saving : Saving} {start : FileSystem} {holds : FileSystem → Prop}

theorem andThen_of_error {error : FileError} (start : FileSystem) (next : FileSystem → Saving)
    (fails : saving.error = some error) : saving.andThen start next = saving := by
  rw [andThen, fails]

theorem andThen_of_succeeds (start : FileSystem) (next : FileSystem → Saving)
    (succeeds : saving.error = none) :
    saving.andThen start next =
      { next (saving.last start) with
        states := saving.states ++ (next (saving.last start)).states } := by
  rw [andThen, succeeds]

theorem error_andThen (saving : Saving) (start : FileSystem) (next : FileSystem → Saving) :
    (saving.andThen start next).error =
      match saving.error with
      | some error => some error
      | none => (next (saving.last start)).error := by
  cases errorEq : saving.error with
  | some error => rw [andThen_of_error start next errorEq, errorEq]
  | none => rw [andThen_of_succeeds start next errorEq]

theorem last_andThen (start : FileSystem) (next : FileSystem → Saving)
    (succeeds : saving.error = none) :
    (saving.andThen start next).last start =
      (next (saving.last start)).last (saving.last start) := by
  rw [andThen_of_succeeds start next succeeds]
  unfold last
  rw [List.getLast?_append]
  cases (next (saving.states.getLast?.getD start)).states.getLast? <;> rfl

/-- What holds in all states of two runs holds in those of one after the other. -/
theorem forall_andThen {next : FileSystem → Saving}
    (first : ∀ state ∈ saving.states, holds state)
    (second : ∀ state ∈ (next (saving.last start)).states, holds state) :
    ∀ state ∈ (saving.andThen start next).states, holds state := by
  cases errorEq : saving.error with
  | some error => rwa [andThen_of_error start next errorEq]
  | none =>
      intro state member
      rw [andThen_of_succeeds start next errorEq] at member
      rcases List.mem_append.mp member with before | behind
      · exact first state before
      · exact second state behind

/-- What holds at the start and in all states of a run holds where it ends. -/
theorem holds_last (initial : holds start) (each : ∀ state ∈ saving.states, holds state) :
    holds (saving.last start) := by
  unfold last
  cases lastEq : saving.states.getLast? with
  | none => exact initial
  | some state => exact each state (List.mem_of_getLast? lastEq)

end Store.Saving

namespace Host

@[simp] theorem willing_makeDirectory : willing.makeDirectory = FileSystem.makeDirectory := rfl

@[simp] theorem willing_create : willing.create = FileSystem.create := rfl

variable {files : FileSystem}

theorem untouched_ensureDirectory (host : Host) (files : FileSystem) (path : Path) :
    ∀ state ∈ (host.ensureDirectory files path).states, files.Untouched state := by
  unfold ensureDirectory
  split
  case h_1 after made =>
    rintro state (_ | ⟨_, ⟨⟩⟩)
    exact FileSystem.untouched_makeDirectory (host.makeDirectory_eq made)
  case h_2 =>
    split <;> exact fun _ member => nomatch member

/-- However far the directories are made, the regular files are as they were. -/
theorem untouched_ensureDirectories (host : Host) (root : String) (names : List String)
    (files : FileSystem) :
    ∀ state ∈ (host.ensureDirectories root names files).states, files.Untouched state := by
  induction names generalizing files with
  | nil => exact host.untouched_ensureDirectory files ⟨root, []⟩
  | cons name above ih =>
      unfold ensureDirectories
      simp only
      split
      case h_1 =>
        have outer := Store.Saving.holds_last (.refl files) (ih files)
        exact Store.Saving.forall_andThen (ih files) fun state member =>
          outer.trans (host.untouched_ensureDirectory _ _ state member)
      case h_2 => exact host.untouched_ensureDirectory files _

theorem untouched_prepare (host : Host) (store : Store) (files : FileSystem) :
    files.Untouched ((host.prepare store files).last files) :=
  Store.Saving.holds_last (.refl files) (host.untouched_ensureDirectories _ _ files)

end Host

end CookedMode
