import CookedMode.Proofs.History.Host

/-!
# Saving a history

A save that succeeds leaves a regular file with exactly the written entries at the path of
the store.  Whether it succeeds does not depend on the entries, and it does where a regular
file is already.
-/

namespace CookedMode

namespace Host

variable {files : FileSystem} {store : Store} {entries : List String} {permission : Permission}

theorem makeDirectory_of_directory {path : Path} {location : Location}
    (resolveEq : files.resolve path = .ok location)
    (isDirectory : files.node? location = some .directory) :
    willing.makeDirectory files path = .error (.refused .occupied path) := by
  simp only [willing_makeDirectory, FileSystem.makeDirectory, resolveEq, isDirectory]

/-- A directory that is there need not be made. -/
theorem ensureDirectory_of_directory {path : Path} {location : Location}
    (resolveEq : files.resolve path = .ok location)
    (isDirectory : files.node? location = some .directory) :
    willing.ensureDirectory files path = { states := [] } := by
  have made := makeDirectory_of_directory resolveEq isDirectory
  have there : files.isDirectory path = true := by
    rw [FileSystem.isDirectory, resolveEq]
    simp only [isDirectory, decide_true]
  rw [ensureDirectory, made]
  simp only [there, if_true]

theorem ensureDirectories_of_directory {path : Path} {location : Location}
    (resolveEq : files.resolve path = .ok location)
    (isDirectory : files.node? location = some .directory) :
    willing.ensureDirectories path.root path.names.reverse files = { states := [] } := by
  cases namesEq : path.names.reverse with
  | nil =>
      have same : (⟨path.root, []⟩ : Path) = path := by
        rw [List.reverse_eq_nil_iff] at namesEq
        rw [← namesEq]
      rw [ensureDirectories, same]
      exact ensureDirectory_of_directory resolveEq isDirectory
  | cons name above =>
      have same : (⟨path.root, (name :: above).reverse⟩ : Path) = path := by
        rw [← namesEq, List.reverse_reverse]
      have made := makeDirectory_of_directory resolveEq isDirectory
      rw [ensureDirectories]
      simp only [same, made]
      exact ensureDirectory_of_directory resolveEq isDirectory

theorem overwrite_of_error_eq_none
    (saved : (willing.overwrite store entries permission files).error = none) :
    let after := (willing.overwrite store entries permission files).last files
    files.Keeps after ∧ ∃ location, after.resolve store.path = .ok location ∧
      after.node? location =
        some (.file ⟨Store.content (Store.newest store.maxSize entries), permission.mode⟩) := by
  intro after
  cases created : files.create store.path permission.mode with
  | error error => simp [overwrite, created] at saved
  | ok made =>
      obtain ⟨location, opened⟩ := made
      obtain ⟨resolveEq, old, emptied, -⟩ := FileSystem.replaced_create created
      have replaced := (emptied.changeMode permission.mode).write
        (Store.content (Store.newest store.maxSize entries))
      simp only [after, overwrite, willing, append, created, Store.Saving.last,
        List.getLast?_cons_cons, List.getLast?_singleton, Option.getD_some]
      exact ⟨replaced.keeps, location, replaced.keeps.resolve resolveEq,
        FileSystem.file?_eq_some_iff.mp replaced.here⟩

end Host

namespace Store

variable {files : FileSystem} {store : Store} {entries : List String} {permission : Permission}

theorem save_eq (store : Store) (entries : List String) (permission : Permission)
    (files : FileSystem) :
    store.save entries permission files =
      (Host.willing.prepare store files).andThen files
        (Host.willing.overwrite store entries permission) := rfl

/-- A save that succeeds leaves the entries, and nothing else, in the file. -/
theorem save_of_error_eq_none (saved : (store.save entries permission files).error = none) :
    let after := (store.save entries permission files).last files
    files.Keeps after ∧ ∃ location, after.resolve store.path = .ok location ∧
      after.node? location =
        some (.file ⟨content (newest store.maxSize entries), permission.mode⟩) := by
  intro after
  have kept := (Host.willing.untouched_prepare store files).keeps
  rw [save_eq, Saving.error_andThen] at saved
  split at saved
  case h_1 => cases saved
  case h_2 made =>
    obtain ⟨keeps, found⟩ := Host.overwrite_of_error_eq_none saved
    have afterEq : after = _ := Saving.last_andThen files _ made
    rw [afterEq]
    exact ⟨kept.trans keeps, found⟩

theorem create_eq_error (files : FileSystem) (path : Path) (mode other : Mode)
    (error : FileError) :
    files.create path mode = .error error ↔ files.create path other = .error error := by
  unfold FileSystem.create
  split
  · rfl
  · split <;> simp

/-- Whether a save succeeds depends on the files alone. -/
theorem error_save_eq (store : Store) (entries others : List String)
    (permission other : Permission) (files : FileSystem) :
    (store.save entries permission files).error = (store.save others other files).error := by
  have overwriteEq (files : FileSystem) :
      (Host.willing.overwrite store entries permission files).error =
        (Host.willing.overwrite store others other files).error := by
    have same := create_eq_error files store.path permission.mode other.mode
    simp only [Host.overwrite, Host.willing_create]
    cases created : files.create store.path permission.mode with
    | error error => rw [(same error).mp created]
    | ok made =>
        cases createdOther : files.create store.path other.mode with
        | error error =>
            rw [(same error).mpr createdOther] at created
            cases created
        | ok => rfl
  rw [save_eq, save_eq, Saving.error_andThen, Saving.error_andThen, overwriteEq]

theorem follow_concat {here location : Location} {names : List String} {name : String}
    (followEq : files.follow here (names ++ [name]) = .ok location) :
    ∃ middle, files.follow here names = .ok middle ∧
      files.node? middle = some .directory := by
  induction names generalizing here with
  | nil =>
      rw [List.nil_append, FileSystem.follow] at followEq
      by_cases isDirectory : files.node? here = some .directory
      · exact ⟨here, rfl, isDirectory⟩
      · rw [if_pos isDirectory] at followEq
        cases followEq
  | cons first names ih =>
      rw [List.cons_append, FileSystem.follow] at followEq
      rw [FileSystem.follow]
      split at followEq
      case isTrue => cases followEq
      case isFalse isDirectory =>
        split at followEq
        case isTrue => cases followEq
        case isFalse short =>
          rw [if_neg isDirectory, if_neg short]
          exact ih followEq

theorem size_toString_parent (root : String) (names : List String) (name : String) :
    (Path.toString ⟨root, names⟩).utf8ByteSize ≤
      max 1 (Path.toString ⟨root, names ++ [name]⟩).utf8ByteSize := by
  have nonempty : (names ++ [name]).isEmpty = false := by simp
  simp only [Path.toString, nonempty, Bool.and_false, Bool.false_eq_true, if_false,
    String.utf8ByteSize_append]
  split
  case isTrue => exact Nat.le_max_left _ _
  case isFalse =>
    rw [String.utf8ByteSize_append]
    refine Nat.le_trans (Nat.add_le_add_left ?_ _) (Nat.le_max_right _ _)
    by_cases none : names = []
    · simp [none]
    · rw [String.intercalate_append_of_ne_nil none (by simp)]
      simp only [String.utf8ByteSize_append]
      omega

/-- A path that leads to a regular file lies in a directory. -/
theorem resolve_parent {path : Path} {location : Location} {file : File}
    (resolveEq : files.resolve path = .ok location)
    (node : files.node? location = some (.file file)) :
    ∃ middle, files.resolve path.parent = .ok middle ∧
      files.node? middle = some .directory := by
  obtain ⟨root, names⟩ := path
  obtain ⟨noNul, short, followEq⟩ := FileSystem.resolve_eq_ok.mp resolveEq
  simp only at noNul short followEq
  rcases List.eq_nil_or_concat names with rfl | ⟨above, name, rfl⟩
  · have fixed : files.isFixed (if root.isEmpty then files.current else []) = true := by
      unfold FileSystem.isFixed
      split <;> simp
    cases followEq
    rw [FileSystem.node?_of_isFixed fixed] at node
    cases node
  · rw [List.concat_eq_append] at noNul short followEq
    obtain ⟨middle, middleEq, isDirectory⟩ := follow_concat followEq
    refine ⟨middle, FileSystem.resolve_eq_ok.mpr ⟨?_, ?_, ?_⟩, isDirectory⟩
    · simp only [List.any_append, Bool.or_eq_false_iff] at noNul
      simpa [Path.parent] using noNul.1
    · have size := size_toString_parent root above name
      simp only [Path.parent, List.concat_eq_append, List.dropLast_concat]
      exact Nat.le_trans size (Nat.max_le.mpr ⟨by decide, short⟩)
    · simpa [Path.parent] using middleEq

/-- Where a regular file is, a save succeeds. -/
theorem error_save_of_file {location : Location} {file : File}
    (resolveEq : files.resolve store.path = .ok location)
    (node : files.node? location = some (.file file)) (entries : List String)
    (permission : Permission) : (store.save entries permission files).error = none := by
  obtain ⟨middle, parentEq, isDirectory⟩ := resolve_parent resolveEq node
  have created : files.create store.path permission.mode =
      .ok (location, files.put location (.file { file with bytes := [] })) := by
    simp only [FileSystem.create, resolveEq, node]
  have prepared : Host.willing.prepare store files = { states := [] } :=
    Host.ensureDirectories_of_directory parentEq isDirectory
  rw [save_eq, prepared]
  change (Host.willing.overwrite store entries permission files).error = none
  simp only [Host.overwrite, Host.willing_create, created]

theorem node?_of_read {path : Path} {bytes : List UInt8} (readEq : files.read path = .ok bytes) :
    ∃ location file, files.resolve path = .ok location ∧
      files.node? location = some (.file file) ∧ file.bytes = bytes := by
  unfold FileSystem.read at readEq
  split at readEq
  · cases readEq
  · case h_2 location resolveEq =>
      split at readEq <;> cases readEq
      case h_1 file node => exact ⟨location, file, resolveEq, node, rfl⟩

theorem read_of_node? {path : Path} {location : Location} {file : File}
    (resolveEq : files.resolve path = .ok location)
    (node : files.node? location = some (.file file)) : files.read path = .ok file.bytes := by
  simp only [FileSystem.read, resolveEq, node]

theorem load_eq_of_read {bytes : List UInt8} (readEq : files.read store.path = .ok bytes) :
    store.load files =
      .ok (newest store.maxSize (readable (lines bytes)),
        reports store.path.toString (lines bytes)) := by
  obtain ⟨location, file, resolveEq, node, -⟩ := node?_of_read readEq
  have found : files.exists? store.path = .ok true := by
    simp only [FileSystem.exists?, resolveEq, node, Option.isSome_some]
  simp only [load, found, readEq]

end Store

end CookedMode
