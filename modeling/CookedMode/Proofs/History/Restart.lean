import CookedMode.History.Kept
import CookedMode.Proofs.History.Content
import CookedMode.Proofs.History.Log
import CookedMode.Proofs.History.Saving

/-!
# Histories survive a restart

A history that is kept in a file and opened again holds the entries it held.  Keeping it
once more does not change the file.
-/

namespace CookedMode

/-- The entries that can be read from the file of a store: none if there is no file but one
can be made, and otherwise those on the readable lines of a regular file. -/
inductive Store.Holds (store : Store) (files : FileSystem) : List String → Prop where
  | absent {permission : Permission} (missing : files.exists? store.path = .ok false)
      (creatable : (store.save [] permission files).error = none) : Holds store files []
  | file {bytes : List UInt8} (readEq : files.read store.path = .ok bytes) :
      Holds store files (readable (lines bytes))

namespace Store

variable {store : Store} {files : FileSystem} {held : List String}

theorem Holds.load (holds : store.Holds files held) :
    ∃ reports, store.load files = .ok (newest store.maxSize held, reports) := by
  cases holds with
  | absent missing =>
      refine ⟨[], ?_⟩
      simp only [Store.load, missing, newest, List.drop_nil, ite_self]
  | file readEq => exact ⟨_, load_eq_of_read readEq⟩

theorem Holds.save (holds : store.Holds files held) (entries : List String)
    (permission : Permission) : (store.save entries permission files).error = none := by
  cases holds with
  | absent missing creatable => rw [← creatable, error_save_eq]
  | file readEq =>
      obtain ⟨location, file, resolveEq, node, -⟩ := node?_of_read readEq
      exact error_save_of_file resolveEq node entries permission

/-- What was saved can be read. -/
theorem holds_save {entries : List String} {permission : Permission}
    (saved : (store.save entries permission files).error = none) :
    let after := (store.save entries permission files).last files
    after.homePath = files.homePath ∧
      after.read store.path = .ok (content (newest store.maxSize entries)) ∧
      store.Holds after (newest store.maxSize entries) := by
  intro after
  obtain ⟨keeps, location, resolveEq, node⟩ := save_of_error_eq_none saved
  have readEq := read_of_node? resolveEq node
  have holds := Holds.file readEq
  rw [readable_content] at holds
  exact ⟨keeps.home, readEq, holds⟩

end Store

namespace HistoryConfig

variable {config : HistoryConfig} {files : FileSystem} {store : Store}

theorem history?_eq_some {history : History} (given : config.history? = some history) :
    0 < config.maxSize ∧ history.maxSize = config.maxSize.toNat ∧ history.Remembers [] := by
  unfold history? History.of? at given
  split at given
  case isTrue => cases given
  case isFalse positive =>
    cases given
    exact ⟨by omega, rfl, rfl, by rw [collapse_nil, List.rtake_nil]⟩

theorem exists_history? (config : HistoryConfig) (positive : 0 < config.maxSize) :
    ∃ history, config.history? = some history := by
  unfold history? History.of?
  rw [dif_neg (by omega)]
  exact ⟨_, rfl⟩

theorem maxSize_of_store? {home : Path.Home} (storeEq : config.store? home = .ok (some store)) :
    store.maxSize = config.maxSize := by
  unfold store? Store.of? at storeEq
  split at storeEq
  · cases storeEq
  · split at storeEq <;> cases storeEq
    rfl

@[simp] theorem entries_applyTo (config : HistoryConfig) (history : History) :
    (config.applyTo history).entries = history.entries := by
  unfold applyTo
  split <;> rfl

@[simp] theorem maxSize_applyTo (config : HistoryConfig) (history : History) :
    (config.applyTo history).maxSize = history.maxSize := by
  unfold applyTo
  split <;> rfl

theorem openHistory_of_holds {home : Path.Home} {history : History} {held : List String}
    (homeEq : files.homePath = home) (storeEq : config.store? home = .ok (some store))
    (given : config.history? = some history) (holds : store.Holds files held) :
    ∃ reports, config.openHistory files =
      .ok (⟨config.applyTo (history.pushAll (held.rtake config.maxSize.toNat)), some store⟩,
        reports) := by
  obtain ⟨reports, loadEq⟩ := holds.load
  rw [maxSize_of_store? storeEq, Store.newest_eq_rtake (history?_eq_some given).1] at loadEq
  exact ⟨_, by simp only [openHistory, homeEq, storeEq, given, loadEq]; rfl⟩

/-- A history that was opened from a file was given by its configuration. -/
theorem of_openHistory {kept : KeptHistory} {notices : List Notice}
    (openEq : config.openHistory files = .ok (kept, notices)) (stored : kept.store = some store) :
    config.store? files.homePath = .ok (some store) ∧
      ∃ history, config.history? = some history := by
  unfold openHistory at openEq
  split at openEq
  · cases openEq
  · cases openEq
  · cases openEq
    cases stored
  · case h_4 found history storeEq given =>
      split at openEq
      · cases openEq
      · cases openEq
        cases stored
        exact ⟨storeEq, history, given⟩

end HistoryConfig

namespace KeptHistory

variable {config : HistoryConfig} {files : FileSystem} {store : Store} {history : History}
variable {all : List String}

theorem keep_eq (saved : (store.save history.kept history.permission files).error = none) :
    (KeptHistory.mk history (some store)).keep files =
      { files := (store.save history.kept history.permission files).last files
        notices := [store.written history.kept, .historySaved history.size] } := by
  simp only [keep, saved]

/-- A history that has evicted what it cannot hold keeps all of its entries. -/
theorem newest_kept (positive : 0 < store.maxSize)
    (sizeEq : history.maxSize = store.maxSize.toNat)
    (few : history.entries.length ≤ history.maxSize) :
    Store.newest store.maxSize history.kept = history.entries := by
  have kept : history.kept = history.entries := by
    rw [History.kept_eq_rtake, rtake_of_length_le few]
  rw [kept, Store.newest_eq_rtake positive, ← sizeEq, rtake_of_length_le few]

/-- What was kept is there when the history is opened again, and to keep it once more leaves
the bytes of the file as they are. -/
structure Reopens (config : HistoryConfig) (files : FileSystem) (path : Path)
    (entries : List String) (kept : KeptHistory) (notices : List Notice) : Prop where
  opens : config.openHistory files = .ok (kept, notices)
  entries : kept.history.entries = entries
  keeps : (kept.keep files).error = none
  unchanged : ∃ bytes, files.read path = .ok bytes ∧
    (kept.keep files).files.read path = .ok bytes

/-- A history that was saved is opened as it was. -/
theorem reopens_of_saved (remembers : history.Remembers all)
    (sizeEq : history.maxSize = config.maxSize.toNat) (positive : 0 < config.maxSize)
    (storeEq : config.store? files.homePath = .ok (some store))
    (saved : (store.save history.kept history.permission files).error = none) :
    ∃ kept notices, Reopens config
      ((store.save history.kept history.permission files).last files) store.path
      history.entries kept notices := by
  have storeSize := HistoryConfig.maxSize_of_store? storeEq
  have newestEq := newest_kept (storeSize ▸ positive) (storeSize ▸ sizeEq) remembers.length_le
  obtain ⟨homeEq, readEq, holds⟩ := Store.holds_save saved
  rw [newestEq] at readEq holds
  obtain ⟨empty, given⟩ := config.exists_history? positive
  obtain ⟨-, emptySize, nothing⟩ := HistoryConfig.history?_eq_some given
  obtain ⟨notices, openEq⟩ := HistoryConfig.openHistory_of_holds homeEq storeEq given holds
  rw [← sizeEq, rtake_of_length_le remembers.length_le] at openEq
  -- the entries that are submitted once more have no duplicates left to collapse
  let again := config.applyTo (empty.pushAll history.entries)
  have againSize : again.maxSize = history.maxSize := by
    rw [HistoryConfig.maxSize_applyTo, History.maxSize_pushAll, emptySize, sizeEq]
  have againEq : again.entries = history.entries := by
    rw [HistoryConfig.entries_applyTo, (nothing.pushAll _).entries, List.nil_append,
      remembers.collapse_entries, History.maxSize_pushAll, emptySize, ← sizeEq,
      rtake_of_length_le remembers.length_le]
  have savedAgain := holds.save again.kept again.permission
  have keepEq := keep_eq savedAgain
  refine ⟨⟨again, some store⟩, notices, openEq, againEq, by rw [keepEq], _, readEq, ?_⟩
  obtain ⟨-, readAgain, -⟩ := Store.holds_save savedAgain
  rw [keepEq, readAgain, newest_kept (storeSize ▸ positive)
    (againSize.trans (storeSize ▸ sizeEq)) (againEq ▸ againSize ▸ remembers.length_le), againEq]

end KeptHistory

end CookedMode
