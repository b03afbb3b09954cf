import CookedMode.Proofs.History.Restart

/-!
# Saved entries load again

Whoever saves entries and loads the file afterwards gets the newest of them back, as many as
the store holds, and no line is reported.  What the entries are made of makes no difference:
a line end inside an entry is escaped, an empty entry is an empty line, and no entries are an
empty file.  To save what was loaded leaves the bytes of the file as they are.
-/

namespace CookedMode.Store

variable {store : Store} {files : FileSystem} {entries : List String} {permission : Permission}

/-- The process can write at the path of a store: the directory of the file is there or can
be made, and then the file can be opened. -/
structure Writable (store : Store) (files : FileSystem) : Prop where
  directory : (Host.willing.prepare store files).error = none
  opens : ∃ mode location opened,
    ((Host.willing.prepare store files).last files).create store.path mode =
      .ok (location, opened)

/-- Entries can be saved wherever the process can write, whatever they are and whoever may
read them. -/
theorem error_save_eq_none_iff :
    (store.save entries permission files).error = none ↔ store.Writable files := by
  have overwriteIff (files : FileSystem) :
      (Host.willing.overwrite store entries permission files).error = none ↔
        ∃ mode location opened, files.create store.path mode = .ok (location, opened) := by
    simp only [Host.overwrite, Host.willing_create]
    cases created : files.create store.path permission.mode with
    | ok made => exact ⟨fun _ => ⟨_, _, _, created⟩, fun _ => rfl⟩
    | error error =>
        constructor
        · intro succeeds
          cases succeeds
        · rintro ⟨mode, location, opened, opens⟩
          rw [(create_eq_error files store.path permission.mode mode error).mp created] at opens
          cases opens
  rw [save_eq, Saving.error_andThen]
  constructor
  · intro saved
    split at saved
    case h_1 => cases saved
    case h_2 made => exact ⟨made, (overwriteIff _).mp saved⟩
  · rintro ⟨made, opens⟩
    rw [made]
    exact (overwriteIff _).mpr opens

theorem reports_eq_nil {lines : List (List UInt8)} (path : String)
    (readable : ∀ line ∈ lines, ∃ entry, readLine? line = .ok entry) :
    reports path lines = [] := by
  have none (number : Nat) : skipped path number lines = [] := by
    induction lines generalizing number with
    | nil => rfl
    | cons line lines ih =>
        obtain ⟨entry, readEq⟩ := readable line (by simp)
        rw [skipped, readEq]
        exact ih (fun other member => readable other (by simp [member])) (number + 1)
  rw [reports, none]
  rfl

theorem reports_content (path : String) (entries : List String) :
    reports path (lines (content entries)) = [] := by
  refine reports_eq_nil path fun line member => ?_
  rw [lines_content, List.mem_map] at member
  obtain ⟨entry, -, rfl⟩ := member
  exact ⟨entry, readLine?_encode entry⟩

theorem newest_newest (positive : 0 < store.maxSize) (entries : List String) :
    newest store.maxSize (newest store.maxSize entries) = newest store.maxSize entries := by
  rw [newest_eq_rtake positive, newest_eq_rtake positive]
  exact rtake_of_length_le (length_rtake _ entries ▸ Nat.min_le_left _ _)

/-- Where the process can write, entries can be saved, and loading the file gives the newest
of them, in order, without a report.  To save once more what was loaded, under whatever
permission, leaves the same bytes in the file. -/
theorem load_of_save (store : Store) (entries : List String) (permission other : Permission)
    (files : FileSystem) (positive : 0 < store.maxSize) (writable : store.Writable files) :
    let saving := store.save entries permission files
    let after := saving.last files
    let kept := entries.rtake store.maxSize.toNat
    let again := store.save kept other after
    saving.error = none ∧ store.load after = .ok (kept, []) ∧ again.error = none ∧
      ∃ bytes, after.read store.path = .ok bytes ∧
        (again.last after).read store.path = .ok bytes := by
  intro saving after kept again
  have keptEq : newest store.maxSize entries = kept := newest_eq_rtake positive entries
  have sameKept : newest store.maxSize kept = kept := by
    rw [← keptEq, newest_newest positive]
  have saved : saving.error = none := error_save_eq_none_iff.mpr writable
  obtain ⟨-, readEq, holds⟩ := holds_save saved
  rw [keptEq] at readEq
  have savedAgain : again.error = none := holds.save kept other
  obtain ⟨-, readAgain, -⟩ := holds_save savedAgain
  rw [sameKept] at readAgain
  refine ⟨saved, ?_, savedAgain, content kept, readEq, readAgain⟩
  rw [load_eq_of_read readEq, readable_content, sameKept, reports_content]

/-- The directory of the file is missing and has to be made.  Of four entries, the store
holds the last three: a line end behind a backslash, and an empty entry twice. -/
theorem load_of_save_line_ends :
    let store : Store := ⟨⟨"/", ["d", "h"]⟩, 3⟩
    let saving := store.save ["a", "\\\r\n", "", ""] {} {}
    store.Writable {} ∧ saving.error = none ∧
      store.load (saving.last {}) = .ok (["\\\r\n", "", ""], []) := by
  intro store saving
  have writable : store.Writable {} := ⟨by decide, 0o600, ["d", "h"], _, rfl⟩
  obtain ⟨saved, loaded, -, -⟩ :=
    load_of_save store ["a", "\\\r\n", "", ""] {} {} {} (by decide) writable
  exact ⟨writable, saved, loaded⟩

end CookedMode.Store
