import CookedMode.Proofs.History.Saving
import CookedMode.Proofs.History.Log

/-!
# Saving exposes nothing

A file is emptied when it is opened, and its mode is narrowed before the first byte is
written.  Whoever looks at the files while a save is on its way, or after one that was cut
short, finds what was there before or a part of what is being written, and the latter only
under the mode it is meant to have.
-/

namespace CookedMode

variable {files state : FileSystem} {location : Location} {mode : Mode}

/-- A regular file is being written, and all the others are as they were.  It holds a part of
what it is to hold, nothing of it without the mode it is to have, and if the file is a new one
it never has a bit outside that mode. -/
structure FileSystem.Writing (files state : FileSystem) (location : Location)
    (bytes : List UInt8) (mode : Mode) (file : File) : Prop where
  replaced : files.Replaced state location file
  part : file.bytes <+: bytes
  narrowed : file.bytes ≠ [] → file.mode = mode
  created : files.file? location = none → ∀ bit, file.mode.testBit bit → mode.testBit bit

theorem FileSystem.Untouched.writing {prepared : FileSystem} {bytes : List UInt8} {file : File}
    (untouched : files.Untouched prepared)
    (writing : prepared.Writing state location bytes mode file) :
    files.Writing state location bytes mode file where
  replaced := untouched.replaced writing.replaced
  part := writing.part
  narrowed := writing.narrowed
  created missing := writing.created ((untouched.file location).trans missing)

theorem FileSystem.Replaced.writing {bytes part : List UInt8}
    (replaced : files.Replaced state location ⟨part, mode⟩) (isPart : part <+: bytes) :
    files.Writing state location bytes mode ⟨part, mode⟩ where
  replaced := replaced
  part := isPart
  narrowed _ := rfl
  created _ _ isSet := isSet

namespace Host

theorem writing_append {bytes done : List UInt8} {pieces : List (List UInt8)}
    (replaced : files.Replaced state location ⟨done, mode⟩)
    (rest : done ++ pieces.flatten = bytes) :
    (∀ after ∈ append state location pieces,
        ∃ file, files.Writing after location bytes mode file) ∧
      files.Replaced ((append state location pieces).getLast?.getD state) location
        ⟨bytes, mode⟩ := by
  induction pieces generalizing state done with
  | nil =>
      simp only [List.flatten_nil, List.append_nil] at rest
      subst rest
      exact ⟨fun after member => absurd member List.not_mem_nil, replaced⟩
  | cons piece pieces ih =>
      have grown := replaced.write piece
      rw [List.flatten_cons, ← List.append_assoc] at rest
      obtain ⟨later, finished⟩ := ih grown rest
      have isPart : done ++ piece <+: bytes := ⟨pieces.flatten, rest⟩
      constructor
      · intro after member
        rcases List.mem_cons.mp member with rfl | member
        · exact ⟨_, grown.writing isPart⟩
        · exact later after member
      · simpa only [append, List.getLast?_cons, Option.getD_some] using finished

variable {host : Host} {store : Store} {permission : Permission}

theorem overwrite_of_error (entries : List String) {error : FileError}
    (refused : host.create files store.path permission.mode = .error error) :
    host.overwrite store entries permission files = { states := [], error := some error } := by
  rw [overwrite, refused]

/-- What an open file goes through. -/
theorem writing_overwrite (entries : List String) {opened : FileSystem}
    (created : host.create files store.path permission.mode = .ok (location, opened)) :
    let bytes := Store.content (Store.newest store.maxSize entries)
    let saving := host.overwrite store entries permission files
    saving.last files ∈ saving.states ∧
      files.Replaced (saving.last files) location ⟨bytes, permission.mode⟩ ∧
      ∀ state ∈ saving.states, state.resolve store.path = .ok location ∧
        ∃ file, files.Writing state location bytes permission.mode file := by
  intro bytes saving
  let narrowed := opened.changeMode location permission.mode
  let growing := append narrowed location (host.pieces bytes)
  have statesEq : saving.states = opened :: narrowed :: growing := by
    simp only [saving, overwrite, created, narrowed, growing, bytes]
  have lastEq : saving.last files = growing.getLast?.getD narrowed := by
    simp only [Store.Saving.last, statesEq, List.getLast?_cons, Option.getD_some]
  obtain ⟨resolveEq, old, opens, unmasked⟩ := FileSystem.replaced_create (host.create_eq created)
  have narrows := opens.changeMode permission.mode
  obtain ⟨grows, finished⟩ :=
    writing_append narrows (by rw [List.nil_append, host.flatten_pieces bytes])
  have writing : ∀ state ∈ saving.states,
      ∃ file, files.Writing state location bytes permission.mode file := by
    intro state member
    rw [statesEq] at member
    rcases List.mem_cons.mp member with rfl | member
    · -- a new file is still without the bits that are masked
      refine ⟨_, opens, List.nil_prefix, absurd rfl, ?_⟩
      intro missing bit isSet
      exact FileSystem.testBit_of_unmasked (unmasked missing ▸ isSet)
    rcases List.mem_cons.mp member with rfl | member
    · exact ⟨_, narrows.writing List.nil_prefix⟩
    · exact grows state member
  refine ⟨?_, lastEq ▸ finished, ?_⟩
  · rw [lastEq, statesEq]
    cases behind : growing.getLast? with
    | none => exact List.mem_cons_of_mem _ List.mem_cons_self
    | some state =>
        exact List.mem_cons_of_mem _ (List.mem_cons_of_mem _ (List.mem_of_getLast? behind))
  · intro state member
    obtain ⟨file, isWriting⟩ := writing state member
    exact ⟨isWriting.replaced.keeps.resolve resolveEq, file, isWriting⟩

/-- A save on a host that may refuse what the files would allow, and that writes in pieces.
Until the file is open, every regular file is as it was; a save that fails gets no further.
From then on the file at the path holds a part of the newest entries, nothing of it without
exactly the mode of the permission, and no bit outside that mode if the file is a new one; all
other regular files are as they were.  A save that succeeds leaves all of the newest entries
under exactly that mode, whatever was there before. -/
theorem save_exposes_nothing (host : Host) (store : Store) (entries : List String)
    (permission : Permission) (files : FileSystem) (positive : 0 < store.maxSize) :
    let prepared := host.prepare store files
    let saving := host.save store entries permission files
    let bytes := Store.content (entries.rtake store.maxSize.toNat)
    willing.save store entries permission files = store.save entries permission files ∧
      (∀ state ∈ prepared.states, files.Untouched state) ∧
      (saving.error ≠ none →
        saving.states = prepared.states ∧ files.Untouched (saving.last files)) ∧
      (saving.error = none → ∃ location opening, saving.states = prepared.states ++ opening ∧
        (∀ state ∈ opening, state.resolve store.path = .ok location ∧
          ∃ file, files.Writing state location bytes permission.mode file) ∧
        saving.last files ∈ opening ∧
        files.Replaced (saving.last files) location ⟨bytes, permission.mode⟩) := by
  intro prepared saving bytes
  have making : ∀ state ∈ prepared.states, files.Untouched state :=
    host.untouched_ensureDirectories _ _ files
  have made : files.Untouched (prepared.last files) := host.untouched_prepare store files
  have bytesEq : Store.content (Store.newest store.maxSize entries) = bytes := by
    rw [Store.newest_eq_rtake positive]
  refine ⟨rfl, making, ?_⟩
  cases preparedEq : prepared.error with
  | some error =>
      have savingEq : saving = prepared := Store.Saving.andThen_of_error files _ preparedEq
      rw [savingEq]
      exact ⟨fun _ => ⟨rfl, made⟩, fun saved => by rw [preparedEq] at saved; cases saved⟩
  | none =>
      let opening := host.overwrite store entries permission (prepared.last files)
      have savingEq : saving = { opening with states := prepared.states ++ opening.states } :=
        Store.Saving.andThen_of_succeeds files _ preparedEq
      have lastEq : saving.last files = opening.last (prepared.last files) :=
        Store.Saving.last_andThen files _ preparedEq
      rw [lastEq]
      cases created : host.create (prepared.last files) store.path permission.mode with
      | error error =>
          have openingEq : opening = { states := [], error := some error } :=
            overwrite_of_error entries created
          rw [savingEq, openingEq]
          exact ⟨fun _ => ⟨List.append_nil _, made⟩, nofun⟩
      | ok found =>
          obtain ⟨location, opened⟩ := found
          obtain ⟨ends, finished, writing⟩ := writing_overwrite entries created
          rw [savingEq]
          rw [bytesEq] at finished writing
          constructor
          · intro failed
            apply absurd _ failed
            simp only [opening, overwrite, created]
          · intro _
            refine ⟨location, opening.states, rfl, ?_, ends, made.replaced finished⟩
            intro state member
            obtain ⟨resolveEq, file, isWriting⟩ := writing state member
            exact ⟨resolveEq, file, made.writing isWriting⟩

/-- The file can be read by all until it is opened, and still while it is empty.  The last of
two entries is then written byte by byte for the owner alone. -/
theorem save_exposes_nothing_narrowed :
    let host : Host := { willing with
      pieces bytes := bytes.map fun byte => [byte]
      flatten_pieces := by simp [← List.flatMap_def] }
    let store : Store := ⟨⟨"/", ["h"]⟩, 1⟩
    let files : FileSystem := { nodes := [(["h"], .file ⟨[0x78, 0x0A], 0o666⟩)] }
    let saving := host.save store ["a", "b"] {} files
    0 < store.maxSize ∧ saving.error = none ∧
      saving.states.map (·.file? ["h"]) =
        [some ⟨[], 0o666⟩, some ⟨[], 0o600⟩, some ⟨[0x62], 0o600⟩, some ⟨[0x62, 0x0A], 0o600⟩] ∧
      ∃ location, files.Replaced (saving.last files) location ⟨[0x62, 0x0A], 0o600⟩ := by
  intro host store files saving
  have saved : saving.error = none := rfl
  have bytesEq : Store.content (["a", "b"].rtake 1) = [0x62, 0x0A] := rfl
  obtain ⟨-, -, -, succeeds⟩ :=
    save_exposes_nothing host store ["a", "b"] {} files (by decide)
  obtain ⟨location, -, -, -, -, replaced⟩ := succeeds saved
  rw [show store.maxSize.toNat = 1 from rfl, bytesEq] at replaced
  exact ⟨by decide, saved, by decide, location, replaced⟩

end Host

end CookedMode
