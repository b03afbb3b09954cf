import CookedMode.History.Basic
import CookedMode.History.Store
import Mathlib.Data.List.Destutter
import Mathlib.Data.List.DropRight

/-!
# What a history remembers

A history that takes pushes holds the newest entries of all that were ever pushed, once
adjacent duplicates are collapsed.  Neither the order of evicting and collapsing nor a
restart in between makes a difference.
-/

namespace CookedMode

/-- Entries without those that equal the one before. -/
def collapse (entries : List String) : List String :=
  entries.destutter (· ≠ ·)

@[simp] theorem collapse_nil : collapse [] = [] := rfl

theorem destutter'_concat (first entry : String) (entries : List String) :
    (entries ++ [entry]).destutter' (· ≠ ·) first =
      if (entries.destutter' (· ≠ ·) first).getLast? = some entry then
        entries.destutter' (· ≠ ·) first
      else entries.destutter' (· ≠ ·) first ++ [entry] := by
  induction entries generalizing first with
  | nil => by_cases same : first = entry <;> simp [same]
  | cons next entries ih =>
      rw [List.cons_append]
      by_cases same : first = next
      · rw [List.destutter'_cons_neg _ (not_not.mpr same),
          List.destutter'_cons_neg _ (not_not.mpr same), ih]
      · rw [List.destutter'_cons_pos _ same, List.destutter'_cons_pos _ same, ih]
        obtain ⟨head, tail, eq⟩ := List.exists_cons_of_ne_nil
          (List.destutter'_ne_nil entries (· ≠ ·) : entries.destutter' (· ≠ ·) next ≠ [])
        rw [eq, List.getLast?_cons_cons]
        split <;> rfl

/-- Only a repetition of the last entry is collapsed. -/
theorem collapse_concat (entries : List String) (entry : String) :
    collapse (entries ++ [entry]) =
      if (collapse entries).getLast? = some entry then collapse entries
      else collapse entries ++ [entry] := by
  cases entries with
  | nil => simp [collapse]
  | cons first entries => exact destutter'_concat first entry entries

theorem collapse_of_isChain {entries : List String} (chain : entries.IsChain (· ≠ ·)) :
    collapse entries = entries :=
  List.destutter_of_isChain _ entries chain

theorem getLast?_rtake {count : Nat} (positive : 0 < count) (entries : List String) :
    (entries.rtake count).getLast? = entries.getLast? := by
  rw [List.rtake, List.getLast?_drop]
  split
  · have : entries = [] := List.length_eq_zero_iff.mp (by omega)
    rw [this]; rfl
  · rfl

theorem rtake_of_length_le {count : Nat} {entries : List String}
    (few : entries.length ≤ count) : entries.rtake count = entries := by
  rw [List.rtake, Nat.sub_eq_zero_of_le few, List.drop_zero]

theorem length_rtake (count : Nat) (entries : List String) :
    (entries.rtake count).length = min count entries.length := by
  rw [List.rtake, List.length_drop]
  omega

/-- What was too old before another entry came still is. -/
theorem rtake_concat_rtake (count : Nat) (entries : List String) (entry : String) :
    (entries.rtake count ++ [entry]).rtake count = (entries ++ [entry]).rtake count := by
  cases count with
  | zero => simp
  | succ count =>
      rw [List.rtake_concat_succ, List.rtake_concat_succ]
      simp only [List.rtake, List.drop_drop, List.length_drop]
      congr 2
      omega

/-- The newest entries that a store keeps. -/
theorem Store.newest_eq_rtake {count : Int} (positive : 0 < count) (entries : List String) :
    newest count entries = entries.rtake count.toNat := by
  rw [newest, if_pos positive, List.rtake]

namespace History

variable {history : History} {all : List String}

theorem kept_eq_rtake (history : History) :
    history.kept = history.entries.rtake history.maxSize := rfl

@[simp] theorem maxSize_evict (history : History) : history.evict.maxSize = history.maxSize := by
  unfold evict
  split <;> rfl

@[simp] theorem enabled_evict (history : History) : history.evict.enabled = history.enabled := by
  unfold evict
  split <;> rfl

/-- To evict one entry is enough if there is at most one too many. -/
theorem entries_evict (few : history.entries.length ≤ history.maxSize + 1) :
    history.evict.entries = history.entries.rtake history.maxSize := by
  unfold evict
  split
  case isTrue tooMany =>
    have one : history.entries.length - history.maxSize = 1 := by omega
    rw [List.rtake, one, List.drop_one]
  case isFalse fits => rw [rtake_of_length_le (by omega)]

@[simp] theorem maxSize_append (history : History) (entry : String) :
    (history.append entry).maxSize = history.maxSize := by
  unfold append
  split
  · rfl
  · rw [maxSize_evict]

@[simp] theorem enabled_append (history : History) (entry : String) :
    (history.append entry).enabled = history.enabled := by
  unfold append
  split
  · rfl
  · rw [enabled_evict]

@[simp] theorem maxSize_push (history : History) (entry : String) :
    (history.push entry).maxSize = history.maxSize := by
  unfold push
  split
  · exact maxSize_append history entry
  · rfl

@[simp] theorem enabled_push (history : History) (entry : String) :
    (history.push entry).enabled = history.enabled := by
  unfold push
  split
  · exact enabled_append history entry
  · rfl

theorem entries_push (enabled : history.enabled = true) (entry : String) :
    (history.push entry).entries = (history.append entry).entries := by
  rw [push, if_pos enabled]

/-- A history that takes pushes and holds the newest entries of a log. -/
structure Remembers (history : History) (all : List String) : Prop where
  enabled : history.enabled = true
  entries : history.entries = (collapse all).rtake history.maxSize

theorem Remembers.length_le (remembers : history.Remembers all) :
    history.entries.length ≤ history.maxSize := by
  rw [remembers.entries, length_rtake]
  exact Nat.min_le_left _ _

/-- To drop the oldest entries leaves no new duplicates. -/
theorem Remembers.collapse_entries (remembers : history.Remembers all) :
    collapse history.entries = history.entries := by
  apply collapse_of_isChain
  rw [remembers.entries]
  exact (List.isChain_destutter _ all).drop _

theorem Remembers.append (remembers : history.Remembers all) (entry : String) :
    (history.append entry).entries =
      (collapse (all ++ [entry])).rtake history.maxSize := by
  have entriesEq := remembers.entries
  have lastEq : history.entries.getLast? = (collapse all).getLast? := by
    rw [entriesEq, getLast?_rtake history.maxSize_pos]
  rw [History.append, collapse_concat, lastEq]
  by_cases same : (collapse all).getLast? = some entry
  · rw [if_pos same, if_pos same, entriesEq]
  · rw [if_neg same, if_neg same]
    rw [entries_evict (by simpa using remembers.length_le)]
    change (history.entries ++ [entry]).rtake history.maxSize = _
    rw [entriesEq, rtake_concat_rtake]

/-- A push adds to the log. -/
theorem Remembers.push (remembers : history.Remembers all) (entry : String) :
    (history.push entry).Remembers (all ++ [entry]) where
  enabled := (enabled_push history entry).trans remembers.enabled
  entries := by
    rw [entries_push remembers.enabled, remembers.append, maxSize_push]

theorem Remembers.pushAll (remembers : history.Remembers all) (entries : List String) :
    (history.pushAll entries).Remembers (all ++ entries) := by
  induction entries generalizing history all with
  | nil => simpa [History.pushAll] using remembers
  | cons entry entries ih =>
      have rest := ih (remembers.push entry)
      rw [List.append_assoc] at rest
      exact rest

@[simp] theorem maxSize_pushAll (history : History) (entries : List String) :
    (history.pushAll entries).maxSize = history.maxSize := by
  induction entries generalizing history with
  | nil => rfl
  | cons entry entries ih => exact (ih (history.push entry)).trans (maxSize_push history entry)

end History

end CookedMode
