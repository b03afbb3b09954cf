import CookedMode.History.Basic

/-!
# What a history goes through

A history begins empty, takes what was loaded for it, and then takes operations in any order.
Four facts about its cursors hold all the time: the log is not too long, the fetch cursor
lies in the log or just past it, the position of the last match is known together with its
direction, and it lies in the log.  Each operation keeps them, an eviction included, which moves
the last match along with the entries.
-/

namespace CookedMode.History

/-- Something that can be asked of a history. -/
inductive Operation where
  | push (entry : String)
  | fetchPrevious
  | fetchNext
  | search (term : String)
  | setDirection (direction : SearchDirection)
  | clear
  | enable
  | disable

/-- The history after an operation. -/
def after (history : History) : Operation → History
  | .push entry => history.push entry
  | .fetchPrevious => history.fetchPrevious.2
  | .fetchNext => history.fetchNext.2
  | .search term => (history.search term).2
  | .setDirection direction => history.setDirection direction
  | .clear => history.clear
  | .enable => history.enable
  | .disable => history.disable

/-- The histories that there can be. -/
inductive Reachable : History → Prop where
  /-- What was loaded is submitted to an empty history. -/
  | loaded {maxSize : Int} {policy : SearchMatch} {permission : Permission} {history : History}
      (given : of? maxSize policy permission = .ok history) (entries : List String) :
      Reachable (history.pushAll entries)
  | operated {history : History} (reachable : Reachable history) (operation : Operation) :
      Reachable (history.after operation)

/-- The cursors of a history fit its log, and the log fits its size. -/
structure Sound (history : History) : Prop where
  fits : history.size ≤ history.maxSize
  cursor : history.fetchCursor ≤ history.size
  together : history.lastPosition = none ↔ history.lastDirection = none
  found : ∀ position, history.lastPosition = some position → position < history.size

variable {history : History}

theorem sound_of_of? {maxSize : Int} {policy : SearchMatch} {permission : Permission}
    (given : of? maxSize policy permission = .ok history) : history.Sound := by
  unfold of? at given
  split at given <;> cases given
  exact ⟨Nat.zero_le _, Nat.le_refl 0, ⟨fun _ => rfl, fun _ => rfl⟩, nofun⟩

/-- A log with one entry too many at most fits again, and nobody points past its end. -/
theorem sound_evict (few : history.size ≤ history.maxSize + 1)
    (cursor : history.fetchCursor < history.size)
    (together : history.lastPosition = none ↔ history.lastDirection = none)
    (found : ∀ position, history.lastPosition = some position → position + 1 < history.size) :
    history.evict.Sound := by
  unfold evict
  split
  case isTrue tooMany =>
    have shorter : history.entries.tail.length + 1 = history.size := by
      rw [List.length_tail, size]
      omega
    refine ⟨?_, ?_, Option.map_eq_none_iff.trans together, fun position moved => ?_⟩
    · simp only [size] at few shorter ⊢
      omega
    · simp only [size] at cursor shorter ⊢
      omega
    · obtain ⟨old, oldEq, rfl⟩ := Option.map_eq_some_iff.mp moved
      have inLog := found old oldEq
      simp only [size] at inLog shorter ⊢
      omega
  case isFalse room =>
    exact ⟨Nat.le_of_not_lt room, Nat.le_of_lt cursor, together,
      fun position known => Nat.lt_of_succ_lt (found position known)⟩

theorem Sound.append (sound : history.Sound) (entry : String) : (history.append entry).Sound := by
  unfold History.append
  split
  case isTrue => exact sound
  case isFalse =>
    have longer : ({ history with entries := history.entries ++ [entry] } : History).size =
        history.size + 1 := by
      simp only [size, List.length_append, List.length_singleton]
    apply sound_evict
    · rw [longer]
      exact Nat.add_le_add_right sound.fits 1
    · rw [longer]
      exact Nat.lt_succ_of_le sound.cursor
    · exact sound.together
    · intro position known
      rw [longer]
      exact Nat.add_lt_add_right (sound.found position known) 1

theorem Sound.push (sound : history.Sound) (entry : String) : (history.push entry).Sound := by
  unfold History.push
  split
  case isTrue =>
    have appended := sound.append entry
    exact ⟨appended.fits, Nat.le_refl _, appended.together, appended.found⟩
  case isFalse => exact sound

theorem Sound.pushAll (sound : history.Sound) (entries : List String) :
    (history.pushAll entries).Sound := by
  induction entries generalizing history with
  | nil => exact sound
  | cons entry entries ih => exact ih (sound.push entry)

theorem Sound.fetchAt (sound : history.Sound) (position : Nat) :
    (history.fetchAt position).2.Sound := by
  unfold History.fetchAt
  split
  case h_1 entry found =>
    have inLog : position < history.size := (List.getElem?_eq_some_iff.mp found).1
    exact ⟨sound.fits, Nat.le_of_lt inLog, sound.together, sound.found⟩
  case h_2 => exact sound

theorem matchesAt_eq_true_iff {term : String} {position : Nat} :
    history.matchesAt term position = true ↔
      ∃ entry, history.entries[position]? = some entry ∧
        history.policy.accepts entry term = true := by
  rw [matchesAt, Option.any_eq_true]

/-- Only positions of the log match. -/
theorem lt_size_of_matchesAt {term : String} {position : Nat}
    (isMatch : history.matchesAt term position = true) : position < history.size := by
  obtain ⟨entry, found, -⟩ := matchesAt_eq_true_iff.mp isMatch
  exact (List.getElem?_eq_some_iff.mp found).1

theorem matchesAt_of_found? {term : String} {position : Nat}
    (found : history.found? term = some position) : history.matchesAt term position = true :=
  List.find?_some found

theorem Sound.search (sound : history.Sound) (term : String) : (history.search term).2.Sound := by
  unfold History.search
  split
  case h_1 position found =>
    have inLog := lt_size_of_matchesAt (matchesAt_of_found? found)
    refine ⟨sound.fits, Nat.le_of_lt inLog, ?_, fun other otherEq => ?_⟩
    · exact ⟨nofun, nofun⟩
    · cases otherEq
      exact inLog
  case h_2 => exact sound

/-- Every operation keeps the cursors where they may be. -/
theorem Sound.after (sound : history.Sound) (operation : Operation) :
    (history.after operation).Sound := by
  cases operation with
  | push entry => exact sound.push entry
  | fetchPrevious => exact sound.fetchAt _
  | fetchNext => exact sound.fetchAt _
  | search term => exact sound.search term
  | clear => exact ⟨Nat.zero_le _, Nat.le_refl 0, ⟨fun _ => rfl, fun _ => rfl⟩, nofun⟩
  | setDirection direction => exact ⟨sound.fits, sound.cursor, sound.together, sound.found⟩
  | enable => exact ⟨sound.fits, sound.cursor, sound.together, sound.found⟩
  | disable => exact ⟨sound.fits, sound.cursor, sound.together, sound.found⟩

theorem Reachable.sound (reachable : history.Reachable) : history.Sound := by
  induction reachable with
  | loaded given entries => exact (sound_of_of? given).pushAll entries
  | operated _ operation ih => exact ih.after operation

end CookedMode.History
