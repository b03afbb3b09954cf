import CookedMode.Proofs.History.Around
import CookedMode.Proofs.History.Operation

/-!
# Recalling entries never breaks down

To fetch and to search is to look up positions of the log and to take remainders by its
length.  Here both are spelled out as partial operations on integers: a position that the log
does not have and a remainder by zero are breakdowns.  No history that there can be breaks
down, and what the partial operations give is what fetching and searching give.
-/

namespace CookedMode.History

/-- Why an operation on a log would break down. -/
inductive Breakdown where
  /-- The log does not have the position. -/
  | outOfRange
  /-- A remainder by zero is taken. -/
  | moduloByZero
  deriving DecidableEq, Repr

/-- The entry at a position, which the log has to have. -/
def entryAt (history : History) (position : Int) : Except Breakdown String :=
  if position < 0 then .error .outOfRange
  else
    match history.entries[position.toNat]? with
    | some entry => .ok entry
    | none => .error .outOfRange

/-- A position counted around the log. -/
def around (history : History) (position : Int) : Except Breakdown Int :=
  if history.size = 0 then .error .moduloByZero else .ok (position % history.size)

/-- Fetch the entry at a position, unless there are no entries. -/
def tryFetch (history : History) (position : Int) : Except Breakdown (Option String × History) :=
  if history.entries.isEmpty then .ok (none, history)
  else
    match history.entryAt position with
    | .error breakdown => .error breakdown
    | .ok entry => .ok (some entry, { history with fetchCursor := position.toNat })

/-- Fetch the entry before the last one fetched. -/
def tryFetchPrevious (history : History) : Except Breakdown (Option String × History) :=
  history.tryFetch (max (history.fetchCursor - 1) 0)

/-- Fetch the entry after the last one fetched. -/
def tryFetchNext (history : History) : Except Breakdown (Option String × History) :=
  history.tryFetch (min (history.fetchCursor + 1) (history.size - 1))

/-- The position at which a search begins. -/
def trySearchStart (history : History) : Except Breakdown Int :=
  match history.lastPosition with
  | none =>
    match history.direction with
    | .forward => .ok 0
    | .reverse => .ok (history.size - 1)
  | some position =>
    if history.lastDirection = some history.direction then
      history.around (position + history.direction.stride)
    else .ok position

/-- Test positions some places away from the start of a search, one after the other. -/
def scan (history : History) (term : String) (start : Int) :
    List Nat → Except Breakdown (Option String × History)
  | [] => .ok (none, history)
  | places :: rest =>
    match history.around (start + places * history.direction.stride) with
    | .error breakdown => .error breakdown
    | .ok position =>
      match history.entryAt position with
      | .error breakdown => .error breakdown
      | .ok entry =>
        if history.policy.accepts entry term then
          .ok (some entry,
            { history with
              fetchCursor := position.toNat
              lastPosition := some position.toNat
              lastDirection := some history.direction })
        else history.scan term start rest

/-- Find the next entry that matches a term. -/
def trySearch (history : History) (term : String) : Except Breakdown (Option String × History) :=
  if history.entries.isEmpty then .ok (none, history)
  else
    match history.trySearchStart with
    | .error breakdown => .error breakdown
    | .ok start => history.scan term start (List.range history.size)

variable {history : History}

theorem entryAt_of_getElem? {position : Nat} {entry : String}
    (found : history.entries[position]? = some entry) : history.entryAt position = .ok entry := by
  rw [entryAt, if_neg (Int.not_lt.mpr (Int.natCast_nonneg position)), Int.toNat_natCast, found]

theorem around_eq {start places : Nat} (once : places ≤ history.size)
    (nonempty : 0 < history.size) :
    history.around (start + places * history.direction.stride) =
      .ok (history.direction.ahead history.size start places : Nat) := by
  rw [around, if_neg (Nat.ne_of_gt nonempty), SearchDirection.ahead_eq_emod _ _ once, Int.mul_comm]

theorem tryFetch_of_isEmpty (empty : history.entries.isEmpty = true) (position : Int) :
    history.tryFetch position = .ok (none, history) := by
  rw [tryFetch, if_pos empty]

theorem fetchAt_of_isEmpty (empty : history.entries.isEmpty = true) (position : Nat) :
    history.fetchAt position = (none, history) := by
  rw [fetchAt, List.isEmpty_iff.mp empty]
  rfl

/-- A fetch at a position of the log finds its entry. -/
theorem tryFetch_of_lt {position : Nat} (inLog : position < history.size) :
    history.tryFetch position = .ok (history.fetchAt position) := by
  have nonempty : ¬history.entries.isEmpty = true := by
    rw [List.isEmpty_iff_length_eq_zero]
    exact Nat.ne_of_gt (Nat.zero_lt_of_lt inLog)
  have found : history.entries[position]? = some history.entries[position] :=
    List.getElem?_eq_getElem inLog
  rw [tryFetch, if_neg nonempty, fetchAt, found, entryAt_of_getElem? found, Int.toNat_natCast]

theorem Sound.tryFetchPrevious_eq (sound : history.Sound) :
    history.tryFetchPrevious = .ok history.fetchPrevious := by
  unfold tryFetchPrevious fetchPrevious
  by_cases empty : history.entries.isEmpty = true
  · rw [tryFetch_of_isEmpty empty, fetchAt_of_isEmpty empty]
  · have positive : 0 < history.size := List.length_pos_iff.mpr (by simpa using empty)
    have cursor := sound.cursor
    have positionEq : (max (history.fetchCursor - 1) 0 : Int) =
        (history.fetchCursor - 1 : Nat) := by
      omega
    rw [positionEq]
    -- the cursor is at most just past the log, so the position before it is in the log
    exact tryFetch_of_lt (by omega)

theorem tryFetchNext_eq (history : History) : history.tryFetchNext = .ok history.fetchNext := by
  unfold tryFetchNext fetchNext
  by_cases empty : history.entries.isEmpty = true
  · rw [tryFetch_of_isEmpty empty, fetchAt_of_isEmpty empty]
  · have positive : 0 < history.size := List.length_pos_iff.mpr (by simpa using empty)
    have positionEq : (min (history.fetchCursor + 1) (history.size - 1) : Int) =
        (min (history.fetchCursor + 1) (history.size - 1) : Nat) := by
      omega
    rw [positionEq]
    exact tryFetch_of_lt (by omega)

/-- A search begins where it is said to. -/
theorem trySearchStart_eq (nonempty : 0 < history.size) :
    history.trySearchStart = .ok (history.searchStart : Nat) := by
  unfold trySearchStart searchStart
  cases history.lastPosition with
  | none =>
      cases history.direction with
      | forward => rfl
      | reverse => rw [Int.natCast_sub nonempty]; rfl
  | some position =>
      have next : history.around (position + (1 : Nat) * history.direction.stride) =
          .ok (history.direction.ahead history.size position 1 : Nat) :=
        around_eq nonempty nonempty
      rw [Int.natCast_one, Int.one_mul] at next
      simp only
      split
      case isTrue => exact next
      case isFalse => rfl

/-- Positions are tested one after the other until an entry matches. -/
theorem scan_eq (term : String) {start : Nat} {tested : List Nat}
    (once : ∀ places ∈ tested, places < history.size) :
    history.scan term start tested = .ok
      (match (tested.map (history.direction.ahead history.size start)).find?
          (history.matchesAt term) with
      | some position =>
        (history.entries[position]?,
          { history with
            fetchCursor := position
            lastPosition := some position
            lastDirection := some history.direction })
      | none => (none, history)) := by
  induction tested with
  | nil => rfl
  | cons places rest ih =>
      have within : places < history.size := once places (by simp)
      have nonempty : 0 < history.size := Nat.zero_lt_of_lt within
      have inLog := history.direction.ahead_lt start places nonempty
      have found := List.getElem?_eq_getElem (l := history.entries) inLog
      rw [scan, around_eq (Nat.le_of_lt within) nonempty, List.map_cons, List.find?_cons]
      simp only [entryAt_of_getElem? found, matchesAt, found, Option.any_some, Int.toNat_natCast]
      split
      case isTrue isMatch => simp only [isMatch, found]
      case isFalse isNoMatch =>
        rw [Bool.not_eq_true] at isNoMatch
        simp only [isNoMatch]
        exact ih fun others member => once others (by simp [member])

theorem trySearch_eq (history : History) (term : String) :
    history.trySearch term = .ok (history.search term) := by
  unfold trySearch search found?
  by_cases empty : history.entries.isEmpty = true
  · have sizeEq : history.size = 0 := List.length_eq_zero_iff.mpr (List.isEmpty_iff.mp empty)
    rw [if_pos empty, sizeEq]
    rfl
  · have positive : 0 < history.size := List.length_pos_iff.mpr (by simpa using empty)
    rw [if_neg empty, trySearchStart_eq positive]
    simp only
    exact scan_eq term fun places member => List.mem_range.mp member

theorem fetchAt_eq_none_iff {position : Nat} :
    (history.fetchAt position).1 = none ↔ history.size ≤ position := by
  rw [size, ← List.getElem?_eq_none_iff, fetchAt]
  cases history.entries[position]? <;> simp

theorem Sound.fetchPrevious_eq_none_iff (sound : history.Sound) :
    history.fetchPrevious.1 = none ↔ history.entries = [] := by
  have cursor := sound.cursor
  rw [fetchPrevious, fetchAt_eq_none_iff, ← List.length_eq_zero_iff]
  change history.size ≤ _ ↔ history.size = 0
  omega

theorem fetchNext_eq_none_iff : history.fetchNext.1 = none ↔ history.entries = [] := by
  rw [fetchNext, fetchAt_eq_none_iff, ← List.length_eq_zero_iff]
  change history.size ≤ _ ↔ history.size = 0
  omega

/-- A search finds no position exactly when no entry matches. -/
theorem found?_eq_none_iff {term : String} :
    history.found? term = none ↔
      ∀ entry ∈ history.entries, history.policy.accepts entry term = false := by
  rw [found?, List.find?_eq_none]
  constructor
  · intro noMatch entry member
    obtain ⟨position, inLog, rfl⟩ := List.mem_iff_getElem.mp member
    have unmatched := noMatch position (history.direction.mem_positions.mpr inLog)
    rw [matchesAt, List.getElem?_eq_getElem inLog] at unmatched
    simpa using unmatched
  · intro noMatch position _ isMatch
    obtain ⟨entry, found, accepted⟩ := matchesAt_eq_true_iff.mp isMatch
    rw [noMatch entry (List.mem_of_getElem? found)] at accepted
    cases accepted

theorem search_eq_none_iff {term : String} :
    (history.search term).1 = none ↔
      ∀ entry ∈ history.entries, history.policy.accepts entry term = false := by
  rw [← found?_eq_none_iff, search]
  cases found : history.found? term with
  | none => simp
  | some position =>
      obtain ⟨entry, entryEq, -⟩ := matchesAt_eq_true_iff.mp (matchesAt_of_found? found)
      simp [entryEq]

theorem search_of_fst_eq_none {term : String} (nothing : (history.search term).1 = none) :
    history.search term = (none, history) := by
  rw [search_eq_none_iff, ← found?_eq_none_iff] at nothing
  rw [search, nothing]

/-- Whatever was loaded into a history, and whatever was asked of it since, its log is not
longer than its size, the fetch cursor lies in the log or just past it, and the last match,
whose position and direction are known together, lies in the log.  Neither to fetch nor to
search ever breaks down; to fetch gives nothing exactly when there are no entries, and to
search exactly when no entry matches. -/
theorem recall_of_reachable (history : History) (reachable : history.Reachable) :
    history.size ≤ history.maxSize ∧ history.fetchCursor ≤ history.size ∧
    (history.lastPosition = none ↔ history.lastDirection = none) ∧
    (∀ position, history.lastPosition = some position → position < history.size) ∧
    history.tryFetchPrevious = .ok history.fetchPrevious ∧
    history.tryFetchNext = .ok history.fetchNext ∧
    (∀ term, history.trySearch term = .ok (history.search term)) ∧
    (history.fetchPrevious.1 = none ↔ history.entries = []) ∧
    (history.fetchNext.1 = none ↔ history.entries = []) ∧
    ∀ term, (history.search term).1 = none ↔
      ∀ entry ∈ history.entries, history.policy.accepts entry term = false := by
  have sound := reachable.sound
  exact ⟨sound.fits, sound.cursor, sound.together, sound.found, sound.tryFetchPrevious_eq,
    tryFetchNext_eq history, trySearch_eq history, sound.fetchPrevious_eq_none_iff,
    fetchNext_eq_none_iff, fun term => search_eq_none_iff⟩

/-- There is room for one entry, and the one that a search has found is evicted: the last
match moves to the entry that is left, which is still the one to fetch and to search. -/
theorem recall_of_reachable_evicted :
    ∃ history : History, history.Reachable ∧ history.entries = ["b"] ∧
      history.lastPosition = some 0 ∧ history.lastDirection = some .reverse ∧
      history.tryFetchPrevious = .ok history.fetchPrevious ∧
      history.fetchPrevious.1 = some "b" ∧ (history.search "a").1 = none := by
  let empty : History := { maxSize := 1, maxSize_pos := Nat.one_pos }
  have given : of? 1 .contains {} = .ok empty := rfl
  let history := (((empty.pushAll ["a"]).after (.search "a")).after (.push "b"))
  have reachable : history.Reachable :=
    .operated (.operated (.loaded given ["a"]) (.search "a")) (.push "b")
  obtain ⟨-, -, -, -, fetches, -, -, -, -, searches⟩ := recall_of_reachable history reachable
  have unmatched : ∀ entry ∈ history.entries, history.policy.accepts entry "a" = false := by
    decide
  exact ⟨history, reachable, by decide, by decide, by decide, fetches, by decide,
    (searches "a").mpr unmatched⟩

end CookedMode.History
