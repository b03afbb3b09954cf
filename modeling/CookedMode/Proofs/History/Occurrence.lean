import CookedMode.Proofs.History.Newest
import CookedMode.Proofs.History.Recall

/-!
# The last match stays with its entry

An eviction moves every entry one position toward the beginning of the log, and the last match
along with them.  To tell an entry from another one with the same text, the entries are given
numbers in the order in which they are appended, beside the history.  As long as the entry that
a search has found is in the log, the last match is its position: the next search goes on from
it, or tests it first if the direction has changed.
-/

namespace CookedMode.History

variable {history : History}

/-- An operation that neither removes all entries nor finds one by a search. -/
def IsQuiet (history : History) : Operation → Prop
  | .clear => False
  | .search term => (history.search term).1 = none
  | _ => True

/-- A run of such operations. -/
def RunsQuietly (history : History) : List Operation → Prop
  | [] => True
  | operation :: rest => history.IsQuiet operation ∧ (history.after operation).RunsQuietly rest

/-- The positions that the next search tests, in order, until one matches. -/
def tested (history : History) : List Nat :=
  history.direction.positions history.size history.searchStart

theorem fst_search (history : History) (term : String) :
    (history.search term).1 =
      (history.tested.find? (history.matchesAt term)).bind (history.entries[·]?) := by
  rw [search, found?, ← tested]
  cases history.tested.find? (history.matchesAt term) <;> rfl

theorem lastMatch_eq_some_iff {last : LastMatch} :
    history.lastMatch = some last ↔
      history.lastPosition = some last.position ∧ history.lastDirection = some last.direction := by
  obtain ⟨position, direction⟩ := last
  unfold lastMatch
  cases history.lastPosition <;> cases history.lastDirection <;> simp

/-- After a match, a search in its direction begins past it, and one in the other direction on
it. -/
theorem searchStart_of_lastMatch {place : Nat} {direction : SearchDirection}
    (lastMatch : history.lastMatch = some { position := place, direction }) :
    history.searchStart =
      if direction = history.direction then history.direction.ahead history.size place 1
      else place := by
  obtain ⟨positionEq, directionEq⟩ := lastMatch_eq_some_iff.mp lastMatch
  simp only [searchStart, positionEq, directionEq, Option.some.injEq]

theorem lastMatch_congr {later : History} (position : later.lastPosition = history.lastPosition)
    (direction : later.lastDirection = history.lastDirection) :
    later.lastMatch = history.lastMatch := by
  rw [lastMatch, position, direction, lastMatch]

theorem lastMatch_of_moved {later : History}
    (position : later.lastPosition = history.lastPosition.map (· - 1))
    (direction : later.lastDirection = history.lastDirection) :
    later.lastMatch = history.lastMatch.map fun last =>
      { last with position := last.position - 1 } := by
  rw [lastMatch, position, direction, lastMatch]
  cases history.lastPosition <;> cases history.lastDirection <;> rfl

theorem lastMatch_fetchAt (history : History) (position : Nat) :
    (history.fetchAt position).2.lastMatch = history.lastMatch := by
  unfold fetchAt
  split <;> rfl

/-- An entry with a number that no other entry has, whatever its text. -/
structure Occurrence where
  number : Nat
  text : String
  deriving DecidableEq, Repr

/-- A history and, beside it, the occurrences that its entries are. -/
structure Numbered where
  history : History
  occurrences : List Occurrence
  /-- The number of the next entry. -/
  next : Nat

namespace Numbered

/-- Number the entries of a history from the oldest on. -/
def ofHistory (history : History) : Numbered where
  history := history
  occurrences := history.entries.zipIdx.map fun (text, number) => { number, text }
  next := history.size

/-- The numbered history after an operation.  A new entry gets the next number; where there is
one entry too many, the oldest goes with its number. -/
def after (numbered : Numbered) (operation : Operation) : Numbered :=
  let history := numbered.history.after operation
  match operation with
  | .push entry =>
    if numbered.history.enabled = true ∧ numbered.history.entries.getLast? ≠ some entry then
      let occurrences := numbered.occurrences ++ [{ number := numbered.next, text := entry }]
      { history
        occurrences :=
          if numbered.history.maxSize < occurrences.length then occurrences.tail else occurrences
        next := numbered.next + 1 }
    else { numbered with history }
  | .clear => { numbered with history, occurrences := [] }
  | _ => { numbered with history }

/-- The numbered history after some operations, in order. -/
def afterAll (numbered : Numbered) (operations : List Operation) : Numbered :=
  operations.foldl after numbered

variable {numbered : Numbered}

theorem history_after (numbered : Numbered) (operation : Operation) :
    (numbered.after operation).history = numbered.history.after operation := by
  unfold after
  cases operation with
  | push entry => simp only; split <;> rfl
  | _ => rfl

theorem history_afterAll (numbered : Numbered) (operations : List Operation) :
    (numbered.afterAll operations).history = operations.foldl History.after numbered.history := by
  induction operations generalizing numbered with
  | nil => rfl
  | cons operation operations ih =>
      rw [afterAll, List.foldl_cons, ← afterAll, ih, history_after, List.foldl_cons]

/-- The occurrences are those of the entries, and each has a number of its own. -/
structure Faithful (numbered : Numbered) : Prop where
  texts : numbered.occurrences.map Occurrence.text = numbered.history.entries
  ascending : (numbered.occurrences.map Occurrence.number).Pairwise (· < ·)
  below : ∀ occurrence ∈ numbered.occurrences, occurrence.number < numbered.next

theorem Faithful.length_eq (faithful : numbered.Faithful) :
    numbered.occurrences.length = numbered.history.entries.length := by
  rw [← faithful.texts, List.length_map]

theorem number_ofHistory (history : History) :
    (ofHistory history).occurrences.map Occurrence.number = List.range history.size := by
  have numbers : Occurrence.number ∘ (fun (text, number) => ⟨number, text⟩) =
      (Prod.snd : String × Nat → Nat) := rfl
  rw [ofHistory, List.map_map, numbers, List.zipIdx_map_snd, List.range_eq_range', size]

theorem getElem?_ofHistory (history : History) (place : Nat) :
    (ofHistory history).occurrences[place]? =
      history.entries[place]?.map fun text => { number := place, text } := by
  simp only [ofHistory, List.getElem?_map, List.getElem?_zipIdx, Option.map_map, Nat.zero_add]
  rfl

theorem faithful_ofHistory (history : History) : (ofHistory history).Faithful where
  texts := by
    have texts : Occurrence.text ∘ (fun (text, number) => ⟨number, text⟩) =
        (Prod.fst : String × Nat → String) := rfl
    rw [ofHistory, List.map_map, texts, List.zipIdx_map_fst]
  ascending := by
    rw [number_ofHistory]
    exact List.pairwise_lt_range
  below := by
    intro occurrence member
    have inRange := List.mem_map_of_mem (f := Occurrence.number) member
    rw [number_ofHistory] at inRange
    exact List.mem_range.mp inRange

/-- What a quiet operation does to the entries: nothing, or it appends one, or it appends one
and evicts the oldest, and then the last match moves with the others. -/
inductive Moved (numbered after : Numbered) : Prop where
  | kept (occurrences : after.occurrences = numbered.occurrences)
      (next : after.next = numbered.next)
      (entries : after.history.entries = numbered.history.entries)
      (lastMatch : after.history.lastMatch = numbered.history.lastMatch)
  | appended (entry : String)
      (occurrences :
        after.occurrences = numbered.occurrences ++ [Occurrence.mk numbered.next entry])
      (next : after.next = numbered.next + 1)
      (entries : after.history.entries = numbered.history.entries ++ [entry])
      (lastMatch : after.history.lastMatch = numbered.history.lastMatch)
  | evicted (entry : String)
      (occurrences :
        after.occurrences = (numbered.occurrences ++ [Occurrence.mk numbered.next entry]).tail)
      (next : after.next = numbered.next + 1)
      (entries : after.history.entries = (numbered.history.entries ++ [entry]).tail)
      (lastMatch : after.history.lastMatch = numbered.history.lastMatch.map fun last =>
        { last with position := last.position - 1 })

theorem Faithful.moved_push (faithful : numbered.Faithful) (entry : String) :
    numbered.Moved (numbered.after (.push entry)) := by
  have lengthEq := faithful.length_eq
  by_cases enabled : numbered.history.enabled = true
  · by_cases newest : numbered.history.entries.getLast? = some entry
    · refine .kept ?_ ?_ ?_ (lastMatch_congr ?_ ?_) <;>
        simp [after, History.after, push, append, enabled, newest]
    · by_cases tooMany : numbered.history.maxSize < numbered.history.entries.length + 1
      · refine .evicted entry ?_ ?_ ?_ (lastMatch_of_moved ?_ ?_) <;>
          simp [after, History.after, push, append, evict, enabled, newest, tooMany, lengthEq]
      · refine .appended entry ?_ ?_ ?_ (lastMatch_congr ?_ ?_) <;>
          simp [after, History.after, push, append, evict, enabled, newest, tooMany, lengthEq]
  · rw [Bool.not_eq_true] at enabled
    refine .kept ?_ ?_ ?_ (lastMatch_congr ?_ ?_) <;> simp [after, History.after, push, enabled]

theorem Faithful.moved (faithful : numbered.Faithful) {operation : Operation}
    (quiet : numbered.history.IsQuiet operation) : numbered.Moved (numbered.after operation) := by
  cases operation with
  | push entry => exact faithful.moved_push entry
  | fetchPrevious =>
      exact .kept rfl rfl (keeps_fetchAt _ _).entries (lastMatch_fetchAt _ _)
  | fetchNext =>
      exact .kept rfl rfl (keeps_fetchAt _ _).entries (lastMatch_fetchAt _ _)
  | search term =>
      have same := congrArg Prod.snd (search_of_fst_eq_none quiet)
      exact .kept rfl rfl (congrArg History.entries same) (congrArg History.lastMatch same)
  | clear => exact quiet.elim
  | setDirection direction => exact .kept rfl rfl rfl rfl
  | enable => exact .kept rfl rfl rfl rfl
  | disable => exact .kept rfl rfl rfl rfl

/-- Once there is one more occurrence at the end, they still have numbers of their own. -/
theorem Faithful.concat (faithful : numbered.Faithful) (entry : String) :
    let occurrences := numbered.occurrences ++ [Occurrence.mk numbered.next entry]
    (occurrences.map Occurrence.number).Pairwise (· < ·) ∧
      ∀ occurrence ∈ occurrences, occurrence.number < numbered.next + 1 := by
  intro occurrences
  refine ⟨?_, fun occurrence member => ?_⟩
  · rw [List.map_append, List.pairwise_append]
    refine ⟨faithful.ascending, by simp, fun number member other isNext => ?_⟩
    obtain ⟨occurrence, inLog, rfl⟩ := List.mem_map.mp member
    rw [List.map_singleton, List.mem_singleton] at isNext
    rw [isNext]
    exact faithful.below occurrence inLog
  · rcases List.mem_append.mp member with inLog | isNew
    · exact Nat.lt_succ_of_lt (faithful.below occurrence inLog)
    · rw [List.mem_singleton.mp isNew]
      exact Nat.lt_succ_self _

theorem Faithful.of_moved {later : Numbered} (faithful : numbered.Faithful)
    (moved : numbered.Moved later) : later.Faithful := by
  cases moved with
  | kept occurrences next entries =>
      constructor
      · rw [occurrences, entries, faithful.texts]
      · rw [occurrences]
        exact faithful.ascending
      · rw [occurrences, next]
        exact faithful.below
  | appended entry occurrences next entries =>
      obtain ⟨ascending, below⟩ := faithful.concat entry
      constructor
      · rw [occurrences, entries, List.map_append, faithful.texts, List.map_singleton]
      · rw [occurrences]
        exact ascending
      · rw [occurrences, next]
        exact below
  | evicted entry occurrences next entries =>
      obtain ⟨ascending, below⟩ := faithful.concat entry
      constructor
      · rw [occurrences, entries, List.map_tail, List.map_append, faithful.texts,
          List.map_singleton]
      · rw [occurrences, List.map_tail]
        exact ascending.tail
      · rw [occurrences, next]
        exact fun occurrence member => below occurrence (List.mem_of_mem_tail member)

/-- An occurrence that is in the log, or was, with the last match on it as long as it is. -/
structure Points (numbered : Numbered) (found : Occurrence) (direction : SearchDirection) :
    Prop where
  known : found.number < numbered.next
  only : ∀ occurrence ∈ numbered.occurrences, occurrence.number = found.number →
    occurrence = found
  cursor : ∀ place : Nat, numbered.occurrences[place]? = some found →
    numbered.history.lastMatch = some { position := place, direction }

theorem points_ofHistory {place : Nat} {text : String} {direction : SearchDirection}
    (found : history.entries[place]? = some text)
    (lastMatch : history.lastMatch = some { position := place, direction }) :
    (ofHistory history).Points { number := place, text } direction where
  known := (List.getElem?_eq_some_iff.mp found).1
  only := by
    rintro occurrence member rfl
    obtain ⟨here, foundHere⟩ := List.mem_iff_getElem?.mp member
    rw [getElem?_ofHistory, Option.map_eq_some_iff] at foundHere
    obtain ⟨other, otherEq, rfl⟩ := foundHere
    rw [Option.some.inj (otherEq.symm.trans found)]
  cursor := by
    intro here foundHere
    rw [getElem?_ofHistory, Option.map_eq_some_iff] at foundHere
    obtain ⟨other, -, same⟩ := foundHere
    cases same
    exact lastMatch

/-- A new occurrence is another one than those that were known. -/
theorem Points.concat {found : Occurrence} {direction : SearchDirection}
    (points : numbered.Points found direction) (entry : String) :
    let occurrences := numbered.occurrences ++ [Occurrence.mk numbered.next entry]
    (∀ occurrence ∈ occurrences, occurrence.number = found.number → occurrence = found) ∧
      ∀ place : Nat, occurrences[place]? = some found →
        numbered.occurrences[place]? = some found := by
  intro occurrences
  have known := points.known
  refine ⟨fun occurrence member same => ?_, fun place foundAt => ?_⟩
  · rcases List.mem_append.mp member with inLog | isNew
    · exact points.only occurrence inLog same
    · rw [List.mem_singleton.mp isNew] at same
      exact absurd same (Nat.ne_of_gt known)
  · rw [List.getElem?_append] at foundAt
    split at foundAt
    case isTrue => exact foundAt
    case isFalse =>
      have isNew := List.mem_singleton.mp (List.mem_of_getElem? foundAt)
      rw [isNew] at known
      exact absurd known (Nat.lt_irrefl _)

theorem Points.of_moved {later : Numbered} {found : Occurrence} {direction : SearchDirection}
    (points : numbered.Points found direction) (moved : numbered.Moved later) :
    later.Points found direction := by
  cases moved with
  | kept occurrences next _ lastMatch =>
      constructor
      · rw [next]
        exact points.known
      · rw [occurrences]
        exact points.only
      · rw [occurrences, lastMatch]
        exact points.cursor
  | appended entry occurrences next _ lastMatch =>
      obtain ⟨only, stays⟩ := points.concat entry
      constructor
      · rw [next]
        exact Nat.lt_succ_of_lt points.known
      · rw [occurrences]
        exact only
      · rw [occurrences, lastMatch]
        exact fun place foundAt => points.cursor place (stays place foundAt)
  | evicted entry occurrences next _ lastMatch =>
      obtain ⟨only, stays⟩ := points.concat entry
      constructor
      · rw [next]
        exact Nat.lt_succ_of_lt points.known
      · rw [occurrences]
        exact fun occurrence member => only occurrence (List.mem_of_mem_tail member)
      · rw [occurrences, lastMatch]
        intro place foundAt
        -- the occurrence was one position further on before the oldest one went
        rw [List.getElem?_tail] at foundAt
        rw [points.cursor (place + 1) (stays (place + 1) foundAt)]
        rfl

/-- What every quiet operation keeps, a quiet run keeps. -/
theorem Faithful.afterAll {motive : Numbered → Prop} {run : List Operation}
    (faithful : numbered.Faithful) (start : motive numbered)
    (keeps : ∀ {before later : Numbered}, before.Faithful → motive before → before.Moved later →
      motive later)
    (quiet : numbered.history.RunsQuietly run) :
    (numbered.afterAll run).Faithful ∧ motive (numbered.afterAll run) := by
  induction run generalizing numbered with
  | nil => exact ⟨faithful, start⟩
  | cons operation run ih =>
      have moved := faithful.moved quiet.1
      have quietLater : (numbered.after operation).history.RunsQuietly run := by
        rw [history_after]
        exact quiet.2
      exact ih (faithful.of_moved moved) (keeps faithful start moved) quietLater

theorem points_afterAll {found : Occurrence} {direction : SearchDirection} {run : List Operation}
    (faithful : numbered.Faithful) (points : numbered.Points found direction)
    (quiet : numbered.history.RunsQuietly run) :
    (numbered.afterAll run).Faithful ∧ (numbered.afterAll run).Points found direction :=
  faithful.afterAll (motive := (Points · found direction)) points
    (fun _ points moved => points.of_moved moved) quiet

end Numbered

/-! ## Where searches go on -/

/-- A history goes on searching from a place: from its neighbour, around the log and to the
place itself in the end, as long as the direction is the same; and from the place itself once it
has changed. -/
structure GoesOnFrom (history : History) (place : Nat) (direction : SearchDirection) : Prop where
  lastMatch : history.lastMatch = some { position := place, direction }
  finds : ∀ term, (history.search term).1 =
    (history.tested.find? (history.matchesAt term)).bind (history.entries[·]?)
  onward : history.direction = direction →
    history.tested = (List.range history.size).map
      (fun places => direction.ahead history.size place (places + 1)) ∧
    history.tested.getLast? = some place
  again : history.direction ≠ direction → history.tested.head? = some place

/-- The next search in the direction of the last match begins past it, and comes by it last. -/
theorem tested_of_same {place : Nat} (inLog : place < history.size)
    (lastMatch : history.lastMatch = some { position := place, direction := history.direction }) :
    history.tested = (List.range history.size).map
      (fun places => history.direction.ahead history.size place (places + 1)) ∧
    history.tested.getLast? = some place := by
  have startEq : history.searchStart = history.direction.ahead history.size place 1 := by
    rw [searchStart_of_lastMatch lastMatch, if_pos rfl]
  have order : history.tested = (List.range history.size).map
      (fun places => history.direction.ahead history.size place (places + 1)) := by
    rw [tested, startEq, SearchDirection.positions]
    refine List.map_congr_left fun places member => ?_
    have within : places < history.size := List.mem_range.mp member
    rw [SearchDirection.ahead_ahead _ _ (by omega), Nat.add_comm]
  obtain ⟨fewer, sizeEq⟩ := Nat.exists_eq_add_of_lt (Nat.zero_lt_of_lt inLog)
  rw [Nat.zero_add] at sizeEq
  refine ⟨order, ?_⟩
  rw [order, sizeEq, List.range_succ, List.map_append, List.map_singleton, List.getLast?_concat,
    ← sizeEq, history.direction.ahead_length inLog]

/-- The next search in the other direction tests the last match first. -/
theorem head?_tested {place : Nat} {direction : SearchDirection} (inLog : place < history.size)
    (lastMatch : history.lastMatch = some { position := place, direction })
    (changed : history.direction ≠ direction) : history.tested.head? = some place := by
  have startEq : history.searchStart = place := by
    rw [searchStart_of_lastMatch lastMatch, if_neg (Ne.symm changed)]
  obtain ⟨fewer, sizeEq⟩ := Nat.exists_eq_add_of_lt (Nat.zero_lt_of_lt inLog)
  rw [Nat.zero_add] at sizeEq
  rw [tested, startEq, SearchDirection.positions, sizeEq, List.range_succ_eq_map, List.map_cons,
    List.head?_cons, ← sizeEq, history.direction.ahead_zero inLog]

theorem goesOnFrom_of_lastMatch {place : Nat} {direction : SearchDirection}
    (inLog : place < history.size)
    (lastMatch : history.lastMatch = some { position := place, direction }) :
    history.GoesOnFrom place direction where
  lastMatch := lastMatch
  finds := history.fst_search
  onward := by
    rintro rfl
    exact tested_of_same inLog lastMatch
  again := head?_tested inLog lastMatch

/-- A search that finds something leaves the last match on it. -/
theorem exists_of_search {term entry : String} (matched : (history.search term).1 = some entry) :
    ∃ position, (history.search term).2.entries[position]? = some entry ∧
      (history.search term).2.lastMatch =
        some { position, direction := history.direction } := by
  unfold search at matched ⊢
  cases found : history.found? term with
  | none =>
      rw [found] at matched
      cases matched
  | some position =>
      rw [found] at matched
      exact ⟨position, matched, rfl⟩

/-- After a search that finds an entry, any number of pushes, fetches and searches that find
nothing may follow, with pushes disabled and enabled and directions chosen in between.  As long
as the occurrence that was found is in the log, the last match is its position: the next search
in the same direction begins with its neighbour, goes around the log and tests the occurrence
last, and the next search in the other direction tests it first. -/
theorem goesOnFrom_occurrence (history : History) (term entry : String)
    (matched : (history.search term).1 = some entry) (run : List Operation)
    (quiet : (history.search term).2.RunsQuietly run) :
    let found := (history.search term).2
    let start := Numbered.ofHistory found
    let reached := start.afterAll run
    reached.history = run.foldl after found ∧
    reached.occurrences.map Occurrence.text = reached.history.entries ∧
    (reached.occurrences.map Occurrence.number).Pairwise (· < ·) ∧
    ∃ position occurrence,
      found.lastMatch = some { position, direction := history.direction } ∧
      start.occurrences[position]? = some occurrence ∧ occurrence.text = entry ∧
      ∀ place other, reached.occurrences[place]? = some other →
        other.number = occurrence.number →
        other = occurrence ∧ reached.history.GoesOnFrom place history.direction := by
  intro found start reached
  obtain ⟨position, foundAt, lastMatch⟩ := exists_of_search matched
  have numbered : start.occurrences[position]? = some { number := position, text := entry } := by
    rw [Numbered.getElem?_ofHistory, foundAt]
    rfl
  obtain ⟨faithful, points⟩ := Numbered.points_afterAll (Numbered.faithful_ofHistory found)
    (Numbered.points_ofHistory foundAt lastMatch) quiet
  refine ⟨Numbered.history_afterAll start run, faithful.texts, faithful.ascending, position, _,
    lastMatch, numbered, rfl, fun place other otherAt same => ?_⟩
  obtain rfl := points.only other (List.mem_of_getElem? otherAt) same
  have inLog : place < reached.history.size := by
    rw [size, ← faithful.length_eq]
    exact (List.getElem?_eq_some_iff.mp otherAt).1
  exact ⟨rfl, goesOnFrom_of_lastMatch inLog (points.cursor place otherAt)⟩

/-- The entry that was found moves to the beginning of the log, and another one with the same
text comes to its end: the last match stays with the first of them. -/
theorem goesOnFrom_occurrence_equal_texts :
    let history : History :=
      { maxSize := 3, entries := ["x", "a", "b"], maxSize_pos := Nat.succ_pos 2 }
    let found := (history.search "a").2
    let run : List Operation :=
      [.fetchPrevious, .push "a", .search "x", .disable, .push "y", .setDirection .forward]
    let reached := (Numbered.ofHistory found).afterAll run
    (history.search "a").1 = some "a" ∧ found.RunsQuietly run ∧
      reached.occurrences = [⟨1, "a"⟩, ⟨2, "b"⟩, ⟨3, "a"⟩] ∧
      reached.history.GoesOnFrom 0 .reverse := by
  intro history found run reached
  have matched : (history.search "a").1 = some "a" := by decide
  have quiet : found.RunsQuietly run := by
    refine ⟨trivial, trivial, ?_, trivial, trivial, trivial, trivial⟩
    change (((found.after .fetchPrevious).after (.push "a")).search "x").1 = none
    decide
  have occurrences : reached.occurrences = [⟨1, "a"⟩, ⟨2, "b"⟩, ⟨3, "a"⟩] := by decide
  obtain ⟨-, -, -, position, occurrence, lastMatch, numbered, -, goesOn⟩ :=
    goesOnFrom_occurrence history "a" "a" matched run quiet
  have second : found.lastMatch = some ⟨1, .reverse⟩ := by decide
  have samePlace : some (LastMatch.mk 1 .reverse) = some ⟨position, .reverse⟩ :=
    second.symm.trans lastMatch
  cases samePlace
  have first : (Numbered.ofHistory found).occurrences[1]? = some ⟨1, "a"⟩ := by decide
  obtain rfl : ⟨1, "a"⟩ = occurrence := Option.some.inj (first.symm.trans numbered)
  exact ⟨matched, quiet, occurrences, (goesOn 0 ⟨1, "a"⟩ (by decide) rfl).2⟩

end CookedMode.History
