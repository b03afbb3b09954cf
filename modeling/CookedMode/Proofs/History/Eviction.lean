import CookedMode.Proofs.History.Occurrence

/-!
# Searching after the match is gone

When the occurrence that a search has found is evicted, the last match moves to the oldest
entry, which no search has come by.  A search toward newer entries goes on past it and tests
it last of all.  So the search finds the oldest entry that matches exactly unless that is the
oldest entry of all and another one matches as well.
-/

namespace CookedMode.History

variable {history : History}

/-- The position of the oldest entry that matches a term. -/
def oldestMatch? (history : History) (term : String) : Option Nat :=
  (List.range history.size).find? (history.matchesAt term)

namespace Numbered

variable {numbered : Numbered} {found : Occurrence} {direction : SearchDirection}

/-- Where the last match is: on the occurrence that was found, as long as that is in the log,
and on the oldest entry once it has gone. -/
inductive Follows (numbered : Numbered) (found : Occurrence) (direction : SearchDirection) :
    Prop where
  | here (place : Nat) (isThere : numbered.occurrences[place]? = some found)
      (lastMatch : numbered.history.lastMatch = some { position := place, direction })
  | gone (known : found.number < numbered.next)
      (newer : ∀ other ∈ numbered.occurrences, found.number < other.number)
      (lastMatch : numbered.history.lastMatch = some { position := 0, direction })

theorem Faithful.newer_of_cons {first : Occurrence} {rest : List Occurrence}
    (faithful : numbered.Faithful) (occurrences : numbered.occurrences = first :: rest) :
    ∀ other ∈ rest, first.number < other.number := by
  intro other member
  have ascending := faithful.ascending
  rw [occurrences, List.map_cons, List.pairwise_cons] at ascending
  exact ascending.1 other.number (List.mem_map_of_mem member)

theorem newer_concat {number : Nat} {occurrences : List Occurrence} {isNew : Occurrence}
    (newer : ∀ other ∈ occurrences, number < other.number) (known : number < isNew.number) :
    ∀ other ∈ occurrences ++ [isNew], number < other.number := by
  intro other member
  rcases List.mem_append.mp member with inLog | same
  · exact newer other inLog
  · rw [List.mem_singleton.mp same]
    exact known

theorem Follows.of_moved {later : Numbered} (faithful : numbered.Faithful)
    (follows : numbered.Follows found direction) (moved : numbered.Moved later) :
    later.Follows found direction := by
  cases follows with
  | here place isThere lastMatch =>
      have known := faithful.below found (List.mem_of_getElem? isThere)
      cases moved with
      | kept occurrences next _ lastMatchEq =>
          exact .here place (by rw [occurrences, isThere]) (by rw [lastMatchEq, lastMatch])
      | appended entry occurrences next _ lastMatchEq =>
          have inLog := (List.getElem?_eq_some_iff.mp isThere).1
          refine .here place ?_ (by rw [lastMatchEq, lastMatch])
          rw [occurrences, List.getElem?_append_left inLog, isThere]
      | evicted entry occurrences next _ lastMatchEq =>
          rw [lastMatch] at lastMatchEq
          cases place with
          | zero =>
              -- the occurrence that was found is the oldest one, and goes
              obtain ⟨rest, occurrencesEq⟩ : ∃ rest, numbered.occurrences = found :: rest := by
                cases occurrencesEq : numbered.occurrences with
                | nil => rw [occurrencesEq] at isThere; cases isThere
                | cons first rest =>
                    rw [occurrencesEq] at isThere
                    exact ⟨rest, by rw [Option.some.inj isThere]⟩
              refine .gone (by rw [next]; exact Nat.lt_succ_of_lt known) ?_ lastMatchEq
              rw [occurrences, occurrencesEq, List.cons_append, List.tail_cons]
              exact newer_concat (faithful.newer_of_cons occurrencesEq) known
          | succ place =>
              have inLog := (List.getElem?_eq_some_iff.mp isThere).1
              refine .here place ?_ lastMatchEq
              rw [occurrences, List.getElem?_tail, List.getElem?_append_left inLog, isThere]
  | gone known newer lastMatch =>
      cases moved with
      | kept occurrences next _ lastMatchEq =>
          exact .gone (by rw [next]; exact known) (by rw [occurrences]; exact newer)
            (by rw [lastMatchEq, lastMatch])
      | appended entry occurrences next _ lastMatchEq =>
          refine .gone (by rw [next]; exact Nat.lt_succ_of_lt known) ?_
            (by rw [lastMatchEq, lastMatch])
          rw [occurrences]
          exact newer_concat newer known
      | evicted entry occurrences next _ lastMatchEq =>
          rw [lastMatch] at lastMatchEq
          refine .gone (by rw [next]; exact Nat.lt_succ_of_lt known) ?_ lastMatchEq
          rw [occurrences]
          exact fun other member => newer_concat newer known other (List.mem_of_mem_tail member)

end Numbered

/-- A search toward newer entries that begins past the oldest entry tests that one last. -/
theorem found?_of_oldest (term : String) (forward : history.direction = .forward)
    (lastMatch : history.lastMatch = some { position := 0, direction := .forward }) :
    history.found? term =
      ((List.range history.size).rotate 1).find? (history.matchesAt term) := by
  have startEq : history.searchStart = SearchDirection.ahead .forward history.size 0 1 := by
    rw [searchStart_of_lastMatch lastMatch, forward, if_pos rfl]
  have fromOldest : SearchDirection.positions .forward history.size 0 =
      List.range history.size := by
    refine (List.map_congr_left fun position member => ?_).trans (List.map_id _)
    rw [SearchDirection.ahead, Nat.zero_add, Nat.mod_eq_of_lt (List.mem_range.mp member)]
    rfl
  rw [found?, startEq, forward]
  cases Nat.eq_zero_or_pos history.size with
  | inl empty => rw [empty]; rfl
  | inr nonempty =>
      rw [SearchDirection.positions_ahead .forward 0 nonempty, fromOldest]

/-- To test the first position last makes a difference exactly if it is good and another one is
good as well. -/
theorem find?_concat_eq_cons_iff {good : Nat → Bool} {first : Nat} {rest : List Nat}
    (once : first ∉ rest) :
    (rest ++ [first]).find? good = (first :: rest).find? good ↔
      good first = false ∨ ∀ position ∈ rest, good position = false := by
  rw [List.find?_append]
  cases firstIs : good first with
  | false => simp [firstIs]
  | true =>
      rw [List.find?_cons_of_pos firstIs, List.find?_cons_of_pos firstIs]
      cases found : rest.find? good with
      | none => simpa using found
      | some position =>
          have isGood := List.find?_some found
          have member := List.mem_of_find?_eq_some found
          have another : position ≠ first := fun same => once (same ▸ member)
          have notNone : ¬∀ position ∈ rest, good position = false := fun none =>
            Bool.false_ne_true ((none position member).symm.trans isGood)
          simp [another, notNone]

theorem find?_rotate_one_iff (history : History) (term : String) :
    ((List.range history.size).rotate 1).find? (history.matchesAt term) =
        history.oldestMatch? term ↔
      history.matchesAt term 0 = false ∨
        ∀ position, 0 < position → history.matchesAt term position = false := by
  have unmatched {position : Nat} (outside : history.size ≤ position) :
      history.matchesAt term position = false := by
    rw [Bool.eq_false_iff]
    exact fun isMatch => Nat.not_lt.mpr outside (lt_size_of_matchesAt isMatch)
  rw [oldestMatch?]
  cases sizeEq : history.size with
  | zero => exact iff_of_true rfl (.inl (unmatched (Nat.le_of_eq sizeEq)))
  | succ others =>
      have once : 0 ∉ (List.range others).map Nat.succ := by simp
      rw [List.range_succ_eq_map, List.rotate_cons_succ, List.rotate_zero,
        find?_concat_eq_cons_iff once]
      refine or_congr_right ⟨fun none position positive => ?_, fun none position member => ?_⟩
      · by_cases inLog : position < history.size
        · refine none position (List.mem_map.mpr ⟨position - 1, ?_, by omega⟩)
          exact List.mem_range.mpr (by omega)
        · exact unmatched (Nat.le_of_not_lt inLog)
      · obtain ⟨before, -, rfl⟩ := List.mem_map.mp member
        exact none (before + 1) (Nat.succ_pos before)

/-- After a search toward newer entries that finds an entry, any number of pushes, fetches and
searches that find nothing may follow, with pushes disabled and enabled and directions chosen
in between.  If the occurrence that was found has been evicted by then, all entries are newer,
and the next search toward newer entries tests them in order, but the oldest one last.  So it
finds the oldest entry that matches exactly unless that is the oldest of all and another one
matches as well. -/
theorem found?_of_evicted (history : History) (term entry : String)
    (matched : (history.search term).1 = some entry) (forward : history.direction = .forward)
    (run : List Operation) (quiet : (history.search term).2.RunsQuietly run)
    (onward : (run.foldl after (history.search term).2).direction = .forward) :
    let found := (history.search term).2
    let start := Numbered.ofHistory found
    let reached := start.afterAll run
    reached.history = run.foldl after found ∧
    ∃ position occurrence,
      found.lastMatch = some { position, direction := .forward } ∧
      start.occurrences[position]? = some occurrence ∧ occurrence.text = entry ∧
      (occurrence ∉ reached.occurrences →
        (∀ other ∈ reached.occurrences, occurrence.number < other.number) ∧
        ∀ next,
          reached.history.found? next =
            ((List.range reached.history.size).rotate 1).find?
              (reached.history.matchesAt next) ∧
          (reached.history.found? next = reached.history.oldestMatch? next ↔
            reached.history.matchesAt next 0 = false ∨
              ∀ position, 0 < position → reached.history.matchesAt next position = false)) := by
  intro found start reached
  have historyEq : reached.history = run.foldl after found := Numbered.history_afterAll start run
  obtain ⟨position, foundAt, lastMatch⟩ := exists_of_search matched
  rw [forward] at lastMatch
  have numbered : start.occurrences[position]? = some { number := position, text := entry } := by
    rw [Numbered.getElem?_ofHistory, foundAt]
    rfl
  obtain ⟨-, follows⟩ := (Numbered.faithful_ofHistory found).afterAll
    (motive := (Numbered.Follows · { number := position, text := entry } .forward))
    (.here position numbered lastMatch)
    (fun faithful follows moved => follows.of_moved faithful moved) quiet
  refine ⟨historyEq, position, _, lastMatch, numbered, rfl, fun evicted => ?_⟩
  cases follows with
  | here place isThere => exact absurd (List.mem_of_getElem? isThere) evicted
  | gone known newer lastMatch =>
      have onward : reached.history.direction = .forward := by rw [historyEq]; exact onward
      refine ⟨newer, fun next => ?_⟩
      have foundEq := found?_of_oldest next onward lastMatch
      exact ⟨foundEq, by rw [foundEq]; exact find?_rotate_one_iff reached.history next⟩

/-- Two entries push out the one that was found and its successor.  The older of the two is
tested last, and found since the other one does not match. -/
theorem found?_of_evicted_both :
    let history : History :=
      { maxSize := 2, entries := ["a", "b"], direction := .forward,
        maxSize_pos := Nat.succ_pos 1 }
    let found := (history.search "a").2
    let run : List Operation := [.push "c", .fetchPrevious, .search "x", .push "d"]
    let reached := (Numbered.ofHistory found).afterAll run
    (history.search "a").1 = some "a" ∧ found.RunsQuietly run ∧
      (run.foldl after found).direction = .forward ∧
      reached.occurrences = [⟨2, "c"⟩, ⟨3, "d"⟩] ∧
      reached.history.found? "c" = reached.history.oldestMatch? "c" ∧
      reached.history.oldestMatch? "c" = some 0 := by
  intro history found run reached
  have matched : (history.search "a").1 = some "a" := by decide
  have quiet : found.RunsQuietly run := by
    refine ⟨trivial, trivial, ?_, trivial, trivial⟩
    change (((found.after (.push "c")).after .fetchPrevious).search "x").1 = none
    decide
  have onward : (run.foldl after found).direction = .forward := by decide
  have occurrences : reached.occurrences = [⟨2, "c"⟩, ⟨3, "d"⟩] := by decide
  obtain ⟨-, position, occurrence, lastMatch, numbered, -, finds⟩ :=
    found?_of_evicted history "a" "a" matched rfl run quiet onward
  have first : found.lastMatch = some { position := 0, direction := .forward } := by decide
  obtain rfl : 0 = position :=
    congrArg LastMatch.position (Option.some.inj (first.symm.trans lastMatch))
  have isFirst : (Numbered.ofHistory found).occurrences[0]? = some ⟨0, "a"⟩ := by decide
  obtain rfl : ⟨0, "a"⟩ = occurrence := Option.some.inj (isFirst.symm.trans numbered)
  have evicted : ⟨0, "a"⟩ ∉ reached.occurrences := by rw [occurrences]; decide
  obtain ⟨-, finds⟩ := finds evicted
  have two : reached.history.size = 2 := by decide
  have newest : reached.history.matchesAt "c" 1 = false := by decide
  have alone : ∀ position, 0 < position → reached.history.matchesAt "c" position = false := by
    intro position positive
    rw [Bool.eq_false_iff]
    intro isMatch
    have inLog := lt_size_of_matchesAt isMatch
    obtain rfl : position = 1 := by omega
    exact Bool.false_ne_true (newest.symm.trans isMatch)
  exact ⟨matched, quiet, onward, occurrences, (finds "c").2.mpr (.inr alone), by decide⟩

/-- The entry that was found is evicted, the two that follow it match as well, and the search
passes over the older one of them. -/
theorem oldest_passed_over :
    let empty : History := { maxSize := 3, maxSize_pos := Nat.succ_pos 2 }
    let history := (empty.pushAll ["foo1", "foo2", "foo3"]).after (.setDirection .forward)
    let found := (history.search "foo").2
    let run : List Operation := [.push "foo4"]
    let reached := (Numbered.ofHistory found).afterAll run
    history.Reachable ∧ (history.search "foo").1 = some "foo1" ∧
      found.lastMatch = some { position := 0, direction := .forward } ∧
      found.RunsQuietly run ∧ reached.history.direction = .forward ∧
      ⟨0, "foo1"⟩ ∉ reached.occurrences ∧ reached.history.entries = ["foo2", "foo3", "foo4"] ∧
      reached.history.oldestMatch? "foo" = some 0 ∧
      (reached.history.search "foo").1 = some "foo3" := by
  intro empty history found run reached
  have given : of? 3 .contains {} = .ok empty := rfl
  have reachable : history.Reachable :=
    .operated (.loaded given ["foo1", "foo2", "foo3"]) (.setDirection .forward)
  exact ⟨reachable, by decide, by decide, ⟨trivial, trivial⟩, by decide, by decide, by decide,
    by decide, by decide⟩

end CookedMode.History
