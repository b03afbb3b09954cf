import CookedMode.Proofs.History.Around
import CookedMode.Proofs.History.Operation

/-!
# Searching for the same term again and again

The positions that match a term, in the order in which the next search comes by them, are
its hits.  A search finds the first hit, and puts it behind all others for the search after
it.  So searches for the same term in one direction find the hits in turn and then begin
anew, whatever happened to the history before.
-/

namespace CookedMode

theorem map_getElem?_range {α : Type} (items : List α) :
    (List.range items.length).map (items[·]?) = items.map some := by
  apply List.ext_getElem
  · simp
  · intro index _ inItems
    have inItems : index < items.length := by simpa using inItems
    simp [List.getElem?_eq_getElem inItems]

/-- A position is the first good one past another position.  The other position itself comes
last, after one round. -/
def SearchDirection.IsNext (direction : SearchDirection) (length : Nat) (good : Nat → Bool)
    (position next : Nat) : Prop :=
  ∃ places, 0 < places ∧ places ≤ length ∧ next = direction.ahead length position places ∧
    good next = true ∧
    ∀ fewer, 0 < fewer → fewer < places →
      good (direction.ahead length position fewer) = false

namespace History

variable {history : History} {term : String} {position : Nat}

/-- A history with its last match, and the fetch cursor, at a position. -/
def anchored (history : History) (position : Nat) : History :=
  { history with
    fetchCursor := position
    lastPosition := some position
    lastDirection := some history.direction }

/-- The history after a number of searches for the same term. -/
def searched (history : History) (term : String) : Nat → History
  | 0 => history
  | count + 1 => ((history.searched term count).search term).2

/-- The positions that match a term, in the order of the next search. -/
def hits (history : History) (term : String) : List Nat :=
  (history.direction.positions history.size history.searchStart).filter (history.matchesAt term)

theorem head?_hits (history : History) (term : String) :
    (history.hits term).head? = history.found? term :=
  List.head?_filter

theorem nodup_hits (history : History) (term : String) : (history.hits term).Nodup :=
  (history.direction.nodup_positions _ _).filter _

theorem mem_hits : position ∈ history.hits term ↔ history.matchesAt term position = true := by
  rw [hits, List.mem_filter, SearchDirection.mem_positions]
  exact ⟨And.right, fun isMatch => ⟨lt_size_of_matchesAt isMatch, isMatch⟩⟩

theorem length_hits (history : History) (term : String) :
    (history.hits term).length = history.entries.countP (history.policy.accepts · term) := by
  have lookups := (map_getElem?_range history.entries).symm
  have order := history.direction.positions_perm_range history.size history.searchStart
  have counts := congrArg
    (List.countP fun entry? => entry?.any (history.policy.accepts · term)) lookups
  rw [List.countP_map, List.countP_map] at counts
  rw [hits, ← List.countP_eq_length_filter, order.countP_eq]
  exact counts.symm

theorem search_of_found? (found : history.found? term = some position) :
    history.search term = (history.entries[position]?, history.anchored position) := by
  rw [search, found]
  rfl

theorem search_of_found?_eq_none (notFound : history.found? term = none) :
    history.search term = (none, history) := by
  rw [search, notFound]

theorem searchStart_anchored (history : History) (position : Nat) :
    (history.anchored position).searchStart =
      history.direction.ahead history.size position 1 :=
  if_pos rfl

/-- A search puts the hit that it finds behind all others. -/
theorem hits_anchored (found : history.found? term = some position) :
    (history.anchored position).hits term = (history.hits term).rotate 1 := by
  obtain ⟨isMatch, before, behind, positionsEq, none⟩ := List.find?_eq_some_iff_append.mp found
  have unmatched : before.filter (history.matchesAt term) = [] := by
    rw [List.filter_eq_nil_iff]
    intro other member
    simpa using none other member
  have lengthEq := congrArg List.length positionsEq
  rw [SearchDirection.length_positions, List.length_append, List.length_cons] at lengthEq
  have inLog : before.length < history.size := by omega
  have positionEq :
      history.direction.ahead history.size history.searchStart before.length = position := by
    rw [← SearchDirection.getElem_positions history.direction history.searchStart
      (by simpa using inLog)]
    simp [positionsEq]
  -- the search after it begins one place past the hit, so it comes by the hit last
  have rotated : history.direction.positions history.size
      (history.direction.ahead history.size position 1) = behind ++ before ++ [position] := by
    rw [SearchDirection.positions_ahead _ _ (Nat.one_le_of_lt inLog), ← positionEq,
      SearchDirection.positions_ahead _ _ (Nat.le_of_lt inLog), positionsEq,
      List.rotate_append_length_eq, positionEq]
    simp
  calc (history.anchored position).hits term
      = (behind ++ before ++ [position]).filter (history.matchesAt term) := by
        rw [← rotated, ← searchStart_anchored]
        rfl
    _ = behind.filter (history.matchesAt term) ++ [position] := by simp [unmatched, isMatch]
    _ = (history.hits term).rotate 1 := by simp [hits, positionsEq, unmatched, isMatch]

/-- A search for the same term in the same direction finds the nearest match. -/
theorem isNext_of_found? {next : Nat}
    (found : (history.anchored position).found? term = some next) :
    history.direction.IsNext history.size (history.matchesAt term) position next := by
  rw [found?, searchStart_anchored, List.find?_eq_some_iff_getElem] at found
  obtain ⟨isMatch, places, within, rfl, none⟩ := found
  have inLog : places < history.size := by
    rwa [SearchDirection.length_positions] at within
  have onward (others : Nat) (within : others < history.size) :
      history.direction.ahead history.size (history.direction.ahead history.size position 1)
        others = history.direction.ahead history.size position (others + 1) := by
    rw [SearchDirection.ahead_ahead _ _ (by omega), Nat.add_comm]
  refine ⟨places + 1, Nat.succ_pos places, inLog, ?_, isMatch, fun fewer positive less => ?_⟩
  · rw [← onward places inLog]
    exact SearchDirection.getElem_positions _ _ within
  · obtain ⟨others, rfl⟩ := Nat.exists_eq_add_of_lt positive
    have unmatched := none others (by omega)
    rw [Bool.not_eq_true', SearchDirection.getElem_positions] at unmatched
    rw [Nat.zero_add, ← onward others (by omega)]
    exact unmatched

/-- Any number of searches for a term that matches only turn its hits, and move the two
cursors. -/
theorem searched_of_hits (matched : history.hits term ≠ []) (number : Nat) :
    (history.searched term number).hits term = (history.hits term).rotate number ∧
      ∀ position, (history.searched term number).anchored position =
        history.anchored position := by
  induction number with
  | zero => exact ⟨(List.rotate_zero _).symm, fun _ => rfl⟩
  | succ number ih =>
      obtain ⟨turned, sameElse⟩ := ih
      obtain ⟨hit, rest, hitsEq⟩ :=
        List.exists_cons_of_ne_nil (List.rotate_eq_nil_iff.not.mpr matched)
      have found : (history.searched term number).found? term = some hit := by
        rw [← head?_hits, turned, hitsEq]
        rfl
      rw [searched, search_of_found? found]
      refine ⟨?_, fun position => sameElse position⟩
      rw [hits_anchored found, turned, List.rotate_rotate]

theorem found?_searched (matched : history.hits term ≠ []) (number : Nat) :
    (history.searched term number).found? term =
      (history.hits term)[number % (history.hits term).length]? := by
  have inHits : number % (history.hits term).length < (history.hits term).length :=
    Nat.mod_lt _ (List.length_pos_iff.mpr matched)
  rw [← head?_hits, (searched_of_hits matched number).1, ← List.rotate_mod,
    List.head?_rotate inHits]

/-- What a search gives after others for the same term, and what it leaves. -/
theorem search_searched {number : Nat} (matched : history.hits term ≠ [])
    (found : (history.searched term number).found? term = some position) :
    (history.searched term number).search term =
      (history.entries[position]?, history.anchored position) := by
  have sameElse := (searched_of_hits matched number).2 position
  have sameEntries : (history.searched term number).entries = history.entries := by
    have same := congrArg History.entries sameElse
    exact same
  rw [search_of_found? found, sameElse, sameEntries]

/-- Searches for a term in one direction find every position that matches exactly once, each
of them the nearest from the one before, and then begin anew.  A term that matches nothing is
not found, and the search for it changes nothing. -/
theorem searches_go_around (history : History) (direction : SearchDirection) (term : String) :
    let begun := history.setDirection direction
    let count := begun.entries.countP (begun.policy.accepts · term)
    (count = 0 → begun.search term = (none, begun)) ∧
    (0 < count → ∃ hit : Nat → Nat,
      (∀ number, (begun.searched term number).search term =
        (begun.entries[hit number]?, begun.anchored (hit number))) ∧
      ((List.range count).map hit).Nodup ∧
      (∀ position, position ∈ (List.range count).map hit ↔
        begun.matchesAt term position = true) ∧
      (∀ number, direction.IsNext begun.size (begun.matchesAt term) (hit number)
        (hit (number + 1))) ∧
      hit count = hit 0) := by
  intro begun count
  have countEq : (begun.hits term).length = count := length_hits begun term
  refine ⟨fun unmatched => ?_, fun positive => ?_⟩
  · have noHits : begun.hits term = [] := List.length_eq_zero_iff.mp (countEq.trans unmatched)
    apply search_of_found?_eq_none
    rw [← head?_hits, noHits]
    rfl
  · have matched : begun.hits term ≠ [] := List.length_pos_iff.mp (countEq ▸ positive)
    let hit (number : Nat) : Nat := (begun.hits term).getD (number % count) 0
    have found (number : Nat) : (begun.searched term number).found? term = some (hit number) := by
      have inHits : number % count < (begun.hits term).length :=
        countEq.symm ▸ Nat.mod_lt _ positive
      rw [found?_searched matched, countEq]
      simp [hit, inHits]
    have searchEq (number : Nat) : (begun.searched term number).search term =
        (begun.entries[hit number]?, begun.anchored (hit number)) :=
      search_searched matched (found number)
    have once : (List.range count).map hit = begun.hits term := by
      apply List.ext_getElem
      · simp [countEq]
      · intro index first second
        have index_lt : index < count := countEq ▸ second
        simp [hit, Nat.mod_eq_of_lt index_lt, second]
    refine ⟨hit, searchEq, ?_, fun position => ?_, fun number => ?_, ?_⟩
    · rw [once]
      exact nodup_hits begun term
    · rw [once]
      exact mem_hits
    · have next := found (number + 1)
      rw [searched, searchEq] at next
      exact isNext_of_found? next
    · simp only [hit, Nat.mod_self, Nat.zero_mod]

/-- Searches toward older entries come by the end of the log. -/
example :
    let history : History :=
      { maxSize := 3, entries := ["ab", "c", "b"], maxSize_pos := Nat.succ_pos 2 }
    history.searches "b" 3 = [some "b", some "ab", some "b"] := by
  decide

end History

end CookedMode
