import CookedMode.Proofs.History.Cycle
import CookedMode.Proofs.History.Recall

/-!
# Searching back

To turn a search around is to come by the same matches in the opposite order, beginning with
the last one that was found.  One search back undoes one search: so as many searches as were
made before find the same positions, last one first, however often they have gone around the
log; and to turn around once more finds them in the first order again.
-/

namespace CookedMode

namespace SearchDirection

variable {length position : Nat}

/-- To go on in the other direction is to stop short of a whole round in this one. -/
theorem ahead_opposite (direction : SearchDirection) {places : Nat} (within : places ≤ length) :
    direction.opposite.ahead length position places =
      direction.ahead length position (length - places) := by
  cases direction with
  | forward => rw [opposite, ahead, ahead, Nat.add_sub_assoc within]
  | reverse =>
      have back : position + length - (length - places) = position + places := by omega
      rw [opposite, ahead, ahead, back]

/-- A search from a position in the other direction visits what a search from just past the
position visits, last position first. -/
theorem positions_opposite (direction : SearchDirection) :
    direction.opposite.positions length position =
      (direction.positions length (direction.ahead length position 1)).reverse := by
  apply List.ext_getElem
  · simp
  · intro places first second
    have within : places < length := by simpa using first
    rw [List.getElem_reverse, getElem_positions, getElem_positions, length_positions,
      ahead_opposite direction (Nat.le_of_lt within), ahead_ahead direction position (by omega)]
    congr 1
    omega

end SearchDirection

theorem rotate_reverse_rotate_one (hits : List Nat) :
    (hits.rotate 1).reverse.rotate 1 = hits.reverse := by
  cases hits with
  | nil => rfl
  | cons first rest => simp

theorem rotate_reverse_rotate (hits : List Nat) {count back : Nat} (within : back ≤ count) :
    (hits.rotate count).reverse.rotate back = (hits.rotate (count - back)).reverse := by
  induction back with
  | zero => rw [List.rotate_zero, Nat.sub_zero]
  | succ back ih =>
      have onward : count - back = count - (back + 1) + 1 := by omega
      rw [← List.rotate_rotate, ih (Nat.le_of_succ_le within), onward, ← List.rotate_rotate,
        rotate_reverse_rotate_one]

theorem getLast?_rotate_one (hits : List Nat) : (hits.rotate 1).getLast? = hits.head? := by
  cases hits with
  | nil => rfl
  | cons first rest => simp

namespace History

variable {history : History} {term : String}

/-- The positions that a number of searches for the same term find, one after the other. -/
def route (history : History) (term : String) (count : Nat) : List Nat :=
  (List.range count).filterMap fun number => (history.searched term number).found? term

theorem route_succ (history : History) (term : String) (count : Nat) :
    history.route term (count + 1) =
      history.route term count ++ ((history.searched term count).found? term).toList := by
  rw [route, List.range_succ, List.filterMap_append]
  cases found : (history.searched term count).found? term <;> simp [route, found]

theorem exists_found (matched : history.hits term ≠ []) (count : Nat) :
    ∃ position, (history.searched term count).found? term = some position := by
  rw [← head?_hits, (searched_of_hits matched count).1]
  exact Option.isSome_iff_exists.mp
    (List.isSome_head?.mpr (List.rotate_eq_nil_iff.not.mpr matched))

theorem route_eq (matched : history.hits term ≠ []) (count : Nat) :
    history.route term count =
      (List.range count).filterMap fun number => ((history.hits term).rotate number).head? := by
  refine List.filterMap_congr fun number _ => ?_
  rw [← head?_hits, (searched_of_hits matched number).1]

theorem length_route (matched : history.hits term ≠ []) (count : Nat) :
    (history.route term count).length = count := by
  induction count with
  | zero => rfl
  | succ count ih =>
      obtain ⟨hit, isHead⟩ := exists_found matched count
      rw [route_succ, isHead, List.length_append, ih]
      rfl

theorem matchesAt_of_mem_route {count position : Nat} (matched : history.hits term ≠ [])
    (member : position ∈ history.route term count) : history.matchesAt term position = true := by
  rw [route_eq matched, List.mem_filterMap] at member
  obtain ⟨number, -, isHead⟩ := member
  have isHit := List.mem_of_mem_head? isHead
  exact mem_hits.mp (List.mem_rotate.mp isHit)

theorem searched_search (history : History) (term : String) (count : Nat) :
    (history.search term).2.searched term count = history.searched term (count + 1) := by
  induction count with
  | zero => rfl
  | succ count ih => rw [searched, ih]; rfl

/-- One more search adds what it finds. -/
theorem searches_succ (history : History) (term : String) (count : Nat) :
    history.searches term (count + 1) =
      history.searches term count ++ [((history.searched term count).search term).1] := by
  induction count generalizing history with
  | zero => rfl
  | succ count ih =>
      have later := ih (history.search term).2
      rw [searched_search] at later
      exact congrArg ((history.search term).1 :: ·) later

theorem searches_eq_route (matched : history.hits term ≠ []) (count : Nat) :
    history.searches term count = (history.route term count).map (history.entries[·]?) := by
  induction count with
  | zero => rfl
  | succ count ih =>
      obtain ⟨position, found⟩ := exists_found matched count
      rw [searches_succ, ih, search_searched matched found, route_succ, found, List.map_append]
      rfl

/-- The same history with its direction turned around. -/
def turnedAround (history : History) : History :=
  history.setDirection history.direction.opposite

/-- Once the direction of the last match is turned around, the hits come in the opposite
order. -/
theorem hits_turnedAround {position : Nat} :
    (history.anchored position).turnedAround.hits term =
      ((history.anchored position).hits term).reverse := by
  have changed : history.direction ≠ history.direction.opposite := by
    cases history.direction <;> exact SearchDirection.noConfusion
  have startEq : (history.anchored position).turnedAround.searchStart = position :=
    if_neg (mt Option.some.inj changed)
  rw [hits, startEq, hits, searchStart_anchored, List.filter_reverse.symm]
  congr 1
  exact SearchDirection.positions_opposite history.direction

theorem hits_searched_turnedAround (matched : history.hits term ≠ []) (count : Nat) :
    (history.searched term (count + 1)).turnedAround.hits term =
      ((history.hits term).rotate (count + 1)).reverse := by
  obtain ⟨position, found⟩ := exists_found matched count
  have lastEq : history.searched term (count + 1) = history.anchored position :=
    congrArg Prod.snd (search_searched matched found)
  rw [← (searched_of_hits matched (count + 1)).1, lastEq, hits_turnedAround]

/-- As many searches back as were made find the same positions, the last one first. -/
theorem route_turnedAround (matched : history.hits term ≠ []) (count : Nat) :
    (history.searched term count).turnedAround.route term count =
      (history.route term count).reverse := by
  cases count with
  | zero => rfl
  | succ count =>
      have hitsEq := hits_searched_turnedAround matched count
      have matchedBack : (history.searched term (count + 1)).turnedAround.hits term ≠ [] := by
        rw [hitsEq, Ne, List.reverse_eq_nil_iff, List.rotate_eq_nil_iff]
        exact matched
      rw [route_eq matchedBack, route_eq matched, hitsEq, ← List.filterMap_reverse]
      -- the search back of a number comes by the hit of the search as far from the end
      have headEq (back : Nat) (within : back ∈ List.range (count + 1)) :
          (((history.hits term).rotate (count + 1)).reverse.rotate back).head? =
            ((history.hits term).rotate (count - back)).head? := by
        have within := List.mem_range.mp within
        have onward : count + 1 - back = count - back + 1 := by omega
        rw [rotate_reverse_rotate _ (Nat.le_of_lt within), onward, ← List.rotate_rotate,
          List.head?_reverse, getLast?_rotate_one]
      have reversed : (List.range (count + 1)).reverse =
          (List.range (count + 1)).map (count - ·) := by
        rw [List.range_eq_range', List.reverse_range', ← List.range_eq_range']
        exact List.map_congr_left fun back _ => by omega
      rw [List.filterMap_congr headEq, reversed, List.filterMap_map]
      rfl

theorem hits_ne_nil
    (matched : ∃ entry ∈ history.entries, history.policy.accepts entry term = true) :
    history.hits term ≠ [] := by
  obtain ⟨entry, member, accepted⟩ := matched
  intro noHits
  have notFound : history.found? term = none := by rw [← head?_hits, noHits]; rfl
  rw [found?_eq_none_iff.mp notFound entry member] at accepted
  cases accepted

theorem searched_keeps (history : History) (term : String) (count : Nat) :
    (history.searched term count).entries = history.entries ∧
      (history.searched term count).policy = history.policy ∧
      (history.searched term count).direction = history.direction := by
  induction count with
  | zero => exact ⟨rfl, rfl, rfl⟩
  | succ count ih =>
      rw [searched, search]
      split <;> exact ih

/-- Any number of searches for a term that matches, made in one direction, find positions that
match; turned around, as many searches find the same positions, the last one first; and turned
around once more, as many find them in the first order again.  Each search gives the entry at
its position. -/
theorem searches_retrace (history : History) (direction : SearchDirection) (term : String)
    (count : Nat)
    (matched : ∃ entry ∈ history.entries, history.policy.accepts entry term = true) :
    let there := history.setDirection direction
    let back := (there.searched term count).setDirection direction.opposite
    let again := (back.searched term count).setDirection direction
    (there.route term count).length = count ∧
    (∀ position ∈ there.route term count, history.matchesAt term position = true) ∧
    back.route term count = (there.route term count).reverse ∧
    again.route term count = there.route term count ∧
    ∀ started ∈ [there, back, again],
      started.searches term count =
        (started.route term count).map (history.entries[·]?) := by
  intro there back again
  obtain ⟨thereEntries, therePolicy, thereDirection⟩ := there.searched_keeps term count
  obtain ⟨backEntries, backPolicy, backDirection⟩ := back.searched_keeps term count
  have backEntries : (back.searched term count).entries = history.entries :=
    backEntries.trans thereEntries
  have backPolicy : (back.searched term count).policy = history.policy :=
    backPolicy.trans therePolicy
  have turnedBack : back = (there.searched term count).turnedAround := by
    rw [turnedAround, thereDirection]
    rfl
  have turnedAgain : again = (back.searched term count).turnedAround := by
    rw [turnedAround, backDirection]
    exact congrArg (back.searched term count).setDirection direction.opposite_opposite.symm
  have matchedThere : there.hits term ≠ [] := hits_ne_nil matched
  have matchedBack : back.hits term ≠ [] := by
    apply hits_ne_nil
    rw [show back.entries = history.entries from thereEntries,
      show back.policy = history.policy from therePolicy]
    exact matched
  have matchedAgain : again.hits term ≠ [] := by
    apply hits_ne_nil
    rw [show again.entries = history.entries from backEntries,
      show again.policy = history.policy from backPolicy]
    exact matched
  have routeBack : back.route term count = (there.route term count).reverse := by
    rw [turnedBack, route_turnedAround matchedThere]
  have routeAgain : again.route term count = there.route term count := by
    rw [turnedAgain, route_turnedAround matchedBack, routeBack, List.reverse_reverse]
  have matching (position : Nat) (member : position ∈ there.route term count) :
      history.matchesAt term position = true :=
    @matchesAt_of_mem_route there term count position matchedThere member
  refine ⟨length_route matchedThere count, matching, routeBack, routeAgain, ?_⟩
  intro started isStarted
  simp only [List.mem_cons, List.not_mem_nil, or_false] at isStarted
  rcases isStarted with rfl | rfl | rfl
  · exact searches_eq_route matchedThere count
  · rw [searches_eq_route matchedBack, show back.entries = history.entries from thereEntries]
  · rw [searches_eq_route matchedAgain, show again.entries = history.entries from backEntries]

/-- Two of four entries match, and four searches find both of them twice. -/
theorem searches_retrace_around :
    let history : History :=
      { maxSize := 4, entries := ["ab", "c", "b", "d"], maxSize_pos := Nat.succ_pos 3 }
    let back := (history.searched "b" 4).setDirection .forward
    (∃ entry ∈ history.entries, history.policy.accepts entry "b" = true) ∧
      history.route "b" 4 = [2, 0, 2, 0] ∧ back.route "b" 4 = [0, 2, 0, 2] ∧
      back.searches "b" 4 = [some "ab", some "b", some "ab", some "b"] := by
  intro history back
  have matched : ∃ entry ∈ history.entries, history.policy.accepts entry "b" = true :=
    ⟨"b", by decide, by decide⟩
  have routeThere : history.route "b" 4 = [2, 0, 2, 0] := by decide
  obtain ⟨-, -, routeBack, -, gives⟩ := searches_retrace history .reverse "b" 4 matched
  have routeBack : back.route "b" 4 = [0, 2, 0, 2] :=
    routeBack.trans (congrArg List.reverse routeThere)
  have givesBack := gives back (List.mem_cons_of_mem _ List.mem_cons_self)
  exact ⟨matched, routeThere, routeBack, by rw [givesBack, routeBack]; rfl⟩

end History

end CookedMode
