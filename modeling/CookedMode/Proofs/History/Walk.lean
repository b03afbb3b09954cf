import CookedMode.Proofs.History.Newest
import CookedMode.Proofs.History.Recall

/-!
# Walking through the log

Fetches walk through the log one entry at a time.  A walk begins at an anchor: the place past
the newest entry, where a push puts the fetch cursor even if the entry is a repetition, or the
entry that a search has found.  It stops at both ends of the log, and since the fetch cursor
stops there as well, one step takes it back from an end however often it has stopped.
-/

namespace CookedMode.History

/-- Whether an operation is a fetch. -/
def Operation.isFetch : Operation → Bool
  | .fetchPrevious | .fetchNext => true
  | _ => false

/-- An operation that neither fetches nor anchors the fetch cursor: a push that is ignored, a
search that finds nothing, and whatever has to do with neither the log nor the cursor. -/
def Idles (history : History) : Operation → Prop
  | .push _ => history.enabled = false
  | .search term => (history.search term).1 = none
  | .setDirection _ | .enable | .disable => True
  | .fetchPrevious | .fetchNext | .clear => False

/-- Each operation of a run fetches, or idles in its turn. -/
def Strolls (history : History) : List Operation → Prop
  | [] => True
  | operation :: run =>
    (operation.isFetch = true ∨ history.Idles operation) ∧ (history.after operation).Strolls run

/-- The history after some operations. -/
def afterAll (history : History) (run : List Operation) : History :=
  run.foldl after history

/-- What the fetches of a run give, in order. -/
def fetched (history : History) : List Operation → List (Option String)
  | [] => []
  | .fetchPrevious :: run => history.fetchPrevious.1 :: history.fetchPrevious.2.fetched run
  | .fetchNext :: run => history.fetchNext.1 :: history.fetchNext.2.fetched run
  | operation :: run => (history.after operation).fetched run

/-- A history whose fetch cursor an operation has just put on a place. -/
inductive Anchored : Nat → History → Prop where
  /-- What was loaded lies before the cursor. -/
  | loaded {maxSize : Int} {policy : SearchMatch} {permission : Permission} {empty : History}
      (given : of? maxSize policy permission = .ok empty) (entries : List String) :
      Anchored (empty.pushAll entries).size (empty.pushAll entries)
  /-- A push puts it past the newest entry, be it the new one or the one it repeats. -/
  | pushed {history : History} (reachable : history.Reachable) (enabled : history.enabled = true)
      (entry : String) : Anchored (history.push entry).size (history.push entry)
  /-- A search puts it on the entry that it finds. -/
  | found {history : History} {term : String} {position : Nat} (reachable : history.Reachable)
      (foundEq : history.found? term = some position) :
      Anchored position (history.search term).2

/-- The positions at which the fetches of a run stop, from a place of the cursor. -/
def stops (size : Nat) : Nat → List Operation → List Nat
  | _, [] => []
  | cursor, .fetchPrevious :: run => (cursor - 1) :: stops size (cursor - 1) run
  | cursor, .fetchNext :: run =>
    min (cursor + 1) (size - 1) :: stops size (min (cursor + 1) (size - 1)) run
  | cursor, _ :: run => stops size cursor run

variable {history : History} {anchor : Nat} {run : List Operation}

theorem fetchCursor_push (enabled : history.enabled = true) (entry : String) :
    (history.push entry).fetchCursor = (history.push entry).size := by
  simp only [push, enabled, if_true, size]

theorem fetchCursor_pushAll (enabled : history.enabled = true)
    (cursor : history.fetchCursor = history.size) (entries : List String) :
    (history.pushAll entries).fetchCursor = (history.pushAll entries).size := by
  induction entries generalizing history with
  | nil => exact cursor
  | cons entry entries ih =>
      exact ih ((enabled_push history entry).trans enabled) (fetchCursor_push enabled entry)

theorem Anchored.fetchCursor_eq (anchored : Anchored anchor history) :
    history.fetchCursor = anchor := by
  cases anchored with
  | loaded given entries =>
      unfold of? at given
      split at given <;> cases given
      exact fetchCursor_pushAll rfl rfl entries
  | pushed _ enabled entry => exact fetchCursor_push enabled entry
  | found _ foundEq => rw [search, foundEq]

theorem Anchored.reachable (anchored : Anchored anchor history) : history.Reachable := by
  cases anchored with
  | loaded given entries => exact .loaded given entries
  | pushed reachable _ entry => exact .operated reachable (.push entry)
  | found reachable => exact .operated reachable (.search _)

theorem fetchAt_of_lt {position : Nat} (inLog : position < history.size) :
    history.fetchAt position =
      (history.entries[position]?, { history with fetchCursor := position }) := by
  have found : history.entries[position]? = some history.entries[position] :=
    List.getElem?_eq_getElem inLog
  rw [fetchAt, found]

theorem Idles.after_eq {operation : Operation} (idles : history.Idles operation) :
    (history.after operation).entries = history.entries ∧
      (history.after operation).fetchCursor = history.fetchCursor := by
  cases operation with
  | push entry => simp only [after, push_of_disabled idles, and_self]
  | search term => simp only [after, search_of_fst_eq_none idles, and_self]
  | fetchPrevious | fetchNext | clear => cases idles
  | setDirection | enable | disable => exact ⟨rfl, rfl⟩

theorem Idles.isFetch_eq {operation : Operation} (idles : history.Idles operation) :
    operation.isFetch = false := by
  cases operation with
  | fetchPrevious | fetchNext => cases idles
  | _ => rfl

theorem fetched_cons {operation : Operation} (noFetch : operation.isFetch = false) :
    history.fetched (operation :: run) = (history.after operation).fetched run := by
  cases operation with
  | fetchPrevious | fetchNext => cases noFetch
  | _ => rfl

section

variable {size cursor : Nat}

theorem stops_cons {operation : Operation} (noFetch : operation.isFetch = false) :
    stops size cursor (operation :: run) = stops size cursor run := by
  cases operation with
  | fetchPrevious | fetchNext => cases noFetch
  | _ => rfl

theorem stops_filter (size cursor : Nat) (run : List Operation) :
    stops size cursor (run.filter Operation.isFetch) = stops size cursor run := by
  induction run generalizing cursor with
  | nil => rfl
  | cons operation run ih =>
      cases operation with
      | fetchPrevious | fetchNext => exact congrArg (List.cons _) (ih _)
      | _ => exact ih cursor

/-- Each stop is in the log. -/
theorem lt_of_mem_stops (nonempty : 0 < size) (within : cursor ≤ size) :
    ∀ position ∈ stops size cursor run, position < size := by
  induction run generalizing cursor with
  | nil => simp [stops]
  | cons operation run ih =>
      cases operation with
      | fetchPrevious =>
          have inLog : cursor - 1 < size := by omega
          exact List.forall_mem_cons.mpr ⟨inLog, ih (Nat.le_of_lt inLog)⟩
      | fetchNext =>
          have inLog : min (cursor + 1) (size - 1) < size := by omega
          exact List.forall_mem_cons.mpr ⟨inLog, ih (Nat.le_of_lt inLog)⟩
      | _ => exact ih within

theorem stops_replicate_previous (back : Nat) :
    stops size cursor (List.replicate back .fetchPrevious ++ run) =
      (List.range back).map (fun step => cursor - (step + 1)) ++
        stops size (cursor - back) run := by
  induction back generalizing cursor with
  | zero => rfl
  | succ back ih =>
      have onward (step : Nat) : cursor - 1 - (step + 1) = cursor - (step + 1 + 1) := by omega
      have left : cursor - 1 - back = cursor - (back + 1) := by omega
      simp only [List.replicate_succ, List.cons_append, stops, ih, List.range_succ_eq_map,
        List.map_cons, List.map_map, Function.comp_def, Nat.succ_eq_add_one, onward, left,
        Nat.zero_add]

/-- Steps to newer entries. -/
theorem stops_replicate_next (forth : Nat) :
    stops size cursor (List.replicate forth .fetchNext) =
      (List.range forth).map fun step => min (cursor + (step + 1)) (size - 1) := by
  induction forth generalizing cursor with
  | zero => rfl
  | succ forth ih =>
      have onward (step : Nat) : min (min (cursor + 1) (size - 1) + (step + 1)) (size - 1) =
          min (cursor + (step + 1 + 1)) (size - 1) := by
        omega
      simp only [List.replicate_succ, stops, ih, List.range_succ_eq_map, List.map_cons,
        List.map_map, Function.comp_def, Nat.succ_eq_add_one, onward, Nat.zero_add]

end

/-- The fetches of a run give the entries at which they stop, and the log stays as it is. -/
theorem fetched_eq_stops (nonempty : 0 < history.size)
    (within : history.fetchCursor ≤ history.size) (strolls : history.Strolls run) :
    history.fetched run =
        (stops history.size history.fetchCursor run).map (history.entries[·]?) ∧
      (history.afterAll run).entries = history.entries := by
  -- along the run the log is the same one, and the cursor is where the last fetch has stopped
  induction run generalizing history with
  | nil => exact ⟨rfl, rfl⟩
  | cons operation run ih =>
      obtain ⟨fetchesOrIdles, later⟩ := strolls
      rcases fetchesOrIdles with fetches | idles
      · have fetchesAt {position : Nat} (inLog : position < history.size)
            (afterEq : history.after operation = (history.fetchAt position).2) :
            (history.after operation).fetched run =
                (stops history.size position run).map (history.entries[·]?) ∧
              ((history.after operation).afterAll run).entries = history.entries := by
          rw [fetchAt_of_lt inLog] at afterEq
          rw [afterEq] at later ⊢
          exact ih nonempty (Nat.le_of_lt inLog) later
        cases operation with
        | fetchPrevious =>
            have inLog : history.fetchCursor - 1 < history.size := by omega
            have given : history.fetchPrevious.1 = history.entries[history.fetchCursor - 1]? :=
              congrArg Prod.fst (fetchAt_of_lt inLog)
            obtain ⟨rest, entriesEq⟩ := fetchesAt inLog rfl
            exact ⟨List.cons_eq_cons.mpr ⟨given, rest⟩, entriesEq⟩
        | fetchNext =>
            have inLog : min (history.fetchCursor + 1) (history.size - 1) < history.size := by
              omega
            have given : history.fetchNext.1 = _ := congrArg Prod.fst (fetchAt_of_lt inLog)
            obtain ⟨rest, entriesEq⟩ := fetchesAt inLog rfl
            exact ⟨List.cons_eq_cons.mpr ⟨given, rest⟩, entriesEq⟩
        | _ => cases fetches
      · obtain ⟨entriesEq, cursorEq⟩ := idles.after_eq
        have sizeEq : (history.after operation).size = history.size :=
          congrArg List.length entriesEq
        rw [fetched_cons idles.isFetch_eq, stops_cons idles.isFetch_eq]
        have rest := ih (by rw [sizeEq]; exact nonempty) (by rw [sizeEq, cursorEq]; exact within)
          later
        rw [sizeEq, cursorEq, entriesEq] at rest
        exact rest

/-- Steps from past the newest entry to beyond the oldest one: all entries, newest first, and
then the oldest one again. -/
theorem map_range_eq_reverse (entries : List String) (more : Nat) :
    (List.range (entries.length + more)).map (fun step => entries[entries.length - (step + 1)]?) =
      entries.reverse.map some ++ List.replicate more entries.head? := by
  rw [List.range_add, List.map_append, List.map_map]
  congr 1
  · apply List.ext_getElem
    · simp
    · intro step inRange inEntries
      have position : entries.length - (step + 1) = entries.length - 1 - step := by omega
      simp only [List.length_map, List.length_range] at inRange
      have inLog : entries.length - 1 - step < entries.length := by omega
      simp only [List.getElem_map, List.getElem_range, List.getElem_reverse, position,
        List.getElem?_eq_getElem inLog]
  · apply List.eq_replicate_iff.mpr
    refine ⟨by simp, fun answer member => ?_⟩
    obtain ⟨step, -, rfl⟩ := List.mem_map.mp member
    have oldest : entries.length - (entries.length + step + 1) = 0 := by omega
    simp only [Function.comp_apply, oldest, List.head?_eq_getElem?]

/-- From its anchor, a walk is linear.  Whatever else has been asked of the history in between,
as long as nothing has anchored the cursor anew: steps back give the entries before the anchor one
after the other, and the oldest one again once it is reached; steps forth after them give the
entries after the last one, and the newest one again once that is reached, so steps at the end of
the log do not count.  From past the newest entry, as many steps back as there are entries list all
of them, newest first. -/
theorem fetched_walk (anchored : Anchored anchor history) (nonempty : history.entries ≠ [])
    (strolls : history.Strolls run) {back forth : Nat}
    (steps : run.filter Operation.isFetch =
      List.replicate back .fetchPrevious ++ List.replicate forth .fetchNext) :
    history.fetched run =
      ((List.range back).map fun step => history.entries[anchor - (step + 1)]?) ++
        ((List.range forth).map fun step =>
          history.entries[min (anchor - back + (step + 1)) (history.size - 1)]?) ∧
    (∀ answer ∈ history.fetched run, answer.isSome) ∧
    (history.afterAll run).entries = history.entries ∧
    (anchor = history.size → history.size ≤ back →
      history.fetched run =
        history.entries.reverse.map some ++
          List.replicate (back - history.size) history.entries.head? ++
          (List.range forth).map fun step =>
            history.entries[min (step + 1) (history.size - 1)]?) := by
  have positive : 0 < history.size := List.length_pos_iff.mpr nonempty
  have within := anchored.reachable.sound.cursor
  have cursorEq := anchored.fetchCursor_eq
  obtain ⟨fetchedEq, entriesEq⟩ := fetched_eq_stops positive within strolls
  have given : ∀ answer ∈ history.fetched run, answer.isSome := by
    intro answer member
    rw [fetchedEq] at member
    obtain ⟨position, stop, rfl⟩ := List.mem_map.mp member
    have inLog : position < history.entries.length :=
      lt_of_mem_stops positive within position stop
    rw [List.getElem?_eq_getElem inLog]
    rfl
  have walk : history.fetched run =
      ((List.range back).map fun step => history.entries[anchor - (step + 1)]?) ++
        ((List.range forth).map fun step =>
          history.entries[min (anchor - back + (step + 1)) (history.size - 1)]?) := by
    rw [fetchedEq, ← stops_filter, steps, stops_replicate_previous, stops_replicate_next, cursorEq,
      List.map_append, List.map_map, List.map_map]
    rfl
  refine ⟨walk, given, entriesEq, fun pastNewest enough => ?_⟩
  obtain ⟨more, rfl⟩ := Nat.exists_eq_add_of_le enough
  have oldest : anchor - (history.size + more) = 0 := by omega
  rw [walk, oldest, pastNewest, size, Nat.add_sub_cancel_left, map_range_eq_reverse]
  simp only [Nat.zero_add]

/-- A repetition of the newest entry is the anchor.  The walk goes to the oldest entry and stops
there twice; pushes are ignored by then, and a search finds nothing.  One step forth leads to the
entry after the oldest one. -/
theorem fetched_walk_clamped :
    let empty : History := { maxSize := 9, maxSize_pos := by decide }
    let history := (empty.pushAll ["a", "b", "c"]).push "c"
    let run : List Operation :=
      [.fetchPrevious, .disable, .push "d", .fetchPrevious, .search "e", .fetchPrevious,
        .setDirection .forward, .fetchPrevious, .fetchPrevious, .fetchNext]
    Anchored 3 history ∧ history.entries ≠ [] ∧ history.Strolls run ∧
      run.filter Operation.isFetch =
        List.replicate 5 .fetchPrevious ++ List.replicate 1 .fetchNext ∧
      history.fetched run = [some "c", some "b", some "a", some "a", some "a", some "b"] := by
  intro empty history run
  have given : of? 9 .contains {} = .ok empty := rfl
  have anchored : Anchored 3 history := .pushed (.loaded given ["a", "b", "c"]) (by decide) "c"
  have nonempty : history.entries ≠ [] := by decide
  let searched :=
    (((history.after .fetchPrevious).after .disable).after (.push "d")).after .fetchPrevious
  have unmatched : (searched.search "e").1 = none := by decide
  have strolls : history.Strolls run :=
    ⟨.inl rfl, .inr trivial, .inr rfl, .inl rfl, .inr unmatched, .inl rfl, .inr trivial,
      .inl rfl, .inl rfl, .inl rfl, trivial⟩
  have steps : run.filter Operation.isFetch =
      List.replicate 5 .fetchPrevious ++ List.replicate 1 .fetchNext := rfl
  obtain ⟨-, -, -, lists⟩ := fetched_walk anchored nonempty strolls steps
  have entriesEq : history.entries = ["a", "b", "c"] := by decide
  have listed := lists (by decide) (by decide)
  rw [size, entriesEq] at listed
  exact ⟨anchored, nonempty, strolls, steps, listed⟩

end CookedMode.History
