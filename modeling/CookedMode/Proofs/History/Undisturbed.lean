import CookedMode.Proofs.History.Newest
import CookedMode.Proofs.History.Recall

/-!
# Searches are not disturbed

The two ways to recall entries share one log, but a search depends neither on the fetch cursor
nor on a direction that is replaced before it is used.  So the operations that change nothing
else can be left out of a run, any number of them: the other operations show the same.
-/

namespace CookedMode

/-- The items of a list whose positions are not left out. -/
def leaveOut {α : Type} (omitted : Nat → Bool) : List α → List α
  | [] => []
  | item :: rest =>
    if omitted 0 then leaveOut (fun position => omitted (position + 1)) rest
    else item :: leaveOut (fun position => omitted (position + 1)) rest

namespace History

/-- A history with another fetch cursor and another direction of the next search. -/
def turned (history : History) (cursor : Nat) (direction : SearchDirection) : History :=
  { history with fetchCursor := cursor, direction }

theorem append_turned (history : History) (entry : String) (cursor : Nat)
    (direction : SearchDirection) :
    (history.turned cursor direction).append entry =
      (history.append entry).turned cursor direction := by
  unfold append evict turned
  simp only
  split
  · rfl
  · split <;> rfl

theorem exists_push_turned (history : History) (entry : String) (cursor : Nat)
    (direction : SearchDirection) :
    ∃ next, (history.turned cursor direction).push entry =
      (history.push entry).turned next direction := by
  have sameEnabled : (history.turned cursor direction).enabled = history.enabled := rfl
  unfold push
  rw [sameEnabled, append_turned]
  split
  · exact ⟨(history.append entry).size, rfl⟩
  · exact ⟨cursor, rfl⟩

/-- A repetition of the newest entry moves nothing but the fetch cursor. -/
theorem exists_push_of_newest {history : History} {entry : String}
    (newest : history.entries.getLast? = some entry) :
    ∃ next, history.push entry = history.turned next history.direction := by
  unfold push append
  rw [if_pos newest]
  split
  · exact ⟨history.size, rfl⟩
  · exact ⟨history.fetchCursor, rfl⟩

@[simp] theorem direction_push (history : History) (entry : String) :
    (history.push entry).direction = history.direction := by
  unfold push append evict
  split
  · split
    · rfl
    · split <;> rfl
  · rfl

theorem exists_fetchAt (history : History) (position : Nat) :
    ∃ next, (history.fetchAt position).2 = history.turned next history.direction := by
  unfold fetchAt
  split
  · exact ⟨position, rfl⟩
  · exact ⟨history.fetchCursor, rfl⟩

theorem exists_fetchAt_turned (history : History) (position other cursor : Nat)
    (direction : SearchDirection) :
    ∃ next, ((history.turned cursor direction).fetchAt other).2 =
      (history.fetchAt position).2.turned next direction := by
  obtain ⟨here, fetchEq⟩ := history.exists_fetchAt position
  obtain ⟨next, otherEq⟩ := (history.turned cursor direction).exists_fetchAt other
  exact ⟨next, by rw [fetchEq, otherEq]; rfl⟩

@[simp] theorem direction_fetchAt (history : History) (position : Nat) :
    (history.fetchAt position).2.direction = history.direction := by
  obtain ⟨next, fetchEq⟩ := history.exists_fetchAt position
  rw [fetchEq]
  rfl

theorem exists_search_turned (history : History) (term : String) (cursor : Nat) :
    ∃ next, (history.turned cursor history.direction).search term =
      ((history.search term).1, (history.search term).2.turned next history.direction) := by
  have sameFound : (history.turned cursor history.direction).found? term = history.found? term :=
    rfl
  unfold search
  rw [sameFound]
  cases history.found? term with
  | some position => exact ⟨position, rfl⟩
  | none => exact ⟨cursor, rfl⟩

@[simp] theorem direction_search (history : History) (term : String) :
    (history.search term).2.direction = history.direction := by
  unfold search
  split <;> rfl

end History

namespace KeptHistory

/-- What shows of an operation: what it finds, if it is a search, and the entries after it. -/
structure Sight where
  found : Option String
  entries : List String
  deriving DecidableEq, Repr

/-- Whether the direction of the next search is chosen anew before that search. -/
def overwritten : List Operation → Bool
  | [] => false
  | .on (.setDirection _) :: _ => true
  | .on (.search _) :: _ => false
  | _ :: rest => overwritten rest

namespace InUse

/-- What an operation finds, if it is a search. -/
def answer (state : InUse) : Operation → Option String
  | .on (.search term) => (state.kept.history.search term).1
  | _ => none

/-- What shows of some operations, one after the other. -/
def sights (state : InUse) : List Operation → List Sight
  | [] => []
  | operation :: rest =>
    { found := state.answer operation, entries := (state.after operation).entries } ::
      (state.after operation).sights rest

/-- The operations that no search depends on, with those that are to come later: fetches, pushes
that do not count or are collapsed, searches that find nothing, and directions that are chosen
anew before the next search. -/
inductive Idle (state : InUse) (later : List Operation) : Operation → Prop where
  | fetchPrevious : Idle state later (.on .fetchPrevious)
  | fetchNext : Idle state later (.on .fetchNext)
  | disabled (entry : String) (disabled : state.kept.history.enabled = false) :
      Idle state later (.on (.push entry))
  | collapsed (entry : String) (newest : state.entries.getLast? = some entry) :
      Idle state later (.on (.push entry))
  | unmatched (term : String) (nothing : (state.kept.history.search term).1 = none) :
      Idle state later (.on (.search term))
  | overwritten (direction : SearchDirection) (overwritten : overwritten later = true) :
      Idle state later (.on (.setDirection direction))

/-- The state with another fetch cursor and another direction of the next search. -/
def turned (state : InUse) (cursor : Nat) (direction : SearchDirection) : InUse :=
  { state with kept :=
      { state.kept with history := state.kept.history.turned cursor direction } }

/-- Two states differ at most in the fetch cursor, and in the direction of the next search if
the operations to come choose it anew. -/
def Alike (later : List Operation) (state other : InUse) : Prop :=
  ∃ cursor direction, other = state.turned cursor direction ∧
    (overwritten later = false → direction = state.kept.history.direction)

variable {state other : InUse} {operation : Operation} {later : List Operation}

theorem Alike.refl (state : InUse) (later : List Operation) : Alike later state state :=
  ⟨state.kept.history.fetchCursor, state.kept.history.direction, rfl, fun _ => rfl⟩

theorem Alike.entries (alike : Alike later state other) : other.entries = state.entries := by
  obtain ⟨cursor, direction, rfl, -⟩ := alike
  rfl

theorem after_on_turned {operation : History.Operation} {cursor next : Nat}
    {direction chosen : SearchDirection}
    (afterEq : (state.kept.history.turned cursor direction).after operation =
      (state.kept.history.after operation).turned next chosen) :
    (state.turned cursor direction).after (.on operation) =
      (state.after (.on operation)).turned next chosen := by
  simp only [after, turned, afterEq]

/-- An operation shows the same in states that are alike, and leaves them alike. -/
theorem Alike.stays (alike : Alike (operation :: later) state other) :
    other.answer operation = state.answer operation ∧
      Alike later (state.after operation) (other.after operation) := by
  obtain ⟨cursor, direction, rfl, same⟩ := alike
  cases operation with
  | keep => exact ⟨rfl, cursor, direction, rfl, same⟩
  | on operation =>
      cases operation with
      | push entry =>
          obtain ⟨next, pushEq⟩ := state.kept.history.exists_push_turned entry cursor direction
          refine ⟨rfl, next, direction, after_on_turned pushEq, fun pending => ?_⟩
          exact (same pending).trans (state.kept.history.direction_push entry).symm
      | fetchPrevious =>
          obtain ⟨next, fetchEq⟩ := state.kept.history.exists_fetchAt_turned
            (state.kept.history.fetchCursor - 1) (cursor - 1) cursor direction
          refine ⟨rfl, next, direction, after_on_turned fetchEq, fun pending => ?_⟩
          exact (same pending).trans (state.kept.history.direction_fetchAt _).symm
      | fetchNext =>
          obtain ⟨next, fetchEq⟩ := state.kept.history.exists_fetchAt_turned
            (min (state.kept.history.fetchCursor + 1) (state.kept.history.size - 1))
            (min (cursor + 1) (state.kept.history.size - 1)) cursor direction
          refine ⟨rfl, next, direction, after_on_turned fetchEq, fun pending => ?_⟩
          exact (same pending).trans (state.kept.history.direction_fetchAt _).symm
      | search term =>
          -- a search uses the direction, so it has not been chosen anew
          obtain rfl : direction = state.kept.history.direction := same rfl
          obtain ⟨next, searchEq⟩ := state.kept.history.exists_search_turned term cursor
          have answerEq := congrArg Prod.fst searchEq
          have afterEq := congrArg Prod.snd searchEq
          refine ⟨answerEq, next, _, after_on_turned afterEq, fun _ => ?_⟩
          exact (state.kept.history.direction_search term).symm
      | setDirection chosen => exact ⟨rfl, cursor, chosen, rfl, fun _ => rfl⟩
      | clear => exact ⟨rfl, 0, direction, rfl, same⟩
      | enable => exact ⟨rfl, cursor, direction, rfl, same⟩
      | disable => exact ⟨rfl, cursor, direction, rfl, same⟩

/-- Leaving out an idle operation leaves states alike. -/
theorem Alike.goes (alike : Alike (operation :: later) state other)
    (idle : state.Idle later operation) : Alike later (state.after operation) other := by
  obtain ⟨cursor, direction, rfl, same⟩ := alike
  -- an operation that moves at most the fetch cursor is undone by setting the cursor
  have of_moved {operation : History.Operation} (next : Nat)
      (moved : state.kept.history.after operation =
        state.kept.history.turned next state.kept.history.direction)
      (pending : overwritten later = false → direction = state.kept.history.direction) :
      Alike later (state.after (.on operation)) (state.turned cursor direction) := by
    refine ⟨cursor, direction, ?_, ?_⟩
    · simp only [after, moved]
      rfl
    · simp only [after, moved]
      exact pending
  cases idle with
  | fetchPrevious =>
      obtain ⟨next, moved⟩ := state.kept.history.exists_fetchAt _
      exact of_moved next moved same
  | fetchNext =>
      obtain ⟨next, moved⟩ := state.kept.history.exists_fetchAt _
      exact of_moved next moved same
  | disabled entry disabled =>
      have moved := History.push_of_disabled disabled entry
      exact of_moved state.kept.history.fetchCursor moved same
  | collapsed entry newest =>
      obtain ⟨next, moved⟩ := History.exists_push_of_newest newest
      exact of_moved next moved same
  | unmatched term nothing =>
      have moved := congrArg Prod.snd (History.search_of_fst_eq_none nothing)
      exact of_moved state.kept.history.fetchCursor moved fun _ => same rfl
  | overwritten chosen overwritten =>
      refine ⟨cursor, direction, rfl, fun pending => ?_⟩
      rw [overwritten] at pending
      cases pending

/-- Whatever is left out of a run is idle when its turn comes. -/
def OmitsIdle (start : InUse) (run : List Operation) (omitted : Nat → Bool) : Prop :=
  ∀ position operation, omitted position = true → run[position]? = some operation →
    (start.afterAll (run.take position)).Idle (run.drop (position + 1)) operation

/-- Runs from states that are alike show the same, except for what is left out of one of
them. -/
theorem Alike.sights {run : List Operation} {omitted : Nat → Bool} (alike : Alike run state other)
    (idle : state.OmitsIdle run omitted) :
    other.sights (leaveOut omitted run) = leaveOut omitted (state.sights run) := by
  induction run generalizing state other omitted with
  | nil => rfl
  | cons first run ih =>
      have idleLater : (state.after first).OmitsIdle run fun position => omitted (position + 1) :=
        fun position operation left found => idle (position + 1) operation left found
      rw [InUse.sights, leaveOut, leaveOut]
      split
      case isTrue left => exact ih (alike.goes (idle 0 first left rfl)) idleLater
      case isFalse =>
        obtain ⟨sameAnswer, stillAlike⟩ := alike.stays
        rw [InUse.sights, sameAnswer, stillAlike.entries, ih stillAlike idleLater]

end InUse

/-- Any set of idle operations can be left out of a run: fetches, pushes that do not count or
are collapsed, searches that find nothing, and directions that are chosen anew before the next
search.  Every other operation finds what it found, if it is a search, and leaves the entries
that it left. -/
theorem sights_leaveOut (start : InUse) (run : List Operation) (omitted : Nat → Bool)
    (idle : start.OmitsIdle run omitted) :
    start.sights (leaveOut omitted run) = leaveOut omitted (start.sights run) :=
  (InUse.Alike.refl start run).sights idle

/-- Between two searches, one operation of each kind is left out, and a push that evicts the
oldest entry stays. -/
theorem sights_leaveOut_between :
    let history : History :=
      { maxSize := 3, entries := ["x", "ab", "a"], maxSize_pos := Nat.succ_pos 2 }
    let start : InUse := { kept := { history }, files := {} }
    let run : List Operation :=
      [.on (.search "a"), .on .fetchPrevious, .on (.push "a"), .on (.push "b"),
        .on (.setDirection .forward), .on .fetchNext, .on (.search "no"),
        .on (.setDirection .forward), .on .disable, .on (.push "c"),
        .on (.setDirection .reverse), .keep, .on (.search "a")]
    let omitted : Nat → Bool := fun position => [1, 2, 5, 6, 7, 9].contains position
    start.OmitsIdle run omitted ∧
      (start.sights (leaveOut omitted run)).filterMap Sight.found = ["a", "ab"] := by
  intro history start run omitted
  have idle : start.OmitsIdle run omitted := by
    intro position operation left found
    have isOmitted : position ∈ [1, 2, 5, 6, 7, 9] := by simpa [omitted] using left
    simp only [List.mem_cons, List.not_mem_nil, or_false] at isOmitted
    rcases isOmitted with rfl | rfl | rfl | rfl | rfl | rfl <;> cases Option.some.inj found
    · exact .fetchPrevious
    · exact .collapsed "a" (by decide)
    · exact .fetchNext
    · exact .unmatched "no" (by decide)
    · exact .overwritten .forward rfl
    · exact .disabled "c" rfl
  have same := sights_leaveOut start run omitted idle
  exact ⟨idle, by rw [same]; decide⟩

end KeptHistory

end CookedMode
