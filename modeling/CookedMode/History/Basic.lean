import CookedMode.History.Search
import CookedMode.Number.Positive
import CookedMode.Permission

/-!
# The history of submitted lines

A history is a log of bounded size with two ways to recall its entries.  Fetching
steps linearly through the log and stops at both ends; every push puts the fetch
cursor past the newest entry.  Searching goes around the log and remembers its
last match and the direction of it across pushes.
-/

namespace CookedMode

/-- Where a search found its last match, and in which direction it went. -/
structure LastMatch where
  position : Nat
  direction : SearchDirection
  deriving DecidableEq, Repr

/-- A bounded log of entries, oldest first. -/
structure History where
  maxSize : Nat
  policy : SearchMatch := .contains
  permission : Permission := {}
  entries : List String := []
  enabled : Bool := true
  /-- The position of the last fetched entry; the length of the log if it lies
  past the newest one. -/
  fetchCursor : Nat := 0
  direction : SearchDirection := .reverse
  /-- The position of the last match, if there was one. -/
  lastPosition : Option Nat := none
  /-- The direction of the search that found it. -/
  lastDirection : Option SearchDirection := none
  maxSize_pos : 0 < maxSize
  deriving Repr

namespace History

/-- How many entries a history keeps unless said otherwise. -/
def standardSize : Nat := 500

/-- The size a history was to get is not positive. -/
structure SizeError where
  given : Int
  deriving DecidableEq, Repr

/-- The report of a refused size. -/
def SizeError.message (error : SizeError) : String :=
  "max_size must be at least 1, got " ++ toString error.given

/-- An empty history. -/
def of? (maxSize : Int) (policy : SearchMatch) (permission : Permission) :
    Except SizeError History :=
  if positive : maxSize < 1 then .error ⟨maxSize⟩
  else .ok { maxSize := maxSize.toNat, policy, permission, maxSize_pos := toNat_pos positive }

/-- The number of entries. -/
def size (history : History) : Nat := history.entries.length

/-- The last match, if both its position and its direction are known. -/
def lastMatch (history : History) : Option LastMatch :=
  match history.lastPosition, history.lastDirection with
  | some position, some direction => some { position, direction }
  | _, _ => none

/-- Evict the oldest entry if there are too many.  The last match moves along with
the entries. -/
def evict (history : History) : History :=
  if history.maxSize < history.entries.length then
    { history with
      entries := history.entries.tail
      lastPosition := history.lastPosition.map (· - 1) }
  else history

/-- Append an entry unless it equals the newest one. -/
def append (history : History) (entry : String) : History :=
  if history.entries.getLast? = some entry then history
  else { history with entries := history.entries ++ [entry] }.evict

/-- Submit an entry.  A disabled history ignores it. -/
def push (history : History) (entry : String) : History :=
  if history.enabled then
    let history := history.append entry
    { history with fetchCursor := history.size }
  else history

/-- Submit entries in order. -/
def pushAll (history : History) (entries : List String) : History :=
  entries.foldl push history

/-- Remove every entry and forget both cursors. -/
def clear (history : History) : History :=
  { history with entries := [], fetchCursor := 0, lastPosition := none, lastDirection := none }

/-- Take pushes again. -/
def enable (history : History) : History :=
  { history with enabled := true }

/-- Ignore pushes from now on. -/
def disable (history : History) : History :=
  { history with enabled := false }

/-- Put the fetch cursor on a position and give the entry there. -/
def fetchAt (history : History) (position : Nat) : Option String × History :=
  match history.entries[position]? with
  | some entry => (some entry, { history with fetchCursor := position })
  | none => (none, history)

/-- Step to the next older entry, stopping at the oldest. -/
def fetchPrevious (history : History) : Option String × History :=
  history.fetchAt (history.fetchCursor - 1)

/-- Step to the next newer entry, stopping at the newest. -/
def fetchNext (history : History) : Option String × History :=
  history.fetchAt (min (history.fetchCursor + 1) (history.size - 1))

/-- Choose the direction of the next search. -/
def setDirection (history : History) (direction : SearchDirection) : History :=
  { history with direction }

/-- The position the next search tests first: the neighbour of the last match if
the direction is still the same, the match itself if it has changed, and the end
of the log where the direction begins if nothing has matched. -/
def searchStart (history : History) : Nat :=
  match history.lastPosition with
  | none =>
    match history.direction with
    | .forward => 0
    | .reverse => history.size - 1
  | some position =>
    if history.lastDirection = some history.direction then
      history.direction.ahead history.size position 1
    else position

/-- Whether the entry at a position matches a term. -/
def matchesAt (history : History) (term : String) (position : Nat) : Bool :=
  history.entries[position]?.any (history.policy.accepts · term)

/-- The position the next search for a term finds. -/
def found? (history : History) (term : String) : Option Nat :=
  (history.direction.positions history.size history.searchStart).find?
    (history.matchesAt term)

/-- Find the next entry that matches a term.  A match also anchors the fetch
cursor; a search that finds nothing changes nothing. -/
def search (history : History) (term : String) : Option String × History :=
  match history.found? term with
  | some position =>
    (history.entries[position]?,
      { history with
        fetchCursor := position
        lastPosition := some position
        lastDirection := some history.direction })
  | none => (none, history)

/-- What a number of searches for the same term find, one after the other. -/
def searches (history : History) (term : String) : Nat → List (Option String)
  | 0 => []
  | count + 1 =>
    let (entry, history) := history.search term
    entry :: history.searches term count

/-- Why an entry cannot be looked up. -/
inductive LookupError where
  /-- No entry has this index. -/
  | outOfRange
  /-- The index does not fit into 64 bits. -/
  | tooLarge
  deriving DecidableEq, Repr

/-- The report of a failed lookup. -/
def LookupError.message : LookupError → String
  | outOfRange => "list index out of range"
  | tooLarge => "cannot fit 'int' into an index-sized integer"

/-- The entry of an index.  A negative index counts from the end. -/
def get? (history : History) (index : Int) : Except LookupError String :=
  if index < -0x8000000000000000 ∨ 0x8000000000000000 ≤ index then .error .tooLarge
  else
    let position := if index < 0 then index + history.size else index
    if position < 0 then .error .outOfRange
    else
      match history.entries[position.toNat]? with
      | some entry => .ok entry
      | none => .error .outOfRange

/-- The entries that are kept when the history is stored: the newest ones, as many
as the history may hold. -/
def kept (history : History) : List String :=
  history.entries.drop (history.entries.length - history.maxSize)

end History

end CookedMode
