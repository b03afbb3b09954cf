/-!
# Searching a log

A search has a direction and a policy that decides which entries match a term.
It visits every position of the log once, going around at the end.
-/

namespace CookedMode

/-- The direction of a search. -/
inductive SearchDirection where
  /-- Toward newer entries. -/
  | forward
  /-- Toward older entries. -/
  | reverse
  deriving DecidableEq, Repr

namespace SearchDirection

/-- Both directions. -/
def all : List SearchDirection := [.forward, .reverse]

/-- The name of a direction in reports. -/
def name : SearchDirection → String
  | forward => "forward"
  | reverse => "reverse"

/-- The direction of a name. -/
def ofName? (name : String) : Option SearchDirection :=
  all.find? (·.name == name)

/-- The other direction. -/
def opposite : SearchDirection → SearchDirection
  | forward => reverse
  | reverse => forward

@[simp] theorem opposite_opposite (direction : SearchDirection) :
    direction.opposite.opposite = direction := by
  cases direction <;> rfl

/-- The position a number of places further on in a log of a length, going around
at its end. -/
def ahead (direction : SearchDirection) (length position places : Nat) : Nat :=
  match direction with
  | forward => (position + places) % length
  | reverse => (position + length - places) % length

/-- Every position of a log, once each, in the order of a search that begins at
one of them. -/
def positions (direction : SearchDirection) (length start : Nat) : List Nat :=
  (List.range length).map (direction.ahead length start)

@[simp] theorem length_positions (direction : SearchDirection) (length start : Nat) :
    (direction.positions length start).length = length := by
  simp [positions]

end SearchDirection

/-- Whether a text occurs in another one. -/
def occursIn (term : List Char) : List Char → Bool
  | [] => term.isEmpty
  | entry@(_ :: rest) => term.isPrefixOf entry || occursIn term rest

/-- The policy that decides which entries match a term. -/
inductive SearchMatch where
  /-- The term occurs anywhere in the entry. -/
  | contains
  /-- The entry begins with the term. -/
  | leading
  deriving DecidableEq, Repr, Inhabited

namespace SearchMatch

/-- Both policies. -/
def all : List SearchMatch := [.contains, .leading]

/-- The name of a policy in configurations and reports. -/
def name : SearchMatch → String
  | contains => "contains"
  | leading => "prefix"

/-- The policy of a name. -/
def ofName? (name : String) : Option SearchMatch :=
  all.find? (·.name == name)

/-- Whether an entry matches a term. -/
def accepts (policy : SearchMatch) (entry term : String) : Bool :=
  match policy with
  | contains => occursIn term.toList entry.toList
  | leading => term.toList.isPrefixOf entry.toList

end SearchMatch

end CookedMode
