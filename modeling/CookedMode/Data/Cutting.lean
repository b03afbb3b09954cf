/-!
# Cutting lists

A list is cut at each item of a kind, which is left out.  There is always one piece more
than there are cuts.
-/

namespace CookedMode

/-- The pieces of a list between the items of a kind. -/
def cutAt {α : Type} (isCut : α → Bool) : List α → List (List α)
  | [] => [[]]
  | item :: rest =>
    if isCut item then [] :: cutAt isCut rest
    else
      match cutAt isCut rest with
      | [] => [[item]]
      | first :: others => (item :: first) :: others

theorem cutAt_ne_nil {α : Type} (isCut : α → Bool) (items : List α) :
    cutAt isCut items ≠ [] := by
  cases items with
  | nil => simp [cutAt]
  | cons item rest =>
    simp only [cutAt]
    split
    · simp
    · split <;> simp

end CookedMode
