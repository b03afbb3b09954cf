/-!
# Ranges of characters

A class of characters is a table of inclusive ranges of code points.
-/

namespace CookedMode.Text

/-- Whether a character lies in one of the ranges of a table. -/
def inRanges (ranges : Array (Nat × Nat)) (char : Char) : Bool :=
  ranges.any fun (first, last) => first ≤ char.toNat && char.toNat ≤ last

end CookedMode.Text
