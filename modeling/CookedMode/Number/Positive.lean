/-!
# Positive numbers

Sizes and capacities are given as integers and have to be at least one.
-/

namespace CookedMode

theorem toNat_pos {value : Int} (atLeastOne : ¬value < 1) : 0 < value.toNat := by
  omega

end CookedMode
