import CookedMode.History.Search
import Mathlib.Data.Int.ModEq
import Mathlib.Data.List.Perm.Subperm
import Mathlib.Data.List.Rotate

/-!
# Going around a log

To go around a log in either direction is to count modulo its length.  The positions that a
search visits are therefore all positions of the log, once each, and a search that begins
further on visits them in rotated order.
-/

namespace CookedMode.SearchDirection

variable {length : Nat}

/-- What one place in a direction adds to a position. -/
def stride : SearchDirection → Int
  | forward => 1
  | reverse => -1

theorem ahead_eq_emod (direction : SearchDirection) {places : Nat} (start : Nat)
    (once : places ≤ length) :
    (direction.ahead length start places : Int) =
      (start + direction.stride * places) % length := by
  cases direction with
  | forward => simp [ahead, stride]
  | reverse =>
      have split : ((start + length - places : Nat) : Int) = start + -1 * places + length := by
        omega
      rw [ahead, Int.natCast_mod, split, Int.add_emod_right, stride]

theorem ahead_lt (direction : SearchDirection) (start places : Nat) (positive : 0 < length) :
    direction.ahead length start places < length := by
  cases direction <;> exact Nat.mod_lt _ positive

theorem ahead_zero (direction : SearchDirection) {position : Nat} (inLog : position < length) :
    direction.ahead length position 0 = position := by
  cases direction with
  | forward => exact Nat.mod_eq_of_lt inLog
  | reverse => rw [ahead, Nat.sub_zero, Nat.add_mod_right, Nat.mod_eq_of_lt inLog]

theorem ahead_length (direction : SearchDirection) {position : Nat} (inLog : position < length) :
    direction.ahead length position length = position := by
  cases direction with
  | forward => rw [ahead, Nat.add_mod_right, Nat.mod_eq_of_lt inLog]
  | reverse => rw [ahead, Nat.add_sub_cancel, Nat.mod_eq_of_lt inLog]

theorem ahead_ahead_eq_emod (direction : SearchDirection) {places more : Nat} (start : Nat)
    (first : places ≤ length) (second : more ≤ length) :
    (direction.ahead length (direction.ahead length start places) more : Int) =
      (start + direction.stride * (places + more : Nat)) % length := by
  rw [ahead_eq_emod direction _ second, ahead_eq_emod direction _ first, Int.emod_add_emod,
    Int.natCast_add, Int.mul_add, Int.add_assoc]

theorem ahead_ahead (direction : SearchDirection) {places more : Nat} (start : Nat)
    (once : places + more ≤ length) :
    direction.ahead length (direction.ahead length start places) more =
      direction.ahead length start (places + more) := by
  apply Int.ofNat_inj.mp
  rw [ahead_ahead_eq_emod direction _ (Nat.le_of_add_right_le once)
    (Nat.le_of_add_left_le once), ahead_eq_emod direction _ once]

/-- Whole rounds do not count. -/
theorem ahead_ahead_eq_mod (direction : SearchDirection) {places more : Nat} (start : Nat)
    (first : places ≤ length) (second : more ≤ length) (positive : 0 < length) :
    direction.ahead length (direction.ahead length start places) more =
      direction.ahead length start ((places + more) % length) := by
  apply Int.ofNat_inj.mp
  rw [ahead_ahead_eq_emod direction _ first second,
    ahead_eq_emod direction _ (Nat.le_of_lt (Nat.mod_lt _ positive)), Int.natCast_mod]
  have around := (Int.mod_modEq ((places + more : Nat) : Int) length).mul_left direction.stride
  exact (around.add_left start).symm

/-- No position comes twice within one round. -/
theorem ahead_inj (direction : SearchDirection) {places others start : Nat}
    (first : places < length) (second : others < length)
    (same : direction.ahead length start places = direction.ahead length start others) :
    places = others := by
  have sameMod : (start + direction.stride * places : Int) ≡
      start + direction.stride * others [ZMOD length] := by
    have := congrArg (Nat.cast : Nat → Int) same
    rwa [ahead_eq_emod direction _ (Nat.le_of_lt first),
      ahead_eq_emod direction _ (Nat.le_of_lt second)] at this
  have sameUnits := Int.ModEq.add_left_cancel' _ sameMod
  have sameNat : places ≡ others [MOD length] := by
    apply Int.natCast_modEq_iff.mp
    cases direction with
    | forward => simpa [stride] using sameUnits
    | reverse => simpa [stride] using sameUnits.neg
  exact sameNat.eq_of_lt_of_lt first second

@[simp] theorem getElem_positions (direction : SearchDirection) (start : Nat) {places : Nat}
    (within : places < (direction.positions length start).length) :
    (direction.positions length start)[places] = direction.ahead length start places := by
  simp [positions]

theorem nodup_positions (direction : SearchDirection) (length start : Nat) :
    (direction.positions length start).Nodup := by
  apply List.Nodup.map_on _ List.nodup_range
  intro places first others second same
  exact direction.ahead_inj (List.mem_range.mp first) (List.mem_range.mp second) same

/-- A search visits every position of the log. -/
theorem positions_perm_range (direction : SearchDirection) (length start : Nat) :
    (direction.positions length start).Perm (List.range length) := by
  have inLog : direction.positions length start ⊆ List.range length := by
    intro position member
    obtain ⟨places, within, rfl⟩ := List.mem_map.mp member
    have positive : 0 < length := Nat.zero_lt_of_lt (List.mem_range.mp within)
    exact List.mem_range.mpr (direction.ahead_lt start places positive)
  have within := List.subperm_of_subset (nodup_positions direction length start) inLog
  exact within.perm_of_length_le (by simp)

theorem mem_positions (direction : SearchDirection) {start position : Nat} :
    position ∈ direction.positions length start ↔ position < length := by
  rw [(direction.positions_perm_range length start).mem_iff, List.mem_range]

/-- A search that begins some places further on visits the positions in rotated order. -/
theorem positions_ahead (direction : SearchDirection) {places : Nat} (start : Nat)
    (within : places ≤ length) :
    direction.positions length (direction.ahead length start places) =
      (direction.positions length start).rotate places := by
  apply List.ext_getElem
  · simp
  · intro index first second
    have index_lt : index < length := by simpa using first
    rw [List.getElem_rotate, getElem_positions, getElem_positions,
      ahead_ahead_eq_mod direction start within (Nat.le_of_lt index_lt)
        (Nat.zero_lt_of_lt index_lt)]
    simp [Nat.add_comm]

end CookedMode.SearchDirection
