import Workflow.Decimal.Notation

/-!
# The shortest digits of a positive number

Whatever digits are chosen for a positive number, they are not zero: a grid point that reads back
is never the origin, and zeros are only taken from the end.

## Main results

* `Binary.shortest_digits_pos`: the digits of a positive number are positive.
* `split_mantissa_pos`: the magnitude of a double, if it has one, is positive.
-/

namespace Workflow.Decimal

/-- A grid point that reads back is not the origin. -/
theorem Binary.gridPoint?_pos {b : Binary} {scale : Int} {point : Nat}
    (found : b.gridPoint? scale = some point) : 0 < point := by
  unfold gridPoint? at found
  simp only at found
  grind

/-- Taking zeros from the end of positive digits leaves positive digits. -/
theorem Digits.trimmed_digits_pos (n : Nat) {d : Digits} (positive : 0 < d.digits) :
    0 < (Digits.trimmed n d).digits := by
  induction n generalizing d with
  | zero => exact positive
  | succ n ih =>
    rw [Digits.trimmed]
    split
    · next zero_last => exact ih (show 0 < d.digits / 10 by omega)
    · exact positive

/-- **The digits of a positive number are positive.** -/
theorem Binary.shortest_digits_pos {b : Binary} (positive : 0 < b.mantissa) :
    0 < b.shortest.digits := by
  unfold shortest
  refine Digits.trimmed_digits_pos 18 ?_
  cases found : (List.range 17).findSome? _ with
  | none => exact positive
  | some d =>
    obtain ⟨n, -, point⟩ := List.exists_of_findSome?_eq_some found
    obtain ⟨p, onGrid, rfl⟩ := Option.map_eq_some_iff.1 point
    exact gridPoint?_pos onGrid

/-- The magnitude of a double, if it has one, is positive. -/
theorem split_mantissa_pos {x : Float} {b : Binary} (magnitude : (split x).2 = some b) :
    0 < b.mantissa := by
  unfold split at magnitude
  simp only at magnitude
  grind [leadingBit]

end Workflow.Decimal
