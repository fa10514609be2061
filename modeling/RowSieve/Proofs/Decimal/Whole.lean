import Mathlib.Algebra.Ring.Int.Defs
import RowSieve.Decimal.Scaled

/-!
# Whole numbers of 64 bits

Of the whole numbers, those between `-2 ^ 63` and `2 ^ 63` have 64 bits, and only for these is
`Int64.ofInt` undone by `Int64.toInt`; every other number would wrap around.  A decimal that is
turned into 64 bits, having nothing but zeros after its point, is that number (`Scaled.Is`).
-/

namespace RowSieve

namespace Decimal

theorem fitsInt64_iff {n : Int} : fitsInt64 n = true ↔ -2 ^ 63 ≤ n ∧ n < 2 ^ 63 := by
  simp only [fitsInt64, Bool.and_eq_true, decide_eq_true_eq]

/-- A number that fits does not wrap around. -/
theorem toInt_ofInt_of_fits {n : Int} (h : fitsInt64 n = true) : (Int64.ofInt n).toInt = n :=
  have ⟨hlow, hhigh⟩ := fitsInt64_iff.1 h
  Int64.toInt_ofInt_of_le hlow hhigh

namespace Scaled

variable {d : Scaled} {n : Int64}

/-- The decimal is this whole number. -/
def Is (d : Scaled) (n : Int) : Prop := d.units d.scale = n * 10 ^ d.scale

/-- A decimal without digits after the point is a whole number. -/
theorem isInteger_of_scale_eq_zero (h : d.scale = 0) : d.isInteger = true := by
  simp [isInteger, h, Nat.mod_one]

theorem scale_roundTo_zero (d : Scaled) : (d.roundTo 0).scale = 0 := by
  unfold roundTo
  split
  next h => exact Nat.le_zero.1 h
  next => split <;> rfl

/-- **What is turned into 64 bits is the number itself.** -/
theorem is_of_toInt64? (hwhole : d.isInteger = true) (h : d.toInt64? = some n) :
    d.Is n.toInt := by
  have hdvd : d.magnitude / 10 ^ d.scale * 10 ^ d.scale = d.magnitude :=
    Nat.div_mul_cancel (Nat.dvd_of_mod_eq_zero (by simpa [isInteger] using hwhole))
  have hcast : (d.magnitude : Int) / 10 ^ d.scale * 10 ^ d.scale = d.magnitude := by
    exact_mod_cast hdvd
  obtain ⟨hfits, hn⟩ := Option.ite_none_right_eq_some.1 h
  cases hn
  rw [Is, toInt_ofInt_of_fits hfits]
  cases hsign : d.negative <;> simp [units, hsign, hcast]

end Scaled

end Decimal

end RowSieve
