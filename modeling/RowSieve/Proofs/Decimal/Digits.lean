import Mathlib.Data.Nat.Digits.Defs
import RowSieve.Decimal.Shortest

/-!
# Digits

The decimal digits of a whole number are its own (`digitsValue_toDigits`), and the first of them is
a zero only if the number is (`ne_zero_of_toDigits`).

The search for the shortest digits of a double begins where the first digit of the number stands
(`scaleDown_le`).  So it never ends with no digits at all, and only zero has the digits of zero
(`shortest_ne_zero`).
-/

namespace RowSieve

namespace Decimal

variable {n num den : Nat} {c : Char} {cs : List Char} {power : Int} {nearest : Nat → Nat → Nat}

/-! ### Whole numbers -/

theorem all_isDigit_toDigits (n : Nat) : (Nat.toDigits 10 n).all Char.isDigit = true :=
  List.all_eq_true.2 fun _ hc => Nat.isDigit_of_mem_toDigits (by decide) (by decide) hc

/-- The digits of a number stand for it. -/
theorem digitsValue_toDigits (n : Nat) : digitsValue 0 (Nat.toDigits 10 n) = n := by
  rw [digitsValue, ← Nat.ofDigitChars_eq_foldl]
  exact Nat.ofDigitChars_ten_toDigits

theorem readDigits?_toDigits (n : Nat) : readDigits? (Nat.toDigits 10 n) = some n := by
  have hne : (Nat.toDigits 10 n).isEmpty = false := List.isEmpty_eq_false_iff.2 Nat.toDigits_ne_nil
  simp [readDigits?, hne, all_isDigit_toDigits, digitsValue_toDigits]

/-- A digit is no sign. -/
theorem splitSign_of_isDigit (hc : c.isDigit = true) : splitSign (c :: cs) = (false, c :: cs) := by
  unfold splitSign
  split
  next heq => cases heq; exact absurd hc (by decide)
  next heq => cases heq; exact absurd hc (by decide)
  next => rfl

theorem splitSign_toDigits (n : Nat) :
    splitSign (Nat.toDigits 10 n) = (false, Nat.toDigits 10 n) := by
  obtain ⟨c, ds, hds⟩ := List.exists_cons_of_ne_nil (Nat.toDigits_ne_nil (b := 10) (n := n))
  rw [hds]
  exact splitSign_of_isDigit (List.all_eq_true.1 (hds ▸ all_isDigit_toDigits n) c (.head _))

theorem digitChar_ne_zero : ∀ n < 10, n ≠ 0 → n.digitChar ≠ '0' := by decide

/-- The first digit is not zero. -/
theorem ne_zero_of_toDigits (hn : n ≠ 0) (h : Nat.toDigits 10 n = c :: cs) : c ≠ '0' := by
  induction n using Nat.strongRecOn generalizing cs with
  | ind n ih =>
    by_cases hlt : n < 10
    · rw [Nat.toDigits_of_lt_base hlt] at h
      cases h
      exact digitChar_ne_zero n hlt hn
    · -- All digits but the last one are those of a tenth.
      rw [Nat.toDigits_of_base_le (by decide) (by omega)] at h
      obtain ⟨d, ds, hds⟩ :=
        List.exists_cons_of_ne_nil (Nat.toDigits_ne_nil (b := 10) (n := n / 10))
      rw [hds] at h
      cases h
      exact ih (n / 10) (by omega) (by omega) hds

theorem digitCount_pos (n : Nat) : 0 < digitCount n := Nat.length_toDigits_pos

theorem lt_ten_pow_digitCount (n : Nat) : n < 10 ^ digitCount n :=
  (Nat.length_toDigits_le_iff (by decide) (digitCount_pos n)).1 (Nat.le_refl _)

theorem ten_pow_le_of_lt_digitCount (hn : n ≠ 0) {k : Nat} (hk : k < digitCount n) :
    10 ^ k ≤ n := by
  cases k with
  | zero => exact Nat.pos_of_ne_zero hn
  | succ k =>
    by_contra hlt
    have hle := (Nat.length_toDigits_le_iff (b := 10) (by decide) k.succ_pos).2
      (Nat.lt_of_not_le hlt)
    exact absurd hk (Nat.not_lt.2 hle)

/-! ### Where digits begin -/

theorem scaleDown_snd_pos (num : Nat) (hden : 0 < den) (power : Int) :
    0 < (scaleDown num den power).2 := by
  unfold scaleDown
  split
  · exact hden
  · exact Nat.mul_pos hden (Nat.pow_pos (by decide))

/-- From the power of its first digit on, a number has something before the point. -/
theorem scaleDown_le (hnum : 0 < num) (hden : 0 < den) (h : power ≤ leadingPower num den) :
    (scaleDown num den power).2 ≤ (scaleDown num den power).1 := by
  unfold leadingPower at h
  unfold scaleDown
  split
  next hneg =>
    split at h
    next hle => exact hle.trans (Nat.le_mul_of_pos_right _ (Nat.pow_pos (by decide)))
    next hlt =>
      -- As many places as the digits of the denominator's multiple make up for the denominator.
      have hcount : digitCount ((den + num - 1) / num - 1) ≤ power.natAbs := by omega
      have hmultiple := (lt_ten_pow_digitCount ((den + num - 1) / num - 1)).trans_le
        (Nat.pow_le_pow_right (by decide) hcount)
      have hdiv := Nat.lt_mul_div_succ (den + num - 1) hnum
      have hscale : num * ((den + num - 1) / num) ≤ num * 10 ^ power.natAbs :=
        Nat.mul_le_mul_left _ (by omega)
      rw [Nat.mul_add] at hdiv
      dsimp only
      omega
  next hpos =>
    split at h
    next hle =>
      have hquotient : num / den ≠ 0 := (Nat.div_pos hle hden).ne'
      have hpower := ten_pow_le_of_lt_digitCount hquotient (k := power.natAbs) (by omega)
      calc den * 10 ^ power.natAbs ≤ den * (num / den) := Nat.mul_le_mul_left _ hpower
        _ ≤ num := Nat.mul_div_le num den
    next hlt =>
      have := digitCount_pos ((den + num - 1) / num - 1)
      omega

/-! ### The shortest digits -/

variable (hnearest : ∀ num den, 0 < den → den ≤ num → nearest num den ≠ 0)

include hnearest

theorem searchGrids_ne_zero (hnum : 0 < num) (hden : 0 < den) {low high grids : Nat} {closed : Bool}
    (h : power ≤ leadingPower num den) :
    (searchGrids nearest num low high den closed grids power).1 ≠ 0 := by
  -- The power only goes down, so there is something before the point on every grid.
  induction grids generalizing power with
  | zero => exact hnearest _ _ (scaleDown_snd_pos num hden power) (scaleDown_le hnum hden h)
  | succ grids ih =>
    have hpos := scaleDown_snd_pos num hden power
    have hle := scaleDown_le hnum hden h
    rw [searchGrids]
    dsimp only
    split
    · exact hnearest _ _ hpos hle
    · split
      · exact (Nat.div_pos hle hpos).ne'
      · split
        · exact Nat.succ_ne_zero _
        · exact ih (by omega)

omit hnearest in
theorem trimZeros_ne_zero (fuel : Nat) {r : Nat × Int} (h : r.1 ≠ 0) :
    (trimZeros fuel r).1 ≠ 0 := by
  induction fuel generalizing r with
  | zero => exact h
  | succ fuel ih =>
    rw [trimZeros]
    split
    next hzero =>
      simp only [Bool.and_eq_true, decide_eq_true_eq] at hzero
      refine ih ?_
      dsimp only
      omega
    next => exact h

/-- **Only zero has the digits of zero.** -/
theorem shortest_ne_zero (mantissa : Nat) (exponent : Int) :
    (shortest nearest mantissa exponent).1 ≠ 0 ∨ shortest nearest mantissa exponent = (0, 0) := by
  unfold shortest
  split
  next => exact .inr rfl
  next hmantissa =>
    refine .inl (trimZeros_ne_zero 20 (searchGrids_ne_zero hnearest ?_ ?_ (Int.le_refl _)))
    · exact Nat.mul_pos (by omega) (Nat.pow_pos (by decide))
    · exact Nat.pow_pos (by decide)

end Decimal

end RowSieve
