import RowSieve.Proofs.Expr.Crashes

/-!
# Arithmetic on whole numbers

Two whole numbers have a sum, a difference and a product among all whole numbers, and unless the
second one is zero a quotient and a remainder (`IsRemainder`).  An operator gives this result or
says why it does not: it has no place among 64 bits, or the divisor is zero
(`integers_exact_or_reported`).

A remainder has a place because it is smaller than the divisor (`IsRemainder.fits`), and a whole
quotient has one unless it is the opposite of the smallest number (`fits_quotient`).  On that one
pair of numbers a division breaks down, and the remainder is reported as an overflow although it
would be zero.
-/

namespace RowSieve

variable {operator : Operator} {a b : Int64} {k m n r s : Int}

/-! ### Remainders -/

/-- `r` is what is left of `m` after as many whole `n` as possible have been taken away from it,
towards zero. -/
structure IsRemainder (m n r : Int) : Prop where
  /-- Whole ones have been taken away. -/
  dvd : n ∣ m - r
  /-- None is left. -/
  natAbs_lt : r.natAbs < n.natAbs
  /-- What is left of a positive number is not negative. -/
  nonneg : 0 ≤ m → 0 ≤ r
  /-- What is left of a negative number is not positive. -/
  nonpos : m ≤ 0 → r ≤ 0

theorem isRemainder_tmod (m : Int) (hn : n ≠ 0) : IsRemainder m n (m.tmod n) where
  dvd := Int.dvd_self_sub_of_tmod_eq rfl
  natAbs_lt := by
    rw [Int.natAbs_tmod]
    exact Nat.mod_lt _ (Int.natAbs_pos.2 hn)
  nonneg := Int.tmod_nonneg n
  nonpos hm := by
    have hneg := Int.tmod_nonneg n (Int.neg_nonneg_of_nonpos hm)
    rw [Int.neg_tmod] at hneg
    omega

/-- There is one remainder only. -/
theorem IsRemainder.unique (hr : IsRemainder m n r) (hs : IsRemainder m n s) : r = s := by
  have hdvd : n ∣ s - r := by
    have hsub := Int.dvd_sub hr.dvd hs.dvd
    rwa [show m - r - (m - s) = s - r by omega] at hsub
  -- Both are on the same side of zero and less than `n` away from it.
  have hlt : (s - r).natAbs < n.natAbs := by
    have hr' := hr.natAbs_lt
    have hs' := hs.natAbs_lt
    rcases Int.le_total 0 m with hm | hm
    · have := hr.nonneg hm
      have := hs.nonneg hm
      omega
    · have := hr.nonpos hm
      have := hs.nonpos hm
      omega
  have hzero := Int.eq_zero_of_dvd_of_natAbs_lt_natAbs hdvd hlt
  omega

/-! ### Results that have a place -/

theorem exactInteger_of_fits (h : -2 ^ 63 ≤ k ∧ k < 2 ^ 63) :
    ∃ r : Int64, r.toInt = k ∧ exactInteger operator k = .ok (.integer r) := by
  have hfits : Decimal.fitsInt64 k = true := Decimal.fitsInt64_iff.2 h
  exact ⟨Int64.ofInt k, Decimal.toInt_ofInt_of_fits hfits, by rw [exactInteger, if_pos hfits]⟩

theorem exactInteger_of_not_fits (h : ¬ (-2 ^ 63 ≤ k ∧ k < 2 ^ 63)) :
    exactInteger operator k = .error (.error (.overflow operator)) := by
  rw [exactInteger, if_neg fun hfits => h (Decimal.fitsInt64_iff.1 hfits)]

/-- A whole quotient has a place, unless it is the opposite of the smallest number. -/
theorem fits_quotient (hm : -2 ^ 63 ≤ m ∧ m < 2 ^ 63) (hn : n ≠ 0) (hmin : ¬ (m = -2 ^ 63 ∧ n = -1))
    (hk : m = n * k) : -2 ^ 63 ≤ k ∧ k < 2 ^ 63 := by
  have hle : k.natAbs ≤ m.natAbs := by
    rw [hk, Int.natAbs_mul]
    exact Nat.le_mul_of_pos_left _ (Int.natAbs_pos.2 hn)
  -- As large as the smallest number it could only have the wrong sign.
  by_contra hfits
  obtain rfl : k = 2 ^ 63 := by omega
  omega

/-- A remainder has a place, being smaller than the divisor. -/
theorem IsRemainder.fits (hr : IsRemainder m n r) (hn : -2 ^ 63 ≤ n ∧ n < 2 ^ 63) :
    -2 ^ 63 ≤ r ∧ r < 2 ^ 63 := by
  have hlt := hr.natAbs_lt
  omega

theorem toInt_fits (a : Int64) : -2 ^ 63 ≤ a.toInt ∧ a.toInt < 2 ^ 63 :=
  ⟨a.le_toInt, a.toInt_lt⟩

/-! ### Operators between whole numbers -/

/-- Only divisions are reported as divisions by zero, and only those. -/
theorem eq_divisionByZero_iff :
    applyOperator operator (.integer a) (.integer b) = .error (.error .divisionByZero) ↔
      (operator = .divide ∨ operator = .modulo) ∧ b.toInt = 0 := by
  constructor
  · intro h
    have hexact : ∀ k, exactInteger operator k ≠ .error (.error .divisionByZero) := by
      intro k hk
      unfold exactInteger at hk
      split at hk <;> cases hk
    cases operator with
    | add | subtract | multiply => exact absurd h (hexact _)
    | divide =>
      by_contra hb
      simp only [true_or, true_and] at hb
      simp only [applyOperator, arithmetic, integerArithmetic, if_neg hb] at h
      split at h
      next => cases h
      next =>
        split at h
        next => cases h
        next => exact hexact _ h
    | modulo =>
      by_contra hb
      simp only [or_true, true_and] at hb
      simp only [applyOperator, arithmetic, integerArithmetic, if_neg hb] at h
      split at h
      next => cases h
      next => exact hexact _ h
    | equal | notEqual | lessThan | greaterThan | lessEqual | greaterEqual | and | or => cases h
  · rintro ⟨rfl | rfl, hb⟩ <;>
      simp only [applyOperator, arithmetic, integerArithmetic, hb, if_true]

section

variable (hb : b.toInt ≠ 0) (hmin : ¬ (a.toInt = -2 ^ 63 ∧ b.toInt = -1))

include hb hmin

theorem applyOperator_divide_of_ne_zero :
    applyOperator .divide (.integer a) (.integer b) =
      if a.toInt.tmod b.toInt ≠ 0 then .ok (.float (Float.ofInt a.toInt / Float.ofInt b.toInt))
      else exactInteger .divide (a.toInt.tdiv b.toInt) := by
  have hguard : (decide (a.toInt = -2 ^ 63) && decide (b.toInt = -1)) = false := by simpa using hmin
  simp only [applyOperator, arithmetic, integerArithmetic, if_neg hb, hguard, Bool.false_eq_true,
    if_false]

theorem applyOperator_modulo_of_ne_zero :
    applyOperator .modulo (.integer a) (.integer b) =
      exactInteger .modulo (a.toInt.tmod b.toInt) := by
  have hguard : (decide (a.toInt = -2 ^ 63) && decide (b.toInt = -1)) = false := by simpa using hmin
  simp only [applyOperator, arithmetic, integerArithmetic, if_neg hb, hguard, Bool.false_eq_true,
    if_false]

/-- A division that comes out even. -/
theorem exists_divide_of_mul (hk : a.toInt = b.toInt * k) : ∃ q : Int64, q.toInt = k ∧
    applyOperator .divide (.integer a) (.integer b) = .ok (.integer q) := by
  have heven : a.toInt.tmod b.toInt = 0 := by rw [hk, Int.mul_tmod_right]
  have hquotient : a.toInt.tdiv b.toInt = k := by rw [hk, Int.mul_tdiv_cancel_left _ hb]
  rw [applyOperator_divide_of_ne_zero hb hmin, if_neg (not_not.2 heven), hquotient]
  exact exactInteger_of_fits (fits_quotient (toInt_fits a) hb hmin hk)

theorem exists_modulo : ∃ r : Int64, IsRemainder a.toInt b.toInt r.toInt ∧
    applyOperator .modulo (.integer a) (.integer b) = .ok (.integer r) := by
  have hrem := isRemainder_tmod a.toInt hb
  obtain ⟨r, hr, hexact⟩ : ∃ r : Int64, r.toInt = _ ∧ exactInteger .modulo _ = .ok (.integer r) :=
    exactInteger_of_fits (hrem.fits (toInt_fits b))
  exact ⟨r, hr ▸ hrem, by rw [applyOperator_modulo_of_ne_zero hb hmin, hexact]⟩

end

/-- A division that does not come out even. -/
theorem divide_of_not_dvd (hb : b.toInt ≠ 0) (hdvd : ¬ b.toInt ∣ a.toInt) :
    applyOperator .divide (.integer a) (.integer b) =
      .ok (.float (Float.ofInt a.toInt / Float.ofInt b.toInt)) := by
  have hmin : ¬ (a.toInt = -2 ^ 63 ∧ b.toInt = -1) := by
    rintro ⟨-, hone⟩
    exact hdvd (hone ▸ ⟨-a.toInt, by omega⟩)
  rw [applyOperator_divide_of_ne_zero hb hmin,
    if_pos fun heven => hdvd (Int.dvd_of_tmod_eq_zero heven)]

/-- The one pair whose quotient has no place. -/
theorem eq_min_iff : a.toInt = -2 ^ 63 ∧ b.toInt = -1 ↔ a = Int64.minValue ∧ b = -1 := by
  have hmin : Int64.minValue.toInt = -2 ^ 63 := rfl
  have hone : (-1 : Int64).toInt = -1 := rfl
  rw [← hmin, ← hone, Int64.toInt_inj, Int64.toInt_inj]

theorem divide_eq_integer_iff (hb : b.toInt ≠ 0) {q : Int64} :
    applyOperator .divide (.integer a) (.integer b) = .ok (.integer q) ↔
      a.toInt = b.toInt * q.toInt := by
  constructor
  · intro h
    have hwhole : Operator.OnWhole .divide a.toInt b.toInt q.toInt := onWhole_of_integerArithmetic h
    exact hwhole.2
  · intro h
    have hmin : ¬ (a.toInt = -2 ^ 63 ∧ b.toInt = -1) := by
      have hq := toInt_fits q
      rintro ⟨hsmallest, hone⟩
      rw [hsmallest, hone] at h
      omega
    obtain ⟨r, hr, hdivide⟩ := exists_divide_of_mul hb hmin h
    rw [hdivide, Int64.toInt_inj.1 hr]

theorem divide_eq_float_iff (hb : b.toInt ≠ 0) {x : Float} :
    applyOperator .divide (.integer a) (.integer b) = .ok (.float x) ↔
      ¬ b.toInt ∣ a.toInt ∧ x = Float.ofInt a.toInt / Float.ofInt b.toInt := by
  by_cases hdvd : b.toInt ∣ a.toInt
  · have hne : applyOperator .divide (.integer a) (.integer b) ≠ .ok (.float x) := by
      intro h
      by_cases hmin : a.toInt = -2 ^ 63 ∧ b.toInt = -1
      · obtain ⟨rfl, rfl⟩ := eq_min_iff.1 hmin
        cases applyOperator_divide_min.symm.trans h
      · obtain ⟨k, hk⟩ := hdvd
        obtain ⟨q, -, hdivide⟩ := exists_divide_of_mul hb hmin hk
        cases hdivide.symm.trans h
    simp [hne, hdvd]
  · rw [divide_of_not_dvd hb hdvd]
    simp [hdvd, eq_comm]

/-- **Arithmetic on whole numbers is exact or reported.**  Sums, differences and products are the
exact ones where these have 64 bits, and overflows where they do not.  Divisions by zero are
reported, and nothing else is reported as one.  Any other quotient is whole exactly if the divisor
goes into the number, a double exactly if it does not, and a remainder is the one that has the sign
of the number.  Of the smallest number and minus one, the remainder is an overflow, and the division
breaks down: no other operator does, and not on another pair. -/
theorem integers_exact_or_reported (a b : Int64) :
    (∀ operator k, (operator, k) ∈ [(.add, a.toInt + b.toInt), (.subtract, a.toInt - b.toInt),
        (.multiply, a.toInt * b.toInt)] →
      (-2 ^ 63 ≤ k ∧ k < 2 ^ 63 → ∃ r : Int64, r.toInt = k ∧
        applyOperator operator (.integer a) (.integer b) = .ok (.integer r)) ∧
      (¬ (-2 ^ 63 ≤ k ∧ k < 2 ^ 63) →
        applyOperator operator (.integer a) (.integer b) = .error (.error (.overflow operator)))) ∧
    (∀ operator,
      applyOperator operator (.integer a) (.integer b) = .error (.error .divisionByZero) ↔
        (operator = .divide ∨ operator = .modulo) ∧ b.toInt = 0) ∧
    (b.toInt ≠ 0 →
      (∀ q : Int64, applyOperator .divide (.integer a) (.integer b) = .ok (.integer q) ↔
        a.toInt = b.toInt * q.toInt) ∧
      (∀ x, applyOperator .divide (.integer a) (.integer b) = .ok (.float x) ↔
        ¬ b.toInt ∣ a.toInt ∧ x = Float.ofInt a.toInt / Float.ofInt b.toInt) ∧
      (a.toInt = -2 ^ 63 ∧ b.toInt = -1 →
        applyOperator .modulo (.integer a) (.integer b) = .error (.error (.overflow .modulo))) ∧
      (¬ (a.toInt = -2 ^ 63 ∧ b.toInt = -1) → ∃ r : Int64,
        applyOperator .modulo (.integer a) (.integer b) = .ok (.integer r) ∧
        ∀ k, IsRemainder a.toInt b.toInt k ↔ k = r.toInt)) ∧
    ∀ operator c, applyOperator operator (.integer a) (.integer b) = .error (.crash c) ↔
      operator = .divide ∧ a.toInt = -2 ^ 63 ∧ b.toInt = -1 ∧ c = .remainderOverflow := by
  refine ⟨fun operator k hk => ?_, fun operator => eq_divisionByZero_iff,
    fun hb => ⟨fun q => divide_eq_integer_iff hb, fun x => divide_eq_float_iff hb, ?_, ?_⟩,
    fun operator c => ⟨?_, ?_⟩⟩
  · have hexact : applyOperator operator (.integer a) (.integer b) = exactInteger operator k := by
      simp only [List.mem_cons, Prod.mk.injEq, List.not_mem_nil, or_false] at hk
      rcases hk with ⟨rfl, rfl⟩ | ⟨rfl, rfl⟩ | ⟨rfl, rfl⟩ <;> rfl
    rw [hexact]
    exact ⟨exactInteger_of_fits, exactInteger_of_not_fits⟩
  · intro hmin
    obtain ⟨rfl, rfl⟩ := eq_min_iff.1 hmin
    rfl
  · intro hmin
    obtain ⟨r, hr, hmodulo⟩ := exists_modulo hb hmin
    exact ⟨r, hmodulo, fun k => ⟨fun hk => hk.unique hr, fun hk => hk ▸ hr⟩⟩
  · intro h
    obtain ⟨rfl, rfl, ha, hb⟩ := divides_of_applyOperator h
    obtain ⟨hsmallest, hone⟩ := eq_min_iff.2 ⟨Value.integer.inj ha, Value.integer.inj hb⟩
    exact ⟨rfl, hsmallest, hone, rfl⟩
  · rintro ⟨rfl, hsmallest, hone, rfl⟩
    obtain ⟨rfl, rfl⟩ := eq_min_iff.1 ⟨hsmallest, hone⟩
    exact applyOperator_divide_min

/-- The smallest number and minus one: all results but the difference are out of reach. -/
theorem integers_exact_or_reported_smallest :
    applyOperator .add (.integer .minValue) (.integer (-1)) =
        .error (.error (.overflow .add)) ∧
      (∃ r : Int64, r.toInt = -2 ^ 63 + 1 ∧
        applyOperator .subtract (.integer .minValue) (.integer (-1)) = .ok (.integer r)) ∧
      applyOperator .multiply (.integer .minValue) (.integer (-1)) =
        .error (.error (.overflow .multiply)) ∧
      applyOperator .divide (.integer .minValue) (.integer (-1)) =
        .error (.crash .remainderOverflow) ∧
      applyOperator .modulo (.integer .minValue) (.integer (-1)) =
        .error (.error (.overflow .modulo)) := by
  obtain ⟨hexact, -, hdivision, hcrash⟩ := integers_exact_or_reported .minValue (-1)
  obtain ⟨-, -, hmodulo, -⟩ := hdivision (by decide)
  refine ⟨(hexact .add (-2 ^ 63 - 1) (by decide)).2 (by decide),
    (hexact .subtract (-2 ^ 63 + 1) (by decide)).1 (by decide),
    (hexact .multiply (2 ^ 63) (by decide)).2 (by decide),
    (hcrash .divide .remainderOverflow).2 (by decide), hmodulo (by decide)⟩

end RowSieve
