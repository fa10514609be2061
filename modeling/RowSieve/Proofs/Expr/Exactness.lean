import RowSieve.Expr.Evaluation
import RowSieve.Proofs.Decimal.Whole
import RowSieve.Proofs.Expr.Falls

/-!
# Arithmetic is exact

Where an operator gives a whole number, `Operator.Exact` says which one, in terms of all whole
numbers and of decimals, neither of which wraps around.  `exact_of_applyOperator` says that the
result is that number, so a result that has no place among 64 bits is never given as another one.
-/

namespace RowSieve

/-- What the operator has for two whole numbers, among all whole numbers. -/
def Operator.OnWhole (operator : Operator) (m n r : Int) : Prop :=
  match operator with
  | add => r = m + n
  | subtract => r = m - n
  | multiply => r = m * n
  | divide => n ≠ 0 ∧ m = n * r
  | modulo => n ≠ 0 ∧ r = m.tmod n
  | _ => False

/-- The whole number that the operator has for two values. -/
inductive Operator.Exact (operator : Operator) (a b : Value) (r : Int) : Prop where
  /-- Both are whole. -/
  | whole {m n : Int64} : a = .integer m → b = .integer n → operator.OnWhole m.toInt n.toInt r →
    Exact operator a b r
  /-- The result of their decimals is whole. -/
  | decimal {c d e : Decimal.Scaled} : decimalOf? a = some c → decimalOf? b = some d →
    decimalArithmetic operator c d = some e → e.Is r → Exact operator a b r

variable {operator : Operator} {a b : Value} {m n r : Int64}

theorem toInt_of_exactInteger {k : Int} (h : exactInteger operator k = .ok (.integer r)) :
    r.toInt = k := by
  unfold exactInteger at h
  split at h
  next hfits =>
    cases h
    exact Decimal.toInt_ofInt_of_fits hfits
  next => cases h

theorem onWhole_of_integerArithmetic (h : integerArithmetic operator m n = .ok (.integer r)) :
    operator.OnWhole m.toInt n.toInt r.toInt := by
  cases operator with
  | add | subtract | multiply => exact toInt_of_exactInteger h
  | divide =>
    simp only [integerArithmetic] at h
    split at h
    next => cases h
    next hzero =>
      split at h
      next => cases h
      next =>
        split at h
        next => cases h
        next heven =>
          refine ⟨hzero, ?_⟩
          rw [toInt_of_exactInteger h]
          exact (Int.mul_tdiv_cancel' (Int.dvd_of_tmod_eq_zero (not_not.1 heven))).symm
  | modulo =>
    simp only [integerArithmetic] at h
    split at h
    next => cases h
    next hzero =>
      split at h
      next => cases h
      next => exact ⟨hzero, toInt_of_exactInteger h⟩
  | equal | notEqual | lessThan | greaterThan | lessEqual | greaterEqual | and | or => cases h

theorem is_of_ofDecimal {d : Decimal.Scaled} (h : Value.ofDecimal d = .integer r) :
    d.Is r.toInt := by
  unfold Value.ofDecimal at h
  split at h
  next hr =>
    cases h
    obtain ⟨hwhole, hr⟩ := Option.ite_none_right_eq_some.1 hr
    exact Decimal.Scaled.is_of_toInt64? hwhole hr
  next => cases h

theorem exact_of_mixedArithmetic (h : mixedArithmetic operator a b = .ok (.integer r)) :
    operator.Exact a b r.toInt := by
  unfold mixedArithmetic at h
  dsimp only at h
  split at h
  next => cases h
  next =>
    split at h
    next e he =>
      obtain ⟨c, hc, hd⟩ := Option.bind_eq_some_iff.1 he
      obtain ⟨d, hd, he⟩ := Option.bind_eq_some_iff.1 hd
      exact .decimal hc hd he (is_of_ofDecimal (Except.ok.inj h))
    next =>
      unfold floatArithmetic at h
      split at h <;> cases h

theorem exact_of_arithmetic (h : arithmetic operator a b = .ok (.integer r)) :
    operator.Exact a b r.toInt := by
  unfold arithmetic at h
  split at h
  · exact .whole rfl rfl (onWhole_of_integerArithmetic h)
  · unfold floatArithmetic at h
    split at h <;> cases h
  · exact exact_of_mixedArithmetic h
  · exact exact_of_mixedArithmetic h
  · split at h <;> cases h
  · cases h

/-- **A whole number that an operator gives is the exact one.** -/
theorem exact_of_applyOperator (h : applyOperator operator a b = .ok (.integer r)) :
    operator.Exact a b r.toInt := by
  cases operator with
  | add | subtract | multiply | divide | modulo => exact exact_of_arithmetic h
  | equal | notEqual | and | or => cases h
  | lessThan | greaterThan | lessEqual | greaterEqual =>
    obtain ⟨_, -, hv⟩ := map_eq_ok_iff.1 h
    cases hv

end RowSieve
