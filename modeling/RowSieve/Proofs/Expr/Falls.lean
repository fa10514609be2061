import RowSieve.Expr.Evaluation

/-!
# How operators fall

`Operator.Falls` lists what can go wrong between two values, and `falls_of_applyOperator` says that
nothing else does: an operator looks up no function, and a crash needs the one division whose
quotient has no place among the whole numbers.  A comparison that does not fall gives a truth value
(`exists_boolean_of_isComparison`).
-/

namespace RowSieve

/-! ### Results that are mapped -/

section

variable {ε α β : Type} {f : α → β} {x : Except ε α}

theorem map_eq_ok_iff {b : β} : x.map f = .ok b ↔ ∃ a, x = .ok a ∧ f a = b := by
  cases x <;> simp [Except.map]

theorem map_eq_error_iff {e : ε} : x.map f = .error e ↔ x = .error e := by
  cases x <;> simp [Except.map]

end

/-! ### Operators -/

/-- What an operator between two values may fall with. -/
inductive Operator.Falls (operator : Operator) (a b : Value) : Fall → Prop where
  /-- It does not apply to them. -/
  | types : Falls operator a b (.error (.cannotApply operator a.typeName b.typeName))
  /-- They have no order. -/
  | order : Falls operator a b (.error (.cannotCompare operator a.typeName b.typeName))
  /-- The divisor is zero. -/
  | zero : Falls operator a b (.error .divisionByZero)
  /-- The result has more than 64 bits. -/
  | overflow : Falls operator a b (.error (.overflow operator))
  /-- The smallest whole number is divided by minus one. -/
  | crash {m n : Int64} : operator = .divide → a = .integer m → b = .integer n →
    m.toInt = -2 ^ 63 → n.toInt = -1 → Falls operator a b (.crash .remainderOverflow)

variable {operator : Operator} {a b : Value} {e : Fall}

theorem falls_of_exactInteger {n : Int} (h : exactInteger operator n = .error e) :
    operator.Falls a b e := by
  unfold exactInteger at h
  split at h
  · cases h
  · cases h
    exact .overflow

theorem falls_of_integerArithmetic {m n : Int64} (h : integerArithmetic operator m n = .error e) :
    operator.Falls (.integer m) (.integer n) e := by
  cases operator with
  | add | subtract | multiply => exact falls_of_exactInteger h
  | divide =>
    simp only [integerArithmetic] at h
    split at h
    · cases h
      exact .zero
    · split at h
      next hmin =>
        cases h
        simp only [Bool.and_eq_true, decide_eq_true_eq] at hmin
        exact .crash rfl rfl rfl hmin.1 hmin.2
      next =>
        split at h
        · cases h
        · exact falls_of_exactInteger h
  | modulo =>
    simp only [integerArithmetic] at h
    split at h
    · cases h
      exact .zero
    · split at h
      · cases h
        exact .overflow
      · exact falls_of_exactInteger h
  | equal | notEqual | lessThan | greaterThan | lessEqual | greaterEqual | and | or =>
    cases h
    exact .overflow

theorem falls_of_floatArithmetic {x y : Float} (h : floatArithmetic operator x y = .error e) :
    operator.Falls a b e := by
  unfold floatArithmetic at h
  split at h
  · cases h
    exact .zero
  · cases h

theorem falls_of_mixedArithmetic (h : mixedArithmetic operator a b = .error e) :
    operator.Falls a b e := by
  unfold mixedArithmetic at h
  dsimp only at h
  split at h
  · cases h
    exact .zero
  · split at h
    · cases h
    · exact falls_of_floatArithmetic h

theorem falls_of_arithmetic (h : arithmetic operator a b = .error e) : operator.Falls a b e := by
  unfold arithmetic at h
  split at h
  · exact falls_of_integerArithmetic h
  · exact falls_of_floatArithmetic h
  · exact falls_of_mixedArithmetic h
  · exact falls_of_mixedArithmetic h
  · split at h
    · cases h
    · cases h
      exact .types
  · cases h
    exact .types

theorem falls_of_compareValues (h : compareValues operator a b = .error e) :
    operator.Falls a b e := by
  unfold compareValues at h
  split at h
  · cases h
  · cases h
  · cases h
  · cases h
  · split at h
    · cases h
    · cases h
      exact .order

/-- **An operator falls in no other way.** -/
theorem falls_of_applyOperator (h : applyOperator operator a b = .error e) :
    operator.Falls a b e := by
  cases operator with
  | add | subtract | multiply | divide | modulo => exact falls_of_arithmetic h
  | equal | notEqual | and | or => cases h
  | lessThan | greaterThan | lessEqual | greaterEqual =>
    exact falls_of_compareValues (map_eq_error_iff.1 h)

/-- A comparison gives a truth value, if it gives any. -/
theorem exists_boolean_of_isComparison (h : operator.isComparison = true) {v : Value}
    (hv : applyOperator operator a b = .ok v) : ∃ t, v = .boolean t := by
  cases operator with
  | equal | notEqual =>
    cases hv
    exact ⟨_, rfl⟩
  | lessThan | greaterThan | lessEqual | greaterEqual =>
    obtain ⟨order, -, rfl⟩ := map_eq_ok_iff.1 hv
    exact ⟨_, rfl⟩
  | add | subtract | multiply | divide | modulo | and | or => cases h

end RowSieve
