import RowSieve.Token.Kind

/-!
# Operators

The binary operators of expressions.  Six of them compare; those are the ones that a predicate
may use, and `Operator.comparison?` tells which mark spells which.
-/

namespace RowSieve

/-- A binary operator. -/
inductive Operator where
  /-- Equal values, of equal types. -/
  | equal
  /-- Values that are not equal. -/
  | notEqual
  /-- The left value comes first. -/
  | lessThan
  /-- The right value comes first. -/
  | greaterThan
  /-- The right value does not come first. -/
  | lessEqual
  /-- The left value does not come first. -/
  | greaterEqual
  /-- The sum of numbers, or one text after the other. -/
  | add
  /-- The difference. -/
  | subtract
  /-- The product. -/
  | multiply
  /-- The quotient. -/
  | divide
  /-- The remainder. -/
  | modulo
  /-- Both are true; the right side counts only if the left one is true. -/
  | and
  /-- At least one is true; the right side counts only if the left one is false. -/
  | or
deriving DecidableEq, Repr, Inhabited

namespace Operator

/-- The comparison that a mark spells. -/
def comparison? : Kind → Option Operator
  | .equal => some .equal
  | .doubleEqual => some .equal
  | .notEqual => some .notEqual
  | .less => some .lessThan
  | .lessEqual => some .lessEqual
  | .greater => some .greaterThan
  | .greaterEqual => some .greaterEqual
  | _ => none

/-- The operator compares. -/
def isComparison : Operator → Bool
  | equal | notEqual | lessThan | greaterThan | lessEqual | greaterEqual => true
  | _ => false

/-- How an expression spells the operator. -/
def symbol : Operator → String
  | equal => "=="
  | notEqual => "!="
  | lessThan => "<"
  | greaterThan => ">"
  | lessEqual => "<="
  | greaterEqual => ">="
  | add => "+"
  | subtract => "-"
  | multiply => "*"
  | divide => "/"
  | modulo => "%"
  | and => "and"
  | or => "or"

end Operator

end RowSieve
