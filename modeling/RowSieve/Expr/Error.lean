import RowSieve.Function.Basic
import RowSieve.Operator
import RowSieve.Token.Error

/-!
# Errors of expressions

`CompileError` lists what can be wrong with the source of a program, and `EvalError` what can go
wrong while a program runs.
-/

namespace RowSieve

/-- What is wrong with a program. -/
inductive CompileError where
  /-- Its source cannot be split into tokens. -/
  | source (e : SourceError)
  /-- Something else than this token should stand here. -/
  | unexpected (expected : String) (found : Token)
  /-- There is no function of this name. -/
  | unknownFunction (name : String)
  /-- A function is given the wrong number of arguments. -/
  | arity (name : String) (expected : String) (found : Nat)
  /-- The spelling of a number stands for none. -/
  | invalidNumber (spelling : String)
  /-- There are no instructions. -/
  | noInstructions
deriving DecidableEq, Repr

/-- The wording of a compile error. -/
def CompileError.message : CompileError → String
  | source e => e.message
  | unexpected expected found =>
    s!"expected {expected}, found {found.display} at position {found.position}"
  | unknownFunction name => s!"unknown function {Text.quoted name}"
  | arity name expected found => s!"{name}() takes {expected} arguments, got {found}"
  | invalidNumber spelling => s!"invalid number {Text.quoted spelling}"
  | noInstructions => "program has no statements"

/-- What goes wrong in a program. -/
inductive EvalError where
  /-- The operator does not apply to values of these types. -/
  | cannotApply (operator : Operator) (left right : String)
  /-- Values of these types cannot be compared. -/
  | cannotCompare (operator : Operator) (left right : String)
  /-- The divisor is zero. -/
  | divisionByZero
  /-- The result has more than 64 bits. -/
  | overflow (operator : Operator)
  /-- There is no function of this name. -/
  | unknownFunction (name : String)
  /-- A function refuses its arguments. -/
  | function (name : String) (message : String)
deriving DecidableEq, Repr

/-- The wording of an error. -/
def EvalError.message : EvalError → String
  | cannotApply operator left right =>
    s!"type error: cannot apply {operator.symbol} to {left} and {right}"
  | cannotCompare operator left right =>
    s!"type error: cannot compare {left} {operator.symbol} {right}"
  | divisionByZero => "division by zero"
  | overflow operator => s!"integer overflow in {operator.symbol}"
  | unknownFunction name => s!"unknown function {Text.quoted name}"
  | function name message => s!"{name}(): {message}"

/-- Why an expression has no value. -/
inductive Fall where
  /-- An error that the program reports. -/
  | error (e : EvalError)
  /-- The program breaks down. -/
  | crash (c : Crash)
deriving DecidableEq, Repr

end RowSieve
