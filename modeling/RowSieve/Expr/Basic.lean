import RowSieve.Operator

/-!
# Expressions and programs

An `Expr` is worked out on one row at a time.  A `Program` is a list of instructions: filters, which
decide whether a row passes, and assignments, which make up the row that is put out.
-/

namespace RowSieve

/-- An expression. -/
inductive Expr where
  /-- A double. -/
  | float (x : Float)
  /-- A whole number. -/
  | integer (n : Int64)
  /-- A text. -/
  | text (s : String)
  /-- A truth value. -/
  | boolean (b : Bool)
  /-- No value. -/
  | null
  /-- The value under a name. -/
  | field (name : String)
  /-- An operator between two expressions. -/
  | binary (operator : Operator) (left right : Expr)
  /-- A negation. -/
  | not (operand : Expr)
  /-- A function applied to arguments. -/
  | call (function : String) (arguments : List Expr)
deriving Repr, Inhabited

/-- A step of a program. -/
inductive Instruction where
  /-- Only rows for which the condition holds go on. -/
  | filter (condition : Expr)
  /-- Writes a value under a name. -/
  | assign (target : String) (value : Expr)
deriving Repr, Inhabited

/-- Instructions for one row, and how many rows are wanted. -/
structure Program where
  /-- The instructions, in order. -/
  instructions : List Instruction
  /-- At most so many rows are put out. -/
  limit : Option Nat
deriving Repr, Inhabited

/-- The name that an instruction writes. -/
def Instruction.target? : Instruction → Option String
  | filter _ => none
  | assign target _ => some target

/-- The names that a program writes, in order. -/
def Program.outputs (p : Program) : List String := p.instructions.filterMap Instruction.target?

end RowSieve
