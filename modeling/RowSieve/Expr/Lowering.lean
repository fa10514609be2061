import RowSieve.Expr.Compiler
import RowSieve.Request.Basic

/-!
# Programs for requests

`Program.ofRequest` turns a request into a program: first a filter for every predicate, in the
order of the fields, then an assignment for every column.  What a field is compared with is a value,
never another field.
-/

namespace RowSieve

/-- A value as an expression. -/
def Value.toExpr : Value → Expr
  | null => .null
  | boolean b => .boolean b
  | integer n => .integer n
  | float x => .float x
  | text s => .text s

namespace Node

mutual

/-- The expression that a column or an argument stands for.  A call is checked before its
arguments are. -/
def toExpr (fs : Functions) : Node → Except CompileError Expr
  | field name => .ok (.field name)
  | number spelling => Compile.numberOf spelling
  | text s => .ok (.text s)
  | call function arguments =>
    match Compile.checkCall fs function arguments.length with
    | .error e => .error e
    | .ok () => (toExprs fs arguments).map (.call function)

/-- The expressions that arguments stand for. -/
def toExprs (fs : Functions) : List Node → Except CompileError (List Expr)
  | [] => .ok []
  | n :: ns =>
    match n.toExpr fs with
    | .error e => .error e
    | .ok e => (toExprs fs ns).map (e :: ·)

end

end Node

/-- The filter for a predicate. -/
def Request.filter (r : Request) (field value : String) : Instruction :=
  .filter (.binary (r.operator field) (.field field) (Value.ofField value).toExpr)

/-- The assignments for columns. -/
def Column.assignments (fs : Functions) : List Column → Except CompileError (List Instruction)
  | [] => .ok []
  | c :: cs =>
    match c.source.toExpr fs with
    | .error e => .error e
    | .ok e => (assignments fs cs).map (.assign c.name e :: ·)

/-- The program for a request. -/
def Program.ofRequest (fs : Functions) (r : Request) : Except CompileError Program :=
  (Column.assignments fs r.columns).map fun assignments =>
    ⟨r.predicates.entries.map (fun p => r.filter p.1 p.2) ++ assignments, r.limit⟩

end RowSieve
