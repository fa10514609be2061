import RowSieve.Expr.Lowering
import RowSieve.Function.Library
import RowSieve.Request.Parser

/-!
# Queries

A `Query` is what somebody asks of a table: a request in the stock dialect or a program.
`Query.prepare` makes a program of either, and `Query.summary` only tells that nothing is wrong.
Two switches choose between variants of the dialect.
-/

namespace RowSieve

/-- What is asked of a table. -/
inductive Query where
  /-- A request. -/
  | request (source : String)
  /-- A program. -/
  | program (source : String)
deriving DecidableEq, Repr

/-- Variants of the stock dialect. -/
structure Switches where
  /-- Input after the statement does not matter. -/
  lenient : Bool
  /-- Predicates record the names of their fields. -/
  fieldNames : Bool
deriving DecidableEq, Repr, Inhabited

/-- What is wrong with a query. -/
inductive QueryError where
  /-- The dialect is in conflict with itself. -/
  | conflict (e : Conflict)
  /-- The request cannot be read. -/
  | source (e : SourceError)
  /-- There is no program for it. -/
  | compile (e : CompileError)
deriving DecidableEq, Repr

/-- The wording of an error in a query. -/
def QueryError.message : QueryError → String
  | conflict e => e.message
  | source e => "parse error: " ++ e.message
  | compile e => "compile error: " ++ e.message

/-- The declarations of the stock dialect in one of its variants. -/
def Switches.declarations (s : Switches) : Declarations Empty :=
  { (sql : Declarations Empty) with
    strict := !s.lenient
    recording := if s.fieldNames then .fieldName else .operand }

/-- The stock dialect in one of its variants. -/
def Switches.dialect (s : Switches) : Except QueryError (Dialect Empty) :=
  match (s.declarations.establish .shared).1 with
  | .ok d => .ok d
  | .error e => .error (.conflict e)

/-- The request that a source spells in the stock dialect. -/
def readRequest (s : Switches) (source : String) : Except QueryError Request := do
  let d ← s.dialect
  match parse d source with
  | .ok r => .ok r
  | .error e => .error (.source e)

namespace Query

/-- The program for a query. -/
def prepare (fs : Functions) (s : Switches) : Query → Except QueryError Program
  | request source => do
    let r ← readRequest s source
    match Program.ofRequest fs r with
    | .ok p => .ok p
    | .error e => .error (.compile e)
  | program source =>
    match compile fs source with
    | .ok p => .ok p
    | .error e => .error (.compile e)

/-- A program in short. -/
def describeProgram (p : Program) : String :=
  s!"{p.instructions.length} statements, outputs [" ++ ", ".intercalate p.outputs ++ "]"

/-- Tells what a query says, after reading it.  Functions that a request calls are not looked up. -/
def summary (s : Switches) (q : Query) : Except QueryError String :=
  match q with
  | request source => (readRequest s source).map fun r => "Syntax is valid: " ++ r.render
  | program _ =>
    (q.prepare .builtin s).map fun p => "Syntax is valid: " ++ describeProgram p

end Query

end RowSieve
