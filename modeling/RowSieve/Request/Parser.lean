import RowSieve.Grammar.Scan
import RowSieve.Request.Clauses

/-!
# Reading statements

`parse` reads one statement of a dialect and `parseScript` all statements of a script, which
semicolons separate.  The first token tells which statement it is; its clauses are read in their
order, where optional ones may be missing.  What stands behind the last clause is an error, or is
passed over if the dialect is lenient.
-/

namespace RowSieve

open TokenStream

variable {σ : Type}

/-- Reads clauses in their order. -/
def readClauses (d : Dialect σ) : List (Clause σ) → Request → Parse Request
  | [], r => return r
  | clause :: clauses, r => do
    if (← check clause.keyword) then
      let _ ← advance
      readClauses d clauses (← clause.body.read d r)
    else if clause.optional then readClauses d clauses r
    else throw (.noClause clause.keyword (← peek).position)

/-- Reads a statement up to the end of its last clause. -/
def readStatement (d : Dialect σ) : Parse Request := do
  let first ← peek
  match d.statement? first.kind with
  | none => throw (.noStatement first)
  | some statement =>
    let r ← readClauses d statement.clauses (.blank statement.kind)
    return { r with comments := ← takeComments }

/-- Passes over tokens up to the end of the statement. -/
def skipToEnd : (bound : Nat) → Parse Unit
  | 0 => return
  | bound + 1 => do
    if (← peek).isEnd then return
    let _ ← advance
    skipToEnd bound

/-- Comes to the end of a statement and reads the semicolon there. -/
def finishStatement (d : Dialect σ) : Parse Unit := do
  let token ← peek
  if !token.isEnd then
    if d.strict then throw (.trailing token)
    skipToEnd (← remaining)
  let _ ← eat .endOfStatement

/-- Reads semicolons. -/
def skipSemicolons : (bound : Nat) → Parse Unit
  | 0 => return
  | bound + 1 => do
    if (← eat .endOfStatement).isSome then skipSemicolons bound

/-- Reads statements up to the end of the input. -/
def statementsWithin (d : Dialect σ) : (bound : Nat) → Parse (List Request)
  | 0 => return []
  | bound + 1 => do
    skipSemicolons (← remaining)
    if (← check .endOfInput) then return []
    let r ← readStatement d
    finishStatement d
    return r :: (← statementsWithin d bound)

/-- Reads one statement and its end. -/
def oneStatement (d : Dialect σ) : Parse Request := do
  let r ← readStatement d
  finishStatement d
  return r

/-- Reads all statements. -/
def allStatements (d : Dialect σ) : Parse (List Request) := do
  statementsWithin d ((← remaining) + 1)

/-- What a computation makes of a stream. -/
def Parse.eval {α : Type} (p : Parse α) (s : TokenStream) : Except SourceError α :=
  match p s with
  | .ok a _ => .ok a
  | .error e _ => .error e

/-- The tokens of a source in a dialect, as a stream. -/
def Dialect.stream [Strategies σ] (d : Dialect σ) (source : String) :
    Except SourceError TokenStream :=
  (d.tokenize source).map (.ofTokensUpTo · source.utf8ByteSize)

/-- The request that the first statement of a source makes.  What follows its semicolon does not
matter. -/
def parse [Strategies σ] (d : Dialect σ) (source : String) : Except SourceError Request :=
  (d.stream source).bind (oneStatement d).eval

/-- The requests that the statements of a source make. -/
def parseScript [Strategies σ] (d : Dialect σ) (source : String) :
    Except SourceError (List Request) :=
  (d.stream source).bind (allStatements d).eval

end RowSieve
