import RowSieve.Decimal.Reading
import RowSieve.Grammar.Dialect
import RowSieve.Token.Stream

/-!
# Bodies of clauses

`Body.read` reads what follows the keyword of a clause and adds it to a request.  The bodies are

* columns: a name or a call, each with an optional alias, separated by commas;
* a source: a name with optional arguments and an optional alias;
* predicates: comparisons of a field with a name, a number or a text, joined by `AND`, where a
  later predicate on the same field replaces the earlier one;
* a limit: a whole number.

Lists go on as long as there are separators.  Functions whose name ends in `Within` take a number
that is at least as large as the number of steps that the tokens left allow.
-/

namespace RowSieve

open TokenStream

variable {σ : Type}

mutual

/-- The arguments of a call, in parentheses. -/
def callWithin : (bound : Nat) → (name : String) → Parse Node
  | 0, _ => fail "'('"
  | bound + 1, name => do
    let _ ← expect .leftParen "'('"
    if (← eat .rightParen).isSome then return .call name []
    return .call name (← argumentsWithin bound)

/-- One or more arguments, and the parenthesis that closes the call. -/
def argumentsWithin : (bound : Nat) → Parse (List Node)
  | 0 => fail "a function argument"
  | bound + 1 => do
    let first ← argumentWithin bound
    if (← eat .comma).isSome then return first :: (← argumentsWithin bound)
    let _ ← expect .rightParen "',' or ')'"
    return [first]

/-- One argument. -/
def argumentWithin : (bound : Nat) → Parse Node
  | 0 => fail "a function argument"
  | bound + 1 => do
    let token ← peek
    match token.kind with
    | .function | .word =>
      let _ ← advance
      if (← check .leftParen) then callWithin bound token.text else return .field token.text
    | .number =>
      let _ ← advance
      return .number token.text
    | .text =>
      let _ ← advance
      return .text token.text
    | .minus =>
      let _ ← advance
      let digits ← expect .number "a number"
      return .number ("-" ++ digits.text)
    | _ => fail "a function argument"

end

/-- The arguments of a call of `name`, in parentheses. -/
def readCall (name : String) : Parse Node := do callWithin (2 * (← remaining) + 2) name

/-- The token ends the clause that comes before it. -/
def endsClause (d : Dialect σ) (token : Token) : Bool := token.isEnd || d.opensClause token.kind

/-- What a column holds, under the name that it has without an alias. -/
def readColumnSource : Parse Column := do
  let token ← peek
  match token.kind with
  | .star => throw (.unsupported "SELECT *" token.position)
  | .word =>
    let _ ← advance
    return .ofField token.text
  | .function =>
    let _ ← advance
    let call ← readCall token.text
    return ⟨call.render, some call⟩
  | _ => fail "a column"

/-- A column with its alias. -/
def readColumn : Parse Column := do
  let column ← readColumnSource
  if (← eat .asWord).isSome then
    let aliased ← expect .word "a column alias"
    return ⟨aliased.text, some column.source⟩
  return column

/-- Columns up to the end of the clause. -/
def columnsWithin (d : Dialect σ) : (bound : Nat) → Parse (List Column)
  | 0 => fail "a column"
  | bound + 1 => do
    let column ← readColumn
    if (← eat .comma).isSome then return column :: (← columnsWithin d bound)
    if endsClause d (← peek) then return [column]
    fail "',' or the end of the column list"

/-- A source with its arguments and its alias. -/
def readSource : Parse Source := do
  let token ← peek
  if token.kind ≠ .word && token.kind ≠ .function then fail "a source name"
  let _ ← advance
  let arguments ←
    if (← check .leftParen) then
      match ← readCall token.text with
      | .call _ arguments => pure arguments
      | _ => pure []
    else pure []
  if (← eat .asWord).isSome then
    let aliased ← expect .word "a source alias"
    return ⟨token.text, arguments, some aliased.text⟩
  return ⟨token.text, arguments, none⟩

/-- What a field is compared with. -/
def readOperand : Parse String := do
  let token ← peek
  match token.kind with
  | .word | .number | .text =>
    let _ ← advance
    return token.text
  | .minus =>
    let _ ← advance
    let digits ← expect .number "a number"
    return "-" ++ digits.text
  | _ => fail "a value"

/-- A comparison of a field: the field, the comparison and the operand. -/
def readPredicate : Parse (String × Operator × String) := do
  let field ← expect .word "a field name"
  match Operator.comparison? (← peek).kind with
  | none => fail "a comparison operator"
  | some operator =>
    let _ ← advance
    return (field.text, operator, ← readOperand)

/-- Records a predicate in a request, in place of an earlier one on the same field. -/
def Request.addPredicate (r : Request) (recording : Recording) (field : String)
    (operator : Operator) (operand : String) : Request :=
  let value := match recording with
    | .operand => operand
    | .fieldName => field
  { r with
    predicates := r.predicates.insert field value
    operators := r.operators.insert field operator }

/-- Predicates up to the end of the clause. -/
def predicatesWithin (d : Dialect σ) : (bound : Nat) → Request → Parse Request
  | 0, _ => fail "a field name"
  | bound + 1, r => do
    let (field, operator, operand) ← readPredicate
    let r := r.addPredicate d.recording field operator operand
    let next ← peek
    match next.kind with
    | .andWord =>
      let _ ← advance
      predicatesWithin d bound r
    | .orWord => throw (.unsupported "OR predicates" next.position)
    | _ => if endsClause d next then return r else fail "AND or the end of the predicates"

/-- A row count. -/
def readLimit : Parse Nat := do
  let token ← expect .number "a row count"
  match Decimal.readNat? 64 token.text with
  | some n => return n
  | none => throw (.unexpected "a whole row count" token)

/-- Reads the body of a clause and adds it to a request. -/
def Body.read (d : Dialect σ) (body : Body) (r : Request) : Parse Request := do
  let bound := (← remaining) + 1
  match body with
  | columns =>
    let found ← columnsWithin d bound
    return { r with columns := r.columns ++ found }
  | source =>
    let found ← readSource
    return { r with source := some found }
  | predicates => predicatesWithin d bound r
  | limit =>
    let found ← readLimit
    return { r with limit := some found }

end RowSieve
