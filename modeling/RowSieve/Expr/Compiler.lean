import RowSieve.Expr.Basic
import RowSieve.Expr.Error
import RowSieve.Token.Cursor

/-!
# Reading programs

`compile` reads a program: filters `?(condition)`, assignments `name := value` and bare
expressions, whose value is assigned to `result`, separated by semicolons.  The operators are, from
the loosest to the tightest,

* `or`, then `and`, both in any case, grouping to the left;
* `not`, which may be repeated;
* one comparison, which does not chain;
* `+` and `-`, then `*`, `/` and `%`, grouping to the left;
* the sign `-`, which may be repeated.

Each level is a reader made from the reader of the next one: `leftChain`, `negation`, `comparison`
and `sign`.  The knot is tied in `expressionWithin`, at parentheses and arguments, where the first
argument bounds how deep they may be nested.
-/

namespace RowSieve

/-- A computation that reads tokens, the last of which is the end of the input. -/
abbrev Compile := StateT (List Token) (Except CompileError)

namespace Compile

/-- The next token. -/
def peek : Compile Token := fun ts => .ok (ts.head?.getD ⟨.endOfInput, "", 0⟩, ts)

/-- The kind of the token after the next one. -/
def peekSecond : Compile Kind := fun ts => .ok (((ts[1]?).map (·.kind)).getD .endOfInput, ts)

/-- Moves past the next token, unless it is the last. -/
def advance : Compile Unit := fun ts => .ok ((), if 1 < ts.length then ts.tail else ts)

/-- The number of tokens that are left. -/
def remaining : Compile Nat := fun ts => .ok (ts.length, ts)

/-- Something else than the next token should stand there. -/
def fail {α : Type} (expected : String) : Compile α := do
  throw (.unexpected expected (← peek))

/-- The next token is of this kind. -/
def check (kind : Kind) : Compile Bool := return (← peek).kind = kind

/-- Moves past the next token, which must be of this kind. -/
def expect (kind : Kind) (expected : String) : Compile Unit := do
  if (← check kind) then advance else fail expected

/-- The token is a word with this spelling, whatever its case. -/
def spells (token : Token) (word : String) : Bool :=
  token.kind = .word && Text.asciiLower token.text = word

/-- Goes on with operators and operands, grouping to the left. -/
def chainFrom (operator? : Token → Option Operator) (operand : Compile Expr) :
    (bound : Nat) → Expr → Compile Expr
  | 0, left => return left
  | bound + 1, left => do
    match operator? (← peek) with
    | none => return left
    | some operator =>
      advance
      let right ← operand
      chainFrom operator? operand bound (.binary operator left right)

/-- Operands with operators between them, grouping to the left. -/
def leftChain (operator? : Token → Option Operator) (operand : Compile Expr) : Compile Expr := do
  let first ← operand
  chainFrom operator? operand (← remaining) first

/-- An operand with any number of negations in front of it. -/
def negationWithin (operand : Compile Expr) : (bound : Nat) → Compile Expr
  | 0 => operand
  | bound + 1 => do
    if spells (← peek) "not" then
      advance
      return .not (← negationWithin operand bound)
    else operand

/-- An operand with any number of negations in front of it. -/
def negation (operand : Compile Expr) : Compile Expr := do
  negationWithin operand (← remaining)

/-- An operand, or two with a comparison between them. -/
def comparison (operand : Compile Expr) : Compile Expr := do
  let left ← operand
  match Operator.comparison? (← peek).kind with
  | none => return left
  | some operator =>
    advance
    return .binary operator left (← operand)

/-- The opposite of an operand: of a number the opposite number, of anything else a difference. -/
def negate : Expr → Expr
  | .integer n => .integer (-n)
  | .float x => .float (-x)
  | operand => .binary .subtract (.integer 0) operand

/-- An operand with any number of signs in front of it. -/
def signWithin (operand : Compile Expr) : (bound : Nat) → Compile Expr
  | 0 => operand
  | bound + 1 => do
    if (← check .minus) then
      advance
      return negate (← signWithin operand bound)
    else operand

/-- An operand with any number of signs in front of it. -/
def sign (operand : Compile Expr) : Compile Expr := do signWithin operand (← remaining)

/-- The number that a spelling stands for, whole if it has no fraction and fits. -/
def numberOf (spelling : String) : Except CompileError Expr :=
  match Decimal.readInt64? spelling with
  | some n => .ok (.integer n)
  | none =>
    match Decimal.readFloat? spelling with
    | some x => .ok (.float x)
    | none => .error (.invalidNumber spelling)

/-- A call names a function that takes that many arguments. -/
def checkCall (fs : Functions) (name : String) (count : Nat) : Except CompileError Unit :=
  match fs.get? name with
  | none => .error (.unknownFunction name)
  | some f => if f.accepts count then .ok () else .error (.arity name f.arityText count)

/-- One or more expressions with commas between them. -/
def argumentsWithin (expression : Compile Expr) : (bound : Nat) → Compile (List Expr)
  | 0 => fail "an expression"
  | bound + 1 => do
    let first ← expression
    if (← check .comma) then
      advance
      return first :: (← argumentsWithin expression bound)
    else return [first]

/-- The arguments of a call of `name`, in parentheses. -/
def call (fs : Functions) (expression : Compile Expr) (name : String) : Compile Expr := do
  expect .leftParen "'('"
  let arguments ←
    if (← check .rightParen) then pure []
    else argumentsWithin expression (← remaining)
  expect .rightParen "',' or ')'"
  checkCall fs name arguments.length
  return .call name arguments

/-- What a word that is not called stands for. -/
def wordValue (word : String) : Expr :=
  let lower := Text.asciiLower word
  if lower = "true" then .boolean true
  else if lower = "false" then .boolean false
  else if lower = "null" then .null
  else .field word

/-- A number, a text, a name, a call, or an expression in parentheses. -/
def primary (fs : Functions) (expression : Compile Expr) : Compile Expr := do
  let token ← peek
  match token.kind with
  | .number =>
    advance
    numberOf token.text
  | .text =>
    advance
    return .text token.text
  | .leftParen =>
    advance
    let inner ← expression
    expect .rightParen "')'"
    return inner
  | .word =>
    advance
    if (← check .leftParen) then call fs expression token.text
    else return wordValue token.text
  | _ => fail "an expression"

/-- The operator that a token spells between products. -/
def sumOperator? (token : Token) : Option Operator :=
  match token.kind with
  | .plus => some .add
  | .minus => some .subtract
  | _ => none

/-- The operator that a token spells between factors. -/
def productOperator? (token : Token) : Option Operator :=
  match token.kind with
  | .star => some .multiply
  | .slash => some .divide
  | .percent => some .modulo
  | _ => none

/-- The operator that a token spells between conditions which must all hold. -/
def andOperator? (token : Token) : Option Operator :=
  if spells token "and" then some .and else none

/-- The operator that a token spells between conditions of which one must hold. -/
def orOperator? (token : Token) : Option Operator :=
  if spells token "or" then some .or else none

/-- All levels of operators above what `expression` reads in parentheses. -/
def ladder (fs : Functions) (expression : Compile Expr) : Compile Expr :=
  leftChain orOperator? <| leftChain andOperator? <| negation <| comparison <|
    leftChain sumOperator? <| leftChain productOperator? <| sign <| primary fs expression

/-- An expression in which parentheses and calls are nested less than `bound` deep. -/
def expressionWithin (fs : Functions) : (bound : Nat) → Compile Expr
  | 0 => fail "an expression"
  | bound + 1 => ladder fs (expressionWithin fs bound)

/-- An expression. -/
def expression (fs : Functions) : Compile Expr := do expressionWithin fs (← remaining)

/-- The name that bare expressions are assigned to. -/
def resultName : String := "result"

/-- A filter, an assignment or a bare expression. -/
def instruction (fs : Functions) : Compile Instruction := do
  let token ← peek
  if token.kind = .question then
    advance
    expect .leftParen "'(' after '?'"
    let condition ← expression fs
    expect .rightParen "')'"
    return .filter condition
  if token.kind = .word && (← peekSecond) = .assign then
    advance
    advance
    return .assign token.text (← expression fs)
  return .assign resultName (← expression fs)

/-- Moves past semicolons. -/
def skipSemicolons : Compile Unit := fun ts =>
  .ok ((), ts.dropWhile fun t => t.kind = .endOfStatement)

/-- Instructions up to the end of the input. -/
def instructionsWithin (fs : Functions) : (bound : Nat) → Compile (List Instruction)
  | 0 => return []
  | bound + 1 => do
    skipSemicolons
    if (← check .endOfInput) then return []
    let first ← instruction fs
    if !(← check .endOfInput) then expect .endOfStatement "';' or the end of the program"
    return first :: (← instructionsWithin fs bound)

/-- All instructions. -/
def program (fs : Functions) : Compile Program := do
  let instructions ← instructionsWithin fs (← remaining)
  if instructions.isEmpty then throw .noInstructions
  return ⟨instructions, none⟩

end Compile

/-- The tokens of a program: those of its source but for the comments. -/
def programTokens (source : String) : Except CompileError (List Token) :=
  match scan source with
  | .error e => .error (.source e)
  | .ok tokens => .ok (tokens.filter fun t => t.kind ≠ .comment)

/-- The program that a source spells, with calls of the given functions. -/
def compile (fs : Functions) (source : String) : Except CompileError Program :=
  match programTokens source with
  | .error e => .error e
  | .ok tokens => ((Compile.program fs).run tokens).map (·.1)

end RowSieve
