import RowSieve.Decimal.Remainder
import RowSieve.Decimal.Scaled
import RowSieve.Expr.Basic
import RowSieve.Expr.Error
import RowSieve.Row

/-!
# Running programs

`eval` works an expression out on two rows: names are looked up first in the row that the program
has written so far, then in the row that was read.  `run` carries out instructions one after the
other.  A filter that does not hold stops the run, and so does an error; what was written before
stays.

Arithmetic on whole numbers is exact or reported as an overflow, where a division that does not
come out even gives a double.  Between a whole number and a double the result is worked out in
decimal, and is whole if it comes out so.
-/

namespace RowSieve

/-- The result of an operation on whole numbers, if it has 64 bits. -/
def exactInteger (operator : Operator) (n : Int) : Except Fall Value :=
  if Decimal.fitsInt64 n then .ok (.integer (Int64.ofInt n))
  else .error (.error (.overflow operator))

/-- An operation on whole numbers. -/
def integerArithmetic (operator : Operator) (a b : Int64) : Except Fall Value :=
  let m := a.toInt
  let n := b.toInt
  match operator with
  | .add => exactInteger operator (m + n)
  | .subtract => exactInteger operator (m - n)
  | .multiply => exactInteger operator (m * n)
  | .divide =>
    if n = 0 then .error (.error .divisionByZero)
    else if m = -2 ^ 63 && n = -1 then .error (.crash .remainderOverflow)
    else if m.tmod n ≠ 0 then .ok (.float (Float.ofInt m / Float.ofInt n))
    else exactInteger operator (m.tdiv n)
  | .modulo =>
    if n = 0 then .error (.error .divisionByZero)
    else if m = -2 ^ 63 && n = -1 then .error (.error (.overflow operator))
    else exactInteger operator (m.tmod n)
  | _ => .error (.error (.overflow operator))

/-- The divisor of a division is zero. -/
def dividesByZero (operator : Operator) (divisor : Float) : Bool :=
  (operator = .divide || operator = .modulo) && divisor == 0

/-- An operation on doubles; anything but a sum, a difference, a product or a quotient is a
remainder. -/
def floatArithmetic (operator : Operator) (a b : Float) : Except Fall Value :=
  if dividesByZero operator b then .error (.error .divisionByZero)
  else .ok <| .float <| match operator with
    | .add => a + b
    | .subtract => a - b
    | .multiply => a * b
    | .divide => a / b
    | _ => Decimal.floatRemainder a b

/-- A number in decimal. -/
def decimalOf? : Value → Option Decimal.Scaled
  | .integer n => some (.ofInt n.toInt)
  | .float x => Decimal.Scaled.ofFloat? x
  | _ => none

/-- An operation in decimal. -/
def decimalArithmetic (operator : Operator) (a b : Decimal.Scaled) : Option Decimal.Scaled :=
  match operator with
  | .add => a.add b
  | .subtract => a.sub b
  | .multiply => a.mul b
  | .divide => a.div b
  | .modulo => a.rem b
  | _ => none

/-- A decimal as a value: whole if there is nothing but zeros after the point and it fits. -/
def Value.ofDecimal (d : Decimal.Scaled) : Value :=
  match if d.isInteger then d.toInt64? else none with
  | some n => .integer n
  | none => .float d.toFloat

/-- An operation between a whole number and a double, in either order.  Where decimals do not reach,
it is done on doubles. -/
def mixedArithmetic (operator : Operator) (a b : Value) : Except Fall Value :=
  let x := a.toFloat?.getD 0
  let y := b.toFloat?.getD 0
  if dividesByZero operator y then .error (.error .divisionByZero)
  else
    match (decimalOf? a).bind fun d => (decimalOf? b).bind (decimalArithmetic operator d) with
    | some d => .ok (.ofDecimal d)
    | none => floatArithmetic operator x y

/-- Arithmetic on two values.  Two texts can be added. -/
def arithmetic (operator : Operator) (a b : Value) : Except Fall Value :=
  match a, b with
  | .integer m, .integer n => integerArithmetic operator m n
  | .float x, .float y => floatArithmetic operator x y
  | .integer _, .float _ => mixedArithmetic operator a b
  | .float _, .integer _ => mixedArithmetic operator a b
  | .text s, .text t =>
    if operator = .add then .ok (.text (s ++ t))
    else .error (.error (.cannotApply operator a.typeName b.typeName))
  | _, _ => .error (.error (.cannotApply operator a.typeName b.typeName))

/-- The order of two doubles; what is not a number has no place in it. -/
def compareFloats (x y : Float) : Option Ordering :=
  if x < y then some .lt else if x == y then some .eq else if y < x then some .gt else none

/-- The order of two values, `none` where they have none.  No value is before or after another. -/
def compareValues (operator : Operator) (a b : Value) : Except Fall (Option Ordering) :=
  match a, b with
  | .null, _ => .ok none
  | _, .null => .ok none
  | .integer m, .integer n => .ok (some (compare m.toInt n.toInt))
  | .text s, .text t => .ok (some (compare s t))
  | _, _ =>
    match a.toFloat?, b.toFloat? with
    | some x, some y => .ok (compareFloats x y)
    | _, _ => .error (.error (.cannotCompare operator a.typeName b.typeName))

/-- The order is the one that a comparison asks for. -/
def Operator.admits : Operator → Ordering → Bool
  | lessThan, o => o.isLT
  | greaterThan, o => o.isGT
  | lessEqual, o => o.isLE
  | _, o => o.isGE

/-- An operator between two values. -/
def applyOperator (operator : Operator) (a b : Value) : Except Fall Value :=
  match operator with
  | .add | .subtract | .multiply | .divide | .modulo => arithmetic operator a b
  | .equal => .ok (.boolean (a.same b))
  | .notEqual => .ok (.boolean (!a.same b))
  | .lessThan | .greaterThan | .lessEqual | .greaterEqual =>
    (compareValues operator a b).map fun order => .boolean (order.any operator.admits)
  | .and => .ok (.boolean (a.holds && b.holds))
  | .or => .ok (.boolean (a.holds || b.holds))

/-- The value of a call. -/
def applyFunction (name : String) (f : Function) (arguments : List Value) : Except Fall Value :=
  if f.accepts arguments.length then
    match f.call arguments with
    | .ok v => .ok v
    | .error (.message text) => .error (.error (.function name text))
    | .error (.crash c) => .error (.crash c)
  else
    .error (.error (.function name
      s!"takes {f.arityText} arguments, got {arguments.length}"))

mutual

/-- The value of an expression, given the row written so far and the row that was read. -/
def eval (fs : Functions) (written read : Row) : Expr → Except Fall Value
  | .float x => .ok (.float x)
  | .integer n => .ok (.integer n)
  | .text s => .ok (.text s)
  | .boolean b => .ok (.boolean b)
  | .null => .ok .null
  | .field name => .ok (((written.get? name).or (read.get? name)).getD .null)
  | .not operand =>
    match eval fs written read operand with
    | .error e => .error e
    | .ok v => .ok (.boolean !v.holds)
  | .binary operator left right =>
    match eval fs written read left with
    | .error e => .error e
    | .ok a =>
      if operator = .and && !a.holds then .ok (.boolean false)
      else if operator = .or && a.holds then .ok (.boolean true)
      else
        match eval fs written read right with
        | .error e => .error e
        | .ok b => applyOperator operator a b
  | .call name arguments =>
    match fs.get? name with
    | none => .error (.error (.unknownFunction name))
    | some f =>
      match evalAll fs written read arguments with
      | .error e => .error e
      | .ok values => applyFunction name f values

/-- The values of expressions, up to the first that has none. -/
def evalAll (fs : Functions) (written read : Row) : List Expr → Except Fall (List Value)
  | [] => .ok []
  | e :: es =>
    match eval fs written read e with
    | .error e => .error e
    | .ok v => (evalAll fs written read es).map (v :: ·)

end

/-- How a run ends. -/
inductive Outcome where
  /-- Every filter held. -/
  | passed
  /-- A filter did not hold. -/
  | filtered
deriving DecidableEq, Repr

/-- Carries instructions out.  The result is how the run ends, and the row that was written. -/
def run (fs : Functions) (read : Row) : List Instruction → (written : Row) →
    Except Fall Outcome × Row
  | [], written => (.ok .passed, written)
  | .filter condition :: rest, written =>
    match eval fs written read condition with
    | .error e => (.error e, written)
    | .ok v => if v.holds then run fs read rest written else (.ok .filtered, written)
  | .assign target value :: rest, written =>
    match eval fs written read value with
    | .error e => (.error e, written)
    | .ok v => run fs read rest (written.insert target v)

end RowSieve
