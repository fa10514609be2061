import RowSieve.Decimal.Scaled
import RowSieve.Function.Basic
import RowSieve.Pattern.Parser

/-!
# The functions at hand

`Functions.builtin` are the functions that every program may call: on texts `upper`, `lower`,
`trim`, `length`, `concat`, `contains`, `startswith`, `endswith` and `matches`, on numbers `abs`
and `round`, and on all values `coalesce` and `type`.

Where a text is asked for, no value is put up with, and most functions then give no value
themselves.
-/

namespace RowSieve

namespace Text

/-- A text has another one as a part. -/
def hasPart (part : List Char) : List Char → Bool
  | [] => part.isEmpty
  | c :: cs => part.isPrefixOf (c :: cs) || hasPart part cs

end Text

namespace Function

/-- The argument at a position. -/
def argument (arguments : List Value) (index : Nat) : Except Refusal Value :=
  match arguments[index]? with
  | some v => .ok v
  | none => .error (.crash (.missingArgument index))

/-- A refusal in words. -/
def refuse {α : Type} (text : String) : Except Refusal α := .error (.message text)

/-- The text of an argument, if it has a value at all.  The position is the one to name if the
argument is something else. -/
def textOf (v : Value) (position : String) : Except Refusal (Option String) :=
  match v with
  | .text s => .ok (some s)
  | .null => .ok none
  | other => refuse s!"{position} argument must be string, got {other.typeName}"

/-- A function from texts to texts. -/
def onText (f : String → String) (arguments : List Value) : Except Refusal Value := do
  let s ← textOf (← argument arguments 0) "first"
  return (s.map fun s => Value.text (f s)).getD .null

/-- The number of characters. -/
def length (arguments : List Value) : Except Refusal Value := do
  let s ← textOf (← argument arguments 0) "first"
  return .integer (Int64.ofNat ((s.map String.length).getD 0))

/-- The texts of all arguments, one after the other. -/
def concat (arguments : List Value) : Except Refusal Value :=
  .ok (.text (String.join (arguments.map Value.toText)))

/-- A test of two texts, which fails if either has no value. -/
def onTexts (test : List Char → List Char → Bool) (arguments : List Value) :
    Except Refusal Value := do
  let s ← textOf (← argument arguments 0) "first"
  let part ← textOf (← argument arguments 1) "second"
  return .boolean <| match s, part with
    | some s, some part => test s.toList part.toList
    | _, _ => false

/-- Tells whether a text has a piece that a pattern describes.  The pattern is read first. -/
def matchesPattern (arguments : List Value) : Except Refusal Value := do
  match ← textOf (← argument arguments 1) "pattern" with
  | none => refuse "pattern must not be null"
  | some source =>
    match Pattern.parse? source with
    | none => refuse "invalid regex"
    | some pattern =>
      match ← argument arguments 0 with
      | .text s => return .boolean (pattern.occursIn s)
      | _ => return .boolean false

/-- The first argument that has a value. -/
def coalesce (arguments : List Value) : Except Refusal Value :=
  .ok ((arguments.find? fun v => !v.same .null).getD .null)

/-- A number without its sign. -/
def magnitude (arguments : List Value) : Except Refusal Value := do
  match ← argument arguments 0 with
  | .integer n =>
    if Decimal.fitsInt64 n.toInt.natAbs then return .integer (Int64.ofNat n.toInt.natAbs)
    else refuse "integer overflow"
  | .float x => return .float x.abs
  | .null => return .null
  | other => refuse s!"requires a number, got {other.typeName}"

/-- The number of places to keep, none if the argument is missing. -/
def placesOf (arguments : List Value) : Except Refusal Nat :=
  match arguments[1]? with
  | none => .ok 0
  | some v =>
    let refused : Except Refusal Nat := refuse s!"invalid digit count {v.display}"
    match v with
    | .integer n => if 0 ≤ n.toInt && n.toInt ≤ 28 then .ok n.toInt.toNat else refused
    | _ => refused

/-- A double with so many places in decimal, whole if none are kept and it fits. -/
def roundFloat (x : Float) (places : Nat) : Except Refusal Value :=
  match Decimal.Scaled.ofFloat? x with
  | none => refuse s!"cannot round {Decimal.positional x}"
  | some d =>
    let rounded := d.roundTo places
    match if places = 0 then rounded.toInt64? else none with
    | some n => .ok (.integer n)
    | none => .ok (.float rounded.toFloat)

/-- A number with so many places. -/
def round (arguments : List Value) : Except Refusal Value := do
  let places ← placesOf arguments
  match ← argument arguments 0 with
  | .integer n => return .integer n
  | .float x => roundFloat x places
  | .null => return .null
  | other => refuse s!"requires a number, got {other.typeName}"

/-- The name of a value's type, which is one for all numbers. -/
def typeOf (arguments : List Value) : Except Refusal Value := do
  match ← argument arguments 0 with
  | .integer _ => return .text "number"
  | .float _ => return .text "number"
  | other => return .text other.typeName

end Function

/-- The functions that every program may call. -/
def Functions.builtin : Functions :=
  [("upper", .exact 1 (Function.onText Text.uppercase)),
   ("lower", .exact 1 (Function.onText Text.lowercase)),
   ("trim", .exact 1 (Function.onText Text.trim)),
   ("length", .exact 1 Function.length),
   ("concat", .atLeast 1 Function.concat),
   ("contains", .exact 2 (Function.onTexts fun s part => Text.hasPart part s)),
   ("startswith", .exact 2 (Function.onTexts fun s part => part.isPrefixOf s)),
   ("endswith", .exact 2 (Function.onTexts fun s part => part.isSuffixOf s)),
   ("matches", .exact 2 Function.matchesPattern),
   ("coalesce", .atLeast 1 Function.coalesce),
   ("abs", .exact 1 Function.magnitude),
   ("round", .between 1 2 Function.round),
   ("type", .exact 1 Function.typeOf)].foldl
    (fun fs (f : String × Function) => fs.register f.1 f.2) .empty

end RowSieve
