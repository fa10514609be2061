import RowSieve.Decimal.Reading
import RowSieve.Decimal.Shortest
import RowSieve.Json.Number
import RowSieve.Json.Text

/-!
# Values

A `Value` is what a field of a record or a result of an expression holds.  Whole numbers of 64
bits and doubles are kept apart, also where they stand for the same number.  `Value.ofField` tells
which value the text of a field is: numbers and the two truth values are recognised, an empty
field is no value, and all else is text.
-/

namespace RowSieve

/-- A field of a record, or a result. -/
inductive Value where
  /-- No value. -/
  | null
  /-- A truth value. -/
  | boolean (b : Bool)
  /-- A double. -/
  | float (x : Float)
  /-- A whole number. -/
  | integer (n : Int64)
  /-- A text. -/
  | text (s : String)
deriving Repr, Inhabited

namespace Value

/-- Digits, signs, points and exponent letters, with at least one digit among them. -/
def looksNumeric (cs : List Char) : Bool :=
  cs.any Char.isDigit &&
    cs.all fun c => c.isDigit || c = '-' || c = '+' || c = '.' || c = 'e' || c = 'E'

/-- The number that a field holds. -/
def numberOfField? (field : String) : Option Value :=
  match Decimal.readInt64? field with
  | some n => some (.integer n)
  | none =>
    if looksNumeric field.toList then (Decimal.readFloat? field).map .float else none

/-- The value that a field holds. -/
def ofField (field : String) : Value :=
  if field = "" then .null
  else match numberOfField? field with
    | some v => v
    | none =>
      if field = "true" then .boolean true
      else if field = "false" then .boolean false
      else .text field

/-- The value counts as true where a condition is asked for: positive numbers and texts that are
not empty do. -/
def holds : Value → Bool
  | null => false
  | boolean b => b
  | float x => x > 0
  | integer n => 0 < n
  | text s => s ≠ ""

/-- The double nearest to a number. -/
def toFloat? : Value → Option Float
  | integer n => some (Float.ofInt n.toInt)
  | float x => some x
  | _ => none

/-- Two values are equal: of the same type, and the same.  A whole number and a double never are,
and what is not a number differs from itself. -/
def same : Value → Value → Bool
  | null, null => true
  | boolean a, boolean b => a == b
  | float a, float b => a == b
  | integer a, integer b => a == b
  | text a, text b => a == b
  | _, _ => false

/-- The name of a value's type. -/
def typeName : Value → String
  | null => "null"
  | boolean _ => "boolean"
  | float _ => "float"
  | integer _ => "integer"
  | text _ => "string"

/-- A value as people read it. -/
def display : Value → String
  | null => "null"
  | boolean b => if b then "true" else "false"
  | float x => Decimal.positional x
  | integer n => toString n.toInt
  | text s => s

/-- A value as a part of a longer text, where no value leaves no trace. -/
def toText : Value → String
  | null => ""
  | v => v.display

/-- A value as a JSON document. -/
def toJson : Value → String
  | null => "null"
  | boolean b => if b then "true" else "false"
  | float x => Json.floatText x
  | integer n => toString n.toInt
  | text s => Json.quote s

end Value

end RowSieve
