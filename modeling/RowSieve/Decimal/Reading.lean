import RowSieve.Power

/-!
# Reading decimal numbers

`readNat?`, `readInt64?` and `readFloat?` say which texts are numbers and what they stand for.
A whole number is one optional sign and one or more of the digits `0` to `9`, within the range
of its type.  A floating-point number may also have a point with a digit on at least one of its
sides and an exponent, or be one of the words for infinity and for "not a number"; its value is
the double nearest to the decimal.
-/

namespace RowSieve

namespace Decimal

/-- The number that a row of digits stands for, after the digits that make up `start`. -/
def digitsValue (start : Nat) (cs : List Char) : Nat :=
  cs.foldl (fun n c => 10 * n + (c.toNat - '0'.toNat)) start

/-- One or more digits. -/
def readDigits? (cs : List Char) : Option Nat :=
  if !cs.isEmpty && cs.all Char.isDigit then some (digitsValue 0 cs) else none

/-- A sign in front of a number, if there is one, and what follows it; `true` is the minus. -/
def splitSign : List Char → Bool × List Char
  | '-' :: cs => (true, cs)
  | '+' :: cs => (false, cs)
  | cs => (false, cs)

/-- Digits after an optional sign. -/
def readInt? (cs : List Char) : Option Int :=
  let (negative, rest) := splitSign cs
  (readDigits? rest).map fun n => if negative then -(n : Int) else n

/-- The whole number is one of the 64-bit ones. -/
def fitsInt64 (n : Int) : Bool := -2 ^ 63 ≤ n && n < 2 ^ 63

/-- A whole number of 64 bits with sign. -/
def readInt64? (s : String) : Option Int64 :=
  (readInt? s.toList).bind fun n => if fitsInt64 n then some (Int64.ofInt n) else none

/-- A whole number of at most `bits` bits without sign; a plus is allowed in front of it. -/
def readNat? (bits : Nat) (s : String) : Option Nat :=
  let digits := match s.toList with
    | '+' :: cs => cs
    | cs => cs
  (readDigits? digits).bind fun n => if n < 2 ^ bits then some n else none

/-- How many digits a number has in decimal; zero has one. -/
def digitCount (n : Nat) : Nat := (Nat.toDigits 10 n).length

/-- The double above all finite ones. -/
def infinity : Float := Float.ofBits 0x7FF0000000000000

/-- The double that is not a number. -/
def notANumber : Float := Float.ofBits 0x7FF8000000000000

/-- The double nearest to `mantissa * 10 ^ exponent`.  Beyond the range of doubles, infinity and
zero are given without working the power out. -/
def nearestFloat (mantissa : Nat) (exponent : Int) : Float :=
  let top := exponent + digitCount mantissa
  if mantissa = 0 || top < -330 then 0
  else if 310 < top then infinity
  else Float.ofScientific mantissa (decide (exponent < 0)) exponent.natAbs

/-- An exponent: the letter `e`, an optional sign and digits.  No letter means zero. -/
def readExponent? : List Char → Option Int
  | [] => some 0
  | c :: cs => if c = 'e' || c = 'E' then readInt? cs else none

/-- Digits with an optional point among them and an optional exponent. -/
def readUnsignedFloat? (cs : List Char) : Option Float :=
  let whole := cs.takeWhile Char.isDigit
  let rest := cs.dropWhile Char.isDigit
  let (fraction, rest) := match rest with
    | '.' :: rest => (rest.takeWhile Char.isDigit, rest.dropWhile Char.isDigit)
    | _ => ([], rest)
  if whole.isEmpty && fraction.isEmpty then none
  else (readExponent? rest).map fun exponent =>
    nearestFloat (digitsValue 0 (whole ++ fraction)) (exponent - fraction.length)

/-- A double, with an optional sign. -/
def readFloat? (s : String) : Option Float :=
  let (negative, rest) := splitSign s.toList
  let word := String.ofList (rest.map Char.toLower)
  let magnitude :=
    if word = "inf" || word = "infinity" then some infinity
    else if word = "nan" then some notANumber
    else readUnsignedFloat? rest
  magnitude.map fun x => if negative then -x else x

end Decimal

end RowSieve
