import RowSieve.Decimal.Shortest

/-!
# JSON numbers

Doubles are written in their shortest digits.  From a hundred thousandth up to ten to the
sixteenth the digits are written around a point, with at least one digit after it; other numbers
have one digit before the point and an exponent with a sign.  What is not a number is `null`.
-/

namespace RowSieve

namespace Json

/-- Digits with a power of ten, with at least one digit after the point. -/
def pointText (digits : Nat) (power : Int) : String :=
  Decimal.placePoint digits power ++ if 0 ≤ power then ".0" else ""

/-- Digits with a power of ten, as one digit before the point and an exponent. -/
def exponentText (digits : Nat) (exponent : Int) : String :=
  let mantissa := match Nat.toDigits 10 digits with
    | d :: e :: ds => d :: '.' :: e :: ds
    | ds => ds
  String.ofList mantissa ++ "e" ++ (if exponent < 0 then "-" else "+") ++ toString exponent.natAbs

/-- A double as a JSON number, or `null`. -/
def floatText (x : Float) : String :=
  match Decimal.Double.ofFloat x with
  | .nan => "null"
  | .infinite _ => "null"
  | .finite negative mantissa exponent =>
    let (digits, power) := Decimal.shortest Decimal.roundHalfEven mantissa exponent
    let leading := power + Decimal.digitCount digits - 1
    Decimal.signText negative ++
      if -5 ≤ leading && leading < 16 then pointText digits power else exponentText digits leading

end Json

end RowSieve
