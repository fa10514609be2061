import RowSieve.Decimal.Shortest

/-!
# Remainders of doubles

`floatRemainder x y` is what is left of `x` after whole multiples of `y`.  It has the sign of
`x`, is smaller than `y` and, unlike a quotient, is never rounded: both doubles are written as
multiples of one power of two and the remainder is taken there.
-/

namespace RowSieve

namespace Decimal

/-- The double `mantissa * 2 ^ exponent`, for a mantissa that fits. -/
def binaryFloat (negative : Bool) (mantissa : Nat) (exponent : Int) : Float :=
  let x :=
    if exponent < 0 then Float.ofScientific (mantissa * 5 ^ exponent.natAbs) true exponent.natAbs
    else Float.ofNat (mantissa * 2 ^ exponent.natAbs)
  if negative then -x else x

/-- What is left of `x` after whole multiples of `y`, with the sign of `x`. -/
def floatRemainder (x y : Float) : Float :=
  match Double.ofFloat x, Double.ofFloat y with
  | .finite negative m p, .finite _ n q =>
    if n = 0 then notANumber
    else
      let exponent := min p q
      binaryFloat negative
        ((m * 2 ^ (p - exponent).toNat) % (n * 2 ^ (q - exponent).toNat)) exponent
  | .finite _ _ _, .infinite _ => x
  | _, _ => notANumber

end Decimal

end RowSieve
