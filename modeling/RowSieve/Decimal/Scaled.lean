import RowSieve.Decimal.Shortest

/-!
# Decimals of 96 bits

Sums, products and quotients of a whole number with a double are worked out in decimal, so that
two times one and a half is exactly three.  A `Scaled` is `magnitude / 10 ^ scale` with a sign,
where the magnitude stays below `Scaled.bound` and the scale is at most `Scaled.maxScale`.  An
operation whose result has more digits rounds it to the digits that fit; where not even the whole
part fits there is no result.

`Scaled.ofFloat?` and `Scaled.toFloat` go between doubles and decimals.
-/

namespace RowSieve

namespace Decimal

/-- The number `magnitude / 10 ^ scale`, or its opposite. -/
structure Scaled where
  /-- The number is below zero, or a zero written with a minus. -/
  negative : Bool
  /-- The digits. -/
  magnitude : Nat
  /-- How many of the digits come after the point. -/
  scale : Nat
deriving DecidableEq, Repr

namespace Scaled

/-- Magnitudes are less than this. -/
def bound : Nat := 2 ^ 96

/-- The most digits after the point. -/
def maxScale : Nat := 28

/-- Zero without a sign. -/
def zero : Scaled := ⟨false, 0, 0⟩

/-- A whole number. -/
def ofInt (n : Int) : Scaled := ⟨n < 0, n.natAbs, 0⟩

/-! ### From doubles -/

/-- Turns `steps` halvings of the mantissa into multiplications by five, each of which moves the
point, as long as the mantissa is odd and there is room; the others are done. -/
def halve : (steps : Nat) → (mantissa : Nat) → (power : Int) → Nat × Int
  | 0, m, power => (m, power)
  | steps + 1, m, power =>
    if m % 2 = 1 && m * 5 < bound then halve steps (m * 5) power
    else halve steps (m / 2) (power + 1)

/-- Turns `steps` doublings of the mantissa, each of them a ten over a five: doubles while there
is room, afterwards divides by five. -/
def double : (steps : Nat) → (mantissa : Nat) → (power : Int) → Option (Nat × Int)
  | 0, m, power => some (m, power)
  | steps + 1, m, power =>
    if m < 2 ^ 95 then double steps (m * 2) (power - 1)
    else if (steps + 1 : Int) < power * 2 then none
    else double steps (m / 5) power

/-- Multiplies by ten `steps` times, if there is room. -/
def raise : (steps : Nat) → (mantissa : Nat) → Option Nat
  | 0, m => some m
  | steps + 1, m => if m * 10 < bound then raise steps (m * 10) else none

/-- Drops `steps` digits one after the other, each with a rounding of its own; `none` if nothing
is left. -/
def dropDigits : (steps : Nat) → (mantissa : Nat) → Option Nat
  | 0, m => some m
  | steps + 1, m =>
    if m / 10 = 0 then none
    else dropDigits steps (if 5 ≤ m % 10 then m / 10 + 1 else m / 10)

/-- Drops digits after the point that a double does not have. -/
def dropExcess : (scale : Nat) → (mantissa : Nat) → Nat × Nat
  | 0, m => (m, 0)
  | scale + 1, m =>
    if 2 ^ 52 ≤ m then dropExcess scale (if 5 ≤ m % 10 then m / 10 + 1 else m / 10)
    else (m, scale + 1)

/-- Drops zeros at the end of the digits after the point. -/
def dropZeros : (scale : Nat) → (mantissa : Nat) → Nat × Nat
  | 0, m => (m, 0)
  | scale + 1, m => if m % 10 = 0 then dropZeros scale (m / 10) else (m, scale + 1)

/-- `mantissa * 10 ^ power` with at most `maxScale` digits after the point. -/
def settle (negative : Bool) (mantissa : Nat) (power : Int) : Option Scaled :=
  if 0 < power then (raise power.toNat mantissa).map (⟨negative, ·, 0⟩)
  else
    let places := power.natAbs
    match dropDigits (places - maxScale) mantissa with
    | none => some ⟨negative, 0, 0⟩
    | some m =>
      let (m, scale) := dropExcess (min places maxScale) m
      let (m, scale) := dropZeros scale m
      some ⟨negative, m, scale⟩

/-- The decimal for a double, to about as many digits as the double has. -/
def ofFloat? (x : Float) : Option Scaled :=
  match Double.ofFloat x with
  | .nan => none
  | .infinite _ => none
  | .finite negative mantissa exponent =>
    if mantissa = 0 then some ⟨negative, 0, 0⟩
    else if exponent ≤ 0 then
      let (m, power) := halve exponent.natAbs mantissa exponent
      settle negative m power
    else (double exponent.natAbs mantissa exponent).bind fun (m, power) => settle negative m power

/-! ### Arithmetic -/

/-- Rounds off `k` digits, or as many more as it takes to fit, at most `spare` of them. -/
def fitFrom (negative : Bool) (magnitude scale : Nat) : (spare k : Nat) → Option Scaled
  | 0, k =>
    let q := roundHalfEven magnitude (10 ^ k)
    if q < bound && k ≤ scale then some ⟨negative && q ≠ 0, q, scale - k⟩ else none
  | spare + 1, k =>
    let q := roundHalfEven magnitude (10 ^ k)
    if scale < k then none
    else if q < bound then some ⟨negative && q ≠ 0, q, scale - k⟩
    else fitFrom negative magnitude scale spare (k + 1)

/-- The exact result `magnitude / 10 ^ scale`, rounded to the digits that fit. -/
def fit (negative : Bool) (magnitude scale : Nat) : Option Scaled :=
  fitFrom negative magnitude scale scale (scale - maxScale)

/-- The digits as a whole number with sign, on a grid of `scale` digits after the point. -/
def units (a : Scaled) (scale : Nat) : Int :=
  let m := a.magnitude * 10 ^ (scale - a.scale)
  if a.negative then -m else m

/-- The opposite number. -/
def neg (a : Scaled) : Scaled := { a with negative := !a.negative }

/-- A sum.  Zero added to a number gives that number, with its digits. -/
def add (a b : Scaled) : Option Scaled :=
  if a.magnitude = 0 then some b
  else if b.magnitude = 0 then some a
  else
    let scale := max a.scale b.scale
    let sum := a.units scale + b.units scale
    fit (sum < 0) sum.natAbs scale

/-- A difference. -/
def sub (a b : Scaled) : Option Scaled :=
  if a.magnitude = 0 then some (if b.magnitude = 0 then b else b.neg)
  else if b.magnitude = 0 then some a
  else add a b.neg

/-- A product. -/
def mul (a b : Scaled) : Option Scaled :=
  if a.magnitude = 0 || b.magnitude = 0 then some zero
  else fit (a.negative != b.negative) (a.magnitude * b.magnitude) (a.scale + b.scale)

/-- Takes the last digit off a quotient that has grown too large; `sticky` tells that more digits
would follow. -/
def shrink (q : Nat) (scale : Int) (sticky : Bool) : Option (Nat × Int) :=
  if scale - 1 < 0 then none
  else
    let r := q % 10
    let q := q / 10
    some (if 5 < r || (r = 5 && (sticky || q % 2 = 1)) then q + 1 else q, scale - 1)

/-- The most digits, up to `limit`, by which `q` can grow. -/
def room (q : Nat) : (limit : Nat) → Nat
  | 0 => 0
  | p + 1 => if q * 10 ^ (p + 1) < bound then p + 1 else room q p

/-- Long division: appends digits to the quotient `q`, which leaves the remainder `r`, until it
comes out even or is full.  The result tells whether digits after the whole part were needed. -/
def divideFrom (divisor : Nat) : (rounds : Nat) → (q r : Nat) → (scale : Int) → (inexact : Bool) →
    Option (Nat × Int × Bool)
  | 0, q, _, scale, inexact => some (q, scale, inexact)
  | rounds + 1, q, r, scale, inexact =>
    if r = 0 && 0 ≤ scale then some (q, scale, inexact)
    else
      let inexact := inexact || r ≠ 0
      let places :=
        if r = 0 then min 9 scale.natAbs
        else if scale = maxScale then 0
        else room q (min 9 (maxScale - scale).toNat)
      if r ≠ 0 && scale ≠ maxScale && places < 9 && places + scale < 0 then none
      else if places = 0 then
        let up := divisor < 2 * r || (2 * r = divisor && q % 2 = 1)
        let q := if up then q + 1 else q
        if q = bound then (shrink q scale true).map fun (q, s) => (q, s, inexact)
        else some (q, scale, inexact)
      else
        let scale := scale + places
        let grown := q * 10 ^ places
        if bound ≤ grown then none
        else
          let t := r * 10 ^ places
          let q := grown + t / divisor
          let r := t % divisor
          if bound ≤ q then (shrink q scale (r ≠ 0)).map fun (q, s) => (q, s, inexact)
          else divideFrom divisor rounds q r scale inexact

/-- Takes zeros off the end of a quotient, eight at a time while its low 32 bits are zero. -/
def unpadBlocks : (fuel : Nat) → Nat → Nat → Nat × Nat
  | 0, q, scale => (q, scale)
  | fuel + 1, q, scale =>
    if q % 2 ^ 32 = 0 && 8 ≤ scale && q % 10 ^ 8 = 0 then
      unpadBlocks fuel (q / 10 ^ 8) (scale - 8)
    else (q, scale)

/-- Takes `count` zeros off the end of a quotient if it has them; `low` is a quick test. -/
def unpad (count low : Nat) (r : Nat × Nat) : Nat × Nat :=
  if r.1 % low = 0 && count ≤ r.2 && r.1 % 10 ^ count = 0 then (r.1 / 10 ^ count, r.2 - count)
  else r

/-- A quotient, to as many digits as fit. -/
def div (a b : Scaled) : Option Scaled :=
  if b.magnitude = 0 then none
  else if a.magnitude = 0 then some zero
  else
    (divideFrom b.magnitude 64 (a.magnitude / b.magnitude) (a.magnitude % b.magnitude)
        ((a.scale : Int) - b.scale) false).map fun (q, scale, inexact) =>
      let r := (q, scale.toNat)
      let (q, scale) :=
        if inexact then unpad 1 2 (unpad 2 4 (unpad 4 16 (unpadBlocks 4 r.1 r.2))) else r
      if q = 0 then ⟨false, 0, scale⟩ else ⟨a.negative != b.negative, q, scale⟩

/-- What is left of `a` after whole multiples of `b`, with the sign of `a`. -/
def rem (a b : Scaled) : Option Scaled :=
  if b.magnitude = 0 then none
  else if a.magnitude = 0 then some zero
  else
    let scale := max a.scale b.scale
    let x := (a.units scale).natAbs
    let y := (b.units scale).natAbs
    if x < y then some a
    else if x % y = 0 then some ⟨false, 0, scale⟩
    else some ⟨a.negative, x % y, scale⟩

/-! ### Into other numbers -/

/-- Nothing but zeros after the point. -/
def isInteger (a : Scaled) : Bool := a.magnitude % 10 ^ a.scale == 0

/-- The part before the point, if it has 64 bits. -/
def toInt64? (a : Scaled) : Option Int64 :=
  let whole := a.magnitude / 10 ^ a.scale
  let n : Int := if a.negative then -whole else whole
  if fitsInt64 n then some (Int64.ofInt n) else none

/-- The power `base ^ n` by repeated squaring, each step rounded; `n` is less than `2 ^ fuel`. -/
def floatPower : (fuel : Nat) → (base result : Float) → (n : Nat) → Float
  | 0, _, result, _ => result
  | fuel + 1, base, result, n =>
    let result := if n % 2 = 1 then result * base else result
    if n / 2 = 0 then result else floatPower fuel (base * base) result (n / 2)

/-- The whole number nearest to a double; a half goes away from zero. -/
def roundFloat (x : Float) : Float :=
  match Double.ofFloat x with
  | .finite negative mantissa exponent =>
    if exponent < 0 then
      let n := Float.ofNat (roundHalfUp mantissa (2 ^ exponent.natAbs))
      if negative then -n else n
    else x
  | _ => x

/-- The double for a decimal: the two sides of the point apart, then rounded to the digits that
the decimal has. -/
def toFloat (a : Scaled) : Float :=
  let signed (x : Float) : Float := if a.negative then -x else x
  if a.scale = 0 then
    if a.magnitude = 0 then 0 else signed (Float.ofNat a.magnitude)
  else
    let whole := Float.ofNat (a.magnitude / 10 ^ a.scale)
    let fraction := Float.ofNat (a.magnitude % 10 ^ a.scale) / Float.ofNat (10 ^ a.scale)
    if fraction == 0 then signed whole
    else
      let power := floatPower 8 10 1 a.scale
      signed (roundFloat ((whole + fraction) * power) / power)

/-- The decimal with at most `places` digits after the point; a half goes away from zero. -/
def roundTo (a : Scaled) (places : Nat) : Scaled :=
  if a.scale ≤ places then a
  else if a.magnitude = 0 then ⟨a.negative, 0, places⟩
  else
    let q := roundHalfUp a.magnitude (10 ^ (a.scale - places))
    ⟨a.negative && q ≠ 0, q, places⟩

end Scaled

end Decimal

end RowSieve
