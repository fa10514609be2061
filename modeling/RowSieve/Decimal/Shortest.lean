import RowSieve.Decimal.Reading

/-!
# Doubles as decimals

`Double.ofFloat` takes a double apart into sign, mantissa and power of two.  `shortest` finds the
decimal with the fewest digits among those that read back as the double, and among these the one
nearest to it: on the grids of one digit, two digits and so on it tries the two neighbours of
the value.  Where both are equally near, a rule for rounding that it is given decides.
`positional` writes a double without an exponent, a half going up, and `fixed` with a given number
of digits after the point, a half going to the even neighbour.
-/

namespace RowSieve

namespace Decimal

/-- What a double stands for. -/
inductive Double where
  /-- Not a number. -/
  | nan
  /-- Beyond all numbers, on one side. -/
  | infinite (negative : Bool)
  /-- The number `mantissa * 2 ^ exponent`, or its opposite. -/
  | finite (negative : Bool) (mantissa : Nat) (exponent : Int)
deriving DecidableEq, Repr

/-- The parts of a double. -/
def Double.ofFloat (x : Float) : Double :=
  let bits : Nat := x.toBits.toNat
  let negative := 2 ^ 63 ≤ bits
  let exponent : Nat := bits / 2 ^ 52 % 2 ^ 11
  let fraction : Nat := bits % 2 ^ 52
  if exponent = 2047 then (if fraction = 0 then .infinite negative else .nan)
  else if exponent = 0 then .finite negative fraction (-1074)
  else .finite negative (2 ^ 52 + fraction) ((exponent : Int) - 1075)

/-- The natural number nearest to `num / den`; a half goes to the even neighbour. -/
def roundHalfEven (num den : Nat) : Nat :=
  let q := num / den
  let r := num % den
  if den < 2 * r || (2 * r = den && q % 2 = 1) then q + 1 else q

/-- The natural number nearest to `num / den`; a half goes up. -/
def roundHalfUp (num den : Nat) : Nat := (2 * num + den) / (2 * den)

/-- The power of ten of the first digit of `num / den`, which is not zero. -/
def leadingPower (num den : Nat) : Int :=
  if den ≤ num then (digitCount (num / den) : Int) - 1
  else -(digitCount ((den + num - 1) / num - 1) : Int)

/-- A fraction with its numerator or its denominator multiplied by a power of ten, so that it
becomes `num / den / 10 ^ power`. -/
def scaleDown (num den : Nat) (power : Int) : Nat × Nat :=
  if power < 0 then (num * 10 ^ power.natAbs, den) else (num, den * 10 ^ power.natAbs)

/-- Half of the gap to the next double, below and above, in quarters of the last binary place.
Below a power of two the gap is only half as wide. -/
def halfGaps (mantissa : Nat) (exponent : Int) : Nat × Nat :=
  (if mantissa = 2 ^ 52 && -1074 < exponent then 1 else 2, 2)

/-- The point `digits * 10 ^ power` reads back as the double that is `num / den`, where the
bounds are `low / den` and `high / den` and belong to it if `closed`. -/
def readsBack (low high den : Nat) (closed : Bool) (power : Int) (digits : Nat) : Bool :=
  let (low, bottom) := scaleDown low den power
  let (high, _) := scaleDown high den power
  if closed then low ≤ digits * bottom && digits * bottom ≤ high
  else low < digits * bottom && digits * bottom < high

/-- Searches the grids of more and more digits, at most `grids` of them, for a point that reads
back.  If both neighbours of the value do, `nearest` chooses. -/
def searchGrids (nearest : Nat → Nat → Nat) (num low high den : Nat) (closed : Bool) :
    (grids : Nat) → Int → Nat × Int
  | 0, power => (nearest (scaleDown num den power).1 (scaleDown num den power).2, power)
  | grids + 1, power =>
    let (n, d) := scaleDown num den power
    let below := n / d
    let hitBelow := readsBack low high den closed power below && below ≠ 0
    let hitAbove := readsBack low high den closed power (below + 1)
    if hitBelow && hitAbove then (nearest n d, power)
    else if hitBelow then (below, power)
    else if hitAbove then (below + 1, power)
    else searchGrids nearest num low high den closed grids (power - 1)

/-- Moves zeros at the end of the digits into the power. -/
def trimZeros : Nat → Nat × Int → Nat × Int
  | 0, r => r
  | fuel + 1, (digits, power) =>
    if digits ≠ 0 && digits % 10 = 0 then trimZeros fuel (digits / 10, power + 1)
    else (digits, power)

/-- The shortest decimal `digits * 10 ^ power` for the double `mantissa * 2 ^ exponent`, where
`nearest` rounds a quotient to one of its two neighbours. -/
def shortest (nearest : Nat → Nat → Nat) (mantissa : Nat) (exponent : Int) : Nat × Int :=
  if mantissa = 0 then (0, 0)
  else
    let (gapBelow, gapAbove) := halfGaps mantissa exponent
    let up := (exponent - 2).toNat
    let down := (2 - exponent).toNat
    let num := 4 * mantissa * 2 ^ up
    let low := (4 * mantissa - gapBelow) * 2 ^ up
    let high := (4 * mantissa + gapAbove) * 2 ^ up
    let den := 2 ^ down
    trimZeros 20
      (searchGrids nearest num low high den (mantissa % 2 = 0) 17 (leadingPower num den))

/-- Digits with a power of ten, written out with a point where it is needed. -/
def placePoint (digits : Nat) (power : Int) : String :=
  let ds := Nat.toDigits 10 digits
  if 0 ≤ power then String.ofList (ds ++ List.replicate power.toNat '0')
  else
    let places := power.natAbs
    let padded := List.replicate (places + 1 - ds.length) '0' ++ ds
    String.ofList
      (padded.take (padded.length - places) ++ '.' :: padded.drop (padded.length - places))

/-- A minus in front of a text, or nothing. -/
def signText (negative : Bool) : String := if negative then "-" else ""

/-- A double in its shortest digits, without an exponent. -/
def positional (x : Float) : String :=
  match Double.ofFloat x with
  | .nan => "NaN"
  | .infinite negative => signText negative ++ "inf"
  | .finite negative mantissa exponent =>
    let (digits, power) := shortest roundHalfUp mantissa exponent
    signText negative ++ placePoint digits power

/-- A double with `places` digits after the point, rounded from its exact value. -/
def fixed (places : Nat) (x : Float) : String :=
  match Double.ofFloat x with
  | .nan => "NaN"
  | .infinite negative => signText negative ++ "inf"
  | .finite negative mantissa exponent =>
    let units :=
      roundHalfEven (mantissa * 2 ^ exponent.toNat * 10 ^ places) (2 ^ (-exponent).toNat)
    signText negative ++ placePoint units (-places)

end Decimal

end RowSieve
