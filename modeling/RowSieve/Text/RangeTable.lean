/-!
# Sets of code points

Properties of characters are given by tables: a `RangeTable` lists half-open ranges of code
points in increasing order, and `RangeTable.covers` looks a code point up, giving up at the
first range that starts above it.

A `Shift` describes characters that map to one other character by moving all members of a
range, or every second member, by the same distance; `Shift.image?` finds the image of a code
point under a list of them.
-/

namespace RowSieve

namespace Text

/-- Half-open ranges of code points, in increasing order and disjoint. -/
abbrev RangeTable := List (Nat × Nat)

/-- The code point lies in one of the ranges. -/
def RangeTable.covers : RangeTable → Nat → Bool
  | [], _ => false
  | (low, high) :: ranges, n =>
    if n < low then false else decide (n < high) || RangeTable.covers ranges n

/-- Moves each `step`-th code point of `low, …, high` by `distance`. -/
structure Shift where
  /-- The first code point that moves. -/
  low : Nat
  /-- The last code point that moves. -/
  high : Nat
  /-- The distance between two code points that move. -/
  step : Nat
  /-- How far they move. -/
  distance : Int

/-- The image of a code point under the first shift that moves it. -/
def Shift.image? : List Shift → Nat → Option Nat
  | [], _ => none
  | s :: shifts, n =>
    if n < s.low then none
    else if n ≤ s.high && (n - s.low) % s.step == 0 then some (n + s.distance).toNat
    else Shift.image? shifts n

end Text

end RowSieve
