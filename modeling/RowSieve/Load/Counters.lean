import RowSieve.Decimal.Shortest

/-!
# Counters

`Counters` count what a load test does, and a `Snapshot` puts them beside the time that has passed.
Its line has a column for each of them and the number of operations in a second.
-/

namespace RowSieve

/-- Operations on a store. -/
structure Counters where
  /-- Values that were put. -/
  writes : Nat
  /-- Values that were read back. -/
  reads : Nat
  /-- Operations that failed. -/
  errors : Nat
deriving DecidableEq, Repr, Inhabited

namespace Counters

/-- Nothing has been done. -/
def zero : Counters := ⟨0, 0, 0⟩

/-- Counts a value that was put. -/
def addWrite (c : Counters) : Counters := { c with writes := c.writes + 1 }

/-- Counts a value that was read back. -/
def addRead (c : Counters) : Counters := { c with reads := c.reads + 1 }

/-- Counts a failure. -/
def addError (c : Counters) : Counters := { c with errors := c.errors + 1 }

/-- The number of operations that succeeded. -/
def operations (c : Counters) : Nat := c.writes + c.reads

end Counters

/-- Counters at some time. -/
structure Snapshot where
  /-- The seconds that have passed. -/
  seconds : Float
  /-- The counters. -/
  counters : Counters
deriving Repr, Inhabited

namespace Snapshot

/-- Seconds, and parts of a second in units of a billionth. -/
def secondsOf (whole nanos : Nat) : Float := Float.ofNat whole + Float.ofNat nanos / 1e9

/-- Operations in a second, none if no time has passed. -/
def rate (s : Snapshot) : Float :=
  if s.seconds == 0 then 0 else Float.ofNat s.counters.operations / s.seconds

/-- A text with blanks in front of it, up to a width. -/
def padLeft (width : Nat) (s : String) : String :=
  String.ofList (List.replicate (width - s.length) ' ') ++ s

/-- A text with blanks behind it, up to a width. -/
def padRight (width : Nat) (s : String) : String :=
  s ++ String.ofList (List.replicate (width - s.length) ' ')

/-- The names of the columns of a line. -/
def header : String := "Time        Writes     Reads  Errors       Rate"

/-- A snapshot on one line. -/
def line (s : Snapshot) : String :=
  " ".intercalate
    [padRight 8 (Decimal.fixed 1 s.seconds ++ "s"), padLeft 9 (toString s.counters.writes),
     padLeft 9 (toString s.counters.reads), padLeft 7 (toString s.counters.errors),
     padLeft 9 (Decimal.fixed 0 s.rate) ++ "/s"]

end Snapshot

end RowSieve
