/-!
# Lines

An input is a row of bytes.  `splitLines` cuts it after each newline, so that nothing is lost, and
`linesOf` numbers the lines from one and tells which of them are text.
-/

namespace RowSieve

/-- The bytes of an input, line by line.  Each line ends with its newline, where it has one. -/
def splitLines : List UInt8 → List (List UInt8)
  | [] => []
  | b :: bs =>
    if b = 10 then [b] :: splitLines bs
    else match splitLines bs with
      | [] => [[b]]
      | line :: lines => (b :: line) :: lines

/-- A line of an input. -/
structure Line where
  /-- Its number, counted from one. -/
  number : Nat
  /-- Its text, if its bytes are one. -/
  text : Option String
deriving DecidableEq, Repr

/-- The text that bytes spell. -/
def decodeBytes? (bytes : List UInt8) : Option String := String.fromUTF8? ⟨bytes.toArray⟩

/-- The lines of an input. -/
def linesOf (input : List UInt8) : List Line :=
  ((splitLines input).zipIdx 1).map fun line => ⟨line.2, decodeBytes? line.1⟩

end RowSieve
