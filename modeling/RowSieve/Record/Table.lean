import RowSieve.Record.Fields
import RowSieve.Text.Blank
import RowSieve.Text.Line

/-!
# Tables

A table is an input whose first line that is not blank is the header; every other line that is not
blank is a record with as many fields as the header.  Lines are counted from one, blank lines
included.

`Table.read` needs the header to be in order.  A line that is not, later on, only costs that line:
it stands in `Table.entries` as a `LineError`.
-/

namespace RowSieve

/-! ### Records -/

/-- The text of a line without the characters that end it. -/
def trimLineEnd (cs : List Char) : List Char :=
  (cs.reverse.dropWhile fun c => c = '\n' || c = '\r').reverse

/-- A record of a table. -/
structure Record where
  /-- The number of its line. -/
  line : Nat
  /-- Its fields. -/
  fields : List String
deriving DecidableEq, Repr

/-- What is wrong with a line. -/
inductive LineError where
  /-- It has more or fewer fields than the header. -/
  | fieldCount (line expected found : Nat)
  /-- A quote is never closed. -/
  | openQuote (line : Nat)
  /-- Its bytes are no text. -/
  | notText (line : Nat)
deriving DecidableEq, Repr

/-- The wording of an error in a line. -/
def LineError.message : LineError → String
  | fieldCount line expected found => s!"line {line}: expected {expected} fields, found {found}"
  | openQuote line => s!"line {line}: unterminated quoted field"
  | notText line => s!"line {line}: stream did not contain valid UTF-8"

/-- The record on a line, under a header of `width` names. -/
def Record.ofText (delimiter : Char) (width number : Nat) (text : List Char) :
    Except LineError Record :=
  match fieldsOf? delimiter text with
  | none => .error (.openQuote number)
  | some fields =>
    if fields.length = width then .ok ⟨number, fields⟩
    else .error (.fieldCount number width fields.length)

/-- What a line adds to a table; a blank line adds nothing. -/
def Record.ofLine? (delimiter : Char) (width : Nat) (line : Line) :
    Option (Except LineError Record) :=
  match line.text with
  | none => some (.error (.notText line.number))
  | some s =>
    let text := trimLineEnd s.toList
    if Text.allBlank text then none else some (Record.ofText delimiter width line.number text)

/-! ### Tables -/

/-- A table. -/
structure Table where
  /-- The names of the columns. -/
  header : List String
  /-- The records and the lines that hold none, in order. -/
  entries : List (Except LineError Record)

/-- Why an input is no table. -/
inductive TableError where
  /-- All lines are blank. -/
  | noHeader
  /-- A quote in the header is never closed. -/
  | openQuote (line : Nat)
  /-- The bytes of the header are no text. -/
  | notText
deriving DecidableEq, Repr

/-- The wording of an error in the header. -/
def TableError.message : TableError → String
  | noHeader => "input has no header row"
  | openQuote line => s!"IO error: header on line {line}: unterminated quoted field"
  | notText => "IO error: stream did not contain valid UTF-8"

/-- The names in the first line that is not blank, and the lines after it. -/
def readHeader (delimiter : Char) : List Line → Except TableError (List String × List Line)
  | [] => .error .noHeader
  | line :: lines =>
    match line.text with
    | none => .error .notText
    | some s =>
      let text := trimLineEnd s.toList
      if Text.allBlank text then readHeader delimiter lines
      else match fieldsOf? delimiter text with
        | none => .error (.openQuote line.number)
        | some names => .ok (names.map Text.trim, lines)

/-- The table that an input is. -/
def Table.read (delimiter : Char) (input : List UInt8) : Except TableError Table :=
  (readHeader delimiter (linesOf input)).map fun (header, lines) =>
    ⟨header, lines.filterMap (Record.ofLine? delimiter header.length)⟩

end RowSieve
