import RowSieve.Row

/-!
# Printed rows

`Layout.print` writes a row on one line, with the number of the input line that it comes from: as
text,

    line 2: name=Ada, town=LONDON

or as a JSON document whose members keep the order of the columns.
-/

namespace RowSieve

/-- How rows are printed. -/
inductive Layout where
  /-- As text for people. -/
  | text
  /-- As JSON documents. -/
  | json
deriving DecidableEq, Repr, Inhabited

namespace Layout

/-- The values of a row under the names of the columns, or all of them, in the order of their names,
if there are no columns. -/
def cells (columns : List String) (row : Row) : List (String × Value) :=
  (if columns.isEmpty then row.names else columns).map fun name =>
    (name, (row.get? name).getD .null)

/-- A value under its name, as text. -/
def cellText (cell : String × Value) : String := cell.1 ++ "=" ++ cell.2.display

/-- A value under its name, as a member of a JSON object. -/
def cellJson (cell : String × Value) : String := Json.quote cell.1 ++ ":" ++ cell.2.toJson

/-- A row on one line. -/
def print (layout : Layout) (columns : List String) (line : Nat) (row : Row) : String :=
  let cells := cells columns row
  match layout with
  | text => "line " ++ toString line ++ ": " ++ ", ".intercalate (cells.map cellText)
  | json => "\x7b\"line\":" ++ toString line ++ ",\"values\":\x7b" ++
      ",".intercalate (cells.map cellJson) ++ "\x7d\x7d"

end Layout

end RowSieve
