import RowSieve.Dictionary
import RowSieve.Value

/-!
# Rows

A `Row` holds values under names.  `Row.ofRecord` pairs the names of a header with the fields of a
record; a name that stands twice has the later field.
-/

namespace RowSieve

/-- Values under names. -/
abbrev Row := Dictionary Value

/-- The row that a record makes under a header. -/
def Row.ofRecord (header fields : List String) : Row :=
  Dictionary.ofList (header.zip (fields.map Value.ofField))

end RowSieve
