/-!
# Fields of a line

A line holds fields with a delimiter between them.  A field that begins with a quote goes on up to
the quote that closes it, delimiters included, and a quote inside it is written twice.  Quotes
elsewhere stand for themselves.

`fieldsOf?` takes a line apart; it gives nothing for a line with a quote that is never closed.
-/

namespace RowSieve

/-- The fields of the rest of a line.  `field` is what the field has so far, backwards, and `quoted`
tells whether it is inside quotes. -/
def splitFrom (delimiter : Char) : (quoted : Bool) → (field : List Char) → List Char →
    Option (List (List Char))
  | true, _, [] => none
  | false, field, [] => some [field.reverse]
  | true, field, '"' :: '"' :: cs => splitFrom delimiter true ('"' :: field) cs
  | true, field, '"' :: cs => splitFrom delimiter false field cs
  | true, field, c :: cs => splitFrom delimiter true (c :: field) cs
  | false, [], '"' :: cs => splitFrom delimiter true [] cs
  | false, field, c :: cs =>
    if c = delimiter then (splitFrom delimiter false [] cs).map (field.reverse :: ·)
    else splitFrom delimiter false (c :: field) cs

/-- The fields of a line. -/
def fieldsOf? (delimiter : Char) (line : List Char) : Option (List String) :=
  (splitFrom delimiter false [] line).map fun fields => fields.map String.ofList

end RowSieve
