import RowSieve.Json.Document

/-!
# Log entries

An entry of a log puts a value under a key.  It is written as a JSON object on a line of its own,
and read from an object with the members `key` and `value`, each exactly once and both texts, or
from a list of two texts.  Other members of an object do not matter.
-/

namespace RowSieve

/-- A value under a key. -/
structure Entry where
  /-- The key. -/
  key : String
  /-- The value. -/
  value : String
deriving DecidableEq, Repr

namespace Entry

/-- The line of an entry. -/
def line (e : Entry) : String :=
  "\x7b\"key\":" ++ Json.quote e.key ++ ",\"value\":" ++ Json.quote e.value ++ "\x7d\n"

/-- The names of members, if all of them are texts. -/
def decodeNames? (members : List (List Char × Json)) : Option (List (String × Json)) :=
  members.mapM fun m => (Json.decodeText? m.1).map fun name => (name, m.2)

/-- The text under a name that stands exactly once. -/
def onlyText? (members : List (String × Json)) (name : String) : Option String :=
  match members.filter fun m => m.1 = name with
  | [m] => m.2.text?
  | _ => none

/-- The entry that a document is. -/
def ofJson? : Json → Option Entry
  | .array [key, value] => do return ⟨← key.text?, ← value.text?⟩
  | .object members => do
    let members ← decodeNames? members
    return ⟨← onlyText? members "key", ← onlyText? members "value"⟩
  | _ => none

/-- The entry on a line. -/
def ofLine? (cs : List Char) : Option Entry := (Json.parse? cs).bind ofJson?

end Entry

end RowSieve
