import RowSieve.Text.Quoted
import RowSieve.Token.Basic

/-!
# Errors in a source

`SourceError` lists what can be wrong with the source of a statement, from a character that
begins no token to words after the end of the statement.  `SourceError.message` gives the wording
and `SourceError.position` the byte that it speaks of.
-/

namespace RowSieve

/-- What is wrong with a source. -/
inductive SourceError where
  /-- No token begins with this character. -/
  | character (c : Char) (position : Nat)
  /-- A quoted literal has no end. -/
  | openText (position : Nat)
  /-- A comment between marks has no end. -/
  | openComment (position : Nat)
  /-- A strategy went on without taking anything from the source. -/
  | stalled (strategy : String) (position : Nat)
  /-- No statement begins with this token. -/
  | noStatement (found : Token)
  /-- A clause that the statement must have is not there. -/
  | noClause (keyword : Kind) (position : Nat)
  /-- Something else than this token should stand here. -/
  | unexpected (expected : String) (found : Token)
  /-- A form that is known but not supported. -/
  | unsupported (feature : String) (position : Nat)
  /-- The statement is complete but the source goes on. -/
  | trailing (found : Token)
deriving DecidableEq, Repr

namespace SourceError

/-- The byte of the source that the error speaks of. -/
def position : SourceError → Nat
  | character _ position => position
  | openText position => position
  | openComment position => position
  | stalled _ position => position
  | noStatement found => found.position
  | noClause _ position => position
  | unexpected _ found => found.position
  | unsupported _ position => position
  | trailing found => found.position

/-- The wording of the error. -/
def message : SourceError → String
  | character c position =>
    s!"unexpected character {Text.quotedChar c} at position {position}"
  | openText position => s!"unterminated string starting at position {position}"
  | openComment position => s!"unterminated comment starting at position {position}"
  | stalled strategy position =>
    s!"lexer stalled in strategy {Text.quoted strategy} at position {position}"
  | noStatement found =>
    s!"unrecognized statement starting with {found.display} at position {found.position}"
  | noClause keyword position => s!"missing {keyword.display} clause at position {position}"
  | unexpected expected found =>
    s!"expected {expected}, found {found.display} at position {found.position}"
  | unsupported feature position => s!"{feature} is not implemented (position {position})"
  | trailing found =>
    s!"unexpected {found.display} after the statement at position {found.position}"

end SourceError

end RowSieve
