import RowSieve.Token.Kind

/-!
# Tokens

A `Token` is a piece of a source: what it is, its text, and the byte at which it begins.  The text
of a quoted literal is what the literal stands for, and that of a comment is its inside.
-/

namespace RowSieve

/-- A classified piece of a source. -/
structure Token where
  /-- What it is. -/
  kind : Kind
  /-- What it says. -/
  text : String
  /-- The byte of the source at which it begins. -/
  position : Nat
deriving DecidableEq, Repr, Inhabited

namespace Token

/-- The token ends a statement: a semicolon or the end of the source. -/
def isEnd (t : Token) : Bool := t.kind = .endOfStatement || t.kind = .endOfInput

/-- How a message names the token. -/
def display (t : Token) : String :=
  if t.kind = .endOfInput then "end of input"
  else if t.kind = .endOfStatement then "';'"
  else "'" ++ t.text ++ "'"

end Token

end RowSieve
