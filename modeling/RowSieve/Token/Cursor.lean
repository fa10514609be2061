import RowSieve.Token.Error
import RowSieve.Token.Span

/-!
# Cursors over a source

A `Cursor` is a place in a source: the characters that are still to be read and how many bytes
come before them.  Cursors only move forwards.  `Cursor.next` reads one token, after the blanks
in front of it, and `Cursor.tokens` all of them up to the end of the input.

A failing `Cursor.next` has moved too: to the character that begins no token, past the whole
source in search of a quote, or past the opening mark of a comment.
-/

namespace RowSieve

/-- How many bytes the characters take up. -/
def byteLength (cs : List Char) : Nat := cs.foldr (fun c n => c.utf8Size + n) 0

/-- A place in a source. -/
structure Cursor where
  /-- The number of bytes before the place. -/
  position : Nat
  /-- The characters after the place. -/
  rest : List Char
deriving DecidableEq, Repr

/-- The error that a fault at a place in the source is. -/
def Fault.toError (position : Nat) : Fault → SourceError
  | .character c => .character c position
  | .text => .openText position
  | .comment => .openComment position

namespace Cursor

/-- The beginning of a source. -/
def start (source : String) : Cursor := ⟨0, source.toList⟩

/-- Nothing is left to read. -/
def atEnd (c : Cursor) : Bool := c.rest.isEmpty

/-- The next character. -/
def current? (c : Cursor) : Option Char := c.rest.head?

/-- The character after `n` others. -/
def peek? (c : Cursor) (n : Nat) : Option Char := c.rest[n]?

/-- Moves past `taken`, which the rest of the source begins with. -/
def moveTo (c : Cursor) (taken rest : List Char) : Cursor := ⟨c.position + byteLength taken, rest⟩

/-- Moves past up to `n` characters. -/
def skip (c : Cursor) (n : Nat) : Cursor := c.moveTo (c.rest.take n) (c.rest.drop n)

/-- Moves past the next character if it is `expected`. -/
def eat (c : Cursor) (expected : Char) : Bool × Cursor :=
  if c.current? = some expected then (true, c.skip 1) else (false, c)

/-- Moves past blanks. -/
def skipBlanks (c : Cursor) : Cursor :=
  c.moveTo (c.rest.takeWhile Text.isBlank) (c.rest.dropWhile Text.isBlank)

/-- The word that begins here. -/
def peekWord? (c : Cursor) : Option String :=
  match c.rest with
  | [] => none
  | first :: _ =>
    if isWordStart first then some (String.ofList (splitWord c.rest).1) else none

/-- The word that begins here, and the place after it. -/
def readWord? (c : Cursor) : Option String × Cursor :=
  match c.peekWord? with
  | some word => (some word, c.moveTo (splitWord c.rest).1 (splitWord c.rest).2)
  | none => (none, c)

/-- The next token and the place after it. -/
def next (c : Cursor) : Except SourceError Token × Cursor :=
  let here := c.skipBlanks
  let span := Span.read here.rest
  let token := match span.found with
    | .ok lexeme => .ok ⟨lexeme.kind, lexeme.text, here.position⟩
    | .error fault => .error (fault.toError here.position)
  (token, here.moveTo span.taken span.rest)

/-- All tokens from here on, where `bound` is at least the number of characters left. -/
def tokensWithin : (bound : Nat) → Cursor → Except SourceError (List Token)
  | 0, c => .ok [⟨.endOfInput, "", c.position⟩]
  | bound + 1, c =>
    match c.next with
    | (.error e, _) => .error e
    | (.ok token, after) =>
      if token.kind = .endOfInput then .ok [token]
      else (tokensWithin bound after).map (token :: ·)

/-- All tokens from here on.  The last one, and only the last one, is the end of the input. -/
def tokens (c : Cursor) : Except SourceError (List Token) := c.tokensWithin c.rest.length

end Cursor

/-- The tokens of a source.  Every word is a `Kind.word`, whatever it spells. -/
def scan (source : String) : Except SourceError (List Token) := (Cursor.start source).tokens

end RowSieve
