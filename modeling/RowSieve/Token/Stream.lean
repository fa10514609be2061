import RowSieve.Token.Error

/-!
# Streams of tokens

A `TokenStream` is read from the front, one token at a time.  Comments are never seen: the stream
puts their texts aside as soon as they come to the front, and `TokenStream.takeComments` hands
them out.  At its end a stream shows the same token again and again.

`Parse` is a computation that reads a stream; where it fails, the stream stays where it was read
to.
-/

namespace RowSieve

/-- Tokens that are still to be read. -/
structure TokenStream where
  /-- The tokens; the first of them is no comment. -/
  rest : List Token
  /-- The texts of the comments that were put aside. -/
  comments : List String
  /-- The token that is shown when there are no more. -/
  last : Token
deriving DecidableEq, Repr

/-- A computation that reads a stream. -/
abbrev Parse := EStateM SourceError TokenStream

namespace TokenStream

/-- The token is a comment. -/
def isComment (t : Token) : Bool := t.kind = .comment

/-- Puts the comments at the front aside. -/
def settle (s : TokenStream) : TokenStream :=
  { s with
    rest := s.rest.dropWhile isComment
    comments := s.comments ++ (s.rest.takeWhile isComment).map (·.text) }

/-- The tokens of a source that ends at the given byte. -/
def ofTokensUpTo (tokens : List Token) (finish : Nat) : TokenStream :=
  settle ⟨tokens, [], ⟨.endOfInput, "", finish⟩⟩

/-- Tokens on their own; the source is taken to end where the last of them begins. -/
def ofTokens (tokens : List Token) : TokenStream :=
  ofTokensUpTo tokens ((tokens.getLast?.map (·.position)).getD 0)

/-- The next token. -/
def current (s : TokenStream) : Token := s.rest.head?.getD s.last

/-- The stream after its next token. -/
def tail (s : TokenStream) : TokenStream := settle { s with rest := s.rest.tail }

/-- The next token. -/
def peek : Parse Token := fun s => .ok s.current s

/-- Reads the next token. -/
def advance : Parse Token := fun s => .ok s.current s.tail

/-- The next token is of this kind. -/
def check (kind : Kind) : Parse Bool := return (← peek).kind = kind

/-- Reads the next token if it is of this kind. -/
def eat (kind : Kind) : Parse (Option Token) := do
  if (← check kind) then return some (← advance) else return none

/-- Something else than the next token should stand there. -/
def fail {α : Type} (expected : String) : Parse α := do throw (.unexpected expected (← peek))

/-- Reads the next token, which must be of this kind. -/
def expect (kind : Kind) (expected : String) : Parse Token := do
  match ← eat kind with
  | some token => return token
  | none => fail expected

/-- Hands out the comments that were put aside. -/
def takeComments : Parse (List String) := fun s => .ok s.comments { s with comments := [] }

/-- The number of tokens that are left. -/
def remaining : Parse Nat := fun s => .ok s.rest.length s

end TokenStream

end RowSieve
