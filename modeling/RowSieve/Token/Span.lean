import RowSieve.Text.Alphabetic
import RowSieve.Text.Blank
import RowSieve.Token.Basic

/-!
# Spans of tokens

`Span.read` splits the first token off a text that begins with one: words, numbers, quoted
literals, comments and marks.  A `Span` tells what the token is, or what keeps it from being one,
which characters were taken and which are left.  It does not look at what came before, so a
token means the same wherever it stands.

A quoted literal ends at its quote.  Inside, the quote is written twice, and a backslash takes the
next character as it is, except that `n`, `t` and `r` become the control characters they stand
for.
-/

namespace RowSieve

/-- A letter or an underscore begins a word. -/
def isWordStart (c : Char) : Bool := Text.isAlphabetic c || c = '_'

/-- Letters, numbers and underscores continue a word. -/
def isWordChar (c : Char) : Bool := Text.isAlphabetic c || Text.isNumeric c || c = '_'

/-- The first word of a text that begins with one, and what follows it. -/
def splitWord (cs : List Char) : List Char × List Char :=
  (cs.takeWhile isWordChar, cs.dropWhile isWordChar)

/-- The first number of a text that begins with a digit, and what follows it.  A point belongs to
it if a digit follows. -/
def splitNumber (cs : List Char) : List Char × List Char :=
  let whole := cs.takeWhile Char.isDigit
  match cs.dropWhile Char.isDigit with
  | '.' :: d :: rest =>
    if d.isDigit then
      (whole ++ '.' :: (d :: rest).takeWhile Char.isDigit, (d :: rest).dropWhile Char.isDigit)
    else (whole, '.' :: d :: rest)
  | rest => (whole, rest)

/-- The character that stands for `c` after a backslash. -/
def unescape (c : Char) : Char :=
  if c = 'n' then '\n' else if c = 't' then '\t' else if c = 'r' then '\r' else c

/-- A quoted literal without its opening quote. -/
structure Literal where
  /-- What the literal stands for. -/
  text : List Char
  /-- The characters that spell it, with the closing quote. -/
  taken : List Char
  /-- What follows the literal. -/
  rest : List Char
deriving DecidableEq, Repr

/-- The literal with one more character in front, spelled by `spelling`. -/
def Literal.push (c : Char) (spelling : List Char) (l : Literal) : Literal :=
  { l with text := c :: l.text, taken := spelling ++ l.taken }

/-- Reads a quoted literal up to its closing quote. -/
def Literal.read (quote : Char) : List Char → Option Literal
  | [] => none
  | [c] => if c = quote then some ⟨[], [c], []⟩ else none
  | c :: d :: rest =>
    if c = quote then
      if d = quote then (Literal.read quote rest).map (Literal.push quote [c, d])
      else some ⟨[], [c], d :: rest⟩
    else if c = '\\' then (Literal.read quote rest).map (Literal.push (unescape d) [c, d])
    else (Literal.read quote (d :: rest)).map (Literal.push c [c])

/-- The inside of a comment between marks, and what follows the closing mark. -/
def splitComment : List Char → Option (List Char × List Char)
  | [] => none
  | [_] => none
  | c :: d :: rest =>
    if c = '*' && d = '/' then some ([], rest)
    else (splitComment (d :: rest)).map fun (inside, rest) => (c :: inside, rest)

/-- The mark that a text begins with and its length.  Of two marks the longer one counts. -/
def mark? : List Char → Option (Kind × Nat)
  | '=' :: '=' :: _ => some (.doubleEqual, 2)
  | '!' :: '=' :: _ => some (.notEqual, 2)
  | '<' :: '=' :: _ => some (.lessEqual, 2)
  | '<' :: '>' :: _ => some (.notEqual, 2)
  | '>' :: '=' :: _ => some (.greaterEqual, 2)
  | ':' :: '=' :: _ => some (.assign, 2)
  | ',' :: _ => some (.comma, 1)
  | '*' :: _ => some (.star, 1)
  | '(' :: _ => some (.leftParen, 1)
  | ')' :: _ => some (.rightParen, 1)
  | '.' :: _ => some (.dot, 1)
  | '?' :: _ => some (.question, 1)
  | ';' :: _ => some (.endOfStatement, 1)
  | '+' :: _ => some (.plus, 1)
  | '-' :: _ => some (.minus, 1)
  | '/' :: _ => some (.slash, 1)
  | '%' :: _ => some (.percent, 1)
  | '=' :: _ => some (.equal, 1)
  | '<' :: _ => some (.less, 1)
  | '>' :: _ => some (.greater, 1)
  | _ => none

/-- Why no token can be read. -/
inductive Fault where
  /-- No token begins with this character. -/
  | character (c : Char)
  /-- A quoted literal has no end. -/
  | text
  /-- A comment between marks has no end. -/
  | comment
deriving DecidableEq, Repr

/-- A token without its place. -/
structure Lexeme where
  /-- What it is. -/
  kind : Kind
  /-- What it says. -/
  text : String
deriving DecidableEq, Repr

/-- The beginning of a text: a token or what is wrong with it. -/
structure Span where
  /-- The token. -/
  found : Except Fault Lexeme
  /-- The characters that were read. -/
  taken : List Char
  /-- The characters that were not. -/
  rest : List Char

namespace Span

/-- A token that says what it is spelled with. -/
def plain (kind : Kind) (split : List Char × List Char) : Span :=
  ⟨.ok ⟨kind, String.ofList split.1⟩, split.1, split.2⟩

/-- A comment up to the end of the line. -/
def lineComment (rest : List Char) : Span :=
  let inside := rest.takeWhile (· ≠ '\n')
  ⟨.ok ⟨.comment, String.ofList (Text.trimChars inside)⟩, '-' :: '-' :: inside,
    rest.dropWhile (· ≠ '\n')⟩

/-- A comment up to its closing mark. -/
def blockComment (rest : List Char) : Span :=
  match splitComment rest with
  | some (inside, rest) =>
    ⟨.ok ⟨.comment, String.ofList (Text.trimChars inside)⟩, '/' :: '*' :: inside ++ ['*', '/'],
      rest⟩
  | none => ⟨.error .comment, ['/', '*'], rest⟩

/-- A quoted literal. -/
def quotation (quote : Char) (rest : List Char) : Span :=
  match Literal.read quote rest with
  | some l => ⟨.ok ⟨.text, String.ofList l.text⟩, quote :: l.taken, l.rest⟩
  | none => ⟨.error .text, quote :: rest, []⟩

/-- The first token of a text that begins with neither a comment nor a blank. -/
def significant (c : Char) (rest : List Char) : Span :=
  if c = '\'' || c = '"' then quotation c rest
  else if c.isDigit then plain .number (splitNumber (c :: rest))
  else if isWordStart c then plain .word (splitWord (c :: rest))
  else match mark? (c :: rest) with
    | some (kind, size) => plain kind ((c :: rest).splitAt size)
    | none => ⟨.error (.character c), [], c :: rest⟩

/-- The first token of a text that does not begin with a blank; the empty text has the end of
input for its first token. -/
def read : List Char → Span
  | [] => ⟨.ok ⟨.endOfInput, ""⟩, [], []⟩
  | '-' :: '-' :: rest => lineComment rest
  | '/' :: '*' :: rest => blockComment rest
  | c :: rest => significant c rest

end Span

end RowSieve
