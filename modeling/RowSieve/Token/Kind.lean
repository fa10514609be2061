/-!
# Kinds of tokens

A `Kind` is a number.  The numbers below `Kind.firstCustom` are reserved: some of them
have a meaning that every dialect shares, and those are named here.  Dialects add kinds of their
own from `Kind.firstCustom` on.
-/

namespace RowSieve

/-- What a token is, as a number. -/
structure Kind where
  /-- The number. -/
  code : UInt16
deriving DecidableEq, Repr, Inhabited

namespace Kind

/-- The first number that a dialect may give to a kind of its own. -/
def firstCustom : UInt16 := 1000

/-- No token of any statement. -/
@[match_pattern] abbrev illegal : Kind := ⟨0⟩

/-- The end of the source. -/
@[match_pattern] abbrev endOfInput : Kind := ⟨1⟩

/-- The semicolon. -/
@[match_pattern] abbrev endOfStatement : Kind := ⟨2⟩

/-- A comment, to the end of the line or between marks. -/
@[match_pattern] abbrev comment : Kind := ⟨3⟩

/-- The name of a field, a source or anything else. -/
@[match_pattern] abbrev word : Kind := ⟨4⟩

/-- A number, with or without a fraction. -/
@[match_pattern] abbrev number : Kind := ⟨5⟩

/-- A text between quotes. -/
@[match_pattern] abbrev text : Kind := ⟨6⟩

/-- A name in a list with a parenthesis right behind it. -/
@[match_pattern] abbrev function : Kind := ⟨7⟩

/-- `,` -/
@[match_pattern] abbrev comma : Kind := ⟨8⟩

/-- `*` -/
@[match_pattern] abbrev star : Kind := ⟨9⟩

/-- `(` -/
@[match_pattern] abbrev leftParen : Kind := ⟨10⟩

/-- `)` -/
@[match_pattern] abbrev rightParen : Kind := ⟨11⟩

/-- `.` -/
@[match_pattern] abbrev dot : Kind := ⟨12⟩

/-- `?` -/
@[match_pattern] abbrev question : Kind := ⟨13⟩

/-- `:=` -/
@[match_pattern] abbrev assign : Kind := ⟨14⟩

/-- `=` -/
@[match_pattern] abbrev equal : Kind := ⟨20⟩

/-- `==` -/
@[match_pattern] abbrev doubleEqual : Kind := ⟨21⟩

/-- `!=` and `<>` -/
@[match_pattern] abbrev notEqual : Kind := ⟨22⟩

/-- `<` -/
@[match_pattern] abbrev less : Kind := ⟨23⟩

/-- `<=` -/
@[match_pattern] abbrev lessEqual : Kind := ⟨24⟩

/-- `>` -/
@[match_pattern] abbrev greater : Kind := ⟨25⟩

/-- `>=` -/
@[match_pattern] abbrev greaterEqual : Kind := ⟨26⟩

/-- `+` -/
@[match_pattern] abbrev plus : Kind := ⟨30⟩

/-- `-` -/
@[match_pattern] abbrev minus : Kind := ⟨31⟩

/-- `/` -/
@[match_pattern] abbrev slash : Kind := ⟨32⟩

/-- `%` -/
@[match_pattern] abbrev percent : Kind := ⟨33⟩

/-- The keyword that opens a column list. -/
@[match_pattern] abbrev selectWord : Kind := ⟨100⟩

/-- The keyword in front of a source. -/
@[match_pattern] abbrev fromWord : Kind := ⟨101⟩

/-- The keyword in front of predicates. -/
@[match_pattern] abbrev whereWord : Kind := ⟨102⟩

/-- The keyword in front of a row count. -/
@[match_pattern] abbrev limitWord : Kind := ⟨103⟩

/-- The keyword between predicates. -/
@[match_pattern] abbrev andWord : Kind := ⟨104⟩

/-- The keyword between alternatives. -/
@[match_pattern] abbrev orWord : Kind := ⟨105⟩

/-- The keyword of a negation. -/
@[match_pattern] abbrev notWord : Kind := ⟨106⟩

/-- The keyword in front of an alias. -/
@[match_pattern] abbrev asWord : Kind := ⟨107⟩

/-- The kinds that all dialects share, with their names. -/
def shared : List (Kind × String) :=
  [(illegal, "ILLEGAL"), (endOfInput, "EOF"), (endOfStatement, "EOS"), (comment, "COMMENT"),
   (word, "IDENTITY"), (number, "VALUE"), (text, "STRING"), (function, "FUNCTION"),
   (comma, "COMMA"), (star, "STAR"), (leftParen, "LEFT_PAREN"), (rightParen, "RIGHT_PAREN"),
   (dot, "DOT"), (question, "QUESTION"), (assign, "ASSIGN"), (equal, "EQUAL"),
   (doubleEqual, "EQUAL_EQUAL"), (notEqual, "NOT_EQUAL"), (less, "LESS"),
   (lessEqual, "LESS_EQUAL"), (greater, "GREATER"), (greaterEqual, "GREATER_EQUAL"),
   (plus, "PLUS"), (minus, "MINUS"), (slash, "SLASH"), (percent, "PERCENT"),
   (selectWord, "SELECT"), (fromWord, "FROM"), (whereWord, "WHERE"), (limitWord, "LIMIT"),
   (andWord, "AND"), (orWord, "OR"), (notWord, "NOT"), (asWord, "AS")]

/-- The keywords that all dialects share, in lower case. -/
def sharedKeywords : List (String × Kind) :=
  [("select", selectWord), ("from", fromWord), ("where", whereWord), ("limit", limitWord),
   ("and", andWord), ("or", orWord), ("not", notWord), ("as", asWord)]

/-- The number is below those that dialects may use. -/
def isReserved (k : Kind) : Bool := k.code < firstCustom

/-- The name of a kind that all dialects share. -/
def sharedName? (k : Kind) : Option String := shared.lookup k

/-- The name of a shared kind, or the number of any other. -/
def display (k : Kind) : String :=
  k.sharedName?.getD ("kind(" ++ toString k.code.toNat ++ ")")

end Kind

end RowSieve
