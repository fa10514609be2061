import RowSieve.Grammar.Scan

/-!
# Dialects written out

`Dialect.inspect` writes a dialect out for people who look for a mistake in it: its statements with
their clauses, kinds as numbers, and its switches.
-/

namespace RowSieve

variable {σ : Type} [Strategies σ]

/-- A record with its fields, on one line. -/
def recordText (name : String) (fields : List (String × String)) : String :=
  name ++ " \x7b " ++ ", ".intercalate (fields.map fun f => f.1 ++ ": " ++ f.2) ++ " \x7d"

/-- Texts in brackets. -/
def bracketText (items : List String) : String := "[" ++ ", ".intercalate items ++ "]"

/-- A truth value. -/
def truthText (b : Bool) : String := if b then "true" else "false"

/-- A kind by its number. -/
def Kind.inspect (k : Kind) : String := "TokenKind(" ++ toString k.code.toNat ++ ")"

/-- The word for what predicates record. -/
def Recording.inspect : Recording → String
  | operand => "RightHandSide"
  | fieldName => "FieldText"

/-- The word for a kind of statements. -/
def StatementKind.inspect : StatementKind → String
  | select => "Select"

/-- A clause with its keyword, its strategy and whether it may be missing. -/
def Clause.inspect (c : Clause σ) : String :=
  recordText "ClauseSpec"
    [("keyword", c.keyword.inspect), ("strategy", Text.quoted c.strategy.name),
     ("optional", truthText c.optional)]

/-- A statement with its clauses. -/
def Statement.inspect (s : Statement σ) : String :=
  recordText "StatementSpec"
    [("entry", s.entry.inspect), ("kind", s.kind.inspect),
     ("clauses", bracketText (s.clauses.map Clause.inspect))]

/-- A dialect with its statements and switches. -/
def Dialect.inspect (d : Dialect σ) : String :=
  recordText "Dialect"
    [("name", Text.quoted d.name), ("statements", bracketText (d.statements.map Statement.inspect)),
     ("strict_trailing", truthText d.strict), ("predicate_capture", d.recording.inspect)]

end RowSieve
