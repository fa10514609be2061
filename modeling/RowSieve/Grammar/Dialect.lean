import RowSieve.Dictionary
import RowSieve.Grammar.Registry
import RowSieve.Request.Basic
import RowSieve.Text.Case

/-!
# Dialects

A dialect is a set of statements.  Each statement opens with a keyword and is a row of clauses;
a clause has a keyword, a rule for its body, and a strategy that splits the body into tokens.  Two
strategies are given; a dialect may bring others, which form the type `σ`.

`Declarations` is what somebody declares and `Declarations.establish` checks it: spellings must be
unique, kinds known, and every clause must have a word that begins it.  The result is a `Dialect`,
ready to read statements with.
-/

namespace RowSieve

/-- How the body of a clause is read. -/
inductive Body where
  /-- Columns and their aliases. -/
  | columns
  /-- A source and its alias. -/
  | source
  /-- Comparisons of fields. -/
  | predicates
  /-- A row count. -/
  | limit
deriving DecidableEq, Repr, Inhabited

/-- How a source is split into tokens, for a while. -/
inductive Strategy (σ : Type) where
  /-- Between clauses: looks for the keywords that open them. -/
  | statement
  /-- Inside a clause: one token after the other, up to the end of the clause. -/
  | list
  /-- A strategy that a dialect brings. -/
  | other (s : σ)
deriving DecidableEq, Repr

instance {σ : Type} : Inhabited (Strategy σ) := ⟨.list⟩

/-- A clause of a statement. -/
structure Clause (σ : Type) where
  /-- The kind of the word that opens it. -/
  keyword : Kind
  /-- How its body is split into tokens. -/
  strategy : Strategy σ
  /-- How its body is read. -/
  body : Body
  /-- The clause may be missing. -/
  optional : Bool
deriving DecidableEq, Repr

/-- A statement. -/
structure Statement (σ : Type) where
  /-- The kind of the word that opens it. -/
  entry : Kind
  /-- What kind of request it makes. -/
  kind : StatementKind
  /-- Its clauses, in order. -/
  clauses : List (Clause σ)
deriving DecidableEq, Repr

/-- The first clause that a keyword opens. -/
def Statement.clause? {σ : Type} (s : Statement σ) (keyword : Kind) : Option (Clause σ) :=
  s.clauses.find? fun c => c.keyword = keyword

/-- What a predicate records under its field. -/
inductive Recording where
  /-- What the field is compared with. -/
  | operand
  /-- The name of the field itself. -/
  | fieldName
deriving DecidableEq, Repr, Inhabited

/-- The declarations of a dialect. -/
structure Declarations (σ : Type) where
  /-- Its name. -/
  name : String
  /-- The kinds that it adds. -/
  kinds : List (Kind × String)
  /-- The words that it adds, whatever their case. -/
  keywords : List (String × Kind)
  /-- Its statements. -/
  statements : List (Statement σ)
  /-- Input after a statement is an error. -/
  strict : Bool
  /-- What predicates record. -/
  recording : Recording

/-- A dialect that has been checked. -/
structure Dialect (σ : Type) where
  /-- Its name. -/
  name : String
  /-- Its statements. -/
  statements : List (Statement σ)
  /-- The kind of each word that has one, in lower case. -/
  keywords : Dictionary Kind
  /-- Input after a statement is an error. -/
  strict : Bool
  /-- What predicates record. -/
  recording : Recording

variable {σ : Type}

namespace Declarations

/-- A dialect without statements. -/
def named (name : String) : Declarations σ := ⟨name, [], [], [], true, .operand⟩

/-- A kind is known to the registry or declared by the dialect. -/
def knows (decl : Declarations σ) (registry : Registry) (kind : Kind) : Bool :=
  registry.contains kind || decl.kinds.any fun declared => declared.1 = kind

/-- The spellings of the dialect, the shared ones first, all in lower case. -/
def spellings (decl : Declarations σ) : List (String × Kind) :=
  Kind.sharedKeywords ++ decl.keywords.map fun k => (Text.lowercase k.1, k.2)

/-- No declared kind is in conflict with the registry. -/
def checkKinds (registry : Registry) : List (Kind × String) → Except Conflict Unit
  | [] => .ok ()
  | (kind, description) :: kinds => do
    registry.check kind description
    checkKinds registry kinds

/-- Adds spellings to a table of keywords. -/
def addKeywords (decl : Declarations σ) (registry : Registry) (table : Dictionary Kind) :
    List (String × Kind) → Except Conflict (Dictionary Kind)
  | [] => .ok table
  | (word, kind) :: spellings =>
    if !decl.knows registry kind then .error (.kindUnknown decl.name kind)
    else match table.get? word with
      | none => decl.addKeywords registry (table.insert word kind) spellings
      | some first =>
        if first = kind then decl.addKeywords registry table spellings
        else .error (.spellingTaken word first kind)

/-- Every clause has a known keyword and a word that spells it. -/
def checkClauses (decl : Declarations σ) (registry : Registry) (table : Dictionary Kind) :
    List (Clause σ) → Except Conflict Unit
  | [] => .ok ()
  | clause :: clauses =>
    if !decl.knows registry clause.keyword then
      .error (.kindUnknown decl.name clause.keyword)
    else if !table.entries.any fun e => e.2 = clause.keyword then
      .error (.clauseUnspelled decl.name clause.keyword)
    else decl.checkClauses registry table clauses

/-- Every statement opens with its entry clause, and with one that no statement before it, of those
with the entries `seen`, opens with. -/
def checkStatements (decl : Declarations σ) (registry : Registry) (table : Dictionary Kind)
    (seen : List Kind) : List (Statement σ) → Except Conflict Unit
  | [] => .ok ()
  | statement :: statements =>
    match statement.clauses with
    | [] => .error (.noClauses statement.entry)
    | first :: _ =>
      if first.keyword ≠ statement.entry then
        .error (.entryNotFirst statement.entry first.keyword)
      else do
        decl.checkClauses registry table statement.clauses
        if seen.contains statement.entry then
          .error (.entryTaken decl.name statement.entry)
        else decl.checkStatements registry table (statement.entry :: seen) statements

/-- The dialect that the declarations describe, or the first conflict among them. -/
def validate (decl : Declarations σ) (registry : Registry) : Except Conflict (Dialect σ) := do
  checkKinds registry decl.kinds
  let table ← decl.addKeywords registry .empty decl.spellings
  decl.checkStatements registry table [] decl.statements
  return ⟨decl.name, decl.statements, table, decl.strict, decl.recording⟩

/-- Checks the declarations, then registers the kinds among them. -/
def establish (decl : Declarations σ) (registry : Registry) :
    Except Conflict (Dialect σ) × Registry :=
  match decl.validate registry with
  | .error e => (.error e, registry)
  | .ok dialect =>
    let (conflict?, registry) := registry.registerAll decl.kinds
    (match conflict? with
      | some e => .error e
      | none => .ok dialect, registry)

end Declarations

namespace Dialect

/-- The statement that a keyword opens. -/
def statement? (d : Dialect σ) (entry : Kind) : Option (Statement σ) :=
  d.statements.find? fun s => s.entry = entry

/-- The kind of a word, whatever its case. -/
def keyword? (d : Dialect σ) (word : String) : Option Kind :=
  (d.keywords.get? word).or (d.keywords.get? (Text.lowercase word))

/-- A keyword of this kind opens a clause of some statement. -/
def opensClause (d : Dialect σ) (kind : Kind) : Bool :=
  d.statements.any fun s => s.clauses.any fun c => c.keyword = kind

/-- The description of a kind, or its number. -/
def describe (_ : Dialect σ) (registry : Registry) (kind : Kind) : String :=
  (registry.describe? kind).getD kind.display

end Dialect

/-- The stock dialect: columns from a source, optionally with predicates and a limit. -/
def sql : Declarations σ :=
  { (Declarations.named "sql" : Declarations σ) with
    statements :=
      [{ entry := .selectWord
         kind := .select
         clauses :=
          [⟨.selectWord, .list, .columns, false⟩,
           ⟨.fromWord, .list, .source, false⟩,
           ⟨.whereWord, .list, .predicates, true⟩,
           ⟨.limitWord, .list, .limit, true⟩] }] }

end RowSieve
