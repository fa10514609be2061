import RowSieve.Dictionary
import RowSieve.Operator

/-!
# Requests

A `Request` is what a statement asks for: columns, a source, predicates on fields and a limit.
`Request.render` writes it as a statement again.  A field has at most one predicate; predicates are
written in the order of the fields' names.
-/

namespace RowSieve

/-- An expression of a column, or an argument in a call. -/
inductive Node where
  /-- A field of the record. -/
  | field (name : String)
  /-- A number, as it is spelled. -/
  | number (spelling : String)
  /-- A text. -/
  | text (s : String)
  /-- A function applied to arguments. -/
  | call (function : String) (arguments : List Node)
deriving Repr, Inhabited

namespace Node

/-- A text between single quotes, with the quotes inside it doubled. -/
def quoteText (s : String) : String :=
  String.ofList
    ('\'' :: s.toList.flatMap (fun c => if c = '\'' then ['\'', '\''] else [c]) ++ ['\''])

mutual

/-- An expression as it is written in a statement. -/
def render : Node → String
  | field name => name
  | number spelling => spelling
  | text s => quoteText s
  | call function arguments => function ++ "(" ++ ", ".intercalate (renderAll arguments) ++ ")"

/-- Each of the expressions as it is written in a statement. -/
def renderAll : List Node → List String
  | [] => []
  | n :: ns => n.render :: renderAll ns

end

end Node

/-- A column of the result. -/
structure Column where
  /-- Its name in the result. -/
  name : String
  /-- What it holds; without an expression it holds the field of its own name. -/
  expression : Option Node
deriving Repr, Inhabited

namespace Column

/-- A field under its own name. -/
def ofField (name : String) : Column := ⟨name, none⟩

/-- What the column holds. -/
def source (c : Column) : Node := c.expression.getD (.field c.name)

/-- A column as it is written in a statement.  Its name is left out where it is the text of the
expression. -/
def render (c : Column) : String :=
  match c.expression with
  | none => c.name
  | some e => if e.render = c.name then e.render else e.render ++ " AS " ++ c.name

end Column

/-- Where the rows come from. -/
structure Source where
  /-- The name of a source, or of a function that makes one. -/
  name : String
  /-- The arguments of the function. -/
  arguments : List Node
  /-- Another name for the source. -/
  aliasName : Option String
deriving Repr, Inhabited

namespace Source

/-- A source as it is written in a statement. -/
def render (s : Source) : String :=
  s.name ++ (if s.arguments.isEmpty then ""
    else "(" ++ ", ".intercalate (Node.renderAll s.arguments) ++ ")") ++
    match s.aliasName with
    | none => ""
    | some name => " AS " ++ name

end Source

/-- The kinds of statements. -/
inductive StatementKind where
  /-- A selection of rows and columns. -/
  | select
deriving DecidableEq, Repr, Inhabited

/-- The word that names a kind of statements. -/
def StatementKind.display : StatementKind → String
  | select => "SELECT"

/-- What a statement asks for. -/
structure Request where
  /-- The kind of the statement. -/
  kind : StatementKind
  /-- The columns of the result, in order. -/
  columns : List Column
  /-- Where the rows come from, if the statement says so. -/
  source : Option Source
  /-- The operand of the predicate on each field that has one. -/
  predicates : Dictionary String
  /-- The comparison of the predicate on each field that has one. -/
  operators : Dictionary Operator
  /-- At most so many rows are wanted. -/
  limit : Option Nat
  /-- The comments in the statement, without their marks. -/
  comments : List String

namespace Request

/-- A request that asks for nothing. -/
def blank (kind : StatementKind) : Request := ⟨kind, [], none, .empty, .empty, none, []⟩

/-- The names of the columns. -/
def columnNames (r : Request) : String := ", ".intercalate (r.columns.map (·.name))

/-- The comparison of the predicate on a field; equality if nothing else was recorded. -/
def operator (r : Request) (field : String) : Operator := (r.operators.get? field).getD .equal

/-- A predicate as it is written in a statement, where equality is spelled with one sign. -/
def renderPredicate (r : Request) (field value : String) : String :=
  let symbol := if r.operator field = .equal then "=" else (r.operator field).symbol
  field ++ " " ++ symbol ++ " " ++ value

/-- A request as a statement. -/
def render (r : Request) : String :=
  r.kind.display ++ " " ++ ", ".intercalate (r.columns.map Column.render) ++
    (match r.source with
      | none => ""
      | some source => " FROM " ++ source.render) ++
    (if r.predicates.isEmpty then ""
      else " WHERE " ++
        " AND ".intercalate (r.predicates.entries.map fun p => r.renderPredicate p.1 p.2)) ++
    match r.limit with
      | none => ""
      | some n => " LIMIT " ++ toString n

end Request

end RowSieve
