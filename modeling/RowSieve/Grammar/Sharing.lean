import RowSieve.Grammar.Dialect

/-!
# Sharing a registry

Several callers may use one registry at the same time.  Each of them holds the registry only for
single *accesses*: a check, a look-up or a registration of one kind.  A `Procedure` is what a call
has still to do, access by access, and `Procedure.run` is the call that nobody disturbs.

`Declarations.establishing` is `Declarations.establish` in accesses: every declared kind is checked
on its own, every kind that is used is looked up on its own, and the declared kinds are registered
one by one at the end.  `Sharing.Step` lets any of the calls in progress make its next access.
-/

namespace RowSieve

/-- What a call does with the registry from some point on. -/
inductive Procedure (α : Type) where
  /-- It has an answer. -/
  | done (answer : α)
  /-- It has run into a conflict. -/
  | failed (e : Conflict)
  /-- It checks whether a kind may be registered, and goes on if so. -/
  | check (kind : Kind) (description : String) (next : Procedure α)
  /-- It looks a kind up. -/
  | look (kind : Kind) (next : Bool → Procedure α)
  /-- It registers a kind, and goes on if there is no conflict. -/
  | register (kind : Kind) (description : String) (next : Procedure α)

namespace Procedure

variable {α β : Type}

/-- First one procedure, then another one with its answer. -/
def andThen : Procedure α → (α → Procedure β) → Procedure β
  | done answer, f => f answer
  | failed e, _ => failed e
  | check kind description next, f => check kind description (next.andThen f)
  | look kind next, f => look kind fun known => (next known).andThen f
  | register kind description next, f => register kind description (next.andThen f)

/-- The next access to a registry: what is left to do after it, and the registry. -/
def access (r : Registry) : Procedure α → Option (Procedure α × Registry)
  | done _ => none
  | failed _ => none
  | check kind description next =>
    match r.check kind description with
    | .ok _ => some (next, r)
    | .error e => some (failed e, r)
  | look kind next => some (next (r.contains kind), r)
  | register kind description next =>
    match r.register kind description with
    | .ok r => some (next, r)
    | .error e => some (failed e, r)

/-- All accesses one after the other, with the answer or the conflict. -/
def run : Procedure α → Registry → Except Conflict α × Registry
  | done answer, r => (.ok answer, r)
  | failed e, r => (.error e, r)
  | check kind description next, r =>
    match r.check kind description with
    | .ok _ => next.run r
    | .error e => (.error e, r)
  | look kind next, r => (next (r.contains kind)).run r
  | register kind description next, r =>
    match r.register kind description with
    | .ok r => next.run r
    | .error e => (.error e, r)

end Procedure

namespace Declarations

variable {σ : Type}

/-- The dialect declares the kind. -/
def declares (decl : Declarations σ) (kind : Kind) : Bool :=
  decl.kinds.any fun declared => declared.1 = kind

/-- `checkKinds` in accesses. -/
def checkingKinds : List (Kind × String) → Procedure Unit
  | [] => .done ()
  | (kind, description) :: kinds => .check kind description (checkingKinds kinds)

/-- `addKeywords` in accesses. -/
def addingKeywords (decl : Declarations σ) (table : Dictionary Kind) :
    List (String × Kind) → Procedure (Dictionary Kind)
  | [] => .done table
  | (word, kind) :: spellings =>
    .look kind fun known =>
      if !(known || decl.declares kind) then .failed (.kindUnknown decl.name kind)
      else match table.get? word with
        | none => decl.addingKeywords (table.insert word kind) spellings
        | some first =>
          if first = kind then decl.addingKeywords table spellings
          else .failed (.spellingTaken word first kind)

/-- `checkClauses` in accesses. -/
def checkingClauses (decl : Declarations σ) (table : Dictionary Kind) :
    List (Clause σ) → Procedure Unit
  | [] => .done ()
  | clause :: clauses =>
    .look clause.keyword fun known =>
      if !(known || decl.declares clause.keyword) then
        .failed (.kindUnknown decl.name clause.keyword)
      else if !table.entries.any fun e => e.2 = clause.keyword then
        .failed (.clauseUnspelled decl.name clause.keyword)
      else decl.checkingClauses table clauses

/-- `checkStatements` in accesses. -/
def checkingStatements (decl : Declarations σ) (table : Dictionary Kind) (seen : List Kind) :
    List (Statement σ) → Procedure Unit
  | [] => .done ()
  | statement :: statements =>
    match statement.clauses with
    | [] => .failed (.noClauses statement.entry)
    | first :: _ =>
      if first.keyword ≠ statement.entry then
        .failed (.entryNotFirst statement.entry first.keyword)
      else (decl.checkingClauses table statement.clauses).andThen fun _ =>
        if seen.contains statement.entry then .failed (.entryTaken decl.name statement.entry)
        else decl.checkingStatements table (statement.entry :: seen) statements

/-- `Registry.registerAll` in accesses. -/
def registeringAll : List (Kind × String) → Procedure Unit
  | [] => .done ()
  | (kind, description) :: kinds => .register kind description (registeringAll kinds)

/-- What is left of `validate`, in accesses, when the declared kinds have been checked. -/
def preparing (decl : Declarations σ) : Procedure (Dialect σ) :=
  (decl.addingKeywords .empty decl.spellings).andThen fun table =>
  (decl.checkingStatements table [] decl.statements).andThen fun _ =>
    .done ⟨decl.name, decl.statements, table, decl.strict, decl.recording⟩

/-- `establish` in accesses. -/
def establishing (decl : Declarations σ) : Procedure (Dialect σ) :=
  (checkingKinds decl.kinds).andThen fun _ =>
  decl.preparing.andThen fun d =>
  (registeringAll decl.kinds).andThen fun _ => .done d

end Declarations

/-- What a registry can be called for. -/
inductive Task (σ : Type) where
  /-- To check a kind. -/
  | check (kind : Kind) (description : String)
  /-- To register a kind. -/
  | register (kind : Kind) (description : String)
  /-- To establish a dialect. -/
  | establish (decl : Declarations σ)

/-- The accesses of a task.  Only the last task answers with more than that there is no conflict. -/
def Task.procedure {σ : Type} : Task σ → Procedure (Option (Dialect σ))
  | check kind description => .check kind description (.done none)
  | register kind description => .register kind description (.done none)
  | establish decl => decl.establishing.andThen fun d => .done (some d)

/-- A call: a task, and what is left to do. -/
structure RegistryCall (σ : Type) where
  /-- The task. -/
  task : Task σ
  /-- What is left to do. -/
  rest : Procedure (Option (Dialect σ))

/-- A registry with all calls that have begun, the first one first. -/
structure Sharing (σ : Type) where
  /-- The registry. -/
  registry : Registry
  /-- The calls. -/
  calls : List (RegistryCall σ)

namespace Sharing

variable {σ : Type}

/-- Only the shared kinds are known, and nobody has called. -/
def start : Sharing σ := ⟨.shared, []⟩

/-- One step of anybody. -/
inductive Step : Sharing σ → Sharing σ → Prop
  /-- A call begins. -/
  | call (s : Sharing σ) (task : Task σ) :
    Step s { s with calls := s.calls ++ [⟨task, task.procedure⟩] }
  /-- A call makes its next access. -/
  | access {s : Sharing σ} {i : Nat} {c : RegistryCall σ} {rest : Procedure (Option (Dialect σ))}
      {r : Registry} :
    s.calls[i]? = some c → c.rest.access s.registry = some (rest, r) →
      Step s ⟨r, s.calls.set i { c with rest := rest }⟩

/-- Any number of steps. -/
inductive Steps : Sharing σ → Sharing σ → Prop
  /-- No step. -/
  | refl (s : Sharing σ) : Steps s s
  /-- One more step. -/
  | tail {s t u : Sharing σ} : Steps s t → Step t u → Steps s u

end Sharing

end RowSieve
