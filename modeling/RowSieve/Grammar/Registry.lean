import RowSieve.Text.Quoted
import RowSieve.Token.Kind

/-!
# The registry of kinds

Dialects that exchange tokens must agree on what the numbers of their kinds mean.  A `Registry`
holds one description for each kind in use; it knows the shared kinds from the start, and entries
are only ever added.  `Conflict` lists the conflicts that a declaration can run into, here or
in a dialect.
-/

namespace RowSieve

/-- A conflict in the declarations of a dialect. -/
inductive Conflict where
  /-- The kind is known under another description. -/
  | kindTaken (kind : Kind) (registered requested : String)
  /-- The number of the kind is not free for dialects. -/
  | kindReserved (kind : Kind) (description : String)
  /-- A kind is used but neither known nor declared. -/
  | kindUnknown (dialect : String) (kind : Kind)
  /-- One spelling has two kinds. -/
  | spellingTaken (word : String) (first second : Kind)
  /-- Two statements begin with the same keyword. -/
  | entryTaken (dialect : String) (entry : Kind)
  /-- No word spells the keyword of a clause. -/
  | clauseUnspelled (dialect : String) (kind : Kind)
  /-- A statement has no clauses. -/
  | noClauses (entry : Kind)
  /-- The first clause of a statement is not the one that opens it. -/
  | entryNotFirst (entry first : Kind)
deriving DecidableEq, Repr

/-- The wording of a conflict. -/
def Conflict.message (e : Conflict) : String :=
  "grammar conflict: " ++ match e with
  | kindTaken kind registered requested =>
    s!"token {kind.display} is registered as {Text.quoted registered}, " ++
      s!"not {Text.quoted requested}"
  | kindReserved kind description =>
    s!"token {kind.display} ({Text.quoted description}) is in the reserved range"
  | kindUnknown dialect kind =>
    s!"dialect {Text.quoted dialect} uses unregistered token {kind.display}"
  | spellingTaken word first second =>
    s!"keyword {Text.quoted word} maps to both {first.display} and {second.display}"
  | entryTaken dialect entry =>
    s!"dialect {Text.quoted dialect} declares two statements starting with {entry.display}"
  | clauseUnspelled dialect kind =>
    s!"dialect {Text.quoted dialect} has no keyword spelling for clause {kind.display}"
  | noClauses entry => s!"statement {entry.display} declares no clauses"
  | entryNotFirst entry first =>
    s!"statement {entry.display} must open with its entry clause, not {first.display}"

/-- The kinds in use, each with its description. -/
structure Registry where
  /-- The kinds, in the order in which they became known. -/
  kinds : List (Kind × String)
deriving DecidableEq, Repr

namespace Registry

/-- Only the shared kinds are known. -/
def shared : Registry := ⟨Kind.shared⟩

/-- The description of a kind. -/
def describe? (r : Registry) (kind : Kind) : Option String := r.kinds.lookup kind

/-- The kind is known. -/
def contains (r : Registry) (kind : Kind) : Bool := (r.describe? kind).isSome

/-- How many kinds are known. -/
def size (r : Registry) : Nat := r.kinds.length

/-- Whether a kind may be registered under a description. -/
def check (r : Registry) (kind : Kind) (description : String) : Except Conflict Unit :=
  if kind.isReserved then .error (.kindReserved kind description)
  else match r.describe? kind with
    | none => .ok ()
    | some registered =>
      if registered = description then .ok ()
      else .error (.kindTaken kind registered description)

/-- Registers a kind under a description.  To do so again changes nothing. -/
def register (r : Registry) (kind : Kind) (description : String) :
    Except Conflict Registry :=
  (r.check kind description).map fun _ =>
    if r.contains kind then r else ⟨r.kinds ++ [(kind, description)]⟩

/-- Registers kinds one after the other up to the first conflict. -/
def registerAll (r : Registry) : List (Kind × String) → Option Conflict × Registry
  | [] => (none, r)
  | (kind, description) :: declarations =>
    match r.register kind description with
    | .error e => (some e, r)
    | .ok r => r.registerAll declarations

end Registry

end RowSieve
