import RowSieve.Dictionary
import RowSieve.Text.Case
import RowSieve.Value

/-!
# Functions

A `Function` takes a list of values and says how many it accepts.  `Functions` is the set of those
that expressions may call; names are looked up without regard to case.

A function either gives a value, or a message, or it breaks down because it looked for an
argument that is not there.
-/

namespace RowSieve

/-- Why a program cannot go on at all. -/
inductive Crash where
  /-- The smallest whole number was divided by minus one. -/
  | remainderOverflow
  /-- A function looked for an argument that it was not given. -/
  | missingArgument (index : Nat)
deriving DecidableEq, Repr

/-- The wording of a crash. -/
def Crash.message : Crash → String
  | remainderOverflow => "attempt to calculate the remainder with overflow"
  | missingArgument index => s!"there is no argument {index}"

/-- Why a function gives no value. -/
inductive Refusal where
  /-- The arguments are not right. -/
  | message (text : String)
  /-- The function broke down. -/
  | crash (c : Crash)
deriving DecidableEq, Repr

/-- What a function does. -/
structure Function where
  /-- It needs at least so many arguments. -/
  least : Nat
  /-- It takes at most so many; without a bound it takes any number. -/
  most : Option Nat
  /-- Its value. -/
  call : List Value → Except Refusal Value

namespace Function

/-- A function of so many arguments. -/
def exact (count : Nat) (call : List Value → Except Refusal Value) : Function :=
  ⟨count, some count, call⟩

/-- A function of at least `least` and at most `most` arguments. -/
def between (least most : Nat) (call : List Value → Except Refusal Value) : Function :=
  ⟨least, some most, call⟩

/-- A function of at least `least` arguments. -/
def atLeast (least : Nat) (call : List Value → Except Refusal Value) : Function :=
  ⟨least, none, call⟩

/-- The function takes this many arguments. -/
def accepts (f : Function) (count : Nat) : Bool :=
  f.least ≤ count && f.most.all fun most => count ≤ most

theorem accepts_iff {f : Function} {count : Nat} :
    f.accepts count = true ↔ f.least ≤ count ∧ ∀ most, f.most = some most → count ≤ most := by
  cases hmost : f.most <;> simp [accepts, hmost]

/-- How many arguments the function takes, in words. -/
def arityText (f : Function) : String :=
  match f.most with
  | none => s!"at least {f.least}"
  | some most => if most = f.least then toString most else s!"{f.least} to {most}"

end Function

/-- Functions by their names in lower case. -/
structure Functions where
  /-- The functions. -/
  table : Dictionary Function

namespace Functions

/-- No functions. -/
def empty : Functions := ⟨.empty⟩

/-- Adds a function, in place of an earlier one of the same name. -/
def register (fs : Functions) (name : String) (f : Function) : Functions :=
  ⟨fs.table.insert (Text.lowercase name) f⟩

/-- The function of a name, whatever its case. -/
def get? (fs : Functions) (name : String) : Option Function := fs.table.get? (Text.lowercase name)

/-- There is a function of this name. -/
def contains (fs : Functions) (name : String) : Bool := (fs.get? name).isSome

/-- The names of the functions, in order. -/
def names (fs : Functions) : List String := fs.table.names

end Functions

end RowSieve
