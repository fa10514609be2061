import RowSieve.Batch.Basic

/-!
# Profiles

A profile is a JSON document about a job: its numbers, and how long it took, in microseconds.
-/

namespace RowSieve

/-- The numbers of a job and the time it took. -/
structure Profile where
  /-- The numbers. -/
  tally : Job.Tally
  /-- How long it took to read the table. -/
  readMicros : Nat
  /-- How long it took to run the program, all workers together. -/
  executeMicros : Nat
  /-- How long the whole job took. -/
  elapsedMicros : Nat
deriving DecidableEq, Repr, Inhabited

namespace Profile

/-- The members of the document, in order. -/
def members (p : Profile) : List (String × Nat) :=
  [("records", p.tally.records), ("skipped", p.tally.skipped), ("emitted", p.tally.emitted),
   ("filtered", p.tally.filtered), ("failed", p.tally.failed), ("concurrency", p.tally.workers),
   ("read_micros", p.readMicros), ("execute_micros", p.executeMicros),
   ("elapsed_micros", p.elapsedMicros)]

/-- A member on a line of its own. -/
def memberLine (m : String × Nat) : String := "  " ++ Json.quote m.1 ++ ": " ++ toString m.2

/-- The document. -/
def document (p : Profile) : String :=
  "\x7b\n" ++ ",\n".intercalate (p.members.map memberLine) ++ "\n\x7d\n"

end Profile

end RowSieve
