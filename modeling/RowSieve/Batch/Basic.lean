import RowSieve.Expr.Evaluation
import RowSieve.Function.Basic
import RowSieve.Layout
import RowSieve.Record.Table

/-!
# Batches

A `Job` puts every record of a table through a program.  `Job.report` tells what becomes of one
record: its row is printed, it is filtered out, or the program fails on it, which costs only that
record.  A program that writes nothing prints the records themselves.

`Job.run` goes through the records in order and stops when as many rows are printed as the program
asks for.  Each record is put through the program before it is asked whether its row is still
wanted, so that a crash on the record after the last printed one still ends the whole job.
-/

namespace RowSieve

/-- A program at work on a table. -/
structure Job where
  /-- The functions that the program may call. -/
  functions : Functions
  /-- The program. -/
  program : Program
  /-- How rows are printed. -/
  layout : Layout
  /-- What stands between fields. -/
  delimiter : Char
  /-- How many workers share the records, at least one. -/
  workers : Nat

/-- What becomes of a record. -/
inductive Report where
  /-- A row is printed. -/
  | emitted (line : Nat) (row : Row)
  /-- A filter did not hold. -/
  | filtered
  /-- The program failed. -/
  | failed

/-- What becomes of a record under a header. -/
def Job.report (job : Job) (header : List String) (r : Record) : Except Crash Report :=
  let read := Row.ofRecord header r.fields
  match RowSieve.run job.functions read job.program.instructions .empty with
  | (.ok .passed, written) =>
    .ok (.emitted r.line (if job.program.outputs.isEmpty then read else written))
  | (.ok .filtered, _) => .ok .filtered
  | (.error (.error _), _) => .ok .failed
  | (.error (.crash c), _) => .error c

/-- What has been printed, and what became of the records. -/
structure Printout where
  /-- The lines that were printed. -/
  lines : Array String
  /-- The number of records whose rows were printed. -/
  emitted : Nat
  /-- The number of records that were filtered out. -/
  filtered : Nat
  /-- The number of records on which the program failed. -/
  failed : Nat
deriving DecidableEq, Repr, Inhabited

/-- Nothing yet. -/
def Printout.empty : Printout := ⟨#[], 0, 0, 0⟩

/-- Prints a report. -/
def Printout.add (job : Job) (p : Printout) : Report → Printout
  | .emitted line row =>
    { p with
      lines := p.lines.push (job.layout.print job.program.outputs line row)
      emitted := p.emitted + 1 }
  | .filtered => { p with filtered := p.filtered + 1 }
  | .failed => { p with failed := p.failed + 1 }

/-- As many rows are printed as the program asks for. -/
def Printout.full (job : Job) (p : Printout) : Bool := job.program.limit = some p.emitted

namespace Job

/-- Puts records through the program, one after the other. -/
def process (job : Job) (header : List String) : Printout → List Record → Printout × Option Crash
  | p, [] => (p, none)
  | p, r :: rs =>
    match job.report header r with
    | .error c => (p, some c)
    | .ok report => if p.full job then (p, none) else job.process header (p.add job report) rs

/-- The numbers of a job. -/
structure Tally where
  /-- Lines that are records. -/
  records : Nat
  /-- Lines that should be records but are not. -/
  skipped : Nat
  /-- Records whose rows were printed. -/
  emitted : Nat
  /-- Records that were filtered out. -/
  filtered : Nat
  /-- Records on which the program failed. -/
  failed : Nat
  /-- How many workers shared the records. -/
  workers : Nat
deriving DecidableEq, Repr, Inhabited

/-- Why a job ends early. -/
inductive Error where
  /-- The input is no table. -/
  | table (e : TableError)
  /-- The program broke down. -/
  | crash (c : Crash)
deriving DecidableEq, Repr

/-- The wording of the error. -/
def Error.message : Error → String
  | table e => e.message
  | crash _ => "a consumer thread panicked"

/-- The records of a table. -/
def recordsOf (t : Table) : List Record := t.entries.filterMap Except.toOption

/-- The numbers after a job. -/
def tally (job : Job) (t : Table) (p : Printout) : Tally :=
  let records := (recordsOf t).length
  { records := records
    skipped := t.entries.length - records
    emitted := p.emitted
    filtered := p.filtered
    failed := p.failed
    workers := max 1 job.workers }

/-- The printed lines, and the numbers of the job or why it ended early. -/
def run (job : Job) (input : List UInt8) : List String × Except Error Tally :=
  match Table.read job.delimiter input with
  | .error e => ([], .error (.table e))
  | .ok t =>
    match job.process t.header .empty (recordsOf t) with
    | (p, some c) => (p.lines.toList, .error (.crash c))
    | (p, none) => (p.lines.toList, .ok (job.tally t p))

end Job

end RowSieve
