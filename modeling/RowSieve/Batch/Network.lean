import RowSieve.Batch.Basic

/-!
# Workers that share a table

With several workers a job is a network.  A *feeder* reads the entries of the table and puts the
records into a queue; the *workers* take records out of it, put them through the program, and put
what becomes of them into a second queue; the *printer* takes the reports from there.  Both queues
hold at most `Network.capacity` items.

When the table is at its end, the feeder first gives the workers a sign and then closes the
queue.  A worker that heeds the sign takes what is left in the queue and leaves; a worker that
finds the queue closed and empty leaves too.  The printer stops early if as many rows are printed
as the program asks for.  Some time later it takes its queue down.  A worker then leaves with its
next report, and the feeder stops when all workers have left.

`Network.feed`, `Network.work` and `Network.print` are the steps of the three; they give nothing
where one has to wait.  `Network.Step` lets any of them do the next step, and `Network.Done` holds
when all of them have left.
-/

namespace RowSieve

/-- Where the feeder is. -/
inductive Feeder where
  /-- It reads the next entry. -/
  | reading
  /-- It has a record for the queue. -/
  | holding (r : Record)
  /-- It has given the sign. -/
  | closing
  /-- It has closed the queue and left. -/
  | gone

/-- Where a worker is. -/
inductive Hand where
  /-- It waits for a record or for the sign. -/
  | idle
  /-- It has heeded the sign and takes what is left. -/
  | draining
  /-- It has a report for the printer. -/
  | reporting (report : Report) (drains : Bool)
  /-- It has left. -/
  | gone
  /-- The program broke down. -/
  | crashed

/-- The worker does no more steps. -/
def Hand.hasLeft : Hand → Bool
  | gone => true
  | crashed => true
  | _ => false

/-- The feeder has given the sign. -/
def Feeder.hasSigned : Feeder → Bool
  | closing => true
  | gone => true
  | _ => false

/-- The feeder has closed the queue. -/
def Feeder.hasClosed : Feeder → Bool
  | gone => true
  | _ => false

/-- A job with workers that share its records. -/
structure Network where
  /-- The entries of the table that have not been read. -/
  entries : List (Except LineError Record)
  /-- Where the feeder is. -/
  feeder : Feeder
  /-- The number of records that were read. -/
  records : Nat
  /-- The number of entries that were read and are no records. -/
  skipped : Nat
  /-- The records that no worker has taken. -/
  queue : List Record
  /-- Where the workers are. -/
  workers : List Hand
  /-- The reports that have not been printed. -/
  reports : List Report
  /-- What has been printed. -/
  printout : Printout
  /-- The printer still takes reports out of their queue. -/
  printing : Bool
  /-- The printer has not taken the queue of reports down. -/
  listening : Bool

namespace Network

/-- The most items that a queue holds. -/
def capacity : Nat := 100

/-- The network for a job, before its first step. -/
def start (job : Job) (t : Table) : Network :=
  { entries := t.entries
    feeder := .reading
    records := 0
    skipped := 0
    queue := []
    workers := List.replicate (max 1 job.workers) .idle
    reports := []
    printout := .empty
    printing := !Printout.empty.full job
    listening := true }

/-- All workers have left. -/
def deserted (s : Network) : Bool := s.workers.all Hand.hasLeft

/-! ### Steps -/

/-- A step of the feeder. -/
def feed (s : Network) : Option Network :=
  match s.feeder with
  | .reading =>
    match s.entries with
    | [] => some { s with feeder := .closing }
    | .ok r :: entries =>
      some { s with entries := entries, records := s.records + 1, feeder := .holding r }
    | .error _ :: entries => some { s with entries := entries, skipped := s.skipped + 1 }
  | .holding r =>
    if s.deserted then some { s with feeder := .closing }
    else if s.queue.length < capacity then
      some { s with queue := s.queue ++ [r], feeder := .reading }
    else none
  | .closing => some { s with feeder := .gone }
  | .gone => none

/-- A worker with a record, which it puts through the program. -/
def handle (job : Job) (header : List String) (r : Record) (drains : Bool) : Hand :=
  match job.report header r with
  | .ok report => .reporting report drains
  | .error _ => .crashed

/-- A step of a worker.  Where it waits, `heeds` tells whether it heeds the sign or takes a
record. -/
def work (job : Job) (header : List String) (s : Network) (index : Nat) (heeds : Bool) :
    Option Network :=
  let put (hand : Hand) : Network := { s with workers := s.workers.set index hand }
  match s.workers[index]? with
  | some .idle =>
    if heeds then if s.feeder.hasSigned then some (put .draining) else none
    else match s.queue with
      | r :: queue => some { put (handle job header r false) with queue := queue }
      | [] => if s.feeder.hasClosed then some (put .gone) else none
  | some .draining =>
    match s.queue with
    | r :: queue => some { put (handle job header r true) with queue := queue }
    | [] => some (put .gone)
  | some (.reporting report drains) =>
    if !s.listening then some (put .gone)
    else if s.reports.length < capacity then
      some { put (if drains then .draining else .idle) with reports := s.reports ++ [report] }
    else none
  | _ => none

/-- A step of the printer. -/
def print (job : Job) (s : Network) : Option Network :=
  if s.printing then
    match s.reports with
    | report :: reports =>
      let p := s.printout.add job report
      some { s with reports := reports, printout := p, printing := !p.full job }
    | [] => if s.deserted then some { s with printing := false } else none
  else if s.listening then some { s with listening := false }
  else none

/-- One step of the network. -/
inductive Step (job : Job) (header : List String) : Network → Network → Prop
  /-- A step of the feeder. -/
  | feed {s t : Network} : s.feed = some t → Step job header s t
  /-- A step of a worker. -/
  | work {s t : Network} (index : Nat) (heeds : Bool) :
    s.work job header index heeds = some t → Step job header s t
  /-- A step of the printer. -/
  | print {s t : Network} : s.print job = some t → Step job header s t

/-- Any number of steps. -/
inductive Steps (job : Job) (header : List String) : Network → Network → Prop
  /-- No step. -/
  | refl (s : Network) : Steps job header s s
  /-- One more step. -/
  | tail {s t u : Network} : Steps job header s t → Step job header t u → Steps job header s u

/-- Feeder, workers and printer have left. -/
def Done (s : Network) : Prop :=
  s.feeder.hasClosed = true ∧ s.deserted = true ∧ s.printing = false ∧ s.listening = false

/-- The program broke down on some record. -/
def Crashed (s : Network) : Prop := Hand.crashed ∈ s.workers

/-- The numbers of the job, when the network is done. -/
def tally (s : Network) : Job.Tally :=
  { records := s.records
    skipped := s.skipped
    emitted := s.printout.emitted
    filtered := s.printout.filtered
    failed := s.printout.failed
    workers := s.workers.length }

end Network

end RowSieve
