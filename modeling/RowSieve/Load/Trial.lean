import RowSieve.Load.Counters
import RowSieve.Store.Basic

/-!
# Load tests

In a `Trial` workers share a store.  Each of them in turn puts a value under a new key and then
reads it back; `Trial.step` lets one worker do one of the two, so that a list of workers is a
schedule.  The keys name the worker and count its rounds, so that no two rounds share one.
-/

namespace RowSieve

/-- A worker in a load test. -/
structure Worker where
  /-- How many rounds it has begun. -/
  rounds : Nat
  /-- The key whose value it has to read back. -/
  written : Option String
deriving DecidableEq, Repr, Inhabited

/-- A load test. -/
structure Trial where
  /-- The store. -/
  store : Store
  /-- What has been done. -/
  counters : Counters
  /-- The value that is put each time. -/
  value : String
  /-- The workers. -/
  workers : List Worker
deriving Inhabited

namespace Trial

/-- A load test before its beginning, with values of `size` characters. -/
def start (store : Store) (workers size : Nat) : Trial :=
  ⟨store, .zero, String.ofList (List.replicate size 'x'), List.replicate workers ⟨0, none⟩⟩

/-- The key of a round of a worker. -/
def key (worker round : Nat) : String := s!"w{worker}-{round}"

/-- A worker begins a round. -/
def beginRound (t : Trial) (index : Nat) (w : Worker) : Trial :=
  let key := key index w.rounds
  match t.store.put key t.value with
  | .ok store =>
    { t with store := store, workers := t.workers.set index ⟨w.rounds + 1, some key⟩ }
  | .error _ =>
    { t with
      counters := t.counters.addError
      workers := t.workers.set index ⟨w.rounds + 1, none⟩ }

/-- A worker ends a round. -/
def endRound (t : Trial) (index : Nat) (w : Worker) (key : String) : Trial :=
  { t with
    counters :=
      if t.store.get? key = some t.value then t.counters.addWrite.addRead
      else t.counters.addError
    workers := t.workers.set index { w with written := none } }

/-- A worker does its next operation. -/
def step (t : Trial) (index : Nat) : Trial :=
  match t.workers[index]? with
  | none => t
  | some w =>
    match w.written with
    | none => t.beginRound index w
    | some key => t.endRound index w key

/-- The workers do their operations in this order. -/
def run (t : Trial) (schedule : List Nat) : Trial := schedule.foldl step t

/-- A schedule in which every worker does one round. -/
def oneRound (workers : Nat) : List Nat := (List.range workers).flatMap fun i => [i, i]

/-- The store is closed when the test is over. -/
def finish (t : Trial) : Trial := { t with store := t.store.close }

/-- The last line of a load test on the store at a path. -/
def closingLine (t : Trial) (path : String) : String := s!"{t.store.size} keys in {path}"

end Trial

end RowSieve
