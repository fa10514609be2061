import RowSieve.CommandLine.Command

/-!
# The program

`main` reads the command line and carries out the command.  All that is decided is decided by
`Command.ofWords`, `Query.job`, `Query.summary` and `Trial.step`; what stands here reads the
standard input and the files, prints lines, and looks at the clock.

The program ends with `0`, with `1` and a message on the standard error if the command fails, and
with `2` if the command line is wrong.
-/

namespace RowSieve

namespace Console

/-- The rest of a stream. -/
partial def readAll (stream : IO.FS.Stream) (bytes : ByteArray) : IO ByteArray := do
  let more ← stream.read 65536
  if more.isEmpty then return bytes
  readAll stream (bytes ++ more)

/-- Ends with a message. -/
def giveUp (message : String) : IO UInt32 := do
  IO.eprintln message
  return 1

/-- Puts a query to the table on the standard input. -/
def answerQuery (query : Query) (switches : Switches) (workers : Nat) (delimiter : Char)
    (layout : Layout) (profile : Option String) : IO UInt32 := do
  let input ← IO.getStdin
  if ← input.isTty then return ← giveUp Failure.noInput.message
  match query.job switches workers delimiter layout with
  | .error e => giveUp e.message
  | .ok job =>
    let began ← IO.monoNanosNow
    let bytes ← readAll input .empty
    let read ← IO.monoNanosNow
    let (lines, ending) := job.run bytes.data.toList
    for line in lines do
      IO.println line
    let ended ← IO.monoNanosNow
    match ending with
    | .error e => giveUp e.message
    | .ok tally =>
      if let some path := profile then
        let p : Profile :=
          ⟨tally, (read - began) / 1000, (ended - read) / 1000, (ended - began) / 1000⟩
        IO.FS.writeFile path p.document
      return 0

/-- Moves what is pending in a store to its file. -/
def save (file : IO.FS.Handle) (t : Trial) : IO Trial := do
  file.write ⟨t.store.pending.toArray⟩
  return { t with store := { t.store with pending := [] } }

/-- What a load test has done so far, on one line. -/
def snapshot (began : Nat) (t : Trial) : IO Snapshot := do
  let now ← IO.monoNanosNow
  return ⟨Snapshot.secondsOf 0 (now - began), t.counters⟩

/-- Lets all workers that have begun do one round after the other until the time is over.  A line
is due at `next`. -/
partial def keepWorking (plan : LoadPlan) (file : IO.FS.Handle) (began next : Nat) (t : Trial) :
    IO Trial := do
  let passed := ((← IO.monoNanosNow) - began) / 1000000
  if plan.seconds * 1000 ≤ passed || plan.workers = 0 then return t
  let due := next ≤ passed
  if due then IO.println (← snapshot began t).line
  let begun := if plan.stagger = 0 then plan.workers else passed / plan.stagger + 1
  let t ← save file (t.run (Trial.oneRound (min plan.workers begun)))
  keepWorking plan file began (if due then next + max 1 plan.interval else next) t

/-- Tests a store. -/
def testStore (plan : LoadPlan) : IO UInt32 := do
  let file ← IO.FS.Handle.mk plan.path .append
  let log ← IO.FS.readBinFile plan.path
  match Store.load log.data.toList with
  | .error e => giveUp (Failure.store e).message
  | .ok store =>
    let began ← IO.monoNanosNow
    IO.println Snapshot.header
    let t ← keepWorking plan file began plan.interval (.start store plan.workers plan.valueSize)
    let t := t.finish
    IO.println (← snapshot began t).line
    IO.println (t.closingLine plan.path)
    return 0

/-- Carries out a command. -/
def perform : Command → IO UInt32
  | .run query switches workers delimiter layout profile => do
    try answerQuery query switches workers delimiter layout profile
    catch e => giveUp s!"IO error: {e}"
  | .check query switches =>
    match query.summary switches with
    | .ok line => do
      IO.println line
      return 0
    | .error e => giveUp (Failure.query e).message
  | .bench plan => do
    try testStore plan
    catch e => giveUp s!"store I/O error: {e}"

/-- How the program is used. -/
def usage : String :=
  "\n".intercalate
    ["Usage: rowql run|check|bench [OPTIONS]",
     "run    --sql TEXT | --expr TEXT   run a query over records read from stdin",
     "check  --sql TEXT | --expr TEXT   only validate syntax, don't read input",
     "bench  --path PATH                load test the key-value store"]

end Console

end RowSieve

open RowSieve in
/-- Reads the command line and carries out the command. -/
def main (words : List String) : IO UInt32 := do
  let environment ← Command.environmentNames.mapM fun name => return (name, ← IO.getEnv name)
  match Command.ofWords (fun name => (environment.lookup name).join) words with
  | .ok command => Console.perform command
  | .error .version => do
    IO.println Command.versionText
    return 0
  | .error .help => do
    IO.println Console.usage
    return 0
  | .error .mistake => do
    IO.eprintln Console.usage
    return 2
