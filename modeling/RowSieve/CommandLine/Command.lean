import RowSieve.Batch.Profile
import RowSieve.CommandLine.Options
import RowSieve.Load.Trial
import RowSieve.Query

/-!
# Commands

A command line names one of three commands: `run` puts a query to the table on the standard input,
`check` only reads the query, and `bench` is a load test of a store.  `Command.ofWords` reads the
words after the program's name; where an option is missing, the environment is asked, and then the
option has its usual value.
-/

namespace RowSieve

/-- What a load test is asked to do. -/
structure LoadPlan where
  /-- The path of the store. -/
  path : String
  /-- The number of workers. -/
  workers : Nat
  /-- How long it lasts, in seconds. -/
  seconds : Nat
  /-- How long after each other the workers begin, in thousandths of a second. -/
  stagger : Nat
  /-- How long after each other lines are printed, in thousandths of a second. -/
  interval : Nat
  /-- The length of a value. -/
  valueSize : Nat
deriving DecidableEq, Repr, Inhabited

/-- What the program is asked to do. -/
inductive Command where
  /-- Put a query to a table. -/
  | run (query : Query) (switches : Switches) (workers : Nat) (delimiter : Char) (layout : Layout)
    (profile : Option String)
  /-- Read a query. -/
  | check (query : Query) (switches : Switches)
  /-- Test a store. -/
  | bench (plan : LoadPlan)
deriving DecidableEq, Repr

/-! ### Options of the commands -/

/-- The levels of messages. -/
def logLevels : List String := ["off", "error", "warn", "info", "debug", "trace"]

/-- The option for the level of messages, which all commands have. -/
def logRule : OptionRule :=
  .value "log-level" (some 'l') "ROWQL_LOG" fun v => logLevels.contains (Text.asciiLower v)

/-- A value that is a whole number of 64 bits. -/
def isCount (v : String) : Bool := (Decimal.readNat? 64 v).isSome

/-- The options for a query. -/
def queryRules : List OptionRule :=
  [.value "sql" none "ROWQL_SQL" fun _ => true,
   .value "expr" none "ROWQL_EXPR" fun _ => true,
   .switch "lenient" "ROWQL_LENIENT",
   .switch "legacy-predicates" "ROWQL_LEGACY_PREDICATES",
   logRule]

/-- The options of `run`. -/
def runRules : List OptionRule :=
  [.value "concurrency" (some 'c') "ROWQL_CONCURRENCY" isCount,
   .value "delimiter" (some 'd') "ROWQL_DELIMITER" fun v => v.length = 1,
   .switch "json" "ROWQL_JSON",
   .value "profile" none "ROWQL_PROFILE" fun v => v ≠ ""] ++ queryRules

/-- The options of `bench`. -/
def benchRules : List OptionRule :=
  [.value "path" none "ROWQL_BENCH_PATH" fun v => v ≠ "",
   .value "workers" (some 'w') "ROWQL_BENCH_WORKERS" isCount,
   .value "duration-secs" none "ROWQL_BENCH_DURATION" isCount,
   .value "stagger-ms" none "ROWQL_BENCH_STAGGER" isCount,
   .value "interval-ms" none "ROWQL_BENCH_INTERVAL" isCount,
   .value "value-size" none "ROWQL_BENCH_VALUE_SIZE" isCount,
   logRule]

namespace Given

/-- The number that an option gives, or a usual one. -/
def count (given : Given) (name : String) (usual : Nat) : Nat :=
  ((given.lookup name).bind (Decimal.readNat? 64)).getD usual

/-- The query, which must be given in exactly one way. -/
def query (given : Given) : Except Stop Query :=
  match given.lookup "sql", given.lookup "expr" with
  | some source, none => .ok (.request source)
  | none, some source => .ok (.program source)
  | _, _ => .error .mistake

/-- The variant of the dialect. -/
def switches (given : Given) : Switches :=
  ⟨given.isOn "lenient", given.isOn "legacy-predicates"⟩

/-- What a load test is asked to do. -/
def loadPlan (given : Given) : Except Stop LoadPlan :=
  match given.lookup "path" with
  | none => .error .mistake
  | some path =>
    .ok { path := path
          workers := given.count "workers" 4
          seconds := given.count "duration-secs" 10
          stagger := given.count "stagger-ms" 100
          interval := given.count "interval-ms" 1000
          valueSize := given.count "value-size" 64 }

end Given

namespace Command

/-- All options of a command, from its words and from the environment. -/
def options (rules : List OptionRule) (environment : String → Option String)
    (words : List String) : Except Stop Given := do
  let (given, rest) ← (OptionTable.mk rules false).read words
  if rest.isEmpty then addVariables environment rules given else .error .mistake

/-- The command of a name. -/
def named (environment : String → Option String) (name : String) (words : List String) :
    Except Stop Command :=
  match name with
  | "run" => do
    let given ← options runRules environment words
    let delimiter := ((given.lookup "delimiter").bind (·.toList.head?)).getD ','
    let layout := if given.isOn "json" then Layout.json else .text
    return .run (← given.query) given.switches (given.count "concurrency" 1) delimiter layout
      (given.lookup "profile")
  | "check" => do
    let given ← options queryRules environment words
    return .check (← given.query) given.switches
  | "bench" => do
    let given ← options benchRules environment words
    return .bench (← given.loadPlan)
  | "help" => .error .help
  | _ => .error .mistake

/-- The command that the words after the program's name spell. -/
def ofWords (environment : String → Option String) (words : List String) :
    Except Stop Command := do
  let (given, rest) ← (OptionTable.mk [logRule] true).read words
  match rest with
  | [] => .error .mistake
  | name :: rest => do
    let command ← named environment name rest
    let _ ← addVariables environment [logRule] given
    return command

/-- The variables of the environment that matter. -/
def environmentNames : List String := (runRules ++ benchRules).map (·.envName)

/-- The name of the program and its version. -/
def versionText : String := "rowql 0.1.0"

end Command

/-- Why a command fails. -/
inductive Failure where
  /-- The query is wrong. -/
  | query (e : QueryError)
  /-- The job ended early. -/
  | job (e : Job.Error)
  /-- The store cannot be used. -/
  | store (e : Store.Error)
  /-- There is nothing on the standard input. -/
  | noInput
deriving DecidableEq, Repr

/-- The wording of a failure. -/
def Failure.message : Failure → String
  | query e => e.message
  | job e => e.message
  | store e => e.message
  | noInput => "no input provided; pipe delimited records to stdin"

/-- The job for a query. -/
def Query.job (q : Query) (switches : Switches) (workers : Nat) (delimiter : Char)
    (layout : Layout) : Except Failure Job :=
  match q.prepare .builtin switches with
  | .ok p => .ok ⟨.builtin, p, layout, delimiter, workers⟩
  | .error e => .error (.query e)

/-- Puts a query to a table: the printed lines, and the numbers of the job or why it failed. -/
def Query.answer (q : Query) (switches : Switches) (workers : Nat) (delimiter : Char)
    (layout : Layout) (input : List UInt8) : List String × Except Failure Job.Tally :=
  match q.job switches workers delimiter layout with
  | .error e => ([], .error e)
  | .ok job =>
    match job.run input with
    | (lines, .ok tally) => (lines, .ok tally)
    | (lines, .error e) => (lines, .error (.job e))

end RowSieve
