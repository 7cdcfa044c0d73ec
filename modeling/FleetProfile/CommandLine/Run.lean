import FleetProfile.CommandLine.Desk
import FleetProfile.CommandLine.Table
import FleetProfile.Encoding
import FleetProfile.Pipeline.Outcome
import FleetProfile.Query.Evaluation
/-!
The commands, from an invocation to what is printed and the code that the program ends with.
-/
namespace FleetProfile.CommandLine

open Files (Path)

/-! ### Creating a pipeline -/

def starter (name : String) (extractFolder : Option Path) : Config :=
  let source : SourceConfig :=
    { name := "prod_sqlserver", kind := .sqlServer, utcOffset := some "+00:00" }
  let c : Config := { pipeline := name, sources := [source.withConnection "server" "localhost"] }
  match extractFolder with
  | some folder => { c with extractFolder := folder }
  | none => c

/-- Write a configuration to start with and create its store; one that is there is kept. -/
def createPipeline (caller : Caller) (asked : Option Path) (name : String)
    (extractFolder : Option Path) (force : Bool) : Action Unit := do
  let path := caller.configPath asked
  let isThere := ((← get).files.at? (caller.resolve path)).isSome
  if isThere && !force then
    say s!"Config already exists at {path}"
    say "Use --force to overwrite it (the store is kept)"
  else
    let c := starter name extractFolder
    if let .error e := c.validate then throw e
    writeConfig caller path c
    let _ ← openStore caller (c.storePath caller.home)
    say s!"Config written to {path}"
    say s!"Store created at {c.storePath caller.home}"
    say "Edit [[sources]] in the config, then run: dbprof run --dumps <dir>"

/-! ### Running a pipeline -/

def outcomeJson (o : Pipeline.Outcome) : Json :=
  .object [("error", .ofString? (o.error.map Error.message)),
    ("execution_date", .time o.run.date), ("pipeline_name", .string o.run.pipeline),
    ("recovered", .list RunEntry.toJson o.recovered), ("report", o.report.toJson),
    ("sources", .list SourceReport.toJson o.sources), ("status", o.status.toJson),
    ("version", .string o.run.version)]

def sourceLines (r : SourceReport) : List String :=
  [s!"{r.source}:", s!"  inventory: {r.inventory.text}", s!"  usage:     {r.usage.text}"]

def outcomeLines (o : Pipeline.Outcome) : List String :=
  (o.recovered.map fun e => s!"Recovered stale run {e.run.date.offsetText} ({e.runner})") ++
    o.sources.flatMap sourceLines ++
    [s!"Run {o.run.date.offsetText} {o.status.name}: {o.report.text}"]

/-- Run the pipeline on exported results. A run that failed is reported first. -/
def runPipeline (caller : Caller) (asked : Option Path) (dumps : Path) (json : Bool) :
    Action Unit := do
  let c ← readConfig caller asked
  let env := environment caller (← get).files dumps
  let o ← perform caller (c.storePath caller.home) (Pipeline.run env c)
  if json then say (outcomeJson o).ordered.pretty else sayAll (outcomeLines o)
  if let some e := o.error then throw e

/-! ### Looking at a store -/

def unknownFormat (format : String) : Error :=
  .config s!"Unknown format: {format} (expected table or json)"

/-- List the runs of the pipeline, or of all pipelines. -/
def listRuns (caller : Caller) (asked : Option Path) (format : String) (all : Bool) :
    Action Unit := do
  let c ← readConfig caller asked
  let store ← openStore caller (c.storePath caller.home)
  match store.runs (if all then none else some c.pipeline) with
  | .error e => throw e
  | .ok entries =>
    if format = "json" then say (Json.list RunEntry.toJson entries).pretty
    else if format = "table" then
      if entries.isEmpty then say "No runs recorded." else sayAll (runTable entries)
    else throw (unknownFormat format)

def recoveredLine (e : RunEntry) : String :=
  s!"Marked run {e.run.date.offsetText} {e.status.name} " ++
    s!"(last heartbeat {e.heartbeatAt.offsetText} from {e.runner})"

def recoverRuns (caller : Caller) (asked : Option Path) : Action Unit := do
  let c ← readConfig caller asked
  let l := Pipeline.Ledger.ofConfig c caller.runner
  let env := environment caller (← get).files ""
  let swept ← perform caller (c.storePath caller.home) (l.sweep env)
  if swept.isEmpty then say s!"No stale runs for {c.pipeline}."
  else sayAll (swept.map recoveredLine)

def showLifetimes (caller : Caller) (asked : Option Path) (handle : String) : Action Unit := do
  let c ← readConfig caller asked
  let store ← openStore caller (c.storePath caller.home)
  let lifetimes := store.lifetimes handle
  if lifetimes.isEmpty then say s!"No committed snapshots for {handle}."
  else sayAll (lifetimeTables lifetimes)

def answerQuery (caller : Caller) (asked : Option Path) (text format : String) : Action Unit := do
  let c ← readConfig caller asked
  let store ← readStore caller (c.storePath caller.home)
  match store.query text with
  | .error e => throw e
  | .ok a =>
    if format = "json" then say (Json.array a.records).pretty
    else if format = "table" then sayAll (answerTable a)
    else throw (unknownFormat format)

/-! ### Commands -/

def Command.perform (caller : Caller) (asked : Option Path) : Command → Action Unit
  | .create name extractFolder force => createPipeline caller asked name extractFolder force
  | .run dumps json => runPipeline caller asked dumps json
  | .runs format all => listRuns caller asked format all
  | .recover => recoverRuns caller asked
  | .lifetimes handle => showLifetimes caller asked handle
  | .query text format => answerQuery caller asked text format

structure Exit where
  code : Nat
  output : String := ""
  errors : String := ""
deriving DecidableEq, Repr

def linesText (lines : List String) : String :=
  String.join (lines.map (· ++ "\n"))

def helpLines : List String :=
  ["Usage: dbprof [-c FILE] [-v] <COMMAND>", "",
    "  init [-n NAME] [-d DIR] [--force]   write a configuration and create its store",
    "  run [-D DIR] [--json]               run the pipeline on exported results",
    "  runs [-f table|json] [-a]           list recorded runs",
    "  recover                             fail runs that give no sign of life",
    "  lifetimes HANDLE                    show the lifetimes of a statement",
    "  sql QUERY [-f table|json]           answer a query"]

def dispatch (caller : Caller) (args : List String) (d : Desk) : Exit × Desk :=
  match Request.ofArguments args with
  | .unusable => ({ code := 2, errors := linesText (helpLines.take 1) }, d)
  | .help => ({ code := 0, output := linesText helpLines }, d)
  | .version => ({ code := 0, output := "dbprof 0.1.0\n" }, d)
  | .perform invocation =>
    let action := invocation.command.perform caller invocation.config
    let (result, d) := action.run { d with lines := [] }
    let output := linesText d.lines
    match result with
    | .ok () => ({ code := 0, output }, d)
    | .error e => ({ code := 1, output, errors := s!"Error: {e.message}\n" }, d)

end FleetProfile.CommandLine
