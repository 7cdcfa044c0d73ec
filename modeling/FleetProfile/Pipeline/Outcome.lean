import FleetProfile.Config.Validation
import FleetProfile.Pipeline.Extraction
/-!
A run of a pipeline over all its sources, which are worked through side by side.

The first failure stops the rest and fails the run; what was committed before stays in place.
Once a run is open, how it went is told by its outcome.
-/
namespace FleetProfile.Pipeline

structure Outcome where
  run : Run
  status : RunStatus
  /-- The counts of all sources that finished. -/
  report : LoadReport
  /-- The sources that finished, in the order of the configuration. -/
  sources : List SourceReport
  /-- Why the run failed. -/
  error : Option Error
  /-- Stale runs that were failed when this one was opened. -/
  recovered : List RunEntry

/-- The event of a source that failed. A cancelled one has not failed by itself. -/
def sourceLog : Error → List LogEntry
  | .cancelled => []
  | e => [.error s!"Source failed: {e.message}"]

/-- Work through one source unless the jobs have to end; if it fails, they have to. -/
def runJob (env : Environment σ) (l : Ledger) (c : Config) (r : Run) (source : SourceConfig) :
    Process (World σ) SourceEnd := do
  if ← .atom env.look then return .skipped
  else
    let ending ← workOn env l c r source
    match ending.result with
    | .ok _ => return ending
    | .error e =>
      World.note (sourceLog e)
      World.stop
      return ending

/-- Work through all sources, as many at a time as there are workers. -/
def runSources (env : Environment σ) (l : Ledger) (c : Config) (r : Run) :
    Job σ (List SourceEnd) := do
  env.ready
  Process.all (env.turn c.maxWorkers) (c.sources.map (runJob env l c r))

def finished (ends : List SourceEnd) : List SourceReport :=
  ends.filterMap fun x => x.result.toOption

/-- The first error that is no cancellation, else the first one. -/
def firstError (results : List (Except Error SourceReport)) : Option Error :=
  results.foldl (fun found r =>
    match found, r with
    | none, .error e => some e
    | some .cancelled, .error e => some e
    | found, _ => found) none

/-- Mark a run as failed, as far as the store lets us. -/
def markFailed (env : Environment σ) (r : Run) (source : RunStatus) (e : Error) :
    Process (World σ) Unit := do
  match ← (Ledger.fail env r source e.message).attempt with
  | .ok _ => return ()
  | .error f => World.note [.error s!"Could not mark run failed: {f.message}"]

/-- Mark a run that had no error as succeeded, and answer what is wrong with it in the end. -/
def settle (env : Environment σ) (r : Run) : Option Error → Process (World σ) (Option Error)
  | some e => return some e
  | none => do
    match ← (Ledger.succeed env r).attempt with
    | .ok _ => return none
    | .error e =>
      World.note [.error s!"Could not mark run succeeded: {e.message}"]
      return some e

/-- What is told of a run in the end, from what is wrong with it. -/
def tell (r : Run) (sources : List SourceReport) (recovered : List RunEntry)
    (error : Option Error) : Outcome where
  run := r
  status := if error.isNone then .succeeded else .failed
  report := LoadReport.total (sources.map SourceReport.total)
  sources
  error
  recovered

/-- Mark a run as failed if something is wrong with it. -/
def close (env : Environment σ) (r : Run) : Option Error → Process (World σ) Unit
  | some e => markFailed env r .running e
  | none => return ()

def finish (env : Environment σ) (r : Run) (sources : List SourceReport) (error : Option Error)
    (recovered : List RunEntry) : Process (World σ) Outcome := do
  let error ← settle env r error
  close env r error
  return tell r sources recovered error

/-- What is wrong with a run whose sources were worked through. -/
def failureOf (env : Environment σ) : Except Error (List SourceEnd) →
    Process (World σ) (Option Error)
  | .error e => return some e
  | .ok ends => do
    match firstError (ends.map SourceEnd.result) with
    | some e => return some e
    | none =>
      if ← env.isCancelled then return some .cancelled
      else return none

/-- Finish a run that could be started. -/
def conclude (env : Environment σ) (opened : Store.OpenedRun)
    (ends : Except Error (List SourceEnd)) : Process (World σ) Outcome := do
  let error ← failureOf env ends
  finish env opened.entry.run (finished (ends.toOption.getD [])) error opened.swept

def runOpened (env : Environment σ) (l : Ledger) (c : Config) (opened : Store.OpenedRun) :
    Job σ Outcome := do
  let r := opened.entry.run
  match ← (Ledger.start env r).attempt with
  | .error e =>
    markFailed env r .pending e
    .fail e
  | .ok _ =>
    let ends ← (runSources env l c r).attempt
    conclude env opened ends

/-- Open a run, if the configuration is one to run. -/
def openRun (env : Environment σ) (c : Config) : Job σ Store.OpenedRun := do
  Job.ofExcept c.validate
  (Ledger.ofConfig c env.runner).openRun env

/-- Run a pipeline once. It fails only if no run could be opened and started. -/
def run (env : Environment σ) (c : Config) : Job σ Outcome := do
  let opened ← openRun env c
  runOpened env (Ledger.ofConfig c env.runner) c opened

end FleetProfile.Pipeline
