import FleetProfile.Load.Regression
import FleetProfile.Load.Report
import FleetProfile.Load.Screen
import FleetProfile.Source.Dialect
import FleetProfile.Store.Batch
import FleetProfile.Store.Reads
/-!
Loading a normalized batch for a run: screen it, compare counters with the snapshot before, and
write what is left.

`prepare` only reads the store and `commit` writes to it, so that other clients may come between.
-/
namespace FleetProfile.Load

open Time (Instant)

/-- A batch on its way to the store, and what its writing is warned of. -/
structure Prepared where
  write : Store.BatchWrite
  log : List LogEntry

def screenLog (s : Screened α) : List LogEntry :=
  (if 0 < s.mismatched then
    [.warn "Rejected records whose extract_ts does not match the run"] else []) ++
  if 0 < s.duplicates then [.warn "Skipped duplicate natural keys"] else []

def regressionLog (r : Regression) : LogEntry :=
  .warn s!"Counter regression, treating as plan-cache eviction: {r.text}"

def emptyLog (rows : TableRows) : List LogEntry :=
  if rows.isEmpty then [.warn "No rows to load"] else []

/-- The counters that the handles of records had before a run, in the same pipeline and source. -/
def priorOf (s : Store) (run : Run) (source : String) (records : List UsageRecord) :
    Except Error (List (String × Counters)) :=
  s.priorCounters run.pipeline source (records.map (·.handle)) run.date

def detect (s : Store) (run : Run) (source : String) (records : List UsageRecord) :
    Except Error (List Regression) := do
  .ok (regressions (← priorOf s run source records) records)

/-- Screen a batch and look for regressions. `cancelled` tells what each pass of the write sees. -/
def prepare (s : Store) (chunkSize : Nat) (cancelled : Nat → Bool) (source : String)
    (batch : Source.Batch) (run : Run) : Except Error Prepared :=
  match batch.rows with
  | .inventory records =>
    let kept := screenInventory run records
    let rows := TableRows.inventory kept.rows
    .ok
      { write :=
          { run, source, rows, chunkSize, cancelled, rejected := batch.rejected + kept.mismatched
            duplicates := kept.duplicates, regressions := 0 }
        log := screenLog kept ++ emptyLog rows }
  | .usage records => do
    let kept := screenUsage run records
    let rows := TableRows.usage kept.rows
    let found ← detect s run source kept.rows
    .ok
      { write :=
          { run, source, rows, chunkSize, cancelled, rejected := batch.rejected + kept.mismatched
            duplicates := kept.duplicates, regressions := found.length }
        log := screenLog kept ++ found.map regressionLog ++ emptyLog rows }

/-- The warnings of screening alone, which also a load gives that fails right after it. -/
def prepareLog (s : Store) (source : String) (batch : Source.Batch) (run : Run) : List LogEntry :=
  match prepare s 1 (fun _ => false) source batch run with
  | .ok p => p.log
  | .error _ =>
    match batch.rows with
    | .inventory records => screenLog (screenInventory run records)
    | .usage records => screenLog (screenUsage run records)

def commit (s : Store) (b : Store.BatchWrite) (now : Instant) :
    Except Error (LoadReport × Store) := do
  let (written, s) ← s.insertBatch b now
  .ok
    ({ written, rejected := b.rejected, duplicates := b.duplicates, regressions := b.regressions },
      s)

/--
Load a batch. `cancelled n` is what the `n`-th look at the cancellation of the run shows: one
before all else, one before the write, and one before each of its passes.
-/
def load (s : Store) (chunkSize : Nat) (cancelled : Nat → Bool) (source : String)
    (batch : Source.Batch) (run : Run) (now : Instant) : Except Error (LoadReport × Store) := do
  if cancelled 0 then .error .cancelled
  else
    let p ← prepare s chunkSize (fun n => cancelled (n + 2)) source batch run
    if cancelled 1 then .error .cancelled else commit s p.write now

def loadLog (s : Store) (cancelled : Nat → Bool) (source : String) (batch : Source.Batch)
    (run : Run) : List LogEntry :=
  if cancelled 0 then [] else prepareLog s source batch run

end FleetProfile.Load
