import FleetProfile.Pipeline.World
import FleetProfile.Store.Reads
/-!
The ledger of one pipeline as the process sees it: the operations of the store on the clock.
-/
namespace FleetProfile.Pipeline

open Time (Instant Span)

/-- Who writes to the ledger, and for which pipeline. -/
structure Ledger where
  pipeline : String
  version : String
  /-- How long a run may go without a sign of life. -/
  timeout : Span
  runner : String
deriving DecidableEq, Repr

namespace Ledger

def ofConfig (c : Config) (runner : String) : Ledger :=
  ⟨c.pipeline, c.version, c.runTimeout, runner⟩

def staleBefore (l : Ledger) (now : Instant) : Instant :=
  let t : Instant := ⟨now.seconds - l.timeout.seconds, now.nanos⟩
  if Instant.earliest ≤ t then t else Instant.earliest

def request (l : Ledger) (now : Instant) : Store.OpenRequest :=
  ⟨l.pipeline, l.version, l.runner, now, l.staleBefore now⟩

def openRun (l : Ledger) (env : Environment σ) : Job σ Store.OpenedRun := do
  let now ← env.readClock
  env.execute (fun s => s.openLog (l.request now)) fun s => s.openRun (l.request now)

def move (env : Environment σ) (r : Run) (source target : RunStatus) (error : Option String) :
    Job σ Unit := do
  let now ← env.readClock
  env.execute (fun _ => []) fun s => (s.transition r source target error now).map ((), ·)

def start (env : Environment σ) (r : Run) : Job σ Unit :=
  move env r .pending .running none

def succeed (env : Environment σ) (r : Run) : Job σ Unit :=
  move env r .running .succeeded none

def fail (env : Environment σ) (r : Run) (source : RunStatus) (reason : String) : Job σ Unit := do
  move env r source .failed (some reason)
  Job.note [.error s!"Run failed: {reason}"]

def heartbeat (env : Environment σ) (r : Run) : Job σ Unit := do
  let now ← env.readClock
  env.execute (fun _ => []) fun s => (s.heartbeat r now).map ((), ·)

def sweepLog (l : Ledger) (now : Instant) (s : Store) : List LogEntry :=
  match s.failStale l.pipeline (l.staleBefore now) now with
  | .ok (swept, _) => Store.sweepLog swept
  | .error _ => []

def sweep (l : Ledger) (env : Environment σ) : Job σ (List RunEntry) := do
  let now ← env.readClock
  env.execute (l.sweepLog now) fun s => s.failStale l.pipeline (l.staleBefore now) now

/-- How far the statements of a source have been loaded. A source that is new has to start over. -/
def watermark (l : Ledger) (env : Environment σ) (source : String) : Job σ (Option Instant) :=
  env.read fun s => .ok (s.latestSourceLoad l.pipeline source .usage)

end Ledger

end FleetProfile.Pipeline
