import FleetProfile.Connector.Retry
import FleetProfile.Load.Loader
import FleetProfile.Pipeline.Ledger
/-!
One source within a run: call it for its databases and for its statements, normalize what it
answers, and load that. Both halves are worked through side by side, also if one of them fails.
-/
namespace FleetProfile.Pipeline

open Connector (CallName RetryPolicy Surroundings)
open Source (RawRow)

def retryPolicy (c : Config) : RetryPolicy :=
  ⟨c.retryLimit, c.retryBaseDelay⟩

/-- A call as the policy sees it: it is given its time, and a repetition a sign of life. -/
def callSurroundings (env : Environment σ) (c : Config) (r : Run) (call : Call) :
    Surroundings (World σ) (List RawRow) where
  cancelled := env.look
  attempt := fun w =>
    let (work, outside) := env.answer call w.outside
    (work.within c.connectorTimeout, { w with outside })
  heartbeat := (Ledger.heartbeat env r).run
  note := fun e w => { w with log := w.log ++ [e] }

def emptyAnswerLog (rows : List RawRow) : List LogEntry :=
  if rows.isEmpty then [.warn "Connector returned no rows"] else []

def extract (env : Environment σ) (c : Config) (r : Run) (call : Call) : Job σ (List RawRow) := do
  let name : CallName := ⟨call.source.name, call.request.operation⟩
  match ← (retryPolicy c).process (callSurroundings env c r call) name with
  | .ok rows =>
    Job.note (emptyAnswerLog rows)
    pure rows
  | .error e =>
    Job.stop
    Job.fail e

/-- Write a prepared batch. Each pass looks whether the jobs have to end. -/
def commit (env : Environment σ) (b : Store.BatchWrite) : Job σ LoadReport := do
  let seen ← env.looks (b.rows.length + 1)
  let now ← env.readClock
  env.execute (fun _ => []) fun s =>
    Load.commit s { b with cancelled := fun n => seen.getD n false } now

def prepareLog (source : String) (batch : Source.Batch) (r : Run) (s : Store) : List LogEntry :=
  Load.prepareLog s source batch r

def load (env : Environment σ) (c : Config) (source : String) (batch : Source.Batch) (r : Run) :
    Job σ LoadReport := do
  env.ensureActive
  let prepared ← env.execute (prepareLog source batch r) fun s =>
    (Load.prepare s c.batchSize (fun _ => false) source batch r).map (·, s)
  env.ensureActive
  commit env prepared.write

/-- One half of the work on a source: call it, normalize the answer and load it. -/
def half (env : Environment σ) (c : Config) (r : Run) (ctx : Source.Context)
    (source : SourceConfig) (request : Request) : Job σ LoadReport := do
  let rows ← extract env c r ⟨source, request⟩
  Job.note (Source.rejectionLog source.kind ctx request.table rows)
  load env c source.name (Source.normalizeRows source.kind ctx request.table rows) r

/-- Of two halves both reports, or the error that says more: any other one than a cancellation. -/
def pair (name : String) : Except Error LoadReport → Except Error LoadReport →
    Except Error SourceReport
  | .ok inventory, .ok usage => .ok ⟨name, inventory, usage⟩
  | .error .cancelled, .error e => .error e
  | .error e, _ => .error e
  | _, .error e => .error e

/-- How the work on a source ended. -/
inductive SourceEnd where
  /-- It was not begun, as the jobs had to end. -/
  | skipped
  /-- It failed before the source was called. -/
  | unprepared (e : Error)
  /-- Both halves were worked through. -/
  | worked (source : String) (inventory usage : Except Error LoadReport)

def SourceEnd.result : SourceEnd → Except Error SourceReport
  | .skipped => .error .cancelled
  | .unprepared e => .error e
  | .worked source inventory usage => pair source inventory usage

/-- Since when a source is asked for statements. -/
def startOf (env : Environment σ) (l : Ledger) (source : SourceConfig) :
    Job σ (Option Time.Instant) :=
  if source.incremental then l.watermark env source.name else pure none

/-- What is known before a source is called: how to read its timestamps, and since when it is asked
for statements. -/
def prepareSource (env : Environment σ) (l : Ledger) (r : Run) (source : SourceConfig) :
    Job σ (Source.Context × Option Time.Instant) := do
  let offset ← Job.ofExcept source.offset
  let since ← startOf env l source
  pure (.new r.date offset, since)

def workOn (env : Environment σ) (l : Ledger) (c : Config) (r : Run) (source : SourceConfig) :
    Process (World σ) SourceEnd := do
  match ← (prepareSource env l r source).attempt with
  | .error e => return .unprepared e
  | .ok (ctx, since) =>
    let (inventory, usage) ← .both (env.turn c.maxWorkers)
      (half env c r ctx source .databases).attempt
      (half env c r ctx source (.statements since)).attempt
    return .worked source.name inventory usage

end FleetProfile.Pipeline
