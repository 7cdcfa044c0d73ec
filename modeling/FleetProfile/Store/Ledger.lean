import FleetProfile.Store.Basic
/-!
The ledger of runs: opening a run, moving it from state to state, signs of life, and the sweep of
runs whose owner went silent.
-/
namespace FleetProfile.Store

open Time (Instant)

/-! ### Reading -/

def isActive (s : RunStatus) : Bool :=
  !s.isTerminal

/-- Each row of a ledger beside the rows of `metadata` for the same run. -/
def joinMetadata (s : Store) (rows : List LedgerRow) : List (LedgerRow × MetadataRow) :=
  rows.flatMap fun l =>
    (s.metadata.filter fun m => m.pipeline = l.pipeline ∧ m.date = l.date).map (l, ·)

/-- The entry of a row, whose status must be one. -/
def entryOf (row : LedgerRow × MetadataRow) : Except Error RunEntry := do
  let (l, m) := row
  let status ← l.status.read
  .ok
    { run := ⟨l.pipeline, .ofMicros l.date, m.version.getD ""⟩
      status
      runner := l.runner
      heartbeatAt := .ofMicros l.heartbeatAt
      finishedAt := l.finishedAt.map .ofMicros
      error := l.error }

/-- The entries of rows of the ledger, earliest first. -/
def entries (s : Store) (rows : List LedgerRow) : Except Error (List RunEntry) :=
  (orderedBy (fun r => r.1.date) (s.joinMetadata rows)).mapM entryOf

/-- The runs of a pipeline, of all pipelines where none is named, earliest first. -/
def runs (s : Store) (pipeline : Option String) : Except Error (List RunEntry) :=
  s.entries (s.ledger.filter fun l => pipeline.all (l.pipeline = ·))

def run (s : Store) (run : Run) : Except Error (Option RunEntry) := do
  let rows ← rowsAt run.date LedgerRow.date (s.ledger.filter fun l => l.pipeline = run.pipeline)
  let entries ← (s.joinMetadata rows).mapM entryOf
  .ok entries.getLast?

/-- The latest run of a pipeline, among those in a state where one is given. -/
def latestRun (s : Store) (pipeline : String) (status : Option RunStatus) :
    Except Error (Option RunEntry) :=
  let rows := s.ledger.filter fun l =>
    l.pipeline = pipeline ∧ status.all fun t => l.status = .known t
  let ordered := (s.joinMetadata rows).mergeSort fun a b => b.1.date ≤ a.1.date
  match ordered.head? with
  | some row => (entryOf row).map some
  | none => .ok none

/-- The runs of a pipeline that are not over, earliest first. -/
def activeRuns (s : Store) (pipeline : String) : Except Error (List RunEntry) :=
  s.entries (s.ledger.filter fun l => l.pipeline = pipeline ∧ l.status.holds isActive)

def latestDate (s : Store) : Option Instant :=
  (s.metadata.map (·.date)).max?.map .ofMicros

/-! ### Changing rows -/

/--
Change the rows of a run whose state has a property, and count them. `now` is the time that the
change stamps; neither it nor the date of the run is converted without a row to change.
-/
def updateRun (s : Store) (run : Run) (accepts : RunStatus → Bool) (now : Instant)
    (change : Int → LedgerRow → LedgerRow) : Except Error (Nat × Store) := do
  s.ensureWritable
  let isCandidate (l : LedgerRow) : Bool := l.pipeline = run.pipeline ∧ l.status.holds accepts
  let hits ← rowsAt run.date LedgerRow.date (s.ledger.filter isCandidate)
  match hits with
  | [] => .ok (0, s)
  | hit :: _ => do
    let t ← stamp now
    let ledger := s.ledger.map fun l =>
      if isCandidate l ∧ l.date = hit.date then change t l else l
    .ok (hits.length, { s with ledger })

def beat (t : Int) (l : LedgerRow) : LedgerRow :=
  { l with heartbeatAt := t }

/-- Put a row into a state; a run that is over is finished at that time. -/
def moveTo (target : RunStatus) (error : Option String) (t : Int) (l : LedgerRow) : LedgerRow :=
  { l with
    status := .known target
    heartbeatAt := t
    finishedAt := if target.isTerminal then some t else none
    error }

def bury (error : String) (t : Int) (l : LedgerRow) : LedgerRow :=
  { l with status := .known .failed, finishedAt := some t, error := some error }

/-- Move a run from one state to another. It must be in the first, and the move be a legal one. -/
def transition (s : Store) (r : Run) (source target : RunStatus) (error : Option String)
    (now : Instant) : Except Error Store :=
  if source.canBecome target then do
    let (changed, s') ← s.updateRun r (· = source) now (moveTo target error)
    if changed = 0 then
      match ← s.run r with
      | some current => .error (.invalidTransition current.status target)
      | none => .error (.notFound s!"run {r.pipeline} at {r.date.displayText}")
    else .ok s'
  else .error (.invalidTransition source target)

def heartbeat (s : Store) (r : Run) (now : Instant) : Except Error Store := do
  let (changed, s') ← s.updateRun r isActive now beat
  if changed = 0 then .error (.ofInactive r) else .ok s'

/-- Stamp a sign of life on a running run, which a batch is about to be written to. -/
def claim (s : Store) (r : Run) (now : Instant) : Except Error Store := do
  let (changed, s') ← s.updateRun r (· = .running) now beat
  if changed = 0 then .error (.ofInactive r) else .ok s'

/-! ### The sweep -/

def staleMessage (e : RunEntry) : String :=
  s!"stale run: no heartbeat from {e.runner} since {e.heartbeatAt.offsetText}"

def buried (now : Instant) (e : RunEntry) : RunEntry :=
  { e with status := .failed, finishedAt := some now, error := some (staleMessage e) }

/-- Fail the run of an entry, if it is still in the state of the entry. -/
def buryRun (now : Instant) (s : Store) (e : RunEntry) : Except Error Store := do
  let (_, s') ← s.updateRun e.run (· = e.status) now (bury (staleMessage e))
  .ok s'

/-- The runs of a pipeline that are not over and gave no sign of life since a time. -/
def staleRuns (s : Store) (pipeline : String) (staleBefore : Instant) :
    Except Error (List RunEntry) := do
  let active ← s.activeRuns pipeline
  .ok (active.filter fun e => e.heartbeatAt < staleBefore)

/-- Fail the runs of a pipeline that are not over and gave no sign of life since a time. -/
def failStale (s : Store) (pipeline : String) (staleBefore now : Instant) :
    Except Error (List RunEntry × Store) := do
  let stale ← s.staleRuns pipeline staleBefore
  let s' ← stale.foldlM (buryRun now) s
  .ok (stale.map (buried now), s')

def sweepLog (swept : List RunEntry) : List LogEntry :=
  swept.map fun e => .warn (Error.staleRun e.run.pipeline e.run.date).message

/-! ### Opening -/

structure OpenRequest where
  pipeline : String
  version : String
  runner : String
  /-- The intended date, moved forward if it is not after the latest one. -/
  now : Instant
  /-- Runs that are not over and gave no sign of life since then are stale. -/
  staleBefore : Instant
deriving DecidableEq, Repr

/-- A run that was opened, and those that were swept before. -/
structure OpenedRun where
  entry : RunEntry
  swept : List RunEntry
deriving DecidableEq, Repr

def nextDate (s : Store) (now : Instant) : Instant :=
  match s.latestDate with
  | some latest => if now ≤ latest then latest.nextMicro else now
  | none => now

def recordRun (s : Store) (r : Run) (runner : String) : Except Error Store := do
  s.ensureWritable
  let date ← stamp r.date
  .ok
    { s with
      metadata := s.metadata ++ [⟨r.pipeline, date, some r.version⟩]
      ledger := s.ledger ++ [⟨r.pipeline, date, .known .pending, runner, date, none, none⟩] }

/-- Sweep the pipeline, refuse if a run is still not over, then record a new one. -/
def openRun (s : Store) (q : OpenRequest) : Except Error (OpenedRun × Store) := do
  let now := q.now.canonical
  let (swept, s) ← s.failStale q.pipeline q.staleBefore now
  match ← s.activeRuns q.pipeline with
  | blocking :: _ => .error (.runInProgress blocking.run.pipeline blocking.run.date)
  | [] => do
    let r := Run.new q.pipeline (s.nextDate now) q.version
    let s ← s.recordRun r q.runner
    .ok (⟨⟨r, .pending, q.runner, r.date, none, none⟩, swept⟩, s)

/-- The warnings that opening a run gives, also when it is refused in the end. -/
def openLog (s : Store) (q : OpenRequest) : List LogEntry :=
  match s.failStale q.pipeline q.staleBefore q.now.canonical with
  | .ok (swept, _) => sweepLog swept
  | .error _ => []

end FleetProfile.Store
