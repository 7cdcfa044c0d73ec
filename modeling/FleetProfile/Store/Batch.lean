import FleetProfile.Store.Ledger
/-!
Writing a batch: the records of one table that one source contributed to a run, together with the
row of the audit, all or nothing.
-/
namespace FleetProfile.Store

open Time (Instant)

structure BatchWrite where
  run : Run
  source : String
  rows : TableRows
  /-- The greatest number of rows of one pass. -/
  chunkSize : Nat
  /-- Whether the cancellation of the run is seen before the pass of a number. -/
  cancelled : Nat → Bool
  rejected : Nat
  duplicates : Nat
  regressions : Nat

/-- Rows in passes of a size, the last one possibly shorter. -/
def passes (size : Nat) (rows : List α) : List (List α) :=
  if _h : rows = [] then []
  else rows.take (max size 1) :: passes size (rows.drop (max size 1))
termination_by rows.length
decreasing_by
  have : 0 < rows.length := List.length_pos_iff.mpr _h
  simp only [List.length_drop]
  omega

/-- Convert rows pass by pass, from the pass of a number on; cancellation is seen between passes. -/
def convertPasses (cancelled : Nat → Bool) (convert : α → Except Error β) (n : Nat) :
    List (List α) → Except Error (List β)
  | [] => .ok []
  | pass :: rest => do
    if cancelled n then .error .cancelled
    else
      let rows ← pass.mapM convert
      let more ← convertPasses cancelled convert (n + 1) rest
      .ok (rows ++ more)

/-- A row, if it meets the constraint of its table. -/
def checked (table : Table) (ok : α → Bool) (row : α) : Except Error α :=
  if ok row then .ok row else .error (.database (.constraint table))

/-- The row of a record, if it meets the constraint of the table. -/
def checkedInventoryRow (s : Store) (r : InventoryRecord) : Except Error InventoryRow := do
  checked .inventory s.constraints.inventory (← inventoryRow r)

/-- The row of a record, if it meets the constraint of the table. -/
def checkedUsageRow (s : Store) (r : UsageRecord) : Except Error UsageRow := do
  checked .usage s.constraints.usage (← usageRow r)

/-- Append the records, and for statements who reported them. -/
def appendRows (s : Store) (b : BatchWrite) (date : Int) : Except Error Store :=
  match b.rows with
  | .inventory records => do
    let rows ←
      convertPasses b.cancelled s.checkedInventoryRow 0 (passes b.chunkSize records)
    .ok { s with inventory := s.inventory ++ rows }
  | .usage records => do
    let rows ← convertPasses b.cancelled s.checkedUsageRow 0 (passes b.chunkSize records)
    let reported := records.map fun r => ⟨b.run.pipeline, date, b.source, r.handle⟩
    .ok { s with usage := s.usage ++ rows, attribution := s.attribution ++ reported }

def auditRow (b : BatchWrite) (date committedAt : Int) : AuditRow where
  pipeline := b.run.pipeline
  date := date
  source := b.source
  table := b.rows.table
  written := b.rows.length
  rejected := b.rejected
  duplicates := b.duplicates
  regressions := b.regressions
  committedAt := committedAt

def writeBatch (s : Store) (b : BatchWrite) (now : Instant) : Except Error Store := do
  let s ← s.claim b.run now
  let date ← stamp b.run.date
  let s ← s.appendRows b date
  let committedAt ← stamp now
  .ok { s with audit := s.audit ++ [auditRow b date committedAt] }

/-- A failed write names its table, unless the run itself is the cause. -/
def asWriteError (table : Table) : Error → Error
  | .sinkWrite t d => .sinkWrite t d
  | .runNotActive p d => .runNotActive p d
  | .cancelled => .cancelled
  | e => .sinkWrite table.name e.message

/-- Write a batch to a running run, all or nothing, and answer the number of rows. -/
def insertBatch (s : Store) (b : BatchWrite) (now : Instant) : Except Error (Nat × Store) :=
  match s.writeBatch b now.canonical with
  | .ok s' => .ok (b.rows.length, s')
  | .error e => .error (asWriteError b.rows.table e)

end FleetProfile.Store
