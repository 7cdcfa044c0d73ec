import FleetProfile.Store.Ledger
/-!
What can be read back: snapshots, histories, the audit, and how far a source was loaded. Rows that
an order does not tell apart stay in the order in which they were inserted.
-/
namespace FleetProfile.Store

open Time (Instant)

def succeeded (s : Store) (pipeline : String) : List LedgerRow :=
  s.ledger.filter fun l => l.pipeline = pipeline ∧ l.status = .known .succeeded

def countDate (rows : List LedgerRow) (date : Int) : Nat :=
  rows.countP fun l => l.date = date

/-! ### Snapshots -/

/-- The databases of one snapshot, by identifier. -/
def inventorySnapshot (s : Store) (extractTs : Instant) : Except Error (List InventoryRecord) := do
  let rows ← rowsAt extractTs InventoryRow.extractTs s.inventory
  .ok ((orderedBy InventoryRow.dbId rows).map inventoryRecord)

def usageSnapshot (s : Store) (extractTs : Instant) : Except Error (List UsageRecord) := do
  let rows ← rowsAt extractTs UsageRow.extractTs s.usage
  .ok ((rows.mergeSort fun a b => a.handle ≤ b.handle).map usageRecord)

/-- The databases that succeeded runs of a pipeline wrote, earliest snapshot first. -/
def committedInventory (s : Store) (pipeline : String) : List InventoryRecord :=
  let rows := s.inventory.flatMap fun r =>
    List.replicate (countDate (s.succeeded pipeline) r.extractTs) r
  let ordered := rows.mergeSort fun a b =>
    a.extractTs < b.extractTs ∨ (a.extractTs = b.extractTs ∧ a.dbId ≤ b.dbId)
  ordered.map inventoryRecord

/-- The snapshots of a statement, earliest first; those of succeeded runs only, if so asked. -/
def usageHistory (s : Store) (handle : String) (succeededOnly : Bool) : List UsageRecord :=
  let rows := s.usage.filter fun r => r.handle = handle
  let closed := s.ledger.filter fun l => l.status = .known .succeeded
  let rows :=
    if succeededOnly then rows.flatMap fun r => List.replicate (countDate closed r.extractTs) r
    else rows
  (orderedBy UsageRow.extractTs rows).map usageRecord

/-- How much of a pipeline's output downstream reports should see. -/
structure CommittedCounts where
  runs : Nat
  inventory : Nat
  usage : Nat
deriving DecidableEq, Repr

def committedCounts (s : Store) (pipeline : String) : CommittedCounts :=
  let closed := s.succeeded pipeline
  { runs := closed.length
    inventory := (s.inventory.map fun r => countDate closed r.extractTs).foldr (· + ·) 0
    usage := (s.usage.map fun r => countDate closed r.extractTs).foldr (· + ·) 0 }

/-! ### The audit -/

/-- The order of the audit: by time, source and table. -/
def auditLe (a b : AuditRow) : Bool :=
  a.committedAt < b.committedAt ||
    (a.committedAt == b.committedAt &&
      (a.source < b.source || (a.source == b.source && a.table.name ≤ b.table.name)))

def loadAudit (s : Store) (r : Run) : Except Error (List AuditRow) := do
  let rows ← rowsAt r.date AuditRow.date (s.audit.filter fun b => b.pipeline = r.pipeline)
  .ok (rows.mergeSort auditLe)

/-- The date of the latest succeeded run of a pipeline that loaded a table from a source. -/
def latestSourceLoad (s : Store) (pipeline source : String) (table : Table) : Option Instant :=
  let closed := s.succeeded pipeline
  let dates := s.audit.filterMap fun b =>
    if b.pipeline = pipeline ∧ b.source = source ∧ b.table = table ∧
        0 < countDate closed b.date then
      some b.date
    else none
  dates.max?.map .ofMicros

/-! ### Counters of the snapshot before -/

/-- The dates of succeeded runs of a pipeline in which a source itself reported a statement. -/
def reportedDates (s : Store) (pipeline source handle : String) : List Int :=
  s.attribution.filterMap fun a =>
    if a.pipeline = pipeline ∧ a.source = source ∧ a.handle = handle ∧
        0 < countDate (s.succeeded pipeline) a.date then
      some a.date
    else none

/--
The counters of a statement at the latest of some dates that has a row of it. Where that date
has several rows, another source reported the statement too, and there is no telling whose
counters are whose.
-/
def countersAt (s : Store) (handle : String) (dates : List Int) : Option Counters :=
  let rows := s.usage.filter fun r => r.handle = handle ∧ r.extractTs ∈ dates
  match (rows.map (·.extractTs)).max? with
  | none => none
  | some latest =>
    match rows.filter fun r => r.extractTs = latest with
    | [row] => some row.counters
    | _ => none

/-- The counters that a source last reported for statements before a date, in succeeded runs. -/
def priorCounters (s : Store) (pipeline source : String) (handles : List String)
    (before : Instant) : Except Error (List (String × Counters)) :=
  let own := s.attribution.filter fun a => a.pipeline = pipeline ∧ a.source = source
  match handles, own with
  | [], _ => .ok []
  | _, [] => .ok []
  | _, _ => do
    let limit ← stamp before
    .ok (handles.eraseDups.filterMap fun h =>
      let dates := (s.reportedDates pipeline source h).filter fun d => d < limit
      (s.countersAt h dates).map (h, ·))

end FleetProfile.Store
