import FleetProfile.Encoding
import FleetProfile.Json.Parser
import FleetProfile.Store.Batch
/-!
The image of a store: its six tables as JSON, each row an array of its columns. Reading the image
of a store gives its tables back.
-/
namespace FleetProfile

/-! ### Columns -/

namespace Image

def ofMicros? : Option Int → Json := .opt .int

def readMicros? : Json → Option (Option Int)
  | .null => some none
  | .int n => some (some n)
  | _ => none

def readText? : Json → Option (Option String)
  | .null => some none
  | .string s => some (some s)
  | _ => none

def readCount? (n : Int) : Option Nat :=
  if 0 ≤ n then some n.toNat else none

def readTable? (name : String) : Option Table :=
  [Table.inventory, .usage, .metadata].find? fun t => t.name == name

def readRows? (read : Json → Option α) : Json → Option (List α)
  | .array items => items.mapM read
  | _ => none

@[simp] theorem readMicros?_ofMicros? (n : Option Int) : readMicros? (ofMicros? n) = some n := by
  cases n <;> rfl

@[simp] theorem readText?_ofString? (s : Option String) :
    readText? (Json.ofString? s) = some s := by
  cases s <;> rfl

@[simp] theorem readCount?_natCast (n : Nat) : readCount? n = some n := by
  simp [readCount?]

@[simp] theorem readTable?_name (t : Table) : readTable? t.name = some t := by
  cases t <;> decide

theorem readRows?_list {read : Json → Option α} {write : α → Json} (rows : List α)
    (h : ∀ a ∈ rows, read (write a) = some a) :
    readRows? read (.list write rows) = some rows := by
  simp only [readRows?, Json.list]
  induction rows with
  | nil => rfl
  | cons a rest ih =>
    simp [h a (by simp), ih fun b hb => h b (List.mem_cons_of_mem a hb)]

end Image

open Image

/-! ### Rows -/

/-- The image of a row of `inventory`. -/
def InventoryRow.image (r : InventoryRow) : Json :=
  .array [.int r.dbId, .string r.name, .ofString? r.collation, .int r.createDate, .int r.extractTs]

def InventoryRow.ofImage? : Json → Option InventoryRow
  | .array [.int dbId, .string name, collation, .int createDate, .int extractTs] => do
    some { dbId, name, collation := ← readText? collation, createDate, extractTs }
  | _ => none

/-- The image of a row of `usage`. -/
def UsageRow.image (r : UsageRow) : Json :=
  .array [.string r.handle, .int r.creationTime, .int r.lastExecutionTime,
    .int r.counters.executionCount, .int r.counters.totalWorkerTime,
    .int r.counters.totalElapsedTime, .int r.counters.totalRows, .int r.extractTs]

def UsageRow.ofImage? : Json → Option UsageRow
  | .array [.string handle, .int creationTime, .int lastExecutionTime, .int a, .int b, .int c,
      .int d, .int extractTs] =>
    some { handle, creationTime, lastExecutionTime, counters := ⟨a, b, c, d⟩, extractTs }
  | _ => none

/-- The image of a row of `metadata`. -/
def MetadataRow.image (r : MetadataRow) : Json :=
  .array [.string r.pipeline, .int r.date, .ofString? r.version]

def MetadataRow.ofImage? : Json → Option MetadataRow
  | .array [.string pipeline, .int date, version] => do
    some { pipeline, date, version := ← readText? version }
  | _ => none

/-- The image of a row of `run_ledger`. -/
def LedgerRow.image (r : LedgerRow) : Json :=
  .array [.string r.pipeline, .int r.date, .string r.status.text, .string r.runner,
    .int r.heartbeatAt, ofMicros? r.finishedAt, .ofString? r.error]

def LedgerRow.ofImage? : Json → Option LedgerRow
  | .array [.string pipeline, .int date, .string status, .string runner, .int heartbeatAt,
      finishedAt, error] => do
    some
      { pipeline, date, status := .ofText status, runner, heartbeatAt
        finishedAt := ← readMicros? finishedAt, error := ← readText? error }
  | _ => none

/-- The image of a row of `load_batches`. -/
def AuditRow.image (r : AuditRow) : Json :=
  .array [.string r.pipeline, .int r.date, .string r.source, .string r.table.name, .int r.written,
    .int r.rejected, .int r.duplicates, .int r.regressions, .int r.committedAt]

def AuditRow.ofImage? : Json → Option AuditRow
  | .array [.string pipeline, .int date, .string source, .string table, .int written,
      .int rejected, .int duplicates, .int regressions, .int committedAt] => do
    some
      { pipeline, date, source, table := ← readTable? table, written := ← readCount? written
        rejected := ← readCount? rejected, duplicates := ← readCount? duplicates
        regressions := ← readCount? regressions, committedAt }
  | _ => none

/-- The image of a row of `usage_sources`. -/
def AttributionRow.image (r : AttributionRow) : Json :=
  .array [.string r.pipeline, .int r.date, .string r.source, .string r.handle]

def AttributionRow.ofImage? : Json → Option AttributionRow
  | .array [.string pipeline, .int date, .string source, .string handle] =>
    some { pipeline, date, source, handle }
  | _ => none

theorem InventoryRow.ofImage?_image (r : InventoryRow) : ofImage? r.image = some r := by
  simp [ofImage?, image]

theorem UsageRow.ofImage?_image (r : UsageRow) : ofImage? r.image = some r := by
  simp [ofImage?, image]

theorem MetadataRow.ofImage?_image (r : MetadataRow) : ofImage? r.image = some r := by
  simp [ofImage?, image]

/-- A status is read back unless it is a text that a state has the name of. -/
theorem LedgerRow.ofImage?_image {r : LedgerRow} (h : StatusCell.ofText r.status.text = r.status) :
    ofImage? r.image = some r := by
  simp [ofImage?, image, h]

theorem AuditRow.ofImage?_image (r : AuditRow) : ofImage? r.image = some r := by
  simp [ofImage?, image]

theorem AttributionRow.ofImage?_image (r : AttributionRow) : ofImage? r.image = some r := by
  simp [ofImage?, image]

/-! ### Stores -/

namespace Store

def image (s : Store) : Json :=
  .array [.list InventoryRow.image s.inventory, .list UsageRow.image s.usage,
    .list MetadataRow.image s.metadata, .list LedgerRow.image s.ledger,
    .list AuditRow.image s.audit, .list AttributionRow.image s.attribution]

def ofImage? : Json → Option Store
  | .array [inventory, usage, metadata, ledger, audit, attribution] => do
    some
      { inventory := ← readRows? InventoryRow.ofImage? inventory
        usage := ← readRows? UsageRow.ofImage? usage
        metadata := ← readRows? MetadataRow.ofImage? metadata
        ledger := ← readRows? LedgerRow.ofImage? ledger
        audit := ← readRows? AuditRow.ofImage? audit
        attribution := ← readRows? AttributionRow.ofImage? attribution }
  | _ => none

theorem ofImage?_image {s : Store}
    (h : ∀ l ∈ s.ledger, StatusCell.ofText l.status.text = l.status) :
    ofImage? s.image = some { s with constraints := {}, readOnly := false } := by
  simp [ofImage?, image,
    readRows?_list s.inventory fun r _ => r.ofImage?_image,
    readRows?_list s.usage fun r _ => r.ofImage?_image,
    readRows?_list s.metadata fun r _ => r.ofImage?_image,
    readRows?_list s.ledger fun r hr => LedgerRow.ofImage?_image (h r hr),
    readRows?_list s.audit fun r _ => r.ofImage?_image,
    readRows?_list s.attribution fun r _ => r.ofImage?_image]

def ofText? (text : String) : Option Store :=
  (Json.parse? text.toList).bind ofImage?

def text (s : Store) : String := s.image.compact

end Store

end FleetProfile
