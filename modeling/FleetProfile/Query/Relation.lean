import FleetProfile.Query.Answer
import FleetProfile.Query.Cell
import FleetProfile.Store.Basic
/-!
Relations: named and typed columns over rows of cells. The six tables of a store are relations.
-/
namespace FleetProfile

namespace Query

structure Column where
  name : String
  type : CellType
deriving DecidableEq, Repr

structure Relation where
  columns : List Column
  rows : List (List Cell)
deriving Repr

def Relation.answer (r : Relation) : Answer :=
  ⟨r.columns.map (·.name), r.rows.map (·.map Cell.toJson)⟩

namespace Column

def text (name : String) : Column := ⟨name, .text⟩

def time (name : String) : Column := ⟨name, .timestamp .micro⟩

def count (name : String) : Column := ⟨name, .integer .int64⟩

end Column

namespace Cell

def opt (f : α → Cell) : Option α → Cell
  | some a => f a
  | none => .null

def time (micros : Int) : Cell := .timestamp .micro micros

def count (n : Int) : Cell := .integer .int64 n

end Cell

end Query

open Query

/-! ### Rows as cells -/

/-- The cells of a row of `inventory`. -/
def InventoryRow.cells (r : InventoryRow) : List Cell :=
  [.integer .int32 r.dbId, .text r.name, .opt .text r.collation, .time r.createDate,
    .time r.extractTs]

/-- The cells of a row of `usage`. -/
def UsageRow.cells (r : UsageRow) : List Cell :=
  [.text r.handle, .time r.creationTime, .time r.lastExecutionTime] ++
    r.counters.named.map (fun c => .count c.2) ++ [.time r.extractTs]

/-- The cells of a row of `metadata`. -/
def MetadataRow.cells (r : MetadataRow) : List Cell :=
  [.text r.pipeline, .time r.date, .opt .text r.version]

/-- The cells of a row of `run_ledger`. -/
def LedgerRow.cells (r : LedgerRow) : List Cell :=
  [.text r.pipeline, .time r.date, .text r.status.text, .text r.runner, .time r.heartbeatAt,
    .opt .time r.finishedAt, .opt .text r.error]

/-- The cells of a row of `load_batches`. -/
def AuditRow.cells (r : AuditRow) : List Cell :=
  [.text r.pipeline, .time r.date, .text r.source, .text r.table.name, .count r.written,
    .count r.rejected, .count r.duplicates, .count r.regressions, .time r.committedAt]

/-- The cells of a row of `usage_sources`. -/
def AttributionRow.cells (r : AttributionRow) : List Cell :=
  [.text r.pipeline, .time r.date, .text r.source, .text r.handle]

/-! ### The tables -/

def runColumns : List Column := [.text "pipeline_name", .time "execution_date"]

def Store.tables (s : Store) : List (String × Relation) :=
  [("inventory",
      ⟨[⟨"db_id", .integer .int32⟩, .text "name", .text "collation_name", .time "create_date",
        .time "extract_ts"], s.inventory.map InventoryRow.cells⟩),
    ("usage",
      ⟨[.text "sql_handle", .time "creation_time", .time "last_execution_time"] ++
        Counters.zero.named.map (fun c => .count c.1) ++ [.time "extract_ts"],
        s.usage.map UsageRow.cells⟩),
    ("metadata", ⟨runColumns ++ [.text "version"], s.metadata.map MetadataRow.cells⟩),
    ("run_ledger",
      ⟨runColumns ++ [.text "status", .text "runner", .time "heartbeat_at", .time "finished_at",
        .text "error"], s.ledger.map LedgerRow.cells⟩),
    ("load_batches",
      ⟨runColumns ++ [.text "source_name", .text "table_name", .count "rows_written",
        .count "rows_rejected", .count "duplicates_skipped", .count "counter_regressions",
        .time "committed_at"], s.audit.map AuditRow.cells⟩),
    ("usage_sources",
      ⟨runColumns ++ [.text "source_name", .text "sql_handle"],
        s.attribution.map AttributionRow.cells⟩)]

end FleetProfile
