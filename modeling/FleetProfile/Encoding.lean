import FleetProfile.Config.Basic
import FleetProfile.Json.Printer
import FleetProfile.Lifetime
import FleetProfile.Load.Report
/-!
Records, runs and reports as JSON objects, their members in a fixed order.
-/
namespace FleetProfile

open Time (Instant)

namespace Json

def count (n : Nat) : Json := .int n

def time (t : Instant) : Json := .string t.jsonText

/-- A value that may be missing, which is the null then. -/
def opt (f : α → Json) : Option α → Json
  | some a => f a
  | none => .null

def list (f : α → Json) (values : List α) : Json :=
  .array (values.map f)

end Json

/-! ### Records -/

def Collation.toJson : Collation → Json
  | .unknown => .string "Unknown"
  | .known name => .object [("Known", .string name)]

def Counters.members (c : Counters) : Json.Members :=
  c.named.map fun (key, n) => (key, .int n)

def InventoryRecord.toJson (r : InventoryRecord) : Json :=
  .object [("db_id", .int r.dbId), ("name", .string r.name),
    ("collation_name", r.collation.toJson), ("create_date", .time r.createDate),
    ("extract_ts", .time r.extractTs)]

def UsageRecord.toJson (r : UsageRecord) : Json :=
  .object ([("sql_handle", .string r.handle), ("creation_time", .time r.creationTime),
    ("last_execution_time", .time r.lastExecutionTime)] ++ r.counters.members ++
    [("extract_ts", .time r.extractTs)])

def Record.toJson : Record → Json
  | .inventory r => r.toJson
  | .usage r => r.toJson

def TableRows.toJson : TableRows → Json
  | .inventory records => .list InventoryRecord.toJson records
  | .usage records => .list UsageRecord.toJson records

/-! ### Lifetimes -/

def UsageDelta.toJson (d : UsageDelta) : Json :=
  .object (("extract_ts", .time d.extractTs) :: d.counters.members)

/-- A lifetime as JSON: its ends, and the activity up to each of its snapshots. -/
def Lifetime.toJson (l : Lifetime) : Json :=
  .object [("sql_handle", .string l.handle), ("first_seen", .opt .time l.firstSeen),
    ("latest", .opt UsageRecord.toJson l.latest), ("snapshots", .count l.snapshots.length),
    ("deltas", .list UsageDelta.toJson l.deltas)]

/-! ### Runs -/

def Run.toJson (r : Run) : Json :=
  .object [("pipeline_name", .string r.pipeline), ("execution_date", .time r.date),
    ("version", .string r.version)]

def RunStatus.toJson (s : RunStatus) : Json := .string s.name

def RunEntry.toJson (e : RunEntry) : Json :=
  .object [("run", e.run.toJson), ("status", e.status.toJson), ("runner", .string e.runner),
    ("heartbeat_at", .time e.heartbeatAt), ("finished_at", .opt .time e.finishedAt),
    ("error", .ofString? e.error)]

def AuditRow.toJson (r : AuditRow) : Json :=
  .object [("source_name", .string r.source), ("table_name", .string r.table.name),
    ("rows_written", .count r.written), ("rows_rejected", .count r.rejected),
    ("duplicates_skipped", .count r.duplicates), ("counter_regressions", .count r.regressions),
    ("committed_at", .time (.ofMicros r.committedAt))]

/-! ### Reports -/

def LoadReport.toJson (r : LoadReport) : Json :=
  .object [("rows_written", .count r.written), ("rows_rejected", .count r.rejected),
    ("duplicates_skipped", .count r.duplicates), ("counter_regressions", .count r.regressions)]

def SourceReport.toJson (r : SourceReport) : Json :=
  .object [("source_name", .string r.source), ("inventory", r.inventory.toJson),
    ("usage", r.usage.toJson)]

def Store.CommittedCounts.toJson (c : Store.CommittedCounts) : Json :=
  .object [("runs", .count c.runs), ("inventory", .count c.inventory), ("usage", .count c.usage)]

/-! ### Configurations -/

/-- A source of a configuration as JSON; an offset that is not given is left out. -/
def SourceConfig.toJson (s : SourceConfig) : Json :=
  .object ([("name", .string s.name), ("kind", .string s.kind.name)] ++
    (s.utcOffset.map fun text => ("utc_offset", Json.string text)).toList ++
    [("incremental", .bool s.incremental),
      ("connection", .object (s.connection.entries.map fun (key, text) => (key, .string text)))])

def Config.toJson (c : Config) : Json :=
  .object [("pipeline_name", .string c.pipeline), ("version", .string c.version),
    ("extract_folder", .string c.extractFolder), ("run_timeout_secs", .count c.runTimeoutSecs),
    ("retry_limit", .count c.retryLimit), ("retry_base_delay_ms", .count c.retryBaseDelayMs),
    ("connector_timeout_secs", .count c.connectorTimeoutSecs), ("batch_size", .count c.batchSize),
    ("max_workers", .count c.maxWorkers), ("sources", .list SourceConfig.toJson c.sources)]

end FleetProfile
