import FleetProfile.Record
import FleetProfile.Run
/-!
What can go wrong, and the wording of it.
-/
namespace FleetProfile

open Time (Instant)

structure Rejection where
  field : String
  reason : String
deriving DecidableEq, Repr

def Rejection.message (r : Rejection) : String :=
  s!"field '{r.field}': {r.reason}"

inductive DatabaseFault where
  /-- A timestamp column cannot hold the text. -/
  | timestamp (text : String)
  /-- A row violates the constraint of a table. -/
  | constraint (table : Table)
  /-- The store was opened for reading. -/
  | readOnly
  /-- A query that the database does not answer. -/
  | query (reason : String)
  /-- What stands at the path of a store is none. -/
  | noStore (path : String)
deriving DecidableEq, Repr

def DatabaseFault.message : DatabaseFault → String
  | .timestamp text => s!"cannot convert '{text}' to a timestamp"
  | .constraint table => s!"a row violates the constraint of table {table.name}"
  | .readOnly => "the store is open for reading only"
  | .query reason => s!"cannot answer the query: {reason}"
  | .noStore path => s!"{path} is no store"

inductive Error where
  | io (detail : String)
  | database (fault : DatabaseFault)
  | config (detail : String)
  | storage (detail : String)
  /-- A source did not answer, also not after retries. -/
  | connection (source : String) (detail : String)
  /-- A raw row could not be normalized. -/
  | malformed (rejection : Rejection)
  /-- A batch was rolled back. -/
  | sinkWrite (table : String) (detail : String)
  /-- A run whose owner went silent was found and marked as failed. -/
  | staleRun (pipeline : String) (date : Instant)
  /-- The pipeline has a run that is not over. -/
  | runInProgress (pipeline : String) (date : Instant)
  /-- The run takes no more writes. -/
  | runNotActive (pipeline : String) (date : Instant)
  | invalidTransition (source target : RunStatus)
  | cancelled
  | notFound (what : String)
deriving DecidableEq, Repr

namespace Error

def message : Error → String
  | .io detail => s!"IO error: {detail}"
  | .database fault => s!"DuckDB error: {fault.message}"
  | .config detail => s!"Configuration error: {detail}"
  | .storage detail => s!"Storage error: {detail}"
  | .connection source detail => s!"Connection to source '{source}' failed: {detail}"
  | .malformed rejection => s!"Malformed record: {rejection.message}"
  | .sinkWrite table detail => s!"Write to table '{table}' failed: {detail}"
  | .staleRun pipeline date => s!"Stale run for pipeline '{pipeline}' started at {date.displayText}"
  | .runInProgress pipeline date =>
    s!"Pipeline '{pipeline}' already has an active run started at {date.displayText}"
  | .runNotActive pipeline date =>
    s!"Run of pipeline '{pipeline}' started at {date.displayText} is no longer active"
  | .invalidTransition source target => s!"Invalid run transition {source.name} -> {target.name}"
  | .cancelled => "Run cancelled"
  | .notFound what => s!"Not found: {what}"

def ofInactive (run : Run) : Error :=
  .runNotActive run.pipeline run.date

def invalidStatus (text : String) : Error :=
  .storage s!"Invalid run status: {text}"

end Error

def RunStatus.parse (text : String) : Except Error RunStatus :=
  match RunStatus.ofName? text with
  | some s => .ok s
  | none => .error (Error.invalidStatus text)

/-- The instant of a number of microseconds, which must be covered. -/
def Time.Instant.fromMicros (n : Int) : Except Error Instant :=
  match Instant.ofMicros? n with
  | some t => .ok t
  | none => .error (.storage s!"Timestamp out of range: {n}")

inductive Severity where
  | warn
  | error
deriving DecidableEq, Repr

structure LogEntry where
  severity : Severity
  text : String
deriving DecidableEq, Repr

def LogEntry.warn (text : String) : LogEntry := ⟨.warn, text⟩

def LogEntry.error (text : String) : LogEntry := ⟨.error, text⟩

def LogEntry.line (e : LogEntry) : String :=
  (match e.severity with | .warn => "WARN " | .error => "ERROR ") ++ e.text

end FleetProfile
