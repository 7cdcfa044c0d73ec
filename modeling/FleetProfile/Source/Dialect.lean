import FleetProfile.Source.Handle
import FleetProfile.Source.Kind
/-!
Normalization: from the raw rows of each kind of source to records.

It is a pure mapping. A row that lacks a column or carries a value that cannot be read is rejected
with the first column at fault; the timestamps of a record are in UTC.
-/
namespace FleetProfile.Source

open Time (Instant)

structure Context where
  /-- The execution date of the run. -/
  extractTs : Instant
  /-- The offset, in seconds, of timestamps that carry none. -/
  offset : Int
deriving DecidableEq, Repr

def Context.new (extractTs : Instant) (offset : Int) : Context :=
  ⟨extractTs.canonical, offset⟩

namespace Dialect

open RawRow

def catalogue (row : RawRow) (extractTs : Instant) (offset : Int) :
    Except Rejection InventoryRecord := do
  let dbId ← requiredInt32 row "database_id"
  let name ← requiredText row "name"
  let collation ← optionalText row "collation_name"
  let createDate ← requiredTimestamp row "create_date" offset
  .ok { dbId, name, collation := .ofOption collation, createDate, extractTs }

def statistics (row : RawRow) (handle : String) (extractTs : Instant) (offset : Int) :
    Except Rejection UsageRecord := do
  let creationTime ← requiredTimestamp row "creation_time" offset
  let lastExecutionTime ← requiredTimestamp row "last_execution_time" offset
  let executionCount ← requiredCounter row "execution_count"
  let totalWorkerTime ← requiredCounter row "total_worker_time"
  let totalElapsedTime ← requiredCounter row "total_elapsed_time"
  let totalRows ← requiredCounter row "total_rows"
  .ok { handle, creationTime, lastExecutionTime, extractTs
        counters := { executionCount, totalWorkerTime, totalElapsedTime, totalRows } }

/-- A binary handle, or any other text without the blanks around it. -/
def sqlServerHandle (row : RawRow) : Except Rejection String := do
  let value ← required row "sql_handle"
  match ← Handle.ofBinary value "sql_handle" with
  | some handle => .ok handle
  | none => (requiredText row "sql_handle").map Text.trimmed

def synapseHandle (row : RawRow) : Except Rejection String := do
  let value ← required row "sql_handle"
  Handle.ofBase64 value "sql_handle"

def snowflakeHandle (row : RawRow) : Except Rejection String := do
  let handle := Text.trimmed (← requiredText row "QUERY_HASH")
  if handle = "" then .error ⟨"QUERY_HASH", "empty statement handle"⟩ else .ok handle

/-- Milliseconds as microseconds, if 64 bits hold them. -/
def millisToMicros (field : String) (millis : Int) : Except Rejection Int :=
  if Number.fitsInt64 (millis * 1000) then .ok (millis * 1000)
  else .error ⟨field, s!"duration overflows: {millis}"⟩

def inventory (kind : Kind) (ctx : Context) (row : RawRow) : Except Rejection InventoryRecord :=
  match kind with
  | .sqlServer => catalogue row ctx.extractTs ctx.offset
  | .synapse => catalogue row ctx.extractTs 0
  | .snowflake => do
    let dbId ← requiredInt32 row "DATABASE_ID"
    let name ← requiredText row "DATABASE_NAME"
    let createDate ← requiredTimestamp row "CREATED" ctx.offset
    .ok { dbId, name, collation := .unknown, createDate, extractTs := ctx.extractTs }

def usage (kind : Kind) (ctx : Context) (row : RawRow) : Except Rejection UsageRecord :=
  match kind with
  | .sqlServer => do
    let handle ← sqlServerHandle row
    statistics row handle ctx.extractTs ctx.offset
  | .synapse => do
    let handle ← synapseHandle row
    statistics row handle ctx.extractTs 0
  | .snowflake => do
    let handle ← snowflakeHandle row
    let executionMillis ← requiredCounter row "TOTAL_EXECUTION_TIME"
    let elapsedMillis ← requiredCounter row "TOTAL_ELAPSED_TIME"
    let creationTime ← requiredTimestamp row "FIRST_START_TIME" ctx.offset
    let lastExecutionTime ← requiredTimestamp row "LAST_START_TIME" ctx.offset
    let executionCount ← requiredCounter row "EXECUTION_COUNT"
    let totalWorkerTime ← millisToMicros "TOTAL_EXECUTION_TIME" executionMillis
    let totalElapsedTime ← millisToMicros "TOTAL_ELAPSED_TIME" elapsedMillis
    let totalRows ← requiredCounter row "ROWS_PRODUCED"
    .ok { handle, creationTime, lastExecutionTime, extractTs := ctx.extractTs
          counters := { executionCount, totalWorkerTime, totalElapsedTime, totalRows } }

/-- The record of a row, for one of the two tables that sources fill. -/
def normalize (kind : Kind) (ctx : Context) (table : Table) (row : RawRow) :
    Except Rejection Record :=
  match table with
  | .usage => (usage kind ctx row).map .usage
  | _ => (inventory kind ctx row).map .inventory

end Dialect

/-- The records of an extraction, and how many of its rows were rejected. -/
structure Batch where
  rows : TableRows
  rejected : Nat
deriving DecidableEq, Repr

/-- The results of a list that are values, in order. -/
def accepted (results : List (Except Rejection α)) : List α :=
  results.filterMap fun
    | .ok v => some v
    | .error _ => none

/-- The results of a list that are rejections, in order. -/
def rejections (results : List (Except Rejection α)) : List Rejection :=
  results.filterMap fun
    | .ok _ => none
    | .error r => some r

def normalizeInventory (kind : Kind) (ctx : Context) (rows : List RawRow) : Batch :=
  let results := rows.map (Dialect.inventory kind ctx)
  ⟨.inventory (accepted results), (rejections results).length⟩

def normalizeUsage (kind : Kind) (ctx : Context) (rows : List RawRow) : Batch :=
  let results := rows.map (Dialect.usage kind ctx)
  ⟨.usage (accepted results), (rejections results).length⟩

def normalizeRows (kind : Kind) (ctx : Context) (table : Table) (rows : List RawRow) : Batch :=
  match table with
  | .usage => normalizeUsage kind ctx rows
  | _ => normalizeInventory kind ctx rows

def rejectionLog (kind : Kind) (ctx : Context) (table : Table) (rows : List RawRow) :
    List LogEntry :=
  (rejections (rows.map (Dialect.normalize kind ctx table))).map fun r =>
    .warn (Error.malformed r).message

theorem length_accepted_add_rejections (results : List (Except Rejection α)) :
    (accepted results).length + (rejections results).length = results.length := by
  induction results with
  | nil => rfl
  | cons r rs ih =>
    cases r <;> simp [accepted, rejections] at ih ⊢ <;> omega

end FleetProfile.Source
