import FleetProfile.Error
import FleetProfile.Record
import FleetProfile.Run
/-!
The store: six tables of rows in the order in which they were written.

Timestamp columns hold microseconds since 1970. A write is a function to the changed store or an
error; after an error the caller goes on with the store it had, so a failed write leaves nothing.
-/
namespace FleetProfile

open Time (Instant)

structure InventoryRow where
  dbId : Int
  name : String
  collation : Option String
  createDate : Int
  extractTs : Int
deriving DecidableEq, Repr

structure UsageRow where
  handle : String
  creationTime : Int
  lastExecutionTime : Int
  counters : Counters
  extractTs : Int
deriving DecidableEq, Repr

structure MetadataRow where
  pipeline : String
  date : Int
  version : Option String
deriving DecidableEq, Repr

/-- What a status column holds: a state, or a text that names none. -/
inductive StatusCell where
  | known (status : RunStatus)
  | other (text : String)
deriving DecidableEq, Repr

namespace StatusCell

def ofText (text : String) : StatusCell :=
  match RunStatus.ofName? text with
  | some s => .known s
  | none => .other text

def text : StatusCell → String
  | .known s => s.name
  | .other t => t

def read : StatusCell → Except Error RunStatus
  | .known s => .ok s
  | .other t => .error (Error.invalidStatus t)

def holds (p : RunStatus → Bool) : StatusCell → Bool
  | .known s => p s
  | .other _ => false

end StatusCell

structure LedgerRow where
  pipeline : String
  date : Int
  status : StatusCell
  runner : String
  heartbeatAt : Int
  finishedAt : Option Int
  error : Option String
deriving DecidableEq, Repr

structure AuditRow where
  pipeline : String
  date : Int
  source : String
  table : Table
  written : Nat
  rejected : Nat
  duplicates : Nat
  regressions : Nat
  committedAt : Int
deriving DecidableEq, Repr

structure AttributionRow where
  pipeline : String
  date : Int
  source : String
  handle : String
deriving DecidableEq, Repr

/-- The constraints that an operator may have put on the tables of records. -/
structure Constraints where
  inventory : InventoryRow → Bool := fun _ => true
  usage : UsageRow → Bool := fun _ => true

structure Store where
  inventory : List InventoryRow := []
  usage : List UsageRow := []
  metadata : List MetadataRow := []
  ledger : List LedgerRow := []
  audit : List AuditRow := []
  attribution : List AttributionRow := []
  constraints : Constraints := {}
  readOnly : Bool := false

namespace Store

def empty : Store := {}

/-- Whether a timestamp column takes the text of an instant: no year past 9999, no second 60. -/
def isHoldable (t : Instant) : Bool :=
  t.date.year ≤ 9999 && t.secondOfMinute < 60

def stamp (t : Instant) : Except Error Int :=
  if isHoldable t then .ok t.toMicros else .error (.database (.timestamp t.sqlText))

/-- The rows of a date. The date is only converted when there is a row to compare it with. -/
def rowsAt (date : Instant) (dateOf : α → Int) (rows : List α) : Except Error (List α) :=
  match rows with
  | [] => .ok []
  | rows => do
    let d ← stamp date
    .ok (rows.filter fun r => dateOf r = d)

def ensureWritable (s : Store) : Except Error Unit :=
  if s.readOnly then .error (.database .readOnly) else .ok ()

/-- Rows in the order of a number that each carries; rows with the same number keep theirs. -/
def orderedBy (key : α → Int) (rows : List α) : List α :=
  rows.mergeSort fun a b => key a ≤ key b

/-! ### Rows and records -/

def inventoryRow (r : InventoryRecord) : Except Error InventoryRow := do
  let createDate ← stamp r.createDate
  let extractTs ← stamp r.extractTs
  .ok { dbId := r.dbId, name := r.name, collation := r.collation.toOption, createDate, extractTs }

def inventoryRecord (r : InventoryRow) : InventoryRecord where
  dbId := r.dbId
  name := r.name
  collation := .ofOption r.collation
  createDate := .ofMicros r.createDate
  extractTs := .ofMicros r.extractTs

def usageRow (r : UsageRecord) : Except Error UsageRow := do
  let creationTime ← stamp r.creationTime
  let lastExecutionTime ← stamp r.lastExecutionTime
  let extractTs ← stamp r.extractTs
  .ok { handle := r.handle, creationTime, lastExecutionTime, counters := r.counters, extractTs }

def usageRecord (r : UsageRow) : UsageRecord where
  handle := r.handle
  creationTime := .ofMicros r.creationTime
  lastExecutionTime := .ofMicros r.lastExecutionTime
  counters := r.counters
  extractTs := .ofMicros r.extractTs

end Store

end FleetProfile
