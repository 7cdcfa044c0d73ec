import FleetProfile.Time.Instant
/-!
What the pipeline records: the databases of a source, and the cumulative counters of its
statements, each as seen at one extraction.
-/
namespace FleetProfile

open Time (Instant)

inductive Table where
  | inventory
  | usage
  | metadata
deriving DecidableEq, Repr

def Table.name : Table → String
  | .inventory => "inventory"
  | .usage => "usage"
  | .metadata => "metadata"

/-- The collation of a database. A source that reports none does not report the empty one. -/
inductive Collation where
  | known (name : String)
  | unknown
deriving DecidableEq, Repr

namespace Collation

def toOption : Collation → Option String
  | .known name => some name
  | .unknown => none

def ofOption : Option String → Collation
  | some name => .known name
  | none => .unknown

@[simp] theorem ofOption_toOption (c : Collation) : ofOption c.toOption = c := by
  cases c <;> rfl

@[simp] theorem toOption_ofOption (name : Option String) : (ofOption name).toOption = name := by
  cases name <;> rfl

end Collation

structure InventoryRecord where
  /-- Unique within one source instance only. -/
  dbId : Int
  name : String
  collation : Collation
  createDate : Instant
  /-- The execution date of the run that captured the record. -/
  extractTs : Instant
deriving DecidableEq, Repr

/-- The counters of a statement. They grow until the source evicts the plan. -/
structure Counters where
  executionCount : Int
  totalWorkerTime : Int
  totalElapsedTime : Int
  totalRows : Int
deriving DecidableEq, Repr, Inhabited

namespace Counters

def zero : Counters := ⟨0, 0, 0, 0⟩

/-- The counters with their names, in the order in which messages list them. -/
def named (c : Counters) : List (String × Int) :=
  [("execution_count", c.executionCount), ("total_worker_time", c.totalWorkerTime),
    ("total_elapsed_time", c.totalElapsedTime), ("total_rows", c.totalRows)]

def Continues (prior current : Counters) : Prop :=
  prior.executionCount ≤ current.executionCount ∧
    prior.totalWorkerTime ≤ current.totalWorkerTime ∧
    prior.totalElapsedTime ≤ current.totalElapsedTime ∧ prior.totalRows ≤ current.totalRows

instance (prior current : Counters) : Decidable (Continues prior current) :=
  inferInstanceAs (Decidable (_ ∧ _))

def regressed (prior current : Counters) : List String :=
  (prior.named.zip current.named).filterMap fun (p, c) => if c.2 < p.2 then some c.1 else none

theorem regressed_eq_nil_iff {prior current : Counters} :
    regressed prior current = [] ↔ Continues prior current := by
  simp [regressed, named, Continues, List.filterMap_cons]
  grind

end Counters

structure UsageRecord where
  /-- The identifier of the compiled statement at the source. -/
  handle : String
  creationTime : Instant
  lastExecutionTime : Instant
  counters : Counters
  /-- The execution date of the run that captured the record. -/
  extractTs : Instant
deriving DecidableEq, Repr

inductive Record where
  | inventory (record : InventoryRecord)
  | usage (record : UsageRecord)
deriving DecidableEq, Repr

namespace Record

def table : Record → Table
  | .inventory _ => .inventory
  | .usage _ => .usage

def extractTs : Record → Instant
  | .inventory r => r.extractTs
  | .usage r => r.extractTs

end Record

inductive TableRows where
  | inventory (records : List InventoryRecord)
  | usage (records : List UsageRecord)
deriving DecidableEq, Repr

namespace TableRows

def table : TableRows → Table
  | .inventory _ => .inventory
  | .usage _ => .usage

def length : TableRows → Nat
  | .inventory records => records.length
  | .usage records => records.length

def isEmpty (rows : TableRows) : Bool :=
  rows.length == 0

end TableRows

end FleetProfile
