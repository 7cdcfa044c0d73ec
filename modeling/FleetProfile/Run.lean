import FleetProfile.Time.Instant
/-!
Runs of a pipeline and the states they pass through:
`PENDING → RUNNING → SUCCEEDED`, with `FAILED` reachable from the first two.
-/
namespace FleetProfile

open Time (Instant)

inductive RunStatus where
  | pending
  | running
  | succeeded
  | failed
deriving DecidableEq, Repr, Inhabited

namespace RunStatus

def all : List RunStatus := [.pending, .running, .succeeded, .failed]

def name : RunStatus → String
  | .pending => "PENDING"
  | .running => "RUNNING"
  | .succeeded => "SUCCEEDED"
  | .failed => "FAILED"

def ofName? (text : String) : Option RunStatus :=
  all.find? fun s => s.name == text

def isTerminal : RunStatus → Bool
  | .succeeded | .failed => true
  | _ => false

def canBecome : RunStatus → RunStatus → Bool
  | .pending, .running | .pending, .failed | .running, .succeeded | .running, .failed => true
  | _, _ => false

@[simp] theorem ofName?_name (s : RunStatus) : ofName? s.name = some s := by
  cases s <;> decide

theorem canBecome_of_isTerminal {s t : RunStatus} (h : s.isTerminal = true) :
    s.canBecome t = false := by
  cases s <;> cases t <;> simp_all [isTerminal, canBecome]

end RunStatus

structure Run where
  pipeline : String
  /-- The start of the run, unique across the store. -/
  date : Instant
  /-- The version of the logic that produced the records. -/
  version : String
deriving DecidableEq, Repr, Inhabited

def Run.new (pipeline : String) (date : Instant) (version : String) : Run :=
  ⟨pipeline, date.canonical, version⟩

structure RunEntry where
  run : Run
  status : RunStatus
  /-- The process that owns the run, as `host:pid`. -/
  runner : String
  /-- The last sign of life of the owner. -/
  heartbeatAt : Instant
  finishedAt : Option Instant
  error : Option String
deriving DecidableEq, Repr

end FleetProfile
