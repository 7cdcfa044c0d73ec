import FleetProfile.Time.Span
/-!
Calls to a source: what they fail with, and the time they are given.
-/
namespace FleetProfile.Connector

open Time (Span)

inductive Fault where
  /-- The source could not be reached. -/
  | unreachable (detail : String)
  /-- The call did not finish in time. -/
  | timeout (after : Span)
  /-- The source answered with an error. -/
  | query (detail : String)
deriving DecidableEq, Repr

namespace Fault

def isRetryable : Fault → Bool
  | .unreachable _ | .timeout _ => true
  | .query _ => false

def message : Fault → String
  | .unreachable detail => s!"source unreachable: {detail}"
  | .timeout after => s!"timed out after {after.text}"
  | .query detail => s!"query failed: {detail}"

end Fault

inductive Ending (α : Type) where
  | answer (value : α)
  | fault (fault : Fault)
  | crash
deriving Repr

structure Work (α : Type) where
  /-- How long it takes. -/
  takes : Span
  ending : Ending α
deriving Repr

/-- What the caller gets who waits for the work at most as long as given. -/
def Work.within (limit : Span) (w : Work α) : Except Fault α :=
  if limit.nanos ≤ w.takes.nanos ∧ 0 < w.takes.nanos then .error (.timeout limit)
  else
    match w.ending with
    | .answer v => .ok v
    | .fault f => .error f
    | .crash => .error (.query "connector call panicked")

end FleetProfile.Connector
