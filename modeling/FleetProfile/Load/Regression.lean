import FleetProfile.Record
/-!
Counters that went down between two snapshots of a statement: the source evicted the plan and
began to count anew. That is reported and not corrected.
-/
namespace FleetProfile.Load

structure Regression where
  handle : String
  prior : Counters
  current : Counters
deriving DecidableEq, Repr

namespace Regression

def fields (r : Regression) : List String :=
  r.prior.regressed r.current

def text (r : Regression) : String :=
  let names := String.intercalate ", " r.fields
  s!"counters of {r.handle} decreased ({names}): " ++
    s!"execution_count {r.prior.executionCount} -> {r.current.executionCount}"

end Regression

/-- Compare records with the counters that their handles had before. -/
def regressions (prior : List (String × Counters)) (records : List UsageRecord) :
    List Regression :=
  records.filterMap fun r =>
    match prior.lookup r.handle with
    | none => none
    | some before =>
      if Counters.Continues before r.counters then none
      else some ⟨r.handle, before, r.counters⟩

end FleetProfile.Load
