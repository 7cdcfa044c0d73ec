/-!
Counts of what loading batches did.
-/
namespace FleetProfile

structure LoadReport where
  written : Nat := 0
  rejected : Nat := 0
  duplicates : Nat := 0
  regressions : Nat := 0
deriving DecidableEq, Repr, Inhabited

namespace LoadReport

def merge (a b : LoadReport) : LoadReport where
  written := a.written + b.written
  rejected := a.rejected + b.rejected
  duplicates := a.duplicates + b.duplicates
  regressions := a.regressions + b.regressions

def total (reports : List LoadReport) : LoadReport :=
  reports.foldl merge {}

def text (r : LoadReport) : String :=
  s!"{r.written} written, {r.rejected} rejected, {r.duplicates} duplicates skipped, " ++
    s!"{r.regressions} counter regressions"

@[simp] theorem merge_empty (r : LoadReport) : r.merge {} = r := rfl

@[simp] theorem empty_merge (r : LoadReport) : LoadReport.merge {} r = r := by
  simp [merge]

theorem merge_assoc (a b c : LoadReport) : (a.merge b).merge c = a.merge (b.merge c) := by
  simp [merge, Nat.add_assoc]

end LoadReport

structure SourceReport where
  source : String
  inventory : LoadReport
  usage : LoadReport
deriving DecidableEq, Repr

def SourceReport.total (r : SourceReport) : LoadReport :=
  r.inventory.merge r.usage

end FleetProfile
