import FleetProfile.Record
import FleetProfile.Run
/-!
Screening: records of another run are set aside, then the first record of each key is kept.
-/
namespace FleetProfile.Load

open Time (Instant)

/-- Records that passed, and how many of each kind did not. -/
structure Screened (α : Type) where
  rows : List α
  mismatched : Nat
  duplicates : Nat
deriving Repr

/-- The first record of each key; `seen` are the keys of those before. -/
def firstOfEach [BEq κ] (key : α → κ) (seen : List κ) : List α → List α
  | [] => []
  | r :: rest =>
    if seen.contains (key r) then firstOfEach key seen rest
    else r :: firstOfEach key (key r :: seen) rest

/-- Keep what belongs to the run, and of that the first record of each key. -/
def screen [BEq κ] (run : Run) (extractTs : α → Instant) (key : α → κ) (records : List α) :
    Screened α :=
  let own := records.filter fun r => extractTs r = run.date
  let rows := firstOfEach key [] own
  { rows, mismatched := records.length - own.length, duplicates := own.length - rows.length }

def screenInventory (run : Run) (records : List InventoryRecord) : Screened InventoryRecord :=
  screen run (·.extractTs) (·.dbId) records

def screenUsage (run : Run) (records : List UsageRecord) : Screened UsageRecord :=
  screen run (·.extractTs) (·.handle) records

theorem length_firstOfEach_le [BEq κ] (key : α → κ) (seen : List κ) (records : List α) :
    (firstOfEach key seen records).length ≤ records.length := by
  induction records generalizing seen with
  | nil => simp [firstOfEach]
  | cons r rest ih =>
    simp only [firstOfEach, List.length_cons]
    split
    · have := ih seen
      omega
    · have := ih (key r :: seen)
      simp only [List.length_cons]
      omega

/-- Every record is kept, set aside or a duplicate. -/
theorem length_screen [BEq κ] (run : Run) (extractTs : α → Instant) (key : α → κ)
    (records : List α) :
    let s := screen run extractTs key records
    s.rows.length + s.mismatched + s.duplicates = records.length := by
  simp only [screen]
  have h1 := length_firstOfEach_le key [] (records.filter fun r => extractTs r = run.date)
  have h2 := List.length_filter_le (fun r => decide (extractTs r = run.date)) records
  omega

end FleetProfile.Load
