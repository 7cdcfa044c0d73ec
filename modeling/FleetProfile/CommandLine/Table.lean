import FleetProfile.Lifetime
import FleetProfile.Query.Answer
import FleetProfile.Text.Blank
import FleetProfile.Text.Column
/-!
Tables as lines of text: runs, lifetimes, and answers to queries.
-/
namespace FleetProfile.CommandLine

/-! ### Runs -/

/-- One line of the table of runs. The state keeps its own width in the rows. -/
def runLine (pipeline date status version runner error : String) : String :=
  " ".intercalate [Text.padRight 24 pipeline, Text.padRight 32 date, status,
    Text.padRight 10 version, Text.padRight 24 runner, error]

def runTable (entries : List RunEntry) : List String :=
  runLine "PIPELINE" "EXECUTION_DATE" (Text.padRight 10 "STATUS") "VERSION" "RUNNER" "ERROR" ::
    entries.map fun e =>
      runLine e.run.pipeline e.run.date.offsetText e.status.name e.run.version e.runner
        (e.error.getD "")

/-! ### Lifetimes -/

def deltaLine (time executions worker elapsed rows : String) : String :=
  "  " ++ " ".intercalate [Text.padRight 32 time, Text.padLeft 12 executions,
    Text.padLeft 16 worker, Text.padLeft 16 elapsed, Text.padLeft 12 rows]

def deltaText (d : UsageDelta) : String :=
  deltaLine d.extractTs.offsetText (toString d.counters.executionCount)
    (toString d.counters.totalWorkerTime) (toString d.counters.totalElapsedTime)
    (toString d.counters.totalRows)

def lifetimeTable (number : Nat) (l : Lifetime) : List String :=
  s!"Lifetime {number} ({l.snapshots.length} snapshots)" ::
    deltaLine "EXTRACT_TS" "EXECUTIONS" "WORKER_TIME" "ELAPSED_TIME" "ROWS" ::
    l.deltas.map deltaText

/-- The lines of all lifetimes, which are counted from one. -/
def lifetimeTables (lifetimes : List Lifetime) : List String :=
  (lifetimes.zipIdx 1).flatMap fun (l, n) => lifetimeTable n l

/-! ### Answers -/

/-- Whether a cell may stand in a column that is aligned to the right. -/
def isNumeric : Option Json → Bool
  | some (.int _) | some (.double _) | some .null => true
  | _ => false

structure ColumnStyle where
  width : Nat
  alignRight : Bool
deriving DecidableEq, Repr

/-- The styles of the columns: as wide as their widest text, numbers to the right. -/
def columnStyles (a : Query.Answer) : List ColumnStyle :=
  a.columns.zipIdx.map fun (name, n) =>
    { width := ((List.range a.rows.length).map fun r => (a.text r n).length).foldl max name.length
      alignRight := a.rows.all fun row => isNumeric row[n]? }

def aligned (style : ColumnStyle) (text : String) : String :=
  if style.alignRight then Text.padLeft style.width text else Text.padRight style.width text

/-- Texts in their columns, without blanks at the end. -/
def alignedLine (styles : List ColumnStyle) (texts : List String) : String :=
  let line := "  ".intercalate (List.zipWith aligned styles texts)
  String.ofList (Text.trimEnd line.toList)

def ruleLine (styles : List ColumnStyle) : String :=
  "  ".intercalate (styles.map fun s => String.ofList (List.replicate s.width '-'))

def answerTable (a : Query.Answer) : List String :=
  if a.rows.isEmpty then ["No results."]
  else
    let styles := columnStyles a
    [alignedLine styles a.columns, ruleLine styles] ++ a.texts.map (alignedLine styles) ++
      [s!"({a.rows.length} rows)"]

end FleetProfile.CommandLine
