import FleetProfile.Connector.Fault
import FleetProfile.Files.Tree
import FleetProfile.Json.Parser
import FleetProfile.Source.RawRow
/-!
A connector that reads results which were exported to files: a folder for each source, in it one
JSON array of row objects for the databases and one for the statements.
-/
namespace FleetProfile.Connector.Export

open Files (Path Tree)
open Source (RawRow)
open Time (Instant)

def databasesFile : String := "databases.json"

def statementsFile : String := "query_stats.json"

def sourceDir (root : Path) (source : String) : Path :=
  Path.join root source

def rowOf (path : Path) : Json → Except Fault RawRow
  | .object members => .ok members
  | other =>
    .error (.query s!"{path}: expected an object per row, got {other.compact}")

def rowsOf (path : Path) (text : String) : Except Fault (List RawRow) :=
  match Json.parse? text.toList with
  | none => .error (.query s!"{path}: not a JSON value")
  | some (.array items) => items.mapM (rowOf path)
  | some _ => .error (.query s!"{path}: expected a JSON array")

/-- Read the rows of one file of a source. A file that is not there holds no rows. -/
def readRows (tree : Tree) (base : List String) (root : Path) (source file : String) :
    Except Fault (List RawRow) :=
  let dir := sourceDir root source
  if tree.isFolder (Tree.resolve base dir) then
    let path := Path.join dir file
    match tree.readText? (Tree.resolve base path) with
    | .ok none => .ok []
    | .ok (some text) => rowsOf path text
    | .error obstacle => .error (.unreachable s!"{path}: {obstacle.message}")
  else .error (.unreachable s!"no export directory at {dir}")

def lastRunColumns : List String := ["last_execution_time", "LAST_START_TIME"]

/-- When a statement last ran, if its row says so with an explicit offset. -/
def lastRun? (row : RawRow) : Option Instant := do
  let text ← lastRunColumns.findSome? fun c => (RawRow.get? row c).bind Json.asString?
  Time.Layout.strict? (Text.trim text.toList)

/-- Whether a row may be new since a time. One whose time cannot be read may. -/
def mayBeNew (since : Instant) (row : RawRow) : Bool :=
  match lastRun? row with
  | some t => since ≤ t
  | none => true

def newRows (since : Option Instant) (rows : List RawRow) : List RawRow :=
  match since with
  | none => rows
  | some t => rows.filter (mayBeNew t)

def databases (tree : Tree) (base : List String) (root : Path) (source : String) :
    Except Fault (List RawRow) :=
  readRows tree base root source databasesFile

def statements (tree : Tree) (base : List String) (root : Path) (source : String)
    (since : Option Instant) : Except Fault (List RawRow) :=
  (readRows tree base root source statementsFile).map (newRows since)

end FleetProfile.Connector.Export
