import FleetProfile.Config.Settings
import FleetProfile.Error
import FleetProfile.Files.Path
import FleetProfile.Source.Kind
import FleetProfile.Time.Offset
import FleetProfile.Time.Span
/-!
The configuration of a pipeline: its sources, its limits and the folder of its store.
-/
namespace FleetProfile

open Files (Path)

structure SourceConfig where
  /-- Unique within the pipeline. -/
  name : String
  kind : Source.Kind
  /-- The offset of timestamps that carry none. -/
  utcOffset : Option String := none
  /-- Whether only what is new since the last succeeded run is asked for. -/
  incremental : Bool := true
  /-- Handed to the connector as it is. -/
  connection : Settings := Settings.empty
deriving DecidableEq, Repr, Inhabited

namespace SourceConfig

/-- The offset in seconds, zero where none is given. -/
def offset (s : SourceConfig) : Except Error Int :=
  match s.utcOffset with
  | none => .ok 0
  | some text =>
    match Time.Offset.parse (Text.trim text.toList) with
    | .ok seconds => .ok seconds
    | .error fault =>
      .error (.config
        s!"Invalid utc_offset '{text}' for source '{s.name}': {fault.message}")

def withConnection (s : SourceConfig) (name text : String) : SourceConfig :=
  { s with connection := s.connection.insert name text }

end SourceConfig

structure Config where
  pipeline : String
  version : String := "0.1.0"
  extractFolder : Path := "~/.dbprofile/extract"
  /-- A run without a sign of life for so long is taken to have crashed. -/
  runTimeoutSecs : Nat := 3600
  retryLimit : Nat := 3
  retryBaseDelayMs : Nat := 500
  connectorTimeoutSecs : Nat := 300
  /-- Rows of one pass of a write. -/
  batchSize : Nat := 10000
  /-- Sources that are extracted at the same time. -/
  maxWorkers : Nat := 4
  sources : List SourceConfig := []
deriving DecidableEq, Repr, Inhabited

namespace Config

open Time (Span)

def storeName : String := "profiler_extract.duckdb"

def extractDir (c : Config) (home : Path) : Path :=
  Path.expandHome home c.extractFolder

def storePath (c : Config) (home : Path) : Path :=
  Path.join (c.extractDir home) storeName

def runTimeout (c : Config) : Span := .ofSeconds c.runTimeoutSecs

def retryBaseDelay (c : Config) : Span := .ofMillis c.retryBaseDelayMs

def connectorTimeout (c : Config) : Span := .ofSeconds c.connectorTimeoutSecs

/--
The file of the configuration: the one that the environment names, else one below the directory
for configurations, which is `.config` in the home directory unless an absolute one is set.
-/
def defaultPath (named configHome : Option Path) (home : Path) : Path :=
  match named with
  | some path => path
  | none =>
    let folder := match configHome.filter Path.isAbsolute with
      | some dir => dir
      | none => Path.join home ".config"
    Path.join (Path.join folder "dbprofile") "pipeline.toml"

end Config

end FleetProfile
