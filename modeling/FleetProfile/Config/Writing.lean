import FleetProfile.Config.Basic
import FleetProfile.Number.Reading
import FleetProfile.Toml.Printer
/-!
The document of a configuration.
-/
namespace FleetProfile.Config

open Toml (Line Value)

def entry (key : String) (v : Value) : Line :=
  .entry [key] v

def offsetLines : Option String → List Line
  | some text => [entry "utc_offset" (.string text)]
  | none => []

def sourceLines (s : SourceConfig) : List Line :=
  .element ["sources"] :: entry "name" (.string s.name) :: entry "kind" (.string s.kind.name) ::
    offsetLines s.utcOffset ++
    entry "incremental" (.boolean s.incremental) :: .table ["sources", "connection"] ::
    s.connection.entries.map fun e => entry e.1 (.string e.2)

/-- The sources; an empty array says that there are none. -/
def sourcesLines : List SourceConfig → List Line
  | [] => [entry "sources" (.array [])]
  | sources => sources.flatMap sourceLines

def lines (c : Config) : List Line :=
  [entry "pipeline_name" (.string c.pipeline),
    entry "version" (.string c.version),
    entry "extract_folder" (.string c.extractFolder),
    entry "run_timeout_secs" (.integer c.runTimeoutSecs),
    entry "retry_limit" (.integer c.retryLimit),
    entry "retry_base_delay_ms" (.integer c.retryBaseDelayMs),
    entry "connector_timeout_secs" (.integer c.connectorTimeoutSecs),
    entry "batch_size" (.integer c.batchSize),
    entry "max_workers" (.integer c.maxWorkers)] ++
  sourcesLines c.sources

def numbers (c : Config) : List Nat :=
  [c.runTimeoutSecs, c.retryLimit, c.retryBaseDelayMs, c.connectorTimeoutSecs, c.batchSize,
    c.maxWorkers]

/-- Whether a document can hold the numbers, which it does in 64 bits with a sign. -/
def isWritable (c : Config) : Bool :=
  c.numbers.all fun n => Number.fitsInt64 n

def save (c : Config) : Except Error String :=
  if c.isWritable then .ok (String.ofList (Toml.documentText c.lines))
  else .error (.config "Failed to serialize config: a number is out of range")

end FleetProfile.Config
