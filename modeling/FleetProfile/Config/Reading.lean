import FleetProfile.Config.Validation
import FleetProfile.Json.Parser
import FleetProfile.Toml.Parser
/-!
A configuration from the table of a document. Keys that mean nothing are passed over, and a source
may also be given as the list of its fields in order.
-/
namespace FleetProfile.Config

open Toml (Value)

abbrev Read (α : Type) := Except String α

def optionalField (entries : List (String × Value)) (read : Value → Option α) (key : String) :
    Read (Option α) :=
  match Toml.lookup entries key with
  | none => .ok none
  | some v =>
    match read v with
    | some a => .ok (some a)
    | none => .error s!"invalid value for key '{key}'"

def requiredField (entries : List (String × Value)) (read : Value → Option α) (key : String) :
    Read α := do
  match ← optionalField entries read key with
  | some a => .ok a
  | none => .error s!"missing field '{key}'"

def text? : Value → Option String
  | .string s => some s
  | _ => none

def flag? : Value → Option Bool
  | .boolean b => some b
  | _ => none

def natural? (most : Nat) : Value → Option Nat
  | .integer n => if 0 ≤ n ∧ n ≤ most then some n.toNat else none
  | _ => none

def maxRetries : Nat := 4294967295

/-- A kind by its name, or by its name as the only key of a table that holds nothing under it. -/
def kind? : Value → Option Source.Kind
  | .string name => Source.Kind.ofName? name
  | .table [(name, .table [])] => Source.Kind.ofName? name
  | .table [(name, .array [])] => Source.Kind.ofName? name
  | _ => none

def settings? : Value → Option Settings
  | .table entries =>
    (entries.mapM fun (e : String × Value) => (text? e.2).map (e.1, ·)).map Settings.ofList
  | _ => none

def sourceKeys : List String :=
  ["name", "kind", "utc_offset", "incremental", "connection"]

def source (entries : List (String × Value)) : Read SourceConfig := do
  let name ← requiredField entries text? "name"
  let kind ← requiredField entries kind? "kind"
  let utcOffset ← optionalField entries text? "utc_offset"
  let incremental ← optionalField entries flag? "incremental"
  let connection ← optionalField entries settings? "connection"
  .ok { name, kind, utcOffset, incremental := incremental.getD true,
        connection := connection.getD Settings.empty }

def source? : Value → Option SourceConfig
  | .table entries => (source entries).toOption
  | .array items => (source (sourceKeys.zip items)).toOption
  | _ => none

def sources? : Value → Option (List SourceConfig)
  | .array items => items.mapM source?
  | _ => none

def ofTable (entries : List (String × Value)) : Read Config := do
  let wide := natural? Json.maxWord
  let pipeline ← requiredField entries text? "pipeline_name"
  let version ← optionalField entries text? "version"
  let extractFolder ← optionalField entries text? "extract_folder"
  let runTimeoutSecs ← optionalField entries wide "run_timeout_secs"
  let retryLimit ← optionalField entries (natural? maxRetries) "retry_limit"
  let retryBaseDelayMs ← optionalField entries wide "retry_base_delay_ms"
  let connectorTimeoutSecs ← optionalField entries wide "connector_timeout_secs"
  let batchSize ← optionalField entries wide "batch_size"
  let maxWorkers ← optionalField entries wide "max_workers"
  let sources ← optionalField entries sources? "sources"
  let base : Config := { pipeline }
  .ok
    { pipeline
      version := version.getD base.version
      extractFolder := extractFolder.getD base.extractFolder
      runTimeoutSecs := runTimeoutSecs.getD base.runTimeoutSecs
      retryLimit := retryLimit.getD base.retryLimit
      retryBaseDelayMs := retryBaseDelayMs.getD base.retryBaseDelayMs
      connectorTimeoutSecs := connectorTimeoutSecs.getD base.connectorTimeoutSecs
      batchSize := batchSize.getD base.batchSize
      maxWorkers := maxWorkers.getD base.maxWorkers
      sources := sources.getD [] }

def read (text : List Char) : Read Config :=
  match Toml.parse? text with
  | none => .error "not a valid document"
  | some entries => ofTable entries

/-- The configuration that a text describes, if it is usable. -/
def load (text : String) : Except Error Config :=
  match read text.toList with
  | .error detail => .error (.config s!"Failed to parse config: {detail}")
  | .ok c => do
    c.validate
    .ok c

def missing (path : Files.Path) : Error :=
  .notFound s!"config file {path}"

end FleetProfile.Config
