import FleetProfile.Config.Basic
import FleetProfile.Text.Quoted
/-!
What makes a configuration usable, checked in a fixed order; the first fault is reported.
-/
namespace FleetProfile.Config

def maxNameLength : Nat := 255

def isNameStart (c : Char) : Bool :=
  c.isAlpha || c == '_'

def isNameRest (c : Char) : Bool :=
  c.isAlphanum || c == '_'

def isIdentifier : List Char → Bool
  | [] => false
  | c :: r => isNameStart c && r.all isNameRest

def refuse (detail : String) : Except Error Unit :=
  .error (.config detail)

/-- A name is an identifier of at most 255 bytes. -/
def checkName (what name : String) : Except Error Unit :=
  if name = "" then refuse s!"{what} cannot be empty"
  else if maxNameLength < name.utf8ByteSize then
    refuse s!"{what} is too long ({name.utf8ByteSize} > {maxNameLength} characters)"
  else if isIdentifier name.toList then .ok ()
  else refuse s!"Invalid {what}: {Text.quoted name}"

/-- Each source has a name of its own and an offset that can be read. -/
def checkSources (seen : List String) : List SourceConfig → Except Error Unit
  | [] => .ok ()
  | s :: rest => do
    checkName "source name" s.name
    if s.name ∈ seen then refuse s!"Duplicate source name: {s.name}"
    let _ ← s.offset
    checkSources (s.name :: seen) rest

def validate (c : Config) : Except Error Unit := do
  checkName "pipeline_name" c.pipeline
  if Text.trim c.version.toList = [] then refuse "version cannot be empty"
  if c.batchSize = 0 then refuse "batch_size must be at least 1"
  if c.maxWorkers = 0 then refuse "max_workers must be at least 1"
  if c.runTimeoutSecs = 0 then refuse "run_timeout_secs must be at least 1"
  if c.sources = [] then refuse "at least one source must be configured"
  checkSources [] c.sources

end FleetProfile.Config
