import FleetProfile.CommandLine.Invocation
import FleetProfile.Config.Reading
import FleetProfile.Config.Writing
import FleetProfile.Connector.Export
import FleetProfile.Pipeline.World
/-!
What a command works on: files, stores, the clock, and the lines it prints.
-/
namespace FleetProfile.CommandLine

open Files (Path Tree)
open Time (Instant)

structure Caller where
  home : Path
  /-- The working directory. -/
  folder : List String
  /-- The configuration that the environment names. -/
  configFile : Option Path
  /-- The directory for configurations that the environment names. -/
  configHome : Option Path
  /-- The process itself, as `host:pid`. -/
  runner : String

def Caller.resolve (caller : Caller) (path : Path) : List String :=
  Tree.resolve caller.folder path

structure Desk where
  files : Tree
  /-- The stores by the places of their files. -/
  stores : List (List String × Store)
  /-- The time at the next look at the clock. -/
  now : Instant
  /-- The printed lines. -/
  lines : List String := []
  log : List LogEntry := []

namespace Desk

def store? (d : Desk) (place : List String) : Option Store :=
  (d.stores.find? fun s => s.1 == place).map (·.2)

def putStore (d : Desk) (place : List String) (store : Store) : Desk :=
  { d with stores := (d.stores.filter fun s => s.1 != place) ++ [(place, store)] }

end Desk

/-- A part of a command. What it did to the desk stays, also when it fails. -/
abbrev Action := ExceptT Error (StateM Desk)

def say (line : String) : Action Unit :=
  modify fun d => { d with lines := d.lines ++ [line] }

def sayAll (lines : List String) : Action Unit :=
  modify fun d => { d with lines := d.lines ++ lines }

def orObstacle : Except Files.Obstacle α → Action α
  | .ok a => pure a
  | .error o => throw (.io o.message)

/-! ### Configurations -/

/-- The file of the configuration: the one that is asked for, else the usual one. -/
def Caller.configPath (caller : Caller) (asked : Option Path) : Path :=
  asked.getD (Config.defaultPath caller.configFile caller.configHome caller.home)

def readConfig (caller : Caller) (asked : Option Path) : Action Config := do
  let path := caller.configPath asked
  match ← orObstacle ((← get).files.readText? (caller.resolve path)) with
  | none => throw (Config.missing path)
  | some text => liftExcept (Config.load text)
where
  /-- A value or an error. -/
  liftExcept {α : Type} : Except Error α → Action α
    | .ok a => pure a
    | .error e => throw e

def writeConfig (caller : Caller) (path : Path) (c : Config) : Action Unit := do
  let text ← match c.save with
    | .ok text => pure text
    | .error e => throw e
  let files ← orObstacle ((← get).files.writeText (caller.resolve path) text)
  modify fun d => { d with files }

/-! ### Stores -/

/-- Open a store, which is created if nothing stands at its path. -/
def openStore (caller : Caller) (path : Path) : Action Store := do
  let place := caller.resolve path
  let files ← orObstacle ((← get).files.makeFolder place.dropLast)
  modify fun d => { d with files }
  let d ← get
  match d.store? place with
  | some store => pure store
  | none =>
    if (d.files.at? place).isSome then throw (.database (.noStore path))
    else
      set (d.putStore place Store.empty)
      pure Store.empty

def readStore (caller : Caller) (path : Path) : Action Store := do
  let place := caller.resolve path
  let d ← get
  match d.store? place with
  | some store => pure { store with readOnly := true }
  | none =>
    if (d.files.at? place).isSome then throw (.database (.noStore path))
    else throw (.notFound s!"Store {path}")

/-! ### Pipelines -/

def exportedEnding (caller : Caller) (files : Tree) (dumps : Path) (call : Pipeline.Call) :
    Connector.Ending (List Source.RawRow) :=
  let source := call.source.name
  let rows := match call.request with
    | .databases => Connector.Export.databases files caller.folder dumps source
    | .statements since => Connector.Export.statements files caller.folder dumps source since
  match rows with
  | .ok rows => .answer rows
  | .error f => .fault f

/-- The environment of a pipeline on exported results. The clock moves with every look at it. -/
def environment (caller : Caller) (files : Tree) (dumps : Path) : Pipeline.Environment Instant where
  runner := caller.runner
  now := fun t => (t, t.nextMicro)
  cancelled := fun t => (false, t)
  answer := fun call t => (⟨⟨0⟩, exportedEnding caller files dumps call⟩, t)
  others := fun store t => (store, t)

def perform (caller : Caller) (path : Path) (job : Pipeline.Job Instant α) : Action α := do
  let store ← openStore caller path
  let d ← get
  let (result, w) := job { store, outside := d.now }
  set { d.putStore (caller.resolve path) w.store with now := w.outside, log := d.log ++ w.log }
  match result with
  | .ok a => pure a
  | .error e => throw e

end FleetProfile.CommandLine
