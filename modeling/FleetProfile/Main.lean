import FleetProfile.CommandLine.Run
import FleetProfile.Store.Image
import Std.Time.DateTime.Timestamp
/-!
The program: it lays out what a command may look at, carries the command out, and writes back what
the command changed.
-/
namespace FleetProfile.CommandLine

open Files (Entry Path Tree)
open Time (Instant)

def placePath (place : List String) : Path :=
  "/" ++ "/".intercalate place

def readEntry (place : List String) : IO (Option Entry) := do
  try
    return some (.file (← IO.FS.readBinFile (placePath place)))
  catch
    | .inappropriateType _ 21 _ => return some .folder
    | _ => return none

def layOut (places : List (List String)) (files : Tree) : IO Tree :=
  places.foldlM (fun files place => do
    match ← readEntry place with
    | some entry => return files ++ [(place, entry)]
    | none => return files) files

def exportedPlaces (caller : Caller) (c : Config) (dumps : Path) : List (List String) :=
  c.sources.flatMap fun s =>
    let dir := Connector.Export.sourceDir dumps s.name
    [caller.resolve dir, caller.resolve (Path.join dir Connector.Export.databasesFile),
      caller.resolve (Path.join dir Connector.Export.statementsFile)]

def configFor (caller : Caller) (i : Invocation) (files : Tree) : Option Config :=
  match i.command with
  | .create name extractFolder _ => some (starter name extractFolder)
  | _ =>
    let d : Desk := { files, stores := [], now := ⟨0, 0⟩ }
    ((readConfig caller i.config).run d).1.toOption

def readTime : IO Instant := do
  let nanos := (← Std.Time.Timestamp.now).toNanosecondsSinceUnixEpoch.val
  return ⟨nanos / 1000000000, (nanos % 1000000000).toNat⟩

def firstLine (path : Path) : IO (Option String) := do
  try
    let text ← IO.FS.readFile path
    return some (String.ofList (text.toList.takeWhile (· != '\n')))
  catch _ => return none

/-- This program as `host:pid`. -/
def readRunner : IO String := do
  let host := (← firstLine "/etc/hostname").getD "unknown"
  let state := (← firstLine "/proc/self/stat").getD "0"
  return host ++ ":" ++ String.ofList (state.toList.takeWhile (· != ' '))

def readCaller : IO Caller := do
  let folder := toString (← IO.currentDir)
  return {
    home := (← IO.getEnv "HOME").getD "/"
    folder := Tree.resolve [] folder
    configFile := ← IO.getEnv "DBPROFILE_CONFIG"
    configHome := ← IO.getEnv "XDG_CONFIG_HOME"
    runner := ← readRunner }

def layOutStore (place : List String) (d : Desk) : IO Desk := do
  match ← readEntry place with
  | none => return d
  | some entry =>
    let store := match entry with
      | .file bytes => (String.fromUTF8? bytes).bind Store.ofText?
      | .folder => none
    match store with
    | some store => return d.putStore place store
    | none => return { d with files := d.files ++ [(place, entry)] }

def layOutDesk (caller : Caller) (i : Invocation) : IO Desk := do
  let files ← layOut [caller.resolve (caller.configPath i.config)] []
  let d : Desk := { files, stores := [], now := ← readTime }
  match configFor caller i files with
  | none => return d
  | some c =>
    let exported := match i.command with
      | .run dumps _ => exportedPlaces caller c dumps
      | _ => []
    let files ← layOut exported d.files
    layOutStore (caller.resolve (c.storePath caller.home)) { d with files }

def writeFile (place : List String) (bytes : ByteArray) : IO Unit := do
  IO.FS.createDirAll (placePath place.dropLast)
  IO.FS.writeBinFile (placePath place) bytes

def writeBack (before after : Desk) : IO Unit := do
  for (place, entry) in after.files do
    if let .file bytes := entry then
      let unchanged := match before.files.at? place with
        | some (.file old) => old == bytes
        | _ => false
      unless unchanged do writeFile place bytes
  for (place, store) in after.stores do
    let text := store.text
    unless (before.store? place).any fun old => old.text == text do
      writeFile place text.toUTF8

def runProgram (args : List String) : IO UInt32 := do
  let caller ← readCaller
  let before : Desk ← match Request.ofArguments args with
    | .perform i => layOutDesk caller i
    | _ => pure { files := [], stores := [], now := ⟨0, 0⟩ }
  let (exit, after) := dispatch caller args before
  writeBack before after
  IO.print exit.output
  let errors ← IO.getStderr
  for e in after.log do errors.putStrLn e.line
  errors.putStr exit.errors
  return exit.code.toUInt32

end FleetProfile.CommandLine

def main (args : List String) : IO UInt32 :=
  FleetProfile.CommandLine.runProgram args
