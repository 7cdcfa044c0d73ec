import FleetProfile.Files.Path
/-!
The command line: its commands, and how arguments are read into one.

A command has switches and at most one operand. A switch is written with two hyphens and its name
or with one hyphen and its letter, letters may share a hyphen, and a value follows as the next
argument or after an equals sign. A lone pair of hyphens ends the switches.
-/
namespace FleetProfile.CommandLine

open Files (Path)

inductive Command where
  /-- Write a configuration to start with and create its store. -/
  | create (name : String) (extractFolder : Option Path) (force : Bool)
  /-- Run the pipeline on exported results. -/
  | run (dumps : Path) (json : Bool)
  /-- List the runs of the pipeline, or of all pipelines. -/
  | runs (format : String) (all : Bool)
  /-- Fail runs that give no sign of life. -/
  | recover
  /-- Show the lifetimes of a statement. -/
  | lifetimes (handle : String)
  /-- Answer a query. -/
  | query (text format : String)
deriving DecidableEq, Repr

structure Invocation where
  config : Option Path
  verbose : Bool
  command : Command
deriving DecidableEq, Repr

inductive Request where
  | perform (invocation : Invocation)
  | help
  | version
  /-- The arguments are no invocation. -/
  | unusable
deriving DecidableEq, Repr

/-! ### Switches -/

inductive Operand where
  | nothing
  | text
  /-- A text that is not empty. -/
  | path
deriving DecidableEq, Repr

structure Switch where
  letter : Option Char
  name : String
  operand : Operand
deriving DecidableEq, Repr

def sharedSwitches : List Switch :=
  [⟨some 'c', "config", .path⟩, ⟨some 'v', "verbose", .nothing⟩, ⟨some 'h', "help", .nothing⟩]

/-- What was read: switches with their values, and operands. -/
structure Matches where
  values : List (String × String) := []
  operands : List String := []
deriving DecidableEq, Repr

namespace Matches

def get? (m : Matches) (name : String) : Option String :=
  (m.values.find? fun v => v.1 == name).map (·.2)

def has (m : Matches) (name : String) : Bool :=
  (m.get? name).isSome

/-- Add the value of a switch, which may be given only once. -/
def add? (m : Matches) (s : Switch) (value : String) : Option Matches :=
  if m.has s.name || (s.operand == .path && value == "") then none
  else some { m with values := m.values ++ [(s.name, value)] }

end Matches

/-- Whether an argument stands where a value was expected, but is none. -/
def looksLikeSwitch (argument : String) : Bool :=
  match argument.toList with
  | '-' :: _ :: _ => true
  | _ => false

/-- The value of a switch: what is attached to it, else the next argument. -/
def takeValue (attached : Option String) (rest : List String) : Option (String × List String) :=
  match attached, rest with
  | some value, rest => some (value, rest)
  | none, next :: rest => if looksLikeSwitch next then none else some (next, rest)
  | none, [] => none

/-- Read a switch by its name, with what stands after an equals sign. -/
def readNamed (switches : List Switch) (argument : List Char) (rest : List String)
    (m : Matches) : Option (Matches × List String) := do
  let name := String.ofList (argument.takeWhile (· != '='))
  let attached := match argument.dropWhile (· != '=') with
    | '=' :: value => some (String.ofList value)
    | _ => none
  let s ← switches.find? fun s => s.name == name
  if s.operand = .nothing then
    if attached.isSome then none
    else (m.add? s "").map (·, rest)
  else
    let (value, rest) ← takeValue attached rest
    (m.add? s value).map (·, rest)

/-- Read switches by their letters; the first one with a value takes what is left of them. -/
def readLetters (switches : List Switch) :
    List Char → List String → Matches → Option (Matches × List String)
  | [], rest, m => some (m, rest)
  | c :: more, rest, m => do
    let s ← switches.find? fun s => s.letter == some c
    if s.operand = .nothing then readLetters switches more rest (← m.add? s "")
    else
      let attached := match more with
        | [] => none
        | '=' :: value => some (String.ofList value)
        | value => some (String.ofList value)
      let (value, rest) ← takeValue attached rest
      (m.add? s value).map (·, rest)

/-- The switches in front and what follows them: an operand, or nothing. -/
def readSwitches (switches : List Switch) : Nat → List String → Matches →
    Option (Matches × Bool × List String)
  | 0, _, _ => none
  | fuel + 1, args, m =>
    match args with
    | [] => some (m, false, [])
    | argument :: rest =>
      match argument.toList with
      | ['-', '-'] => some (m, true, rest)
      | '-' :: '-' :: name => do
        let (m, rest) ← readNamed switches name rest m
        if m.has "help" || m.has "version" then some (m, false, [])
        else readSwitches switches fuel rest m
      | '-' :: c :: letters => do
        let (m, rest) ← readLetters switches (c :: letters) rest m
        if m.has "help" || m.has "version" then some (m, false, [])
        else readSwitches switches fuel rest m
      | _ => some (m, false, args)

def readAll (switches : List Switch) : Nat → List String → Matches → Option Matches
  | 0, _, _ => none
  | fuel + 1, args, m => do
    match ← readSwitches switches (args.length + 1) args m with
    | (m, true, rest) => some { m with operands := m.operands ++ rest }
    | (m, false, []) => some m
    | (m, false, operand :: rest) =>
      readAll switches fuel rest { m with operands := m.operands ++ [operand] }

/-! ### Commands -/

structure Grammar where
  names : List String
  switches : List Switch
  build : Matches → Option Command

def withoutOperand (build : Matches → Command) (m : Matches) : Option Command :=
  if m.operands = [] then some (build m) else none

def withOperand (build : Matches → String → Command) (m : Matches) : Option Command :=
  match m.operands with
  | [operand] => some (build m operand)
  | _ => none

def formatSwitch : Switch := ⟨some 'f', "format", .text⟩

def formatOf (m : Matches) : String := (m.get? "format").getD "table"

def grammars : List Grammar :=
  [{ names := ["init"]
     switches := [⟨some 'n', "name", .text⟩, ⟨some 'd', "extract-folder", .path⟩,
      ⟨none, "force", .nothing⟩]
     build := withoutOperand fun m =>
      .create ((m.get? "name").getD "assessment") (m.get? "extract-folder") (m.has "force") },
   { names := ["run", "r"]
     switches := [⟨some 'D', "dumps", .path⟩, ⟨none, "json", .nothing⟩]
     build := withoutOperand fun m => .run ((m.get? "dumps").getD "dumps") (m.has "json") },
   { names := ["runs"]
     switches := [formatSwitch, ⟨some 'a', "all", .nothing⟩]
     build := withoutOperand fun m => .runs (formatOf m) (m.has "all") },
   { names := ["recover"], switches := [], build := withoutOperand fun _ => .recover },
   { names := ["lifetimes"], switches := [], build := withOperand fun _ => .lifetimes },
   { names := ["sql", "q"]
     switches := [formatSwitch]
     build := withOperand fun m text => .query text (formatOf m) }]

/-- Read the arguments of a command. What goes for every command may also stand before it. -/
def readCommand (outer : Matches) (g : Grammar) (args : List String) : Request :=
  match readAll (g.switches ++ sharedSwitches) (args.length + 1) args {} with
  | none => .unusable
  | some m =>
    if m.has "help" then .help
    else
      match g.build m with
      | none => .unusable
      | some command =>
        .perform
          { config := (m.get? "config").or (outer.get? "config")
            verbose := m.has "verbose" || outer.has "verbose"
            command }

def Request.ofArguments (args : List String) : Request :=
  let switches := sharedSwitches ++ [⟨some 'V', "version", .nothing⟩]
  match readSwitches switches (args.length + 1) args {} with
  | none => .unusable
  | some (m, ended, rest) =>
    if m.has "help" then .help
    else if m.has "version" then .version
    else
      match ended, rest with
      | false, name :: rest =>
        if name = "help" then .help
        else
          match grammars.find? fun g => g.names.contains name with
          | some g => readCommand m g rest
          | none => .unusable
      | _, _ => .unusable

end FleetProfile.CommandLine
