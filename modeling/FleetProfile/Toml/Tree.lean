import FleetProfile.Toml.Basic
/-!
Putting the lines of a document together into one table. Every key is given once: a table that has
a header of its own gets no second one, and dotted keys reach only into tables that dotted keys
made.
-/
namespace FleetProfile.Toml

inductive Origin where
  /-- By a header or braces of its own. -/
  | header
  /-- By the header of a table inside it. -/
  | path
  /-- By a dotted key. -/
  | key
deriving DecidableEq, Repr

/-- A table under construction, or what stands in one. -/
inductive Node where
  | value (value : Value)
  | table (origin : Origin) (entries : List (String × Node))
  /-- Tables with a header each, the last of which is open. -/
  | elements (tables : List (List (String × Node)))
deriving Inhabited

namespace Node

abbrev Entries := List (String × Node)

def find? (entries : Entries) (key : String) : Option Node :=
  (entries.find? fun e => e.1 == key).map (·.2)

def replace (entries : Entries) (key : String) (node : Node) : Entries :=
  entries.map fun e => if e.1 == key then (key, node) else e

def add? (entries : Entries) (key : String) (node : Node) : Option Entries :=
  match find? entries key with
  | none => some (entries ++ [(key, node)])
  | some _ => none

def insertDotted (origin : Origin) (entries : Entries) : List String → Value → Option Entries
  | [], _ => none
  | [key], v => if origin = .key then add? entries key (.value v) else none
  | key :: path, v =>
    match find? entries key with
    | none =>
      (insertDotted .key [] path v).map fun inner => entries ++ [(key, .table .key inner)]
    | some (.table .header _) => none
    | some (.table o inner) =>
      (insertDotted o inner path v).map fun inner => replace entries key (.table o inner)
    | some (.elements tables) =>
      match tables.getLast? with
      | none => none
      | some inner =>
        (insertDotted .header inner path v).map fun inner =>
          replace entries key (.elements (tables.dropLast ++ [inner]))
    | some (.value _) => none

def insert (entries : Entries) (path : List String) (v : Value) : Option Entries :=
  match path with
  | [key] => add? entries key (.value v)
  | path => insertDotted .header entries path v

def insertAll (entries : Entries) (new : List (List String × Value)) : Option Entries :=
  new.foldlM (fun acc e => insert acc e.1 e.2) entries

/-- Change the table at a path, which is made where it is missing. -/
def update (change : Entries → Option Entries) : List String → Entries → Option Entries
  | [], entries => change entries
  | key :: path, entries =>
    match find? entries key with
    | none => (update change path []).map fun inner => entries ++ [(key, .table .path inner)]
    | some (.table o inner) =>
      (update change path inner).map fun inner => replace entries key (.table o inner)
    | some (.elements tables) =>
      match tables.getLast? with
      | none => none
      | some inner =>
        (update change path inner).map fun inner =>
          replace entries key (.elements (tables.dropLast ++ [inner]))
    | some (.value _) => none

def openTable (key : String) (new : List (List String × Value)) (entries : Entries) :
    Option Entries :=
  match find? entries key with
  | none => (insertAll [] new).map fun inner => entries ++ [(key, .table .header inner)]
  | some (.table .path inner) =>
    (insertAll inner new).map fun inner => replace entries key (.table .header inner)
  | some _ => none

def openElement (key : String) (new : List (List String × Value)) (entries : Entries) :
    Option Entries :=
  match find? entries key with
  | none => (insertAll [] new).map fun inner => entries ++ [(key, .elements [inner])]
  | some (.elements tables) =>
    (insertAll [] new).map fun inner => replace entries key (.elements (tables ++ [inner]))
  | some _ => none

mutual

def toValue : Node → Value
  | .value v => v
  | .table _ entries => .table (toEntries entries)
  | .elements tables => .array (toItems tables)

def toEntries : List (String × Node) → List (String × Value)
  | [] => []
  | (k, n) :: rest => (k, toValue n) :: toEntries rest

def toItems : List (List (String × Node)) → List Value
  | [] => []
  | t :: ts => .table (toEntries t) :: toItems ts

end

end Node

def inlineTable (new : List (List String × Value)) : Option Value :=
  (Node.insertAll [] new).map fun entries => .table (Node.toEntries entries)

/-- The entries that follow a header, up to the next one. -/
def ownEntries : List Line → List (List String × Value)
  | .entry key v :: rest => (key, v) :: ownEntries rest
  | _ => []

/-- Add the tables that headers open, each with the entries after it. -/
def addTables (entries : Node.Entries) : List Line → Option Node.Entries
  | [] => some entries
  | .entry _ _ :: rest => addTables entries rest
  | .table path :: rest =>
    match path.getLast? with
    | none => none
    | some key => do
      let entries ← Node.update (Node.openTable key (ownEntries rest)) path.dropLast entries
      addTables entries rest
  | .element path :: rest =>
    match path.getLast? with
    | none => none
    | some key => do
      let entries ← Node.update (Node.openElement key (ownEntries rest)) path.dropLast entries
      addTables entries rest

/-- The table that the lines of a document describe, if they agree with each other. -/
def assemble (lines : List Line) : Option (List (String × Value)) := do
  let entries ← Node.insertAll [] (ownEntries lines)
  let entries ← addTables entries lines
  some (Node.toEntries entries)

end FleetProfile.Toml
