import FleetProfile.Files.Path
/-!
A tree of files and folders, as far as the program looks at it.
-/
namespace FleetProfile.Files

inductive Entry where
  | file (bytes : ByteArray)
  | folder

/-- Files and folders under the parts of their paths; the folders above them are implied. -/
abbrev Tree := List (List String × Entry)

namespace Tree

/-- One step along a path; two dots lead up. -/
def step (folder : List String) (part : String) : List String :=
  if part == ".." then folder.dropLast else folder ++ [part]

/-- The parts of a path that starts in a folder, unless it is absolute. -/
def resolve (folder : List String) (path : Path) : List String :=
  (Path.parts path).foldl step (if Path.isAbsolute path then [] else folder)

def at? (tree : Tree) (place : List String) : Option Entry :=
  match tree.find? fun e => e.1 == place with
  | some e => some e.2
  | none => if tree.any fun e => place.isPrefixOf e.1 then some .folder else none

def isFolder (tree : Tree) (place : List String) : Bool :=
  match at? tree place with
  | some .folder => true
  | _ => false

def isFile (tree : Tree) (place : List String) : Bool :=
  match at? tree place with
  | some (.file _) => true
  | _ => false

/-- The places above a place, the outermost first. -/
def above (place : List String) : List (List String) :=
  (List.range place.length).map place.take

end Tree

def Entry.ofText (text : String) : Entry :=
  .file text.toUTF8

inductive Obstacle where
  | isFolder
  | isNoFolder
  | exists
  | isNoText
deriving DecidableEq, Repr

def Obstacle.message : Obstacle → String
  | .isFolder => "Is a directory (os error 21)"
  | .isNoFolder => "Not a directory (os error 20)"
  | .exists => "File exists (os error 17)"
  | .isNoText => "stream did not contain valid UTF-8"

namespace Tree

/-- The text of the file at a place, if something stands there. -/
def readText? (tree : Tree) (place : List String) : Except Obstacle (Option String) :=
  match tree.at? place with
  | none => .ok none
  | some .folder => .error .isFolder
  | some (.file bytes) =>
    match String.fromUTF8? bytes with
    | some text => .ok (some text)
    | none => .error .isNoText

def makeFolder (tree : Tree) (place : List String) : Except Obstacle Tree :=
  if (above place).any tree.isFile then .error .isNoFolder
  else
    match tree.at? place with
    | some (.file _) => .error .exists
    | some .folder => .ok tree
    | none => .ok (tree ++ [(place, .folder)])

/-- Write a file into a folder, which is made if it is not there. -/
def writeText (tree : Tree) (place : List String) (text : String) : Except Obstacle Tree := do
  let tree ← tree.makeFolder place.dropLast
  if tree.isFolder place then .error .isFolder
  else .ok ((tree.filter fun e => e.1 != place) ++ [(place, .ofText text)])

end Tree

end FleetProfile.Files
