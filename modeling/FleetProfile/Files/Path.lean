/-!
Paths as texts: parts between slashes. A path that begins with a slash is absolute.
-/
namespace FleetProfile.Files

abbrev Path := String

namespace Path

def isAbsolute (p : Path) : Bool :=
  p.toList.head? == some '/'

/-- A path inside a directory. An absolute one is outside of every directory. -/
def join (base rest : Path) : Path :=
  if isAbsolute rest then rest
  else
    match base.toList.getLast? with
    | none => rest
    | some c => if c == '/' then base ++ rest else base ++ "/" ++ rest

def split (p : List Char) : List (List Char) :=
  p.splitOn '/'

/-- Whether a part stands for nothing: it is empty or the directory itself. -/
def isIdle (part : List Char) : Bool :=
  part == [] || part == ['.']

def parts (p : Path) : List String :=
  ((split p.toList).filter fun part => !isIdle part).map String.ofList

def dropIdle (s : List (List Char)) : List (List Char) :=
  s.dropWhile isIdle

/-- What follows a `~` that is the whole first part, without idle parts at either end. -/
def afterHome? (p : Path) : Option Path :=
  match split p.toList with
  | first :: rest =>
    if first == ['~'] then
      let kept := (dropIdle (dropIdle rest).reverse).reverse
      some (String.ofList (List.intercalate ['/'] kept))
    else none
  | [] => none

/-- A path with the home directory for a leading `~`. -/
def expandHome (home : Path) (p : Path) : Path :=
  match afterHome? p with
  | none => p
  | some rest => if rest == "" then home else join home rest

end Path

end FleetProfile.Files
