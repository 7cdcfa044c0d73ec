import FleetProfile.Number.Binary
/-!
JSON values. An object read from text has its keys in order and each key once.
-/
namespace FleetProfile

open Number (Binary)

/-- A JSON value; a number is an integer or a double. -/
inductive Json where
  | null
  | bool (value : Bool)
  | int (value : Int)
  | double (value : Binary)
  | string (value : String)
  | array (items : List Json)
  | object (members : List (String × Json))
deriving Inhabited

namespace Json

/-- The members of an object, its keys with their values. -/
abbrev Members := List (String × Json)

def isNull : Json → Bool
  | .null => true
  | _ => false

def asString? : Json → Option String
  | .string s => some s
  | _ => none

def Members.get? (members : Members) (key : String) : Option Json :=
  (members.find? fun m => m.1 == key).map (·.2)

/-- Put a value under a key, in the place of the one that was there; keys stay in order. -/
def Members.insert (members : Members) (key : String) (value : Json) : Members :=
  match members with
  | [] => [(key, value)]
  | m :: rest =>
    if key == m.1 then (key, value) :: rest
    else if key < m.1 then (key, value) :: m :: rest
    else m :: Members.insert rest key value

/-- Members in the order of their keys; of two with one key the later one stays. -/
def Members.sorted (members : Members) : Members :=
  members.foldl (fun acc m => acc.insert m.1 m.2) []

def ofMembers (members : Members) : Json :=
  .object members.sorted

mutual

def ordered : Json → Json
  | .array items => .array (orderedItems items)
  | .object members => ofMembers (orderedMembers members)
  | v => v

def orderedItems : List Json → List Json
  | [] => []
  | v :: rest => v.ordered :: orderedItems rest

def orderedMembers : List (String × Json) → List (String × Json)
  | [] => []
  | (key, v) :: rest => (key, v.ordered) :: orderedMembers rest

end

def ofString? : Option String → Json
  | some s => .string s
  | none => .null

end Json

end FleetProfile
