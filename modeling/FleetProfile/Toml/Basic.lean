import FleetProfile.Number.Binary
/-!
TOML documents: their values, and the lines that a document is made of.
-/
namespace FleetProfile.Toml

open Number (Binary)

inductive Value where
  | string (value : String)
  | integer (value : Int)
  | float (value : Binary)
  | boolean (value : Bool)
  /-- A date, a time of day or both, as written. -/
  | moment (text : String)
  | array (items : List Value)
  | table (entries : List (String × Value))
deriving Inhabited

/-- What stands on a line that is not blank. Keys and headers may be dotted. -/
inductive Line where
  /-- The header of a table. -/
  | table (path : List String)
  /-- The header of one more table of an array. -/
  | element (path : List String)
  | entry (key : List String) (value : Value)
deriving Inhabited

def lookup (entries : List (String × Value)) (key : String) : Option Value :=
  (entries.find? fun e => e.1 == key).map (·.2)

end FleetProfile.Toml
