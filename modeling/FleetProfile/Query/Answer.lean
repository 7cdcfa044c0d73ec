import FleetProfile.Json.Printer
/-!
The answer to a query: named columns, and rows of JSON scalars.
-/
namespace FleetProfile.Query

structure Answer where
  columns : List String
  rows : List (List Json)
deriving Inhabited

/-- A cell as text: strings without quotes, and `NULL` where there is nothing. -/
def cellText : Option Json → String
  | none => "NULL"
  | some .null => "NULL"
  | some (.string s) => s
  | some v => v.compact

namespace Answer

def text (a : Answer) (row column : Nat) : String :=
  cellText (a.rows[row]?.bind fun r => r[column]?)

/-- Every row as an object; of two columns with one name the later one stays. -/
def records (a : Answer) : List Json :=
  a.rows.map fun row => Json.ofMembers (a.columns.zip row)

def texts (a : Answer) : List (List String) :=
  a.rows.map fun row => (List.range a.columns.length).map fun c => cellText row[c]?

end Answer

end FleetProfile.Query
