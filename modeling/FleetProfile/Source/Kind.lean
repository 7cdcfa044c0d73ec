import FleetProfile.Error
import FleetProfile.Text.Blank
import FleetProfile.Text.Case
/-!
The kinds of sources that can be profiled.
-/
namespace FleetProfile.Source

inductive Kind where
  | sqlServer
  | synapse
  | snowflake
deriving DecidableEq, Repr, Inhabited

namespace Kind

def name : Kind → String
  | .sqlServer => "sqlserver"
  | .synapse => "synapse"
  | .snowflake => "snowflake"

/-- The kind of a name or of one of its aliases, spelled exactly. -/
def ofName? : String → Option Kind
  | "sqlserver" | "mssql" | "tsql" => some .sqlServer
  | "synapse" => some .synapse
  | "snowflake" => some .snowflake
  | _ => none

/-- The kind that a text names, whatever its case and the blanks around it. -/
def parse (text : String) : Except Error Kind :=
  let word := Text.lower (Text.trimmed text)
  match ofName? word with
  | some kind => .ok kind
  | none => .error (.config s!"Unsupported source kind: {word}")

@[simp] theorem ofName?_name (k : Kind) : ofName? k.name = some k := by
  cases k <;> rfl

end Kind

end FleetProfile.Source
