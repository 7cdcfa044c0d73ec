import FleetProfile.Error
import FleetProfile.Json.Printer
import FleetProfile.Number.Reading
import FleetProfile.Text.Blank
import FleetProfile.Text.Case
import FleetProfile.Text.Quoted
import FleetProfile.Time.Layout
/-!
Raw rows as a source delivers them, and the reading of their columns.

Columns are found whatever the case of their letters, and a null is an absent value. Every reader
answers a value or the rejection of its column.
-/
namespace FleetProfile.Source

open Number (Binary binary64)
open Time (Instant)

/-- A row: column names with JSON values, in the order of the names. -/
abbrev RawRow := Json.Members

namespace RawRow

/-- The value of the column of that very name, else of the first that differs only in case. -/
def lookup (row : RawRow) (column : String) : Option Json :=
  match Json.Members.get? row column with
  | some v => some v
  | none => (row.find? fun m => Text.eqIgnoreAsciiCase m.1 column).map (·.2)

def get? (row : RawRow) (column : String) : Option Json :=
  (lookup row column).filter fun v => !v.isNull

def required (row : RawRow) (field : String) : Except Rejection Json :=
  match get? row field with
  | some v => .ok v
  | none => .error ⟨field, "required field is missing"⟩

def requiredText (row : RawRow) (field : String) : Except Rejection String := do
  match ← required row field with
  | .string s => .ok s
  | .int n => .ok (Json.int n).compact
  | .double x => .ok (Json.double x).compact
  | other => .error ⟨field, s!"expected text, got {other.compact}"⟩

def optionalText (row : RawRow) (field : String) : Except Rejection (Option String) :=
  match get? row field with
  | none => .ok none
  | some (.string s) => .ok (some s)
  | some other => .error ⟨field, s!"expected text, got {other.compact}"⟩

/--
The integer of 64 bits that a double stands for. The bound `2 ^ 63` itself still passes and
becomes the greatest integer.
-/
def integral? (x : Binary) : Option Int :=
  match x.toInt? with
  | some n =>
    if Number.minInt64 ≤ n ∧ n ≤ Number.maxInt64 + 1 then some (min n Number.maxInt64) else none
  | none => none

/-- The integer of a JSON value: a number, or the text of one. -/
def integer? : Json → Option Int
  | .int n =>
    if Number.fitsInt64 n then some n else integral? (Binary.ofInt binary64 n)
  | .double x => integral? x
  | .string s =>
    let t := Text.trim s.toList
    match Number.readInt64? t with
    | some n => some n
    | none => (Number.readDouble? t).bind integral?
  | _ => none

/-- An integer of 64 bits. -/
def requiredInt64 (row : RawRow) (field : String) : Except Rejection Int := do
  let v ← required row field
  match integer? v with
  | some n => .ok n
  | none => .error ⟨field, s!"not an integer: {v.compact}"⟩

/-- An integer of 32 bits. -/
def requiredInt32 (row : RawRow) (field : String) : Except Rejection Int := do
  let n ← requiredInt64 row field
  if -2147483648 ≤ n ∧ n ≤ 2147483647 then .ok n else .error ⟨field, s!"out of range: {n}"⟩

/-- A counter, which no source reports below zero. -/
def requiredCounter (row : RawRow) (field : String) : Except Rejection Int := do
  let n ← requiredInt64 row field
  if n < 0 then .error ⟨field, s!"negative counter: {n}"⟩ else .ok n

/-- A timestamp; one without an offset is local to `offset`. -/
def requiredTimestamp (row : RawRow) (field : String) (offset : Int) :
    Except Rejection Instant := do
  match ← required row field with
  | .string s =>
    match Time.Layout.parse? s.toList offset with
    | some t => .ok t
    | none => .error ⟨field, s!"unparsable timestamp: {Text.quoted s}"⟩
  | other => .error ⟨field, s!"expected timestamp text, got {other.compact}"⟩

end RawRow

end FleetProfile.Source
