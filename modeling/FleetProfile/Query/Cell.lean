import FleetProfile.Json.Basic
import FleetProfile.Number.Reading
import FleetProfile.Number.Shortest
import FleetProfile.Time.Instant
/-!
Cells of a query: values with the types of the database, and what a cell is in JSON.
-/
namespace FleetProfile.Query

open Number (Binary binary32 binary64 powTen powTwo)
open Time (Date Instant)

inductive TimeUnit where
  | second
  | milli
  | micro
  | nano
deriving DecidableEq, Repr

/-- A type of integers: whether it has a sign, and its bits. -/
structure IntType where
  signed : Bool
  bits : Nat
deriving DecidableEq, Repr

namespace IntType

def least (t : IntType) : Int :=
  if t.signed then -(powTwo (t.bits - 1) : Int) else 0

def greatest (t : IntType) : Int :=
  (powTwo (if t.signed then t.bits - 1 else t.bits) : Int) - 1

def holds (t : IntType) (n : Int) : Bool :=
  t.least ≤ n && n ≤ t.greatest

def int32 : IntType := ⟨true, 32⟩
def int64 : IntType := ⟨true, 64⟩
def int128 : IntType := ⟨true, 128⟩

end IntType

inductive CellType where
  | boolean
  | integer (type : IntType)
  | decimal (width scale : Nat)
  | float
  | double
  | text
  | date
  | timestamp (unit : TimeUnit)
  | blob
deriving DecidableEq, Repr

inductive Cell where
  | null
  | boolean (value : Bool)
  | integer (type : IntType) (value : Int)
  /-- A decimal of a width, counted in units of its last digit. -/
  | decimal (width scale : Nat) (units : Int)
  | float (value : Binary)
  | double (value : Binary)
  | text (value : String)
  /-- Days since 1970. -/
  | date (days : Int)
  /-- Units since 1970. -/
  | timestamp (unit : TimeUnit) (count : Int)
  | blob (bytes : List UInt8)
deriving DecidableEq, Repr, Inhabited

/-! ### JSON -/

/-- A product that stops at the ends of 64 bits. -/
def saturated (n : Int) : Int :=
  max Number.minInt64 (min n Number.maxInt64)

/-- A count of units in microseconds; what is below a microsecond is cut towards 1970. -/
def TimeUnit.toMicros (unit : TimeUnit) (count : Int) : Int :=
  match unit with
  | .second => saturated (count * 1000000)
  | .milli => saturated (count * 1000)
  | .micro => count
  | .nano => count.tdiv 1000

/-- A timestamp in JSON, null where the calendar does not reach. -/
def timestampJson (unit : TimeUnit) (count : Int) : Json :=
  match Instant.ofMicros? (unit.toMicros count) with
  | some t => .string t.sqlText
  | none => .null

/-- The number of 1970-01-01, where 0001-01-01 is day 1. -/
def epochDay : Int := 719163

/-- The number of the day that is so many days after 1970, in 32 bits: past the greatest number
it goes on from the least. -/
def dayNumber (days : Int) : Int :=
  Int.bmod (days + epochDay) 4294967296

/-- A date in JSON, null where the calendar does not reach. -/
def dateJson (days : Int) : Json :=
  let d := Date.ofDays (dayNumber days - epochDay)
  if Date.covers d.year then .string (String.ofList (Instant.dateText d)) else .null

/-- An integer of 128 bits in JSON: a number while it fits 64 bits, a text beyond. -/
def hugeJson (n : Int) : Json :=
  if Number.fitsInt64 n then .int n else .string (toString n)

def decimalText (scale : Nat) (units : Int) : String :=
  let whole := units.natAbs / powTen scale
  let part := if scale = 0 then [] else '.' :: Text.zeroPad scale (units.natAbs % powTen scale)
  let sign := if units < 0 then "-" else ""
  sign ++ toString whole ++ String.ofList part

/-- A floating-point number in JSON, null where it is none. -/
def floatJson (x : Binary) : Json :=
  if x.isFinite then .double x else .null

def Cell.toJson : Cell → Json
  | .null => .null
  | .boolean b => .bool b
  | .integer t n => if t.bits = 128 then hugeJson n else .int n
  | .decimal _ 0 n => hugeJson n
  | .decimal _ scale n => .string (decimalText scale n)
  | .float x => floatJson (Binary.convert binary64 x)
  | .double x => floatJson x
  | .text s => .string s
  | .date days => dateJson days
  | .timestamp unit count => timestampJson unit count
  | .blob bytes => .string s!"<blob {bytes.length} bytes>"

end FleetProfile.Query
