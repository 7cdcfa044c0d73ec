import FleetProfile.Text.Column
import FleetProfile.Time.Calendar
/-!
Instants of Coordinated Universal Time to the nanosecond, and the texts they are written as.

A leap second is an instant whose nanoseconds run past one thousand million. `Instant.canonical`
floors an instant to the microsecond, the precision of the store, wherever it is near enough to
1970 to be counted in nanoseconds by 64 bits.
-/
namespace FleetProfile.Time

open Text (zeroPad)

/-- Seconds since 1970-01-01T00:00:00, and nanoseconds from there. -/
structure Instant where
  seconds : Int
  nanos : Nat
deriving DecidableEq, Repr, Inhabited

namespace Instant

instance : LT Instant :=
  ⟨fun a b => a.seconds < b.seconds ∨ (a.seconds = b.seconds ∧ a.nanos < b.nanos)⟩

instance (a b : Instant) : Decidable (a < b) :=
  inferInstanceAs (Decidable (_ ∨ _))

instance : LE Instant :=
  ⟨fun a b => ¬ b < a⟩

instance (a b : Instant) : Decidable (a ≤ b) :=
  inferInstanceAs (Decidable (¬ _))

def isLeap (t : Instant) : Bool :=
  1000000000 ≤ t.nanos

def date (t : Instant) : Date :=
  Date.ofDays (t.seconds / 86400)

def secondOfDay (t : Instant) : Nat :=
  (t.seconds % 86400).toNat

/-- The second of the minute, `60` in a leap second. -/
def secondOfMinute (t : Instant) : Nat :=
  t.secondOfDay % 60 + (if t.isLeap then 1 else 0)

/-- Nanoseconds since the second that the instant is written with. -/
def fraction (t : Instant) : Nat :=
  t.nanos % 1000000000

/-- Whether the date of an instant is one that the program covers. -/
def isCovered (t : Instant) : Bool :=
  Date.covers t.date.year

/-- An instant, if it exists: a leap second ends a minute, and the date is covered. -/
def make? (seconds : Int) (nanos : Nat) : Option Instant :=
  let t : Instant := ⟨seconds, nanos⟩
  if nanos < 2000000000 ∧ (1000000000 ≤ nanos → seconds % 60 = 59) ∧ t.isCovered then some t
  else none

/-! ### Microseconds -/

/-- The instant that is a number of microseconds after 1970. -/
def ofMicros (n : Int) : Instant :=
  ⟨n / 1000000, ((n % 1000000) * 1000).toNat⟩

/-- Whole microseconds since 1970. -/
def toMicros (t : Instant) : Int :=
  t.seconds * 1000000 + (t.nanos / 1000 : Nat)

/-- The instant of a number of microseconds, if its date is covered. -/
def ofMicros? (n : Int) : Option Instant :=
  let t := ofMicros n
  if t.isCovered then some t else none

/-- Nanoseconds since 1970. -/
def toNanos (t : Instant) : Int :=
  t.seconds * 1000000000 + t.nanos

/-- Whether the nanoseconds since 1970 fit 64 bits. -/
def fitsNanos (t : Instant) : Bool :=
  -9223372036854775808 ≤ t.toNanos && t.toNanos ≤ 9223372036854775807

/-- The instant without what is below its microsecond, if it fits nanoseconds of 64 bits. -/
def canonical (t : Instant) : Instant :=
  if t.fitsNanos then { t with nanos := t.nanos - t.nanos % 1000 } else t

def nextMicro (t : Instant) : Instant :=
  let n := t.nanos + 1000
  if n < 1000000000 then ⟨t.seconds, n⟩ else ⟨t.seconds + 1, n - 1000000000⟩

def earliest : Instant :=
  ⟨(Date.toDays ⟨Date.minYear, 1, 1⟩) * 86400, 0⟩

/-! ### Texts -/

/-- A year with at least four digits; one outside four digits carries its sign. -/
def yearText (y : Int) : List Char :=
  if 0 ≤ y ∧ y ≤ 9999 then zeroPad 4 y.natAbs
  else (if y < 0 then '-' else '+') :: zeroPad 4 y.natAbs

def dateText (d : Date) : List Char :=
  yearText d.year ++ '-' :: zeroPad 2 d.month ++ '-' :: zeroPad 2 d.day

def clockText (t : Instant) : List Char :=
  zeroPad 2 (t.secondOfDay / 3600) ++ ':' :: zeroPad 2 (t.secondOfDay / 60 % 60) ++
    ':' :: zeroPad 2 t.secondOfMinute

/-- A point and the fraction in as few of 3, 6 or 9 digits as are exact; nothing if it is zero. -/
def fractionText (t : Instant) : List Char :=
  let f := t.fraction
  if f = 0 then []
  else if f % 1000000 = 0 then '.' :: zeroPad 3 (f / 1000000)
  else if f % 1000 = 0 then '.' :: zeroPad 6 (f / 1000)
  else '.' :: zeroPad 9 f

/-- Date and time with a sign between them, and the fraction. -/
def fullText (between : Char) (t : Instant) : List Char :=
  dateText t.date ++ between :: t.clockText ++ t.fractionText

/-- The text of a timestamp column: six digits of fraction, the further ones cut. -/
def sqlText (t : Instant) : String :=
  String.ofList
    (dateText t.date ++ ' ' :: t.clockText ++ '.' :: zeroPad 6 (t.fraction / 1000))

def jsonText (t : Instant) : String :=
  String.ofList (t.fullText 'T' ++ ['Z'])

def offsetText (t : Instant) : String :=
  String.ofList (t.fullText 'T' ++ "+00:00".toList)

def displayText (t : Instant) : String :=
  String.ofList (t.fullText ' ' ++ " UTC".toList)

end Instant

end FleetProfile.Time
