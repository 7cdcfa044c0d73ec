import FleetProfile.Query.Cell
import FleetProfile.Text.Blank
import FleetProfile.Text.Case
/-!
Dates and timestamps of the database, from texts and between precisions.
-/
namespace FleetProfile.Query

open Number (digitsValue powTen)
open Time (Date)

/-- The number that stands for the end of time in 32 bits. -/
def maxDays : Int := 2147483647

/-- Whether a count of days is a date: near enough to 1970, and not an end of time. -/
def isDateCount (days : Int) : Bool :=
  -2147483646 ≤ days && days < maxDays

def isTimestampCount (count : Int) : Bool :=
  -Number.maxInt64 < count && count < Number.maxInt64

/-- Digits off the front, between one and `most`. -/
def readDigits (most : Nat) (s : List Char) : Option (Nat × List Char) :=
  let ds := (s.take most).takeWhile Char.isDigit
  if ds = [] then none else some (digitsValue 0 ds, s.drop ds.length)

/-- Year, month and day, parted by one kind of sign; a year before the first is marked behind. -/
def readDate (s : List Char) : Option (Date × List Char) := do
  let (negative, s) := match s with
    | '-' :: r => (true, r)
    | r => (false, r)
  let (year, s) ← readDigits s.length s
  match s with
  | sep :: s =>
    if sep == '-' || sep == '/' || sep == '\\' || sep == ' ' then
      let (month, s) ← readDigits 2 s
      match s with
      | mark :: s =>
        if mark == sep then
          let (day, s) ← readDigits 2 s
          let era := " (BC)".toList
          let (year, s) : Int × List Char :=
            if era.isPrefixOf s then (1 - (year : Int), s.drop era.length)
            else (if negative then -(year : Int) else year, s)
          let d : Date := ⟨year, month, day⟩
          if d.isValid then some (d, s) else none
        else none
      | [] => none
    else none
  | [] => none

/-- Seconds since midnight and nanoseconds; seconds may be left out. -/
def readClock (s : List Char) : Option (Nat × Nat × List Char) := do
  let (hour, s) ← readDigits 2 s
  let s ← match s with
    | ':' :: r => some r
    | _ => none
  let (minute, s) ← readDigits 2 s
  let (second, s) ← match s with
    | ':' :: r => readDigits 2 r
    | r => some (0, r)
  let (nanos, s) := match s with
    | '.' :: r =>
      let ds := r.takeWhile Char.isDigit
      (digitsValue 0 (ds.take 9) * powTen (9 - (ds.take 9).length), r.dropWhile Char.isDigit)
    | r => (0, r)
  if hour < 24 ∧ minute < 60 ∧ second < 60 then
    some (hour * 3600 + minute * 60 + second, nanos, s)
  else none

/-- An offset in seconds; none is zero. -/
def readZone (s : List Char) : Option Int :=
  match s with
  | [] => some 0
  | ['Z'] => some 0
  | sign :: r =>
    if sign == '+' || sign == '-' then
      match readDigits 2 r with
      | none => none
      | some (hours, r) =>
        let minutes := match r with
          | [] => some (0, [])
          | ':' :: r => readDigits 2 r
          | r => readDigits 2 r
        match minutes with
        | some (m, []) =>
          let n : Int := hours * 3600 + m * 60
          some (if sign == '-' then -n else n)
        | _ => none
    else none

def special? (text : List Char) (most : Int) : Option Int :=
  let word := Text.lower (String.ofList text)
  if word == "epoch" then some 0
  else if word == "infinity" then some most
  else if word == "-infinity" then some (-most)
  else none

def dayOfText? (text : String) : Option Int :=
  let s := Text.trim text.toList
  match special? s maxDays with
  | some n => some n
  | none =>
    match readDate s with
    | some (d, []) => if isDateCount d.toDays then some d.toDays else none
    | _ => none

/-- Nanoseconds since 1970 of a text, not bounded. -/
def nanosOfText? (s : List Char) : Option Int := do
  let (d, s) ← readDate s
  let (clock, nanos, s) ← match s with
    | [] => some (0, 0, [])
    | c :: r => if c == ' ' || c == 'T' then readClock r else none
  let zone ← readZone (Text.trimStart s)
  some ((d.toDays * 86400 + clock - zone) * 1000000000 + nanos)

/-- How many microseconds a unit has, for the units above a microsecond. -/
def TimeUnit.micros : TimeUnit → Nat
  | .second => 1000000
  | .milli => 1000
  | _ => 1

/-- The nearest multiple, the one farther from 1970 of two. -/
def roundedCount (micros : Int) (unit : Nat) : Int :=
  let halves := micros.tdiv ((unit / 2 : Nat) : Int)
  (if halves < 0 then halves - 1 else halves + 1).tdiv 2

/-- A count of microseconds in another unit, if that holds it. -/
def ofMicros? (unit : TimeUnit) (micros : Int) : Option Int :=
  if !isTimestampCount micros then some micros
  else
    match unit with
    | .micro => some micros
    | .nano => if isTimestampCount (micros * 1000) then some (micros * 1000) else none
    | _ => some (roundedCount micros unit.micros)

def countOfText? (unit : TimeUnit) (text : String) : Option Int :=
  let s := Text.trim text.toList
  match special? s Number.maxInt64 with
  | some n => some n
  | none =>
    match nanosOfText? s with
    | none => none
    | some nanos =>
      if unit = .nano then (if isTimestampCount nanos then some nanos else none)
      else
        let micros := nanos / 1000
        if isTimestampCount micros then ofMicros? unit micros else none

def convertCount? (source target : TimeUnit) (count : Int) : Option Int :=
  if source = target ∨ !isTimestampCount count then some count
  else
    let micros := match source with
      | .second => count * 1000000
      | .milli => count * 1000
      | .micro => count
      | .nano => count / 1000
    if isTimestampCount micros then ofMicros? target micros else none

end FleetProfile.Query
