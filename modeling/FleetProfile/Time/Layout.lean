import FleetProfile.Number.Reading
import FleetProfile.Time.Instant
import FleetProfile.Time.Offset
/-!
Timestamps read from text.

Two families of layouts are understood: the strict one of internet timestamps, and a loose one
with short fields, blanks before them, years of any length with a sign, an optional fraction and
an optional offset. A time without an offset is local to the offset given.
-/
namespace FleetProfile.Time

open Number (digitsValue powTen)

/-- A date and a time of day; the second may be 60. -/
structure Civil where
  date : Date
  hour : Nat
  minute : Nat
  second : Nat
  nanos : Nat
deriving DecidableEq, Repr

namespace Civil

def isValid (c : Civil) : Bool :=
  Date.covers c.date.year && c.date.isValid && c.hour ≤ 23 && c.minute ≤ 59 && c.second ≤ 60

/-- The instant of a local time at an offset in seconds, if both are covered. -/
def toInstant? (c : Civil) (offset : Int) : Option Instant :=
  let leap := c.second == 60
  let second := if leap then 59 else c.second
  let t : Instant :=
    { seconds := c.date.toDays * 86400 + ((c.hour * 3600 + c.minute * 60 + second : Nat) : Int)
        - offset
      nanos := if leap then c.nanos + 1000000000 else c.nanos }
  if c.isValid && t.isCovered then some t else none

end Civil

namespace Layout

abbrev Reader (α : Type) := List Char → Option (α × List Char)

/-- Between `least` and `most` decimal digits, as many as there are. -/
def digits (least most : Nat) : Reader Nat := fun s =>
  let ds := (s.take most).takeWhile Char.isDigit
  if ds.length < least then none else some (digitsValue 0 ds, s.drop ds.length)

def mark (c : Char) : Reader Unit
  | d :: r => if d == c then some ((), r) else none
  | [] => none

/-- A fraction of a second after a point, in nanoseconds; digits past the ninth are dropped. -/
def fraction : Reader Nat
  | '.' :: r =>
    let ds := (r.take 9).takeWhile Char.isDigit
    if ds = [] then none
    else
      some (digitsValue 0 ds * powTen (9 - ds.length), (r.drop ds.length).dropWhile Char.isDigit)
  | r => some (0, r)

/-! ### The strict layout -/

/-- Date and time of fixed width, parted by `T` or a blank. -/
def strictCivil : Reader Civil := fun s => do
  let (year, s) ← digits 4 4 s
  let (_, s) ← mark '-' s
  let (month, s) ← digits 2 2 s
  let (_, s) ← mark '-' s
  let (day, s) ← digits 2 2 s
  let s ← match s with
    | c :: r => if c == 't' || c == 'T' || c == ' ' then some r else none
    | [] => none
  let (hour, s) ← digits 2 2 s
  let (_, s) ← mark ':' s
  let (minute, s) ← digits 2 2 s
  let (_, s) ← mark ':' s
  let (second, s) ← digits 2 2 s
  let (nanos, s) ← fraction s
  some (⟨⟨year, month, day⟩, hour, minute, second, nanos⟩, s)

/-- `Z`, or an offset with a colon. -/
def strictOffset : Reader Int
  | c :: r =>
    if c == 'Z' || c == 'z' then some (0, r) else (Offset.read Offset.colon (c :: r)).toOption
  | [] => none

def strict? (s : List Char) : Option Instant := do
  let (civil, s) ← strictCivil s
  let (offset, s) ← strictOffset s
  if s = [] ∧ Offset.isWithinDay offset then civil.toInstant? offset else none

/-! ### The loose layouts -/

/-- A number of at most two digits, after any blanks. -/
def field : Reader Nat := fun s =>
  digits 1 2 (Text.trimStart s)

/-- A year: up to four digits, or a sign and as many as there are. -/
def year : Reader Int := fun s =>
  match Text.trimStart s with
  | '-' :: r => (digits 1 r.length r).map fun (n, r) => (-(n : Int), r)
  | '+' :: r => (digits 1 r.length r).map fun (n, r) => ((n : Int), r)
  | r => (digits 1 4 r).map fun (n, r) => ((n : Int), r)

def date : Reader Date := fun s => do
  let (year, s) ← year s
  let (_, s) ← mark '-' s
  let (month, s) ← field s
  let (_, s) ← mark '-' s
  let (day, s) ← field s
  some (⟨year, month, day⟩, s)

inductive Gap where
  | blanks
  | letter
deriving DecidableEq, Repr

def Gap.read : Gap → Reader Unit
  | .blanks => fun s => some ((), Text.trimStart s)
  | .letter => mark 'T'

def civil (gap : Gap) : Reader Civil := fun s => do
  let (date, s) ← date s
  let (_, s) ← gap.read s
  let (hour, s) ← field s
  let (_, s) ← mark ':' s
  let (minute, s) ← field s
  let (_, s) ← mark ':' s
  let (second, s) ← field s
  let (nanos, s) ← fraction s
  some (⟨date, hour, minute, second, nanos⟩, s)

def withOffset? (gap : Gap) (s : List Char) : Option Instant := do
  let (civil, s) ← civil gap s
  let (offset, s) ← (Offset.read Offset.looseGap (Text.trimStart s)).toOption
  if s = [] ∧ Offset.isWithinDay offset then civil.toInstant? offset else none

def local? (gap : Gap) (s : List Char) : Option Civil := do
  let (civil, s) ← civil gap s
  if s = [] ∧ civil.isValid then some civil else none

def midnight? (s : List Char) : Option Civil := do
  let (date, s) ← date s
  let civil : Civil := ⟨date, 0, 0, 0, 0⟩
  if s = [] ∧ civil.isValid then some civil else none

/-- A timestamp in any layout; one without an offset is local to `offset`. -/
def parse? (text : List Char) (offset : Int) : Option Instant :=
  let s := Text.trim text
  let explicit :=
    strict? s <|> withOffset? .blanks s <|> withOffset? .letter s
  match explicit with
  | some t => some t.canonical
  | none =>
    (local? .blanks s <|> local? .letter s <|> midnight? s).bind fun civil =>
      (civil.toInstant? offset).map Instant.canonical

end Layout

end FleetProfile.Time
