import FleetProfile.Text.Blank
/-!
Offsets from Coordinated Universal Time: a sign, two digits of hours and two of minutes.
-/
namespace FleetProfile.Time

inductive OffsetFault where
  | tooShort
  | invalid
  | outOfRange
deriving DecidableEq, Repr

def OffsetFault.message : OffsetFault → String
  | .tooShort => "premature end of input"
  | .invalid => "input contains invalid characters"
  | .outOfRange => "input is out of range"

namespace Offset

/-- Two characters from the front. A lone character of several bytes is as bad as a wrong one. -/
def takePair : List Char → Except OffsetFault (Char × Char × List Char)
  | a :: b :: r => .ok (a, b, r)
  | [a] => .error (if a.utf8Size < 2 then .tooShort else .invalid)
  | [] => .error .tooShort

def pairValue (a b : Char) : Nat :=
  (a.toNat - 48) * 10 + (b.toNat - 48)

def readHours (s : List Char) : Except OffsetFault (Nat × List Char) := do
  let (a, b, r) ← takePair s
  if a.isDigit && b.isDigit then .ok (pairValue a b, r) else .error .invalid

def readMinutes (s : List Char) : Except OffsetFault (Nat × List Char) := do
  let (a, b, r) ← takePair s
  if a.isDigit && b.isDigit then
    if pairValue a b < 60 then .ok (pairValue a b, r) else .error .outOfRange
  else .error .invalid

/-- The sign; `true` is minus, which has a typographic form too. -/
def readSign : List Char → Except OffsetFault (Bool × List Char)
  | [] => .error .tooShort
  | c :: r =>
    if c == '+' then .ok (false, r)
    else if c == '-' || c.toNat == 0x2212 then .ok (true, r)
    else .error .invalid

/--
Seconds east of Greenwich from the front of a text; `between` reads what parts hours and minutes.
-/
def read (between : List Char → Except OffsetFault (List Char)) (s : List Char) :
    Except OffsetFault (Int × List Char) := do
  let (negative, s) ← readSign s
  let (hours, s) ← readHours s
  let s ← between s
  let (minutes, s) ← readMinutes s
  let seconds : Int := hours * 3600 + minutes * 60
  .ok (if negative then -seconds else seconds, s)

def looseGap (s : List Char) : Except OffsetFault (List Char) :=
  .ok (s.dropWhile fun c => c == ':' || Text.isBlank c)

def colon : List Char → Except OffsetFault (List Char)
  | [] => .error .tooShort
  | c :: r => if c == ':' then .ok r else .error .invalid

def isWithinDay (seconds : Int) : Bool :=
  -86400 < seconds && seconds < 86400

def parse (s : List Char) : Except OffsetFault Int := do
  let (seconds, _) ← read looseGap s
  if isWithinDay seconds then .ok seconds else .error .outOfRange

end Offset

end FleetProfile.Time
