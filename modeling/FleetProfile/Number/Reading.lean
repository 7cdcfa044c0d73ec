import FleetProfile.Number.Binary
/-!
Numbers read from text: decimal integers, and decimals with a point and an exponent.
-/
namespace FleetProfile.Number

def digitValue (c : Char) : Nat :=
  c.toNat - 48

/-- The value of a row of decimal digits after those already read. -/
def digitsValue (start : Nat) (ds : List Char) : Nat :=
  ds.foldl (fun n c => 10 * n + digitValue c) start

def readNat? (s : List Char) : Option Nat :=
  if s ≠ [] ∧ s.all Char.isDigit then some (digitsValue 0 s) else none

/-- Split a leading sign off; `true` is minus. -/
def splitSign : List Char → Bool × List Char
  | '+' :: r => (false, r)
  | '-' :: r => (true, r)
  | r => (false, r)

/-- The least integer of 64 bits. -/
def minInt64 : Int := -9223372036854775808

/-- The greatest integer of 64 bits. -/
def maxInt64 : Int := 9223372036854775807

/-- Whether an integer fits 64 bits. -/
def fitsInt64 (n : Int) : Bool :=
  minInt64 ≤ n && n ≤ maxInt64

/-- An integer of 64 bits: an optional sign and decimal digits. -/
def readInt64? (s : List Char) : Option Int :=
  let (negative, digits) := splitSign s
  match readNat? digits with
  | none => none
  | some n =>
    let v : Int := if negative then -(n : Int) else n
    if fitsInt64 v then some v else none

/-- The exponent after a decimal, `0` where there is none. -/
def readExponent? : List Char → Option Int
  | [] => some 0
  | c :: r =>
    if c == 'e' || c == 'E' then
      let (negative, digits) := splitSign r
      (readNat? digits).map fun n => if negative then -(n : Int) else n
    else none

/--
The double nearest to `digits * 10 ^ exponent`. Exponents that put the value far outside the
range of doubles are settled without the power.
-/
def ofDecimal (negative : Bool) (digits : Nat) (exponent : Int) : Binary :=
  let size : Int := (Nat.toDigits 10 digits).length + exponent
  if digits = 0 ∨ size < -400 then .finite negative 0 binary64.least
  else if 400 < size then .infinite negative
  else if 0 ≤ exponent then Binary.ofRatio binary64 negative (digits * powTen exponent.toNat) 1
  else Binary.ofRatio binary64 negative digits (powTen (-exponent).toNat)

def isWord (word : String) (s : List Char) : Bool :=
  s.map Char.toLower == word.toList

/--
A double: an optional sign, then digits with an optional point among or around them and an
optional exponent, or one of the words for infinity and for not a number.
-/
def readDouble? (s : List Char) : Option Binary :=
  let (negative, body) := splitSign s
  if isWord "inf" body || isWord "infinity" body then some (.infinite negative)
  else if isWord "nan" body then some .nan
  else
    let whole := body.takeWhile Char.isDigit
    let rest := body.dropWhile Char.isDigit
    let (part, rest) := match rest with
      | '.' :: r => (r.takeWhile Char.isDigit, r.dropWhile Char.isDigit)
      | r => ([], r)
    if whole = [] ∧ part = [] then none
    else
      (readExponent? rest).map fun e =>
        ofDecimal negative (digitsValue 0 (whole ++ part)) (e - part.length)

end FleetProfile.Number
