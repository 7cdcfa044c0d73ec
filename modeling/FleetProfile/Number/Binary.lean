import FleetProfile.Number.Power
/-!
Binary floating-point numbers as exact data: a sign, a mantissa and an exponent of two, with
rounding to the nearest number of a format, ties to the even mantissa.
-/
namespace FleetProfile.Number

/-- The nearest integer to a quotient, the even one of two. -/
def roundEven (num den : Nat) : Nat :=
  let q := num / den
  let r := num % den
  if 2 * r < den then q
  else if den < 2 * r then q + 1
  else q + q % 2

/-- A format: mantissas below `2 ^ precision`, exponents from `least` to `greatest`. -/
structure Format where
  precision : Nat
  least : Int
  greatest : Int

/-- Numbers of 64 bits. -/
def binary64 : Format := ⟨53, -1074, 971⟩

/-- Numbers of 32 bits. -/
def binary32 : Format := ⟨24, -149, 104⟩

/-- A floating-point value; `finite s m e` is `m * 2 ^ e` with the sign `s`. -/
inductive Binary where
  | finite (negative : Bool) (mantissa : Nat) (exponent : Int)
  | infinite (negative : Bool)
  | nan
deriving DecidableEq, Repr, Inhabited

namespace Binary

def negated : Binary → Binary
  | .finite s m e => .finite (!s) m e
  | .infinite s => .infinite (!s)
  | .nan => .nan

/-- The quotient `num / den` in units of `2 ^ e`, as a fraction. -/
def inUnits (num den : Nat) (e : Int) : Nat × Nat :=
  if 0 ≤ e then (num, den * powTwo e.toNat) else (num * powTwo (-e).toNat, den)

/-- The number of a format nearest to `num / den`. -/
def ofRatio (fmt : Format) (negative : Bool) (num den : Nat) : Binary :=
  if num = 0 then .finite negative 0 fmt.least
  else
    let low : Int := num.log2 - den.log2 - fmt.precision
    let wide := inUnits num den low
    let fit := if wide.1 / wide.2 < powTwo fmt.precision then low else low + 1
    let e := max fit fmt.least
    let exact := inUnits num den e
    let m := roundEven exact.1 exact.2
    let (m, e) := if m = powTwo fmt.precision then (m / 2, e + 1) else (m, e)
    if fmt.greatest < e then .infinite negative else .finite negative m e

def ofInt (fmt : Format) (n : Int) : Binary :=
  ofRatio fmt (decide (n < 0)) n.natAbs 1

/-- A size `m * 2 ^ e` as a fraction. -/
def fraction (m : Nat) (e : Int) : Nat × Nat :=
  if 0 ≤ e then (m * powTwo e.toNat, 1) else (m, powTwo (-e).toNat)

def mul (fmt : Format) : Binary → Binary → Binary
  | .finite s m e, .finite t n f =>
    let x := fraction m e
    let y := fraction n f
    ofRatio fmt (s != t) (x.1 * y.1) (x.2 * y.2)
  | _, _ => .nan

/-- The quotient of two finite values, rounded; the divisor is not zero. -/
def div (fmt : Format) : Binary → Binary → Binary
  | .finite s m e, .finite t n f =>
    let x := fraction m e
    let y := fraction n f
    ofRatio fmt (s != t) (x.1 * y.2) (x.2 * y.1)
  | _, _ => .nan

def neg : Binary → Binary
  | .finite s m e => .finite (!s) m e
  | .infinite s => .infinite (!s)
  | .nan => .nan

def convert (fmt : Format) : Binary → Binary
  | .finite s m e => let x := fraction m e; ofRatio fmt s x.1 x.2
  | other => other

def isFinite : Binary → Bool
  | .finite .. => true
  | _ => false

def isZero : Binary → Bool
  | .finite _ 0 _ => true
  | _ => false

def toInt? : Binary → Option Int
  | .finite s m e =>
    let x := fraction m e
    if x.1 % x.2 = 0 then
      let n : Int := ((x.1 / x.2 : Nat) : Int)
      some (if s then -n else n)
    else none
  | _ => none

end Binary

end FleetProfile.Number
