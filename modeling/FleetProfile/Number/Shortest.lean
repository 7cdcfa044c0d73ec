import FleetProfile.Number.Binary
/-!
The shortest decimal that reads back as a given floating-point number, and its text.
-/
namespace FleetProfile.Number

structure Decimal where
  digits : Nat
  exponent : Int
deriving DecidableEq, Repr

namespace Decimal

/-- The number of decimal digits of a number; none for zero. -/
def width (n : Nat) : Nat :=
  if n = 0 then 0 else (Nat.toDigits 10 n).length

/-- The exponent of the leading decimal digit of `num / den`, both positive. -/
def leading (num den : Nat) : Int :=
  if den ≤ num then (width (num / den) : Int) - 1
  else -(width ((den + num - 1) / num - 1) : Int)

/-- The reals that round to a number: the ends over a common denominator, and whether they count. -/
structure Interval where
  low : Nat
  value : Nat
  high : Nat
  den : Nat
  closed : Bool

/-- The interval of `m * 2 ^ e`. Below a power of two the gap is half as wide. -/
def interval (fmt : Format) (m : Nat) (e : Int) : Interval :=
  let narrow := m = powTwo (fmt.precision - 1) ∧ fmt.least < e
  let low := if narrow then 4 * m - 1 else 4 * m - 2
  let scale := Binary.fraction 1 (e - 2)
  { low := low * scale.1, value := 4 * m * scale.1, high := (4 * m + 2) * scale.1, den := scale.2,
    closed := m % 2 = 0 }

/-- Whether `c * 10 ^ p` rounds to the number. -/
def Interval.admits (i : Interval) (c : Nat) (p : Int) : Bool :=
  let n := if 0 ≤ p then c * powTen p.toNat * i.den else c * i.den
  let scale := if 0 ≤ p then 1 else powTen (-p).toNat
  if i.closed then i.low * scale ≤ n && n ≤ i.high * scale
  else i.low * scale < n && n < i.high * scale

/-- The best point of the grid `10 ^ p` in the interval: the nearer one, of two the even one. -/
def Interval.onGrid (i : Interval) (p : Int) : Option Nat :=
  let num := if 0 ≤ p then i.value else i.value * powTen (-p).toNat
  let den := if 0 ≤ p then i.den * powTen p.toNat else i.den
  let below := num / den
  let near := roundEven num den
  let far := if near = below then below + 1 else below
  if i.admits near p then some near
  else if i.admits far p then some far
  else none

/-- Try grids of growing fineness, `count` of them, the next one `10 ^ p`. -/
def Interval.search (i : Interval) : Nat → Int → Decimal
  | 0, p => ⟨i.value / i.den, p⟩
  | count + 1, p =>
    match i.onGrid p with
    | some c => ⟨c, p⟩
    | none => i.search count (p - 1)

def strip (fuel : Nat) (d : Decimal) : Decimal :=
  match fuel with
  | 0 => d
  | fuel + 1 =>
    if d.digits ≠ 0 ∧ d.digits % 10 = 0 then strip fuel ⟨d.digits / 10, d.exponent + 1⟩ else d

/-- The decimal with the fewest digits that rounds to `m * 2 ^ e`, and the nearest of those. -/
def shortest (fmt : Format) (m : Nat) (e : Int) : Decimal :=
  let i := interval fmt m e
  strip 400 (i.search 18 (leading i.value i.den))

end Decimal

private def zeros (n : Int) : List Char :=
  List.replicate n.toNat '0'

/--
The text of a finite number: positional with at least one digit after the point while the leading
digit stands between `10 ^ -5` and `10 ^ 15`, with an exponent otherwise.
-/
def Binary.text (fmt : Format) : Binary → String
  | .finite s m e =>
    let sign := if s then ['-'] else []
    let body :=
      if m = 0 then ['0', '.', '0']
      else
        let d := Decimal.shortest fmt m e
        let ds := Nat.toDigits 10 d.digits
        let point : Int := ds.length + d.exponent
        if 0 ≤ d.exponent && point ≤ 16 then ds ++ zeros d.exponent ++ ['.', '0']
        else if 0 < point && point ≤ 16 then
          ds.take point.toNat ++ ['.'] ++ ds.drop point.toNat
        else if -5 < point && point ≤ 0 then ['0', '.'] ++ zeros (-point) ++ ds
        else
          let power := point - 1
          let mark := if power < 0 then ['e', '-'] else ['e', '+']
          let fraction := if ds.length = 1 then [] else '.' :: ds.drop 1
          ds.take 1 ++ fraction ++ mark ++ Nat.toDigits 10 power.natAbs
    String.ofList (sign ++ body)
  | .infinite s => if s then "-inf" else "inf"
  | .nan => "NaN"

end FleetProfile.Number
