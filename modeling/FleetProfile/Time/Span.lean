import FleetProfile.Text.Column
/-!
Lengths of time to the nanosecond, at most `2 ^ 64` seconds, and their text.
-/
namespace FleetProfile.Time

open Text (zeroPad)

structure Span where
  nanos : Nat
deriving DecidableEq, Repr, Inhabited

namespace Span

def longest : Span := ⟨18446744073709551615 * 1000000000 + 999999999⟩

def ofParts (seconds nanos : Nat) : Span := ⟨seconds * 1000000000 + nanos⟩

def ofSeconds (n : Nat) : Span := ⟨n * 1000000000⟩

def ofMillis (n : Nat) : Span := ⟨n * 1000000⟩

def ofMicros (n : Nat) : Span := ⟨n * 1000⟩

def seconds (d : Span) : Nat := d.nanos / 1000000000

def subsecond (d : Span) : Nat := d.nanos % 1000000000

def scaled (d : Span) (k : Nat) : Span := ⟨min (d.nanos * k) longest.nanos⟩

/-- A fraction of `width` digits without the zeros at its end, after a point. -/
private def fractionText (width n : Nat) : List Char :=
  let digits := (zeroPad width n).reverse.dropWhile (· == '0') |>.reverse
  if digits = [] then [] else '.' :: digits

def text (d : Span) : String :=
  let n := d.nanos
  let (whole, part, unit) :=
    if 1000000000 ≤ n then (n / 1000000000, fractionText 9 (n % 1000000000), "s")
    else if 1000000 ≤ n then (n / 1000000, fractionText 6 (n % 1000000), "ms")
    else if 1000 ≤ n then (n / 1000, fractionText 3 (n % 1000), "µs")
    else (n, [], "ns")
  toString whole ++ String.ofList part ++ unit

end Span

end FleetProfile.Time
