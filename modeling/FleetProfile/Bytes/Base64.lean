/-!
Base64 with the standard alphabet and required padding.

`decode` accepts the canonical form only: no bits left over in the last symbol, and padding to a
multiple of four symbols. Its faults carry the place of the first byte that is wrong.
-/
namespace FleetProfile.Bytes.Base64

/-- Why a text is not base64. -/
inductive Fault where
  | symbol (offset : Nat) (byte : UInt8)
  | length (size : Nat)
  | lastSymbol (offset : Nat) (byte : UInt8)
  | padding
deriving DecidableEq, Repr

def Fault.message : Fault → String
  | .symbol offset byte => s!"Invalid symbol {byte}, offset {offset}."
  | .length size => s!"Invalid input length: {size}"
  | .lastSymbol offset byte => s!"Invalid last symbol {byte}, offset {offset}."
  | .padding => "Invalid padding"

def pad : UInt8 := 61

def value? (b : UInt8) : Option Nat :=
  let n := b.toNat
  if 65 ≤ n ∧ n ≤ 90 then some (n - 65)
  else if 97 ≤ n ∧ n ≤ 122 then some (n - 71)
  else if 48 ≤ n ∧ n ≤ 57 then some (n + 4)
  else if n = 43 then some 62
  else if n = 47 then some 63
  else none

def symbol (n : Nat) : UInt8 :=
  if n < 26 then (n + 65).toUInt8
  else if n < 52 then (n + 71).toUInt8
  else if n < 62 then (n - 4).toUInt8
  else if n = 62 then 43
  else 47

/-- The symbols of bytes, three bytes to four symbols. -/
def encode : List UInt8 → List UInt8
  | [] => []
  | [a] =>
    let n := a.toNat * 16
    [symbol (n / 64), symbol (n % 64), pad, pad]
  | [a, b] =>
    let n := (a.toNat * 256 + b.toNat) * 4
    [symbol (n / 4096), symbol (n / 64 % 64), symbol (n % 64), pad]
  | a :: b :: c :: rest =>
    let n := (a.toNat * 256 + b.toNat) * 256 + c.toNat
    symbol (n / 262144) :: symbol (n / 4096 % 64) :: symbol (n / 64 % 64) :: symbol (n % 64) ::
      encode rest

def valueAt (offset : Nat) (b : UInt8) : Except Fault Nat :=
  match value? b with
  | some n => .ok n
  | none => .error (.symbol offset b)

def quadBytes (a b c d : Nat) : List UInt8 :=
  let n := ((a * 64 + b) * 64 + c) * 64 + d
  [(n / 65536).toUInt8, (n / 256 % 256).toUInt8, (n % 256).toUInt8]

/-- The values in front of the padding of the last group; `index` counts from its start. -/
def tailValues (offset index : Nat) : List UInt8 → Except Fault (List Nat)
  | [] => .ok []
  | b :: rest =>
    if b = pad then
      if index < 2 then .error (.symbol (offset + index) b)
      else if rest.all (· = pad) then .ok []
      else .error (.symbol (offset + index) pad)
    else do
      let n ← valueAt (offset + index) b
      let more ← tailValues offset (index + 1) rest
      .ok (n :: more)

def decodeTail (offset : Nat) (group : List UInt8) : Except Fault (List UInt8) := do
  let values ← tailValues offset 0 group
  let last := group.getD (values.length - 1) 0
  match values with
  | [a, b] =>
    if group.length % 4 ≠ 0 then .error .padding
    else if b % 16 ≠ 0 then .error (.lastSymbol (offset + 1) last)
    else .ok ((quadBytes a b 0 0).take 1)
  | [a, b, c] =>
    if group.length % 4 ≠ 0 then .error .padding
    else if c % 4 ≠ 0 then .error (.lastSymbol (offset + 2) last)
    else .ok ((quadBytes a b c 0).take 2)
  | [a, b, c, d] => .ok (quadBytes a b c d)
  | _ => .error (.length (offset + values.length))

def decodeFrom (offset : Nat) : List UInt8 → Except Fault (List UInt8)
  | [] => .ok []
  | a :: b :: c :: d :: e :: rest => do
    let a ← valueAt offset a
    let b ← valueAt (offset + 1) b
    let c ← valueAt (offset + 2) c
    let d ← valueAt (offset + 3) d
    let more ← decodeFrom (offset + 4) (e :: rest)
    .ok (quadBytes a b c d ++ more)
  | group => decodeTail offset group

/-- The bytes of a base64 text. A lone wrong byte at the end is reported before all else. -/
def decode (input : List UInt8) : Except Fault (List UInt8) :=
  match input.getLast? with
  | some b =>
    if input.length % 4 = 1 ∧ b ≠ pad ∧ value? b = none then
      .error (.symbol (input.length - 1) b)
    else decodeFrom 0 input
  | none => .ok []

end FleetProfile.Bytes.Base64
