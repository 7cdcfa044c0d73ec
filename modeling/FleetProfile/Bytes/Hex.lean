/-!
Bytes written in hexadecimal.
-/
namespace FleetProfile.Bytes

def hexDigit (n : Nat) : Char :=
  if n < 10 then Char.ofNat (48 + n) else Char.ofNat (55 + n)

def hexText (bytes : List UInt8) : List Char :=
  bytes.flatMap fun b => [hexDigit (b.toNat / 16), hexDigit (b.toNat % 16)]

def isHexDigit (c : Char) : Bool :=
  c.isDigit || ('a' ≤ c && c ≤ 'f') || ('A' ≤ c && c ≤ 'F')

def isHexText (s : List Char) : Bool :=
  s ≠ [] && s.length % 2 == 0 && s.all isHexDigit

end FleetProfile.Bytes
