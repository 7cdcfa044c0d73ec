import FleetProfile.Json.Basic
import FleetProfile.Number.Reading
/-!
Reading JSON text. Nesting is limited, a key given twice keeps its last value, and a number
without point and exponent that fits 64 bits is an integer.
-/
namespace FleetProfile.Json

open Number (Binary binary64 digitValue powTen)

/-- What is left of the text after a value, or nothing if it is malformed. -/
private abbrev Reader (α : Type) := List Char → Option (α × List Char)

def skipBlanks (s : List Char) : List Char :=
  s.dropWhile fun c => c == ' ' || c == '\n' || c == '\t' || c == '\r'

/-! ### Numbers -/

/-- The greatest unsigned integer of 64 bits. -/
def maxWord : Nat := 18446744073709551615

/-- `10 ^ k` as a double. -/
private def power (k : Nat) : Binary :=
  Binary.ofRatio binary64 false (powTen k) 1

/--
Scale a double by a power of ten in double arithmetic, by at most 308 powers a step; nothing if
it overflows. `fuel` bounds the steps, more than enough of which underflow to zero.
-/
private def scale : Nat → Binary → Int → Option Binary
  | 0, x, _ => some x
  | fuel + 1, x, e =>
    if e.natAbs ≤ 308 then
      if 0 ≤ e then
        let y := Binary.mul binary64 x (power e.toNat)
        if y.isFinite then some y else none
      else some (Binary.div binary64 x (power e.natAbs))
    else if x.isZero then some x
    else if 0 ≤ e then none
    else scale fuel (Binary.div binary64 x (power 308)) (e + 308)

/-- The double of a significand of 64 bits and a decimal exponent. -/
private def ofParts (negative : Bool) (significand : Nat) (exponent : Int) : Option Json :=
  (scale 8 (Binary.ofRatio binary64 false significand 1) exponent).map fun x =>
    .double (if negative then x.neg else x)

/-- The digits of an exponent. One past 32 bits is an error for a number that is not zero. -/
private def readPower (negative : Bool) (significand : Nat) (start : Int) :
    Reader Json := fun s =>
  let (down, s) := match s with
    | '+' :: r => (false, r)
    | '-' :: r => (true, r)
    | r => (false, r)
  let ds := s.takeWhile Char.isDigit
  let rest := s.dropWhile Char.isDigit
  if ds = [] then none
  else
    let e := Number.digitsValue 0 ds
    if 2147483647 < e then
      if significand ≠ 0 ∧ down = false then none
      else some (.double (.finite negative 0 binary64.least), rest)
    else
      let sum := if down then start - e else start + e
      let sum := max (-2147483648) (min 2147483647 sum)
      (ofParts negative significand sum).map (·, rest)

private def readTail (negative : Bool) (significand : Nat) (exponent : Int) :
    Reader Json
  | c :: r =>
    if c == 'e' || c == 'E' then readPower negative significand exponent r
    else (ofParts negative significand exponent).map (·, c :: r)
  | [] => (ofParts negative significand exponent).map (·, [])

/-- Digits taken into the significand while it fits 64 bits, and the digits left over. -/
private def takeFitting (significand : Nat) : List Char → Nat × Nat × List Char
  | [] => (significand, 0, [])
  | c :: r =>
    if c.isDigit then
      let next := 10 * significand + digitValue c
      if next ≤ maxWord then
        let (n, taken, rest) := takeFitting next r
        (n, taken + 1, rest)
      else (significand, 0, c :: r)
    else (significand, 0, c :: r)

/-- The digits after the point; those that no longer fit are dropped. -/
private def readFraction (negative : Bool) (significand : Nat) (exponent : Int) :
    Reader Json := fun s =>
  let (n, taken, rest) := takeFitting significand s
  let more := rest.takeWhile Char.isDigit
  if taken = 0 ∧ more = [] then none
  else readTail negative n (exponent - taken) (rest.dropWhile Char.isDigit)

private def readUnsigned (negative : Bool) : Reader Json := fun s =>
  let (n, taken, rest) := takeFitting 0 s
  let more := rest.takeWhile Char.isDigit
  let rest := rest.dropWhile Char.isDigit
  if taken = 0 then none
  else if s.head? == some '0' ∧ 1 < taken then none
  else
    match rest with
    | '.' :: r => readFraction negative n more.length r
    | c :: r =>
      if c == 'e' || c == 'E' then readPower negative n more.length r
      else if more ≠ [] then (ofParts negative n more.length).map (·, c :: r)
      else some (whole n, c :: r)
    | [] =>
      if more ≠ [] then (ofParts negative n more.length).map (·, [])
      else some (whole n, [])
where
  /-- A number without point and exponent. A negative zero and one past 64 bits are doubles. -/
  whole (n : Nat) : Json :=
    if negative then
      if n = 0 ∨ Number.maxInt64 + 1 < n then .double (Binary.ofRatio binary64 true n 1)
      else .int (-(n : Int))
    else .int n

private def readNumber : Reader Json
  | '-' :: r => readUnsigned true r
  | r => readUnsigned false r

/-! ### Strings -/

def hexValue? (c : Char) : Option Nat :=
  if c.isDigit then some (c.toNat - 48)
  else if 'a' ≤ c ∧ c ≤ 'f' then some (c.toNat - 87)
  else if 'A' ≤ c ∧ c ≤ 'F' then some (c.toNat - 55)
  else none

private def readUnit : Reader Nat
  | a :: b :: c :: d :: r => do
    let a ← hexValue? a
    let b ← hexValue? b
    let c ← hexValue? c
    let d ← hexValue? d
    some (((a * 16 + b) * 16 + c) * 16 + d, r)
  | _ => none

/-- The character of an escape, after the backslash. Two units of a pair stand together. -/
private def readEscape : Reader Char
  | [] => none
  | c :: r =>
    match c with
    | '"' => some ('"', r)
    | '\\' => some ('\\', r)
    | '/' => some ('/', r)
    | 'b' => some (Char.ofNat 8, r)
    | 'f' => some (Char.ofNat 12, r)
    | 'n' => some ('\n', r)
    | 'r' => some ('\r', r)
    | 't' => some ('\t', r)
    | 'u' => do
      let (n, r) ← readUnit r
      if n < 0xD800 ∨ 0xE000 ≤ n then some (Char.ofNat n, r)
      else if 0xDC00 ≤ n then none
      else
        match r with
        | '\\' :: 'u' :: r => do
          let (m, r) ← readUnit r
          if 0xDC00 ≤ m ∧ m < 0xE000 then
            some (Char.ofNat (0x10000 + (n - 0xD800) * 0x400 + (m - 0xDC00)), r)
          else none
        | _ => none
    | _ => none

/-- The characters of a string after its opening quote; `acc` holds those read, last first. -/
private def readChars : Nat → List Char → Reader String
  | 0, _, _ => none
  | _ + 1, _, [] => none
  | fuel + 1, acc, c :: r =>
    if c == '"' then some (String.ofList acc.reverse, r)
    else if c == '\\' then
      match readEscape r with
      | some (d, r) => readChars fuel (d :: acc) r
      | none => none
    else if c.toNat < 32 then none
    else readChars fuel (c :: acc) r

private def readString : Reader String
  | '"' :: r => readChars (r.length + 1) [] r
  | _ => none

/-! ### Values -/

private def readWord (word : String) (value : Json) : Reader Json := fun s =>
  let w := word.toList
  if w.isPrefixOf s then some (value, s.drop w.length) else none

mutual

/-- A value nested at most `depth` deep. -/
private def readValue : Nat → Nat → Reader Json
  | 0, _, _ => none
  | fuel + 1, depth, s =>
    match skipBlanks s with
    | [] => none
    | c :: r =>
      if c == '[' then
        match depth with
        | 0 => none
        | depth + 1 =>
          match skipBlanks r with
          | ']' :: r => some (.array [], r)
          | r => readItems fuel depth [] r
      else if c == '\x7b' then
        match depth with
        | 0 => none
        | depth + 1 =>
          match skipBlanks r with
          | '\x7d' :: r => some (.object [], r)
          | r => readMembers fuel depth [] r
      else if c == '"' then (readString (c :: r)).map fun (s, r) => (.string s, r)
      else if c == 'n' then readWord "null" .null (c :: r)
      else if c == 't' then readWord "true" (.bool true) (c :: r)
      else if c == 'f' then readWord "false" (.bool false) (c :: r)
      else readNumber (c :: r)

/-- The items of an array up to its end; `acc` holds those read, last first. -/
private def readItems : Nat → Nat → List Json → Reader Json
  | 0, _, _, _ => none
  | fuel + 1, depth, acc, s =>
    match readValue fuel depth s with
    | none => none
    | some (v, r) =>
      match skipBlanks r with
      | ',' :: r => readItems fuel depth (v :: acc) r
      | ']' :: r => some (.array (v :: acc).reverse, r)
      | _ => none

private def readMembers : Nat → Nat → Members → Reader Json
  | 0, _, _, _ => none
  | fuel + 1, depth, acc, s =>
    match readString (skipBlanks s) with
    | none => none
    | some (key, r) =>
      match skipBlanks r with
      | ':' :: r =>
        match readValue fuel depth r with
        | none => none
        | some (v, r) =>
          match skipBlanks r with
          | ',' :: r => readMembers fuel depth (acc.insert key v) r
          | '\x7d' :: r => some (.object (acc.insert key v), r)
          | _ => none
      | _ => none

end

def nestingLimit : Nat := 127

/-- The value that a whole text denotes, nested at most `depth` deep. -/
def parseWithin? (depth : Nat) (text : List Char) : Option Json :=
  match readValue (2 * text.length + 2) depth text with
  | some (v, r) => if skipBlanks r = [] then some v else none
  | none => none

def parse? (text : List Char) : Option Json :=
  parseWithin? nestingLimit text

end FleetProfile.Json
