import FleetProfile.Bytes.Hex
import FleetProfile.Json.Parser
import FleetProfile.Query.Temporal
/-!
Casts between the types of the database. A value that the type cannot hold is refused.
-/
namespace FleetProfile.Query

open Number (Binary binary32 binary64 powTen)

/-- The nearest integer to a quotient, the one farther from zero of two. -/
def roundAway (n : Int) (d : Nat) : Int :=
  let q : Int := ((2 * n.natAbs + d) / (2 * d) : Nat)
  if n < 0 then -q else q

def rescale (units : Int) (scale target : Nat) : Int :=
  if scale ≤ target then units * (powTen (target - scale) : Int)
  else roundAway units (powTen (scale - target))

/-- The integer nearest to a floating-point number, the even one of two. -/
def roundedInt? : Binary → Option Int
  | .finite s m e =>
    let x := Binary.fraction m e
    let n : Int := Number.roundEven x.1 x.2
    some (if s then -n else n)
  | _ => none

def quotient (fmt : Number.Format) (n : Int) (d : Nat) : Binary :=
  Binary.ofRatio fmt (decide (n < 0)) n.natAbs d

/-- A decimal in a text: a sign, digits and a point, as units with a number of places. -/
def decimalOfText? (s : List Char) : Option (Int × Nat) :=
  let (negative, body) := Number.splitSign s
  let whole := body.takeWhile Char.isDigit
  let part := match body.dropWhile Char.isDigit with
    | [] => some []
    | '.' :: r => if r.all Char.isDigit then some r else none
    | _ => none
  match part with
  | none => none
  | some part =>
    if whole = [] ∧ part = [] then none
    else
      let n : Int := Number.digitsValue 0 (whole ++ part)
      some (if negative then -n else n, part.length)

/-- The bytes of a text; a byte may be given by two hexadecimal digits after a backslash and `x`. -/
def bytesOfText? : List Char → Option (List UInt8)
  | [] => some []
  | '\\' :: 'x' :: a :: b :: r => do
    let a ← Json.hexValue? a
    let b ← Json.hexValue? b
    (bytesOfText? r).map (UInt8.ofNat (16 * a + b) :: ·)
  | c :: r =>
    if c == '\\' || 128 ≤ c.toNat then none else (bytesOfText? r).map (UInt8.ofNat c.toNat :: ·)

def booleanOfText? (text : String) : Option Bool :=
  match Text.lower (Text.trimmed text) with
  | "t" | "true" | "1" => some true
  | "f" | "false" | "0" => some false
  | _ => none

def Cell.asText : Cell → String
  | .null => ""
  | .boolean b => if b then "true" else "false"
  | .integer _ n => toString n
  | .decimal _ scale n => decimalText scale n
  | .float x => Binary.text binary32 x
  | .double x => Binary.text binary64 x
  | .text s => s
  | .date days => String.ofList (Time.Instant.dateText (Time.Date.ofDays days))
  | .timestamp unit count =>
    let t := Time.Instant.ofMicros (unit.toMicros count)
    let fraction := t.fraction / 1000
    let part := (Text.zeroPad 6 fraction).reverse.dropWhile (· == '0') |>.reverse
    String.ofList (Time.Instant.dateText t.date ++ ' ' :: t.clockText ++
      (if part = [] then [] else '.' :: part))
  | .blob bytes => String.ofList (bytes.flatMap fun b =>
      if 32 ≤ b.toNat ∧ b.toNat < 127 then [Char.ofNat b.toNat]
      else ['\\', 'x', Bytes.hexDigit (b.toNat / 16), Bytes.hexDigit (b.toNat % 16)])

/-- A number of a cell as a quotient, if it is one. -/
def Cell.asQuotient? : Cell → Option (Int × Nat)
  | .boolean b => some (if b then 1 else 0, 1)
  | .integer _ n => some (n, 1)
  | .decimal _ scale n => some (n, powTen scale)
  | .float (.finite s m e) | .double (.finite s m e) =>
    let x := Binary.fraction m e
    some (if s then -(x.1 : Int) else x.1, x.2)
  | _ => none

def Cell.asInteger? : Cell → Option Int
  | .boolean b => some (if b then 1 else 0)
  | .integer _ n => some n
  | .decimal _ scale n => some (rescale n scale 0)
  | .float x | .double x => roundedInt? x
  | .text s => (decimalOfText? (Text.trim s.toList)).map fun d => rescale d.1 d.2 0
  | _ => none

def Cell.asBinary? (fmt : Number.Format) : Cell → Option Binary
  | .float x | .double x =>
    match x, Binary.convert fmt x with
    | .finite .., .infinite _ => none
    | _, y => some y
  | .text s => (Number.readDouble? (Text.trim s.toList)).map (Binary.convert fmt)
  | c => c.asQuotient?.map fun x => quotient fmt x.1 x.2

def Cell.asUnits? (scale : Nat) : Cell → Option Int
  | .integer _ n => some (rescale n 0 scale)
  | .decimal _ own n => some (rescale n own scale)
  | .text s => (decimalOfText? (Text.trim s.toList)).map fun d => rescale d.1 d.2 scale
  | c => c.asQuotient?.map fun x => roundAway (x.1 * (powTen scale : Int)) x.2

/-- A cell as one of another type, if that holds it. -/
def Cell.cast? (type : CellType) (cell : Cell) : Option Cell :=
  match cell with
  | .null => some .null
  | cell =>
    match type with
    | .boolean =>
      match cell with
      | .text s => (booleanOfText? s).map .boolean
      | c => c.asQuotient?.map fun x => .boolean (x.1 != 0)
    | .integer t => (cell.asInteger?.filter t.holds).map (.integer t)
    | .decimal width scale =>
      ((cell.asUnits? scale).filter fun n => n.natAbs < powTen width).map (.decimal width scale)
    | .float => (cell.asBinary? binary32).map .float
    | .double => (cell.asBinary? binary64).map .double
    | .text => some (.text cell.asText)
    | .date =>
      match cell with
      | .date days => some (.date days)
      | .text s => (dayOfText? s).map .date
      | .timestamp unit count =>
        (convertCount? unit .micro count).map fun n => .date (n / 86400000000)
      | _ => none
    | .timestamp unit =>
      match cell with
      | .timestamp own count => (convertCount? own unit count).map (.timestamp unit)
      | .text s => (countOfText? unit s).map (.timestamp unit)
      | .date days =>
        let micros := days * 86400000000
        if isTimestampCount micros then (ofMicros? unit micros).map (.timestamp unit) else none
      | _ => none
    | .blob =>
      match cell with
      | .blob bytes => some (.blob bytes)
      | .text s => (bytesOfText? s.toList).map .blob
      | _ => none

/-- The type of a cell; the null has none. -/
def Cell.type? : Cell → Option CellType
  | .null => none
  | .boolean _ => some .boolean
  | .integer t _ => some (.integer t)
  | .decimal width scale _ => some (.decimal width scale)
  | .float _ => some .float
  | .double _ => some .double
  | .text _ => some .text
  | .date _ => some .date
  | .timestamp unit _ => some (.timestamp unit)
  | .blob _ => some .blob

/-- How two cells of one type compare; a floating-point number that is none comes last. -/
def Cell.compareSame : Cell → Cell → Option Ordering
  | .boolean a, .boolean b => some (compare a.toNat b.toNat)
  | .text a, .text b => some (compareOfLessAndEq a b)
  | .date a, .date b => some (compare a b)
  | .timestamp u a, .timestamp v b =>
    if u = v then some (compare a b) else some (compare (u.toMicros a) (v.toMicros b))
  | .blob a, .blob b => some (compare (a.map UInt8.toNat) (b.map UInt8.toNat))
  | a, b =>
    match a.asQuotient?, b.asQuotient? with
    | some x, some y => some (compare (x.1 * y.2) (y.1 * x.2))
    | _, _ => none

/-- How two cells compare. A text is read as the type of the other one. -/
def Cell.compare? (a b : Cell) : Option Ordering :=
  match a, b with
  | .text _, .text _ => a.compareSame b
  | .text _, b => (b.type?.bind fun t => a.cast? t).bind fun a => a.compareSame b
  | a, .text _ => (a.type?.bind fun t => b.cast? t).bind fun b => a.compareSame b
  | a, b => a.compareSame b

end FleetProfile.Query
