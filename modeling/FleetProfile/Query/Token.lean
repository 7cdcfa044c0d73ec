import FleetProfile.Text.Case
/-!
The words, literals and signs of a query.
-/
namespace FleetProfile.Query

inductive Token where
  /-- A name or keyword without quotes. -/
  | word (text : String)
  /-- A name between double quotes. -/
  | name (text : String)
  /-- A text between single quotes. -/
  | text (value : String)
  /-- A number, as its digits before and after the point and its exponent. -/
  | number (whole part : List Char) (exponent : Option Int)
  | sign (text : String)
deriving DecidableEq, Repr, Inhabited

namespace Token

def isWordStart (c : Char) : Bool :=
  c.isAlpha || c == '_' || 128 ≤ c.toNat

def isWordRest (c : Char) : Bool :=
  isWordStart c || c.isDigit || c == '$'

def textQuote : Char := '\x27'

/-- The characters up to a quote that is not doubled, and what follows it. -/
def readQuoted (quote : Char) : List Char → List Char → Option (String × List Char)
  | _, [] => none
  | acc, [c] => if c == quote then some (String.ofList acc.reverse, []) else none
  | acc, c :: d :: r =>
    if c == quote then
      if d == quote then readQuoted quote (quote :: acc) r
      else some (String.ofList acc.reverse, d :: r)
    else readQuoted quote (c :: acc) (d :: r)

/-- The exponent of a number, if a whole one stands there. -/
def readExponent (s : List Char) : Option Int × List Char :=
  match s with
  | c :: r =>
    if c == 'e' || c == 'E' then
      let (negative, digits) := match r with
        | '-' :: r => (true, r)
        | '+' :: r => (false, r)
        | r => (false, r)
      let ds := digits.takeWhile Char.isDigit
      if ds = [] then (none, s)
      else
        let n : Int := ds.foldl (fun n d => 10 * n + (d.toNat - 48)) 0
        (some (if negative then -n else n), digits.dropWhile Char.isDigit)
    else (none, s)
  | [] => (none, s)

def readNumber (s : List Char) : Token × List Char :=
  let whole := s.takeWhile Char.isDigit
  let rest := s.dropWhile Char.isDigit
  let (part, rest) := match rest with
    | '.' :: r => (r.takeWhile Char.isDigit, r.dropWhile Char.isDigit)
    | r => ([], r)
  let (exponent, rest) := readExponent rest
  (.number whole part exponent, rest)

def longSigns : List String := ["::", "<=", ">=", "<>", "!=", "=="]

def shortSigns : List Char := "()+-*/%,.;=<>".toList

/-- Drop a comment up to its end, if one begins here. -/
def skipComment : List Char → Option (List Char)
  | '-' :: '-' :: r => some (r.dropWhile (· != '\n'))
  | _ => none

/-- One token off the front, blanks and comments before it dropped by the caller. -/
def readOne (s : List Char) : Option (Token × List Char) :=
  match s with
  | [] => none
  | c :: r =>
    if isWordStart c then
      some (.word (String.ofList (s.takeWhile isWordRest)), s.dropWhile isWordRest)
    else if c == '"' then (readQuoted '"' [] r).map fun (t, r) => (.name t, r)
    else if c == textQuote then (readQuoted textQuote [] r).map fun (t, r) => (.text t, r)
    else if c.isDigit || (c == '.' && (r.head?.any Char.isDigit)) then some (readNumber s)
    else
      let two := String.ofList (s.take 2)
      if longSigns.contains two then some (.sign two, s.drop 2)
      else if shortSigns.contains c then some (.sign (String.ofList [c]), r)
      else none

def readAll : Nat → List Char → Option (List Token)
  | 0, _ => none
  | fuel + 1, s =>
    match s.dropWhile Char.isWhitespace with
    | [] => some []
    | s =>
      match skipComment s with
      | some r => readAll fuel r
      | none =>
        match readOne s with
        | none => none
        | some (t, r) => (readAll fuel r).map (t :: ·)

def scan (text : String) : Option (List Token) :=
  readAll (text.length + 1) text.toList

def isKeyword (word : String) : Token → Bool
  | .word w => Text.eqIgnoreAsciiCase w word
  | _ => false

end Token

end FleetProfile.Query
