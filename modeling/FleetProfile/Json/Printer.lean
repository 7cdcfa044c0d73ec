import FleetProfile.Json.Basic
import FleetProfile.Number.Shortest
import FleetProfile.Text.Column
/-!
The text of a JSON value, on one line or indented by two blanks a level.
-/
namespace FleetProfile.Json

open Number (Binary binary64)

def escapedChar (c : Char) : List Char :=
  if c == '"' then ['\\', '"']
  else if c == '\\' then ['\\', '\\']
  else if c == '\n' then ['\\', 'n']
  else if c == '\r' then ['\\', 'r']
  else if c == '\t' then ['\\', 't']
  else if c.toNat == 8 then ['\\', 'b']
  else if c.toNat == 12 then ['\\', 'f']
  else if c.toNat < 32 then
    let digits := Nat.toDigits 16 c.toNat
    ['\\', 'u'] ++ List.replicate (4 - digits.length) '0' ++ digits
  else [c]

def stringText (s : String) : List Char :=
  '"' :: s.toList.flatMap escapedChar ++ ['"']

def scalarText : Json → List Char
  | .null => "null".toList
  | .bool b => (if b then "true" else "false").toList
  | .int n => (toString n).toList
  | .double x => if x.isFinite then (Binary.text binary64 x).toList else "null".toList
  | .string s => stringText s
  | .array _ => ['[', ']']
  | .object _ => ['\x7b', '\x7d']

mutual

def compactText : Json → List Char
  | .array [] => ['[', ']']
  | .array (v :: vs) => '[' :: compactText v ++ compactItems vs
  | .object [] => ['\x7b', '\x7d']
  | .object ((k, v) :: ms) => '\x7b' :: stringText k ++ ':' :: compactText v ++ compactMembers ms
  | v => scalarText v

/-- The items of an array after the first, and its end. -/
def compactItems : List Json → List Char
  | [] => [']']
  | v :: vs => ',' :: compactText v ++ compactItems vs

/-- The members of an object after the first, and its end. -/
def compactMembers : List (String × Json) → List Char
  | [] => ['\x7d']
  | (k, v) :: ms => ',' :: stringText k ++ ':' :: compactText v ++ compactMembers ms

end

private def newLine (level : Nat) : List Char :=
  '\n' :: List.replicate (2 * level) ' '

mutual

/-- The text of a value that stands at a level, one item or member a line. -/
def prettyText (level : Nat) : Json → List Char
  | .array [] => ['[', ']']
  | .array (v :: vs) =>
    '[' :: newLine (level + 1) ++ prettyText (level + 1) v ++ prettyItems level vs
  | .object [] => ['\x7b', '\x7d']
  | .object ((k, v) :: ms) =>
    '\x7b' :: newLine (level + 1) ++ stringText k ++ ':' :: ' ' :: prettyText (level + 1) v ++
      prettyMembers level ms
  | v => scalarText v

/-- The items of an array after the first, and its end. -/
def prettyItems (level : Nat) : List Json → List Char
  | [] => newLine level ++ [']']
  | v :: vs => ',' :: newLine (level + 1) ++ prettyText (level + 1) v ++ prettyItems level vs

/-- The members of an object after the first, and its end. -/
def prettyMembers (level : Nat) : List (String × Json) → List Char
  | [] => newLine level ++ ['\x7d']
  | (k, v) :: ms =>
    ',' :: newLine (level + 1) ++ stringText k ++ ':' :: ' ' :: prettyText (level + 1) v ++
      prettyMembers level ms

end

def compact (v : Json) : String :=
  String.ofList v.compactText

def pretty (v : Json) : String :=
  String.ofList (v.prettyText 0)

end FleetProfile.Json
