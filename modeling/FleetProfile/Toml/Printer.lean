import FleetProfile.Bytes.Hex
import FleetProfile.Number.Shortest
import FleetProfile.Toml.Basic
/-!
The text of a document: each string in the plainest of the four forms that TOML has for it, and a
blank line before each header.
-/
namespace FleetProfile.Toml

def apostrophe : Char := '\x27'

/-! ### Strings -/

/-- Whether a character is escaped wherever it stands: a control, but no tab or line break. -/
def isCode (c : Char) : Bool :=
  c.toNat ≤ 8 || (11 ≤ c.toNat && c.toNat ≤ 31) || c.toNat == 127

/-- The length of the longest row of a character; `run` of them stand before the text. -/
def longestRun (c : Char) (run : Nat) : List Char → Nat
  | [] => run
  | d :: r => if d == c then longestRun c (run + 1) r else max run (longestRun c 0 r)

/-- The forms of a string. A block may go over several lines, a literal has no escapes. -/
inductive Form where
  | basic
  | literal
  | basicBlock
  | literalBlock
deriving DecidableEq, Repr

/-- The first form that holds a text without escapes, or a basic one with them. -/
def Form.plainest (s : List Char) : Form :=
  let codes := s.any isCode
  let slashes := s.contains '\\'
  let breaks := s.contains '\n'
  if !codes && !slashes && !breaks && !s.contains '"' then .basic
  else if !codes && !breaks && !s.contains apostrophe then .literal
  else if !codes && !slashes && longestRun '"' 0 s ≤ 2 then .basicBlock
  else if !codes && longestRun apostrophe 0 s ≤ 2 then .literalBlock
  else if breaks then .basicBlock
  else .basic

/-- A character other than the quote inside a basic string. A block keeps its line breaks. -/
def escapedChar (block : Bool) (c : Char) : List Char :=
  if c.toNat == 8 then ['\\', 'b']
  else if c == '\t' then ['\\', 't']
  else if c == '\n' then (if block then ['\n'] else ['\\', 'n'])
  else if c.toNat == 12 then ['\\', 'f']
  else if c == '\r' then ['\\', 'r']
  else if c == '\\' then ['\\', '\\']
  else if isCode c then
    ['\\', 'u', '0', '0', Bytes.hexDigit (c.toNat / 16), Bytes.hexDigit (c.toNat % 16)]
  else [c]

/--
The characters inside a basic string. A block keeps up to two quotes in a row; `run` of them stand
before the text.
-/
def basicText (block : Bool) (run : Nat) : List Char → List Char
  | [] => []
  | c :: r =>
    if c == '"' then
      if block && run < 2 then '"' :: basicText block (run + 1) r
      else '\\' :: '"' :: basicText block 0 r
    else escapedChar block c ++ basicText block 0 r

def blockStart (s : List Char) : List Char :=
  if s.contains '\n' then ['\n'] else []

def Form.write (form : Form) (s : List Char) : List Char :=
  match form with
  | .basic => '"' :: basicText false 0 s ++ ['"']
  | .literal => apostrophe :: s ++ [apostrophe]
  | .basicBlock =>
    '"' :: '"' :: '"' :: blockStart s ++ basicText true 0 s ++ ['"', '"', '"']
  | .literalBlock =>
    apostrophe :: apostrophe :: apostrophe :: blockStart s ++ s ++
      [apostrophe, apostrophe, apostrophe]

def stringText (s : String) : List Char :=
  (Form.plainest s.toList).write s.toList

/-! ### Keys -/

def isBare (c : Char) : Bool :=
  c.isAlphanum || c == '-' || c == '_'

/-- The form of a key that cannot do without quotes. It stays on its line. -/
def Form.ofKey (s : List Char) : Form :=
  let codes := s.any isCode || s.contains '\n'
  if !codes && !s.contains '\\' && !s.contains '"' then .basic
  else if !codes && !s.contains apostrophe then .literal
  else .basic

def keyText (key : String) : List Char :=
  let s := key.toList
  if s ≠ [] ∧ s.all isBare then s else (Form.ofKey s).write s

def pathText : List String → List Char
  | [] => []
  | [key] => keyText key
  | key :: path => keyText key ++ '.' :: pathText path

/-! ### Values and lines -/

mutual

def valueText : Value → List Char
  | .string s => stringText s
  | .integer n => (toString n).toList
  | .float x => (Number.Binary.text Number.binary64 x).toList
  | .boolean b => (if b then "true" else "false").toList
  | .moment text => text.toList
  | .array items => '[' :: itemsText items
  | .table entries => '\x7b' :: entriesText entries

def itemsText : List Value → List Char
  | [] => [']']
  | [v] => valueText v ++ [']']
  | v :: vs => valueText v ++ ',' :: ' ' :: itemsText vs

def entriesText : List (String × Value) → List Char
  | [] => ['\x7d']
  | [(k, v)] => ' ' :: keyText k ++ ' ' :: '=' :: ' ' :: valueText v ++ [' ', '\x7d']
  | (k, v) :: es => ' ' :: keyText k ++ ' ' :: '=' :: ' ' :: valueText v ++ ',' :: entriesText es

end

/-- A line with its end, a header with a blank line before it. -/
def Line.text : Line → List Char
  | .table path => '\n' :: '[' :: pathText path ++ [']', '\n']
  | .element path => '\n' :: '[' :: '[' :: pathText path ++ [']', ']', '\n']
  | .entry key value => pathText key ++ ' ' :: '=' :: ' ' :: valueText value ++ ['\n']

def documentText (lines : List Line) : List Char :=
  lines.flatMap Line.text

end FleetProfile.Toml
