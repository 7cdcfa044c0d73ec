import FleetProfile.Text.Printable
/-!
Quoted texts for messages: between double quotes, with every character that could mislead a
reader written as an escape.
-/
namespace FleetProfile.Text

/-- The hexadecimal digits of a number, small letters, no zeros in front. -/
def hexDigits (n : Nat) : List Char :=
  Nat.toDigits 16 n

def quotedChar (c : Char) : List Char :=
  if c == '\x00' then ['\\', '0']
  else if c == '\t' then ['\\', 't']
  else if c == '\r' then ['\\', 'r']
  else if c == '\n' then ['\\', 'n']
  else if c == '\\' || c == '"' then ['\\', c]
  else if isExtending c || !isPrintable c then
    ['\\', 'u', '\x7b'] ++ hexDigits c.toNat ++ ['\x7d']
  else [c]

def quoted (s : String) : String :=
  String.ofList ('"' :: s.toList.flatMap quotedChar ++ ['"'])

end FleetProfile.Text
