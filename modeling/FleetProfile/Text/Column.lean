/-!
Texts in columns of a fixed width, counted in characters. A text that is too long is left whole.
-/
namespace FleetProfile.Text

def padRight (width : Nat) (s : String) : String :=
  s ++ String.ofList (List.replicate (width - s.length) ' ')

def padLeft (width : Nat) (s : String) : String :=
  String.ofList (List.replicate (width - s.length) ' ') ++ s

def zeroPad (width : Nat) (n : Nat) : List Char :=
  let digits := Nat.toDigits 10 n
  List.replicate (width - digits.length) '0' ++ digits

end FleetProfile.Text
