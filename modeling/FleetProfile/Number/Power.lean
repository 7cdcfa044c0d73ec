/-!
Powers of the bases that numbers are written in.
-/
namespace FleetProfile.Number

def powTwo (n : Nat) : Nat := Nat.pow 2 n

def powTen (n : Nat) : Nat := Nat.pow 10 n

end FleetProfile.Number
