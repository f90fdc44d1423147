/-!
# Powers

Powers of the two bases of numbers: two for the floating-point format, ten for decimals.
-/

namespace Scorebook

def twoTo (n : Nat) : Nat := Nat.pow 2 n

def tenTo (n : Nat) : Nat := Nat.pow 10 n

end Scorebook
