import Scorebook.Text.Numeral

/-!
# Counts

A count is an unsigned 32-bit number.  Counts are added with saturation: a sum beyond the largest
count is the largest count.
-/

namespace Scorebook

/-- A count of things on a score sheet. -/
abbrev Count := UInt32

namespace Count
open Text

/-- The count of a natural number, the largest count when it does not fit. -/
def saturate (n : Nat) : Count := UInt32.ofNat (min n maxU32)

def add (a b : Count) : Count := saturate (a.toNat + b.toNat)

/-- The sum of a list, every addition held at the largest count. -/
def sum (cs : List Count) : Count := cs.foldl add 0

/-- The count of a natural number, when it fits. -/
def ofNat? (n : Nat) : Option Count := if n ≤ maxU32 then some (UInt32.ofNat n) else none

def read? (cs : List Char) : Option Count := (numeral? maxU32 cs).map UInt32.ofNat

def text (c : Count) : String := decimal c.toNat

theorem toNat_le (c : Count) : c.toNat ≤ maxU32 := by
  have h : c.toNat < 4294967296 := c.toNat_lt
  simp only [maxU32]
  omega

theorem toNat_saturate (n : Nat) : (saturate n).toNat = min n maxU32 := by
  have h : min n maxU32 < 4294967296 := by
    simp only [maxU32]
    omega
  simpa [saturate] using Nat.mod_eq_of_lt h

theorem toNat_add (a b : Count) : (add a b).toNat = min (a.toNat + b.toNat) maxU32 :=
  toNat_saturate _

end Count

end Scorebook
