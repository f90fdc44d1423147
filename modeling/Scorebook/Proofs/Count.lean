import Mathlib.Algebra.GroupWithZero.Nat
import Scorebook.Count

/-!
# Sums of counts

Adding counts one by one, each sum held at the largest count, comes to the same as holding their
exact sum there once.
-/

namespace Scorebook.Count
open Text

/-- The sum of counts as numbers without a bound. -/
def exactSum (cs : List Count) : Nat := (cs.map UInt32.toNat).sum

variable {cs : List Count} {c : Count}

theorem toNat_foldl_add (cs : List Count) (c : Count) :
    (cs.foldl add c).toNat = min (c.toNat + exactSum cs) maxU32 := by
  induction cs generalizing c with
  | nil =>
    have hle := toNat_le c
    simp only [List.foldl_nil, exactSum, List.map_nil, List.sum_nil]
    omega
  | cons d ds ih =>
    rw [List.foldl_cons, ih, toNat_add]
    simp only [exactSum, List.map_cons, List.sum_cons]
    omega

theorem toNat_sum (cs : List Count) : (sum cs).toNat = min (exactSum cs) maxU32 := by
  rw [sum, toNat_foldl_add, UInt32.toNat_zero, Nat.zero_add]

theorem sum_eq_iff : sum cs = c ↔ min (exactSum cs) maxU32 = c.toNat := by
  rw [← UInt32.toNat_inj, toNat_sum]

/-- A held sum is the exact one, unless it is the largest count and the exact one is larger. -/
theorem held_eq_iff :
    min (exactSum cs) maxU32 = c.toNat ↔
      exactSum cs = c.toNat ∨ c.toNat = maxU32 ∧ maxU32 < exactSum cs := by
  have hle := toNat_le c
  omega

end Scorebook.Count
