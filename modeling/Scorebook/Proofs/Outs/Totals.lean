import Mathlib.Data.List.Induction
import Scorebook.Outs
import Scorebook.Proofs.Count

/-!
# Totals of outs

Outs are added as counts are, every sum held at the largest count.  However appearances are ordered,
put together in partial sums or counted one by one, they come to their exact total, held there once.
-/

namespace Scorebook.Outs
open Text

/-- The outs of all appearances as a number without a bound. -/
def exactTotal (os : List Outs) : Nat := Count.exactSum (os.map count)

/-- The ways to add up appearances: in any order, and in partial sums that are added in turn. -/
inductive AddsUp : List Outs → Outs → Prop
  | nothing : AddsUp [] ⟨0⟩
  | single (o : Outs) : AddsUp [o] o
  | together {os ps : List Outs} {o p : Outs} (ho : AddsUp os o) (hp : AddsUp ps p) :
      AddsUp (os ++ ps) (add o p)
  | reordered {os ps : List Outs} {o : Outs} (h : os.Perm ps) (ho : AddsUp os o) : AddsUp ps o

variable {os ps : List Outs} {o p : Outs}

theorem eq_of_toNat_count (h : o.count.toNat = p.count.toNat) : o = p := by
  cases o
  cases p
  exact congrArg Outs.mk (UInt32.toNat_inj.1 h)

theorem toNat_count_add (o p : Outs) :
    (add o p).count.toNat = min (o.count.toNat + p.count.toNat) maxU32 :=
  Count.toNat_add o.count p.count

theorem exactTotal_perm (h : os.Perm ps) : exactTotal os = exactTotal ps :=
  ((h.map count).map UInt32.toNat).sum_nat

/-! ### Sums -/

theorem count_foldl_add (os : List Outs) (o : Outs) :
    (os.foldl add o).count = (os.map count).foldl Count.add o.count := by
  induction os generalizing o with
  | nil => rfl
  | cons p os ih => exact ih (add o p)

theorem toNat_count_foldl_add (os : List Outs) (o : Outs) :
    (os.foldl add o).count.toNat = min (o.count.toNat + exactTotal os) maxU32 := by
  rw [count_foldl_add, Count.toNat_foldl_add]
  rfl

theorem toNat_count_sum (os : List Outs) :
    (sum os).count.toNat = min (exactTotal os) maxU32 := by
  rw [sum, toNat_count_foldl_add, UInt32.toNat_zero, Nat.zero_add]

theorem sum_eq_of_exactTotal (h : exactTotal os = exactTotal ps) : sum os = sum ps := by
  apply eq_of_toNat_count
  rw [toNat_count_sum, toNat_count_sum, h]

/-- What was counted before is added to the sum of what is counted after it. -/
theorem foldl_add_eq (os : List Outs) (o : Outs) : os.foldl add o = add o (sum os) := by
  apply eq_of_toNat_count
  rw [toNat_count_foldl_add, toNat_count_add, toNat_count_sum]
  omega

theorem sum_append (os ps : List Outs) : sum (os ++ ps) = add (sum os) (sum ps) := by
  rw [sum, List.foldl_append]
  exact foldl_add_eq ps (sum os)

theorem sum_singleton (o : Outs) : sum [o] = o := by
  apply eq_of_toNat_count
  have hle := Count.toNat_le o.count
  rw [toNat_count_sum]
  simp only [exactTotal, Count.exactSum, List.map_cons, List.map_nil, List.sum_cons, List.sum_nil]
  omega

theorem sum_map_sum (parts : List (List Outs)) : sum (parts.map sum) = sum parts.flatten := by
  induction parts with
  | nil => rfl
  | cons os parts ih =>
    have hcons : sum (sum os :: parts.map sum) = add (sum os) (sum (parts.map sum)) := by
      rw [← List.singleton_append, sum_append, sum_singleton]
    rw [List.map_cons, List.flatten_cons, hcons, ih, sum_append]

/-! ### Ways to add up -/

theorem AddsUp.eq_sum (h : AddsUp os o) : o = sum os := by
  induction h with
  | nothing => rfl
  | single o => exact (sum_singleton o).symm
  | together _ _ ho hp => rw [ho, hp, sum_append]
  | reordered h _ ho => exact ho.trans (sum_eq_of_exactTotal (exactTotal_perm h))

theorem addsUp_sum (os : List Outs) : AddsUp os (sum os) := by
  induction os using List.reverseRecOn with
  | nil => exact .nothing
  | append_singleton os o ih =>
    rw [sum_append, sum_singleton]
    exact .together ih (.single o)

theorem run_forM_tally (os : List Outs) (start : Outs) :
    (os.forM tally).run start = ((), add start (sum os)) := by
  have hfold : (os.forM tally).run start = ((), os.foldl add start) := by
    induction os generalizing start with
    | nil => rfl
    | cons o os ih => exact ih (add start o)
  rw [hfold, foldl_add_eq]

/-- The sum of outs is their exact total, held at the largest count.  It does not depend on the
order, on the partial sums that are taken on the way, or on whether the appearances are summed or
counted one by one from where a count stands. -/
theorem total_of_outs :
    (∀ os : List Outs, (sum os).count.toNat = min (exactTotal os) maxU32) ∧
    (∀ os ps : List Outs, os.Perm ps → sum os = sum ps) ∧
    (∀ parts : List (List Outs), sum (parts.map sum) = sum parts.flatten) ∧
    (∀ (os : List Outs) (o : Outs), AddsUp os o ↔ o = sum os) ∧
    ∀ (os : List Outs) (start : Outs), (os.forM tally).run start = ((), add start (sum os)) := by
  refine ⟨toNat_count_sum, ?_, sum_map_sum, ?_, run_forM_tally⟩
  · intro os ps h
    exact sum_eq_of_exactTotal (exactTotal_perm h)
  · intro os o
    refine ⟨AddsUp.eq_sum, ?_⟩
    rintro rfl
    exact addsUp_sum os

/-- Appearances with more outs than a count can hold. -/
def longSeason : List Outs := [⟨4294967290⟩, ⟨16⟩, ⟨1⟩]

theorem total_of_longSeason :
    longSeason.Perm [⟨1⟩, ⟨4294967290⟩, ⟨16⟩] ∧
      sum longSeason = sum [⟨1⟩, ⟨4294967290⟩, ⟨16⟩] ∧
      add ⟨4294967290⟩ (add ⟨16⟩ ⟨1⟩) = sum longSeason ∧
      (longSeason.forM tally).run ⟨3⟩ = ((), add ⟨3⟩ (sum longSeason)) ∧
      exactTotal longSeason = 4294967307 ∧ (sum longSeason).count.toNat = 4294967295 := by
  obtain ⟨htotal, hperm, -, hways, htally⟩ := total_of_outs
  have horder : longSeason.Perm [⟨1⟩, ⟨4294967290⟩, ⟨16⟩] := by decide
  have hpartial : AddsUp longSeason (add ⟨4294967290⟩ (add ⟨16⟩ ⟨1⟩)) :=
    .together (.single _) (.together (.single _) (.single _))
  exact ⟨horder, hperm _ _ horder, (hways _ _).1 hpartial, htally _ _, rfl, htotal _⟩

end Scorebook.Outs
