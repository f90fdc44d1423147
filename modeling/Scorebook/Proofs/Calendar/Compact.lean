import Scorebook.Proofs.Calendar.EightDigits

/-!
# Compact dates

A date of a year with four digits is written as eight digits, and these are read as the date.  No
other eight digits name it, and no other date is written with eight characters.
-/

namespace Scorebook.Calendar
open Text

section
variable {d : Date} (hlow : 0 ≤ d.year) (hhigh : d.year ≤ 9999)
include hlow hhigh

theorem yearText_toNat : Date.yearText d.year = paddedDigits 4 d.year.toNat := by
  exact if_pos ⟨hlow, hhigh⟩

theorem length_compact : d.compact.length = 8 := by
  have hyear : (paddedDigits 4 d.year.toNat).length = 4 :=
    length_paddedDigits (by decide) (by omega)
  have hmonth : (paddedDigits 2 d.month).length = 2 :=
    length_paddedDigits (by decide) (Nat.lt_of_le_of_lt (month_le d).2 (by decide))
  have hday : (paddedDigits 2 d.day).length = 2 :=
    length_paddedDigits (by decide) (Nat.lt_of_le_of_lt (day_le d).2 (by decide))
  rw [Date.compact, yearText_toNat hlow hhigh, List.length_append, List.length_append, hyear,
    hmonth, hday]

theorem all_isDigit_compact : d.compact.all Char.isDigit = true := by
  rw [Date.compact, yearText_toNat hlow hhigh, List.all_append, List.all_append,
    all_isDigit_paddedDigits, all_isDigit_paddedDigits, all_isDigit_paddedDigits]
  rfl

theorem dayOfDigits?_compact : dayOfDigits? d.compact = some d := by
  have hyear : (paddedDigits 4 d.year.toNat).length = 4 :=
    length_paddedDigits (by decide) (by omega)
  have hmonth : (paddedDigits 2 d.month).length = 2 :=
    length_paddedDigits (by decide) (Nat.lt_of_le_of_lt (month_le d).2 (by decide))
  have hfour : d.compact.take 4 = paddedDigits 4 d.year.toNat := by
    rw [Date.compact, yearText_toNat hlow hhigh, List.append_assoc]
    exact List.take_left' hyear
  have hrest : d.compact.drop 4 = paddedDigits 2 d.month ++ paddedDigits 2 d.day := by
    rw [Date.compact, yearText_toNat hlow hhigh, List.append_assoc]
    exact List.drop_left' hyear
  have hlast : d.compact.drop 6 = paddedDigits 2 d.day := by
    rw [← List.drop_drop (i := 2) (j := 4), hrest]
    exact List.drop_left' hmonth
  rw [dayOfDigits?, hfour, hrest, hlast, List.take_left' hmonth, digitsValue_paddedDigits,
    digitsValue_paddedDigits, digitsValue_paddedDigits, Int.toNat_of_nonneg hlow, Date.ofNumbers?,
    dif_pos d.real]

/-- A compact date of four year digits is read back. -/
theorem readCompact_compact : readCompact d.compact = .ok d :=
  readCompact_of_digits (length_compact hlow hhigh) (all_isDigit_compact hlow hhigh)
    (dayOfDigits?_compact hlow hhigh)

end

/-! ### The date that eight digits are -/

theorem width_le_length_paddedDigits (width n : Nat) : width ≤ (paddedDigits width n).length := by
  rw [paddedDigits, List.length_append, List.length_replicate]
  omega

/-- Any other year is written with a sign, and the date is longer than eight characters. -/
theorem year_of_length_compact {d : Date} (h : d.compact.length = 8) :
    0 ≤ d.year ∧ d.year ≤ 9999 := by
  by_contra hout
  have hyear : 4 < (Date.yearText d.year).length := by
    have hle := width_le_length_paddedDigits 4 d.year.natAbs
    rw [Date.yearText, if_neg hout, List.length_cons]
    omega
  have hmonth := width_le_length_paddedDigits 2 d.month
  have hday := width_le_length_paddedDigits 2 d.day
  rw [Date.compact, List.length_append, List.length_append] at h
  omega

theorem year_of_dayOfDigits? {cs : List Char} {d : Date} (hlen : cs.length = 8)
    (hds : cs.all Char.isDigit = true) (h : dayOfDigits? cs = some d) :
    0 ≤ d.year ∧ d.year ≤ 9999 := by
  obtain ⟨hyear, -, -⟩ := ofNumbers?_eq_some h
  have hfour : (cs.take 4).length = 4 := by rw [List.length_take, hlen]; rfl
  have hlt := digitsValue_lt (all_isDigit_of_subset hds (List.take_subset 4 cs))
  rw [hfour] at hlt
  omega

/-- The digits of a day are those with which its compact date is written. -/
theorem eq_compact_of_digits {cs : List Char} {d : Date} (hlen : cs.length = 8)
    (hds : cs.all Char.isDigit = true) (h : dayOfDigits? cs = some d) : cs = d.compact := by
  obtain ⟨hlow, hhigh⟩ := year_of_dayOfDigits? hlen hds h
  have hlen' := length_compact hlow hhigh
  have hds' := all_isDigit_compact hlow hhigh
  obtain ⟨hyear, hmonth, hday⟩ := ofNumbers?_eq_some h
  obtain ⟨hyear', hmonth', hday'⟩ := ofNumbers?_eq_some (dayOfDigits?_compact hlow hhigh)
  -- Each part has the same number of digits in both, and the same value.
  have hpart : ∀ {ds es : List Char}, ds ⊆ cs → es ⊆ d.compact → ds.length = es.length →
      digitsValue ds = digitsValue es → ds = es := by
    intro ds es hsub hsub' hsame hvalue
    have hd := all_isDigit_of_subset hds hsub
    have he := all_isDigit_of_subset hds' hsub'
    exact (digitsValueFrom_inj hd he hsame hvalue).2
  have hfour : cs.take 4 = d.compact.take 4 := by
    apply hpart (List.take_subset 4 cs) (List.take_subset 4 d.compact)
    · rw [List.length_take, List.length_take, hlen, hlen']
    · omega
  have hmiddle : (cs.drop 4).take 2 = (d.compact.drop 4).take 2 := by
    apply hpart
    · exact List.Subset.trans (List.take_subset 2 _) (List.drop_subset 4 cs)
    · exact List.Subset.trans (List.take_subset 2 _) (List.drop_subset 4 d.compact)
    · simp only [List.length_take, List.length_drop, hlen, hlen']
    · omega
  have hlast : cs.drop 6 = d.compact.drop 6 := by
    apply hpart (List.drop_subset 6 cs) (List.drop_subset 6 d.compact)
    · rw [List.length_drop, List.length_drop, hlen, hlen']
    · omega
  calc cs = cs.take 4 ++ ((cs.drop 4).take 2 ++ cs.drop 6) := (parts_append cs).symm
    _ = d.compact.take 4 ++ ((d.compact.drop 4).take 2 ++ d.compact.drop 6) := by
        rw [hfour, hmiddle, hlast]
    _ = d.compact := parts_append d.compact

end Scorebook.Calendar
