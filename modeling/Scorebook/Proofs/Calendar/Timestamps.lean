import Scorebook.Calendar.Instant
import Scorebook.Proofs.Calendar.Compact

/-!
# Timestamps

The strict reader takes the timestamp of an instant back to the instant, part by part.  The instants
are those of a clock: in a year of four digits, with a second of the day, and with a full second of
extra nanoseconds only at the end of a minute.
-/

namespace Scorebook.Instant
open Text Calendar

/-- An instant as a clock gives it. -/
structure OfClock (t : Instant) : Prop where
  year_low : 0 ≤ t.date.year
  year_high : t.date.year ≤ 9999
  second_lt : t.second < 86400
  nano_lt : t.nano < 1000000000 ∨ t.second % 60 = 59 ∧ t.nano < 2000000000

theorem exactNumber_paddedDigits {width n : Nat} (hw : 0 < width) (hn : n < 10 ^ width)
    (rest : List Char) : exactNumber width (paddedDigits width n ++ rest) = .ok (n, rest) := by
  have hlen := length_paddedDigits hw hn
  have htake : (paddedDigits width n ++ rest).take width = paddedDigits width n :=
    List.take_left' hlen
  have hdrop : (paddedDigits width n ++ rest).drop width = rest := List.drop_left' hlen
  have hlong : ¬ (paddedDigits width n ++ rest).length < width := by
    rw [List.length_append, hlen]
    omega
  rw [exactNumber, if_neg hlong, htake, hdrop, if_pos (all_isDigit_paddedDigits width n),
    digitsValue_paddedDigits]

/-! ### The fraction of a second -/

theorem fraction_paddedDigits {width n : Nat} (hw : 0 < width) (hle : width ≤ 9)
    (hn : n < 10 ^ width) (rest : List Char) :
    fraction ('.' :: paddedDigits width n ++ '+' :: rest) =
      .ok (n * tenTo (9 - width), '+' :: rest) := by
  have hlen := length_paddedDigits hw hn
  have hdigits := all_isDigit_paddedDigits width n
  have hvalue : digitsValueFrom 0 (paddedDigits width n) = n := digitsValue_paddedDigits width n
  have hmax : digitsValueFrom 0 (paddedDigits width n) ≤ maxNumber :=
    digitsValueFrom_le_maxNumber hdigits (by omega)
  have hread := digitsUpTo_append hdigits hmax (9 - width) ('+' :: rest)
  have hstop : digitsUpTo (9 - width) (digitsValueFrom 0 (paddedDigits width n)) ('+' :: rest) =
      .ok (n, '+' :: rest) := by
    rw [hvalue]
    cases 9 - width <;> rfl
  obtain ⟨c, cs, hcons, hc⟩ := exists_paddedDigits_eq_cons width n
  have hnumber : number 9 (paddedDigits width n ++ '+' :: rest) = .ok (n, '+' :: rest) := by
    have hnine : width + (9 - width) = 9 := by omega
    rw [hlen, hnine, hstop, hcons, List.cons_append] at hread
    rw [hcons, List.cons_append, number, if_pos hc, hread]
  have hused : (paddedDigits width n ++ '+' :: rest).length - ('+' :: rest).length = width := by
    rw [List.length_append, hlen]
    omega
  rw [List.cons_append, fraction]
  simp only [hnumber, hused]
  rfl

/-- A fraction of a second is read back, whichever digits it has. -/
theorem fraction_fractionText (nano : Nat) (rest : List Char) :
    fraction (fractionText nano ++ '+' :: rest) = .ok (nano % 1000000000, '+' :: rest) := by
  have hlt : nano % 1000000000 < 1000000000 := Nat.mod_lt _ (by decide)
  unfold fractionText
  generalize nano % 1000000000 = n at hlt ⊢
  simp only []
  split
  · rename_i h0
    rw [h0]
    rfl
  split
  · rename_i h3
    rw [fraction_paddedDigits (by decide) (by decide) (by omega)]
    have hn : n / 1000000 * tenTo (9 - 3) = n := Nat.div_mul_cancel (Nat.dvd_of_mod_eq_zero h3)
    rw [hn]
  split
  · rename_i h6
    rw [fraction_paddedDigits (by decide) (by decide) (by omega)]
    have hn : n / 1000 * tenTo (9 - 6) = n := Nat.div_mul_cancel (Nat.dvd_of_mod_eq_zero h6)
    rw [hn]
  · rw [fraction_paddedDigits (by decide) (by decide) (by omega)]
    have hn : n * tenTo (9 - 9) = n := Nat.mul_one n
    rw [hn]

/-! ### The whole timestamp -/

theorem ofLocal_zero {d : Date} {second nano : Nat} (h : second < 86400) :
    ofLocal d second nano 0 = .ok ⟨d, second, nano⟩ := by
  have hlow : ¬ ((second : Int) - 0 < 0) := by omega
  have hhigh : ¬ ((second : Int) - 0 ≥ 86400) := by omega
  have hmod : (((second : Int) - 0) % 86400).toNat = second := by omega
  simp only [ofLocal, if_neg hlow, if_neg hhigh, hmod]

/-- The parts of a timestamp make up the instant that it was written for. -/
theorem ofParts_eq {t : Instant} (h : t.OfClock) :
    ofParts (t.date.year.toNat, t.date.month, t.date.day) (t.second / 3600) (t.second / 60 % 60)
      (t.second % 60 + t.nano / 1000000000) (t.nano % 1000000000) 0 = .ok t := by
  have hlow := h.year_low
  have hsecond := h.second_lt
  have hyear : (t.date.year.toNat : Int) = t.date.year := Int.toNat_of_nonneg hlow
  have hdate : realDate t.date.year.toNat t.date.month t.date.day = .ok t.date := by
    rw [hyear]
    exact realDate_ok.2 (dif_pos t.date.real)
  have hin : ¬ (t.second / 3600 > 23 ∨ t.second / 60 % 60 > 59 ∨
      t.second % 60 + t.nano / 1000000000 > 60) := by
    rcases h.nano_lt with hn | ⟨h59, hn⟩ <;> omega
  have htime : t.second / 3600 * 3600 + t.second / 60 % 60 * 60 +
      min (t.second % 60 + t.nano / 1000000000) 59 = t.second := by
    rcases h.nano_lt with hn | ⟨h59, hn⟩ <;> omega
  have hnano : (if t.second % 60 + t.nano / 1000000000 = 60 then
      1000000000 + t.nano % 1000000000 else t.nano % 1000000000) = t.nano := by
    rcases h.nano_lt with hn | ⟨h59, hn⟩ <;> split <;> omega
  rw [ofParts]
  simp only [hdate, bind, Except.bind]
  rw [if_neg hin, if_neg (by decide), htime, hnano, ofLocal_zero hsecond]

/-- The timestamp of an instant of the clock is read back. -/
theorem readStrict_offsetText {t : Instant} (h : t.OfClock) :
    readStrict t.offsetText.toList = .ok t := by
  have hsecond := h.second_lt
  have hmonth := month_le t.date
  have hday := day_le t.date
  have hyear : t.date.year.toNat < 10 ^ 4 := by
    have hhigh := h.year_high
    omega
  have hseconds : t.second % 60 + t.nano / 1000000000 < 10 ^ 2 := by
    rcases h.nano_lt with hn | ⟨h59, hn⟩ <;> omega
  have htext : t.offsetText.toList = paddedDigits 4 t.date.year.toNat ++
      '-' :: (paddedDigits 2 t.date.month ++ '-' :: (paddedDigits 2 t.date.day ++
        'T' :: (paddedDigits 2 (t.second / 3600) ++
          ':' :: (paddedDigits 2 (t.second / 60 % 60) ++
            ':' :: (paddedDigits 2 (t.second % 60 + t.nano / 1000000000) ++
              (fractionText t.nano ++ ['+', '0', '0', ':', '0', '0'])))))) := by
    simp only [offsetText, textWith, String.toList_ofList, Date.isoChars,
      yearText_toNat h.year_low h.year_high, timeText, List.append_assoc, List.cons_append]
  rw [htext, readStrict]
  rw [exactNumber_paddedDigits (by decide) hyear]
  simp only [bind, Except.bind, mark, if_true]
  rw [exactNumber_paddedDigits (by decide) (by omega)]
  simp only [if_true]
  rw [exactNumber_paddedDigits (by decide) (by omega)]
  simp only [daySeparator, true_or, if_true]
  rw [exactNumber_paddedDigits (by decide) (by omega)]
  simp only [if_true]
  rw [exactNumber_paddedDigits (by decide) (by omega)]
  simp only [if_true]
  rw [exactNumber_paddedDigits (by decide) hseconds]
  simp only []
  rw [fraction_fractionText]
  exact ofParts_eq h

end Scorebook.Instant
