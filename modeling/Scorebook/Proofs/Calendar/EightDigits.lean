import Scorebook.Calendar.Reading
import Scorebook.Proofs.Basic
import Scorebook.Proofs.Text.Digits

/-!
# Dates of eight digits

Eight digits are read as the day that they name.  Compact dates are read leniently, but among eight
characters without a blank and without a sign the reader takes digits only: no part can be longer
than four, two and two digits, and none can be shorter, since nothing may be left over.
-/

namespace Scorebook.Calendar
open Text

/-- The day that eight digits name, when they name one. -/
def dayOfDigits? (cs : List Char) : Option Date :=
  Date.ofNumbers? (digitsValue (cs.take 4)) (digitsValue ((cs.drop 4).take 2))
    (digitsValue (cs.drop 6))

/-- Neither a blank nor a sign, which only lenient reading takes. -/
def isPlainMark (c : Char) : Bool := !isBlank c && c != '+' && c != '-'

theorem isPlainMark_of_isDigit {c : Char} (h : c.isDigit = true) : isPlainMark c = true := by
  have hplus : c ≠ '+' := by rintro rfl; cases h
  have hminus : c ≠ '-' := by rintro rfl; cases h
  simp [isPlainMark, isBlank_of_isDigit h, hplus, hminus]

theorem trimLeft_of_plain {cs : List Char} (h : cs.all isPlainMark = true) : trimLeft cs = cs := by
  cases cs with
  | nil => rfl
  | cons c cs =>
    have hc : isPlainMark c = true := (Bool.and_eq_true_iff.1 h).1
    have hblank : isBlank c = false := by
      simp only [isPlainMark, Bool.and_eq_true, Bool.not_eq_true'] at hc
      exact hc.1.1
    rw [trimLeft, List.dropWhile_cons_of_neg]
    rw [hblank]
    exact Bool.false_ne_true

/-! ### What a number takes -/

section
variable {width low high acc n : Nat} {cs rest : List Char}

theorem digitsUpTo_ok (h : digitsUpTo width acc cs = .ok (n, rest)) :
    ∃ ds, cs = ds ++ rest ∧ ds.all Char.isDigit = true ∧ ds.length ≤ width ∧
      n = digitsValueFrom acc ds := by
  induction width generalizing acc cs with
  | zero =>
    cases h
    exact ⟨[], rfl, rfl, Nat.le_refl 0, rfl⟩
  | succ width ih =>
    cases cs with
    | nil =>
      cases h
      exact ⟨[], rfl, rfl, Nat.zero_le _, rfl⟩
    | cons c cs =>
      simp only [digitsUpTo] at h
      split at h
      · rename_i hc
        split at h
        · cases h
        · obtain ⟨ds, hcs, hds, hlen, hn⟩ := ih h
          refine ⟨c :: ds, ?_, ?_, ?_, ?_⟩
          · rw [hcs, List.cons_append]
          · rw [List.all_cons, hc, hds, Bool.true_and]
          · rw [List.length_cons]
            omega
          · rw [hn, digitsValueFrom_cons]
      · cases h
        exact ⟨[], rfl, rfl, Nat.zero_le _, rfl⟩

theorem number_ok (h : number width cs = .ok (n, rest)) :
    ∃ ds, cs = ds ++ rest ∧ ds.all Char.isDigit = true ∧ ds.length ≤ width ∧
      n = digitsValue ds := by
  cases cs with
  | nil => cases h
  | cons c cs =>
    rw [number] at h
    split at h
    · exact digitsUpTo_ok h
    · cases h

theorem numberBetween_ok (hp : cs.all isPlainMark = true)
    (h : numberBetween low high width cs = .ok (n, rest)) :
    ∃ ds, cs = ds ++ rest ∧ ds.all Char.isDigit = true ∧ ds.length ≤ width ∧
      n = digitsValue ds := by
  rw [numberBetween, trimLeft_of_plain hp] at h
  split at h
  · cases h
  · rename_i m after hm
    split at h
    · cases h
      exact number_ok hm
    · cases h

theorem signedYear_ok {y : Int} (hp : cs.all isPlainMark = true)
    (h : signedYear cs = .ok (y, rest)) :
    ∃ ds, cs = ds ++ rest ∧ ds.all Char.isDigit = true ∧ ds.length ≤ 4 ∧ y = digitsValue ds := by
  have hunsigned : ∀ c r, cs = c :: r → c ≠ '-' ∧ c ≠ '+' := by
    rintro c r rfl
    have hc : isPlainMark c = true := (Bool.and_eq_true_iff.1 hp).1
    simp only [isPlainMark, Bool.and_eq_true, bne_iff_ne] at hc
    exact ⟨hc.2, hc.1.2⟩
  simp only [signedYear, trimLeft_of_plain hp] at h
  -- A year without a sign is the last of the three forms.
  split at h
  · cases h
  · rename_i year after hyear
    split at hyear
    · exact absurd rfl (hunsigned '-' _ rfl).1
    · exact absurd rfl (hunsigned '+' _ rfl).2
    · cases hm : number 4 cs with
      | error e =>
        rw [hm] at hyear
        cases hyear
      | ok p =>
        rw [hm] at hyear
        cases hyear
        split at h
        · cases h
          obtain ⟨ds, hcs, hds, hlen, hn⟩ := number_ok hm
          exact ⟨ds, hcs, hds, hlen, congrArg Int.ofNat hn⟩
        · cases h

end

/-! ### Reading digits -/

/-- Digits are read, and then what is left of the width. -/
theorem digitsUpTo_append {ds : List Char} (hds : ds.all Char.isDigit = true) {acc : Nat}
    (hmax : digitsValueFrom acc ds ≤ maxNumber) (more : Nat) (rest : List Char) :
    digitsUpTo (ds.length + more) acc (ds ++ rest) =
      digitsUpTo more (digitsValueFrom acc ds) rest := by
  induction ds generalizing acc with
  | nil =>
    have hnone : digitsValueFrom acc [] = acc := rfl
    rw [List.length_nil, Nat.zero_add, List.nil_append, hnone]
  | cons d ds ih =>
    rw [List.all_cons, Bool.and_eq_true] at hds
    have hnext : acc * 10 + digitValue d ≤ maxNumber :=
      Nat.le_trans (le_digitsValueFrom _ ds) hmax
    rw [List.length_cons, Nat.add_right_comm, List.cons_append, digitsUpTo, if_pos hds.1,
      if_neg (Nat.not_lt.2 hnext)]
    exact ih hds.2 hmax

theorem digitsValueFrom_le_maxNumber {ds : List Char} (hds : ds.all Char.isDigit = true)
    (hlen : ds.length ≤ 9) : digitsValueFrom 0 ds ≤ maxNumber := by
  have hlt := digitsValue_lt hds
  have hpow : 10 ^ ds.length ≤ 10 ^ 9 := Nat.pow_le_pow_right (by decide) hlen
  unfold digitsValue at hlt
  unfold maxNumber
  omega

theorem number_digits {ds : List Char} (hds : ds.all Char.isDigit = true) (hne : ds ≠ [])
    (hlen : ds.length ≤ 9) (rest : List Char) :
    number ds.length (ds ++ rest) = .ok (digitsValue ds, rest) := by
  have hmax := digitsValueFrom_le_maxNumber hds hlen
  have hread := digitsUpTo_append hds hmax 0 rest
  rw [Nat.add_zero, digitsUpTo] at hread
  obtain ⟨c, cs, rfl⟩ := List.exists_cons_of_ne_nil hne
  have hc : c.isDigit = true := (Bool.and_eq_true_iff.1 hds).1
  rw [List.cons_append] at hread ⊢
  rw [number, if_pos hc]
  exact hread

theorem trimLeft_digits {ds : List Char} (hds : ds.all Char.isDigit = true) (hne : ds ≠ [])
    (rest : List Char) : trimLeft (ds ++ rest) = ds ++ rest := by
  obtain ⟨c, cs, rfl⟩ := List.exists_cons_of_ne_nil hne
  have hc : c.isDigit = true := (Bool.and_eq_true_iff.1 hds).1
  rw [List.cons_append, trimLeft, List.dropWhile_cons_of_neg]
  rw [isBlank_of_isDigit hc]
  exact Bool.false_ne_true

theorem signedYear_digits {ds : List Char} (hds : ds.all Char.isDigit = true)
    (hlen : ds.length = 4) (rest : List Char) :
    signedYear (ds ++ rest) = .ok ((digitsValue ds : Int), rest) := by
  have hne : ds ≠ [] := List.ne_nil_of_length_pos (by omega)
  have hread := number_digits hds hne (by omega) rest
  have htrim := trimLeft_digits hds hne rest
  have hlt := digitsValue_lt hds
  rw [hlen] at hread hlt
  have hin : -2147483648 ≤ (digitsValue ds : Int) ∧ (digitsValue ds : Int) ≤ 2147483647 := by omega
  obtain ⟨c, cs, rfl⟩ := List.exists_cons_of_ne_nil hne
  have hc : c.isDigit = true := (Bool.and_eq_true_iff.1 hds).1
  have hminus : c ≠ '-' := by rintro rfl; cases hc
  have hplus : c ≠ '+' := by rintro rfl; cases hc
  rw [List.cons_append] at hread htrim ⊢
  simp [signedYear, htrim, hminus, hplus, hread, Except.map, hin]

theorem numberBetween_digits {low high : Nat} {ds : List Char}
    (hds : ds.all Char.isDigit = true) (hlen : ds.length = 2)
    (hbounds : low ≤ digitsValue ds ∧ digitsValue ds ≤ high) (rest : List Char) :
    numberBetween low high 2 (ds ++ rest) = .ok (digitsValue ds, rest) := by
  have hne : ds ≠ [] := List.ne_nil_of_length_pos (by omega)
  have hread := number_digits hds hne (by omega) rest
  rw [hlen] at hread
  rw [numberBetween, trimLeft_digits hds hne, hread]
  exact if_pos hbounds

/-! ### Days -/

theorem day_le_daysInMonth (d : Date) : 1 ≤ d.day ∧ d.day ≤ daysInMonth d.year d.month := by
  have hreal := d.real
  simp only [isRealDay, Bool.and_eq_true, decide_eq_true_eq] at hreal
  exact ⟨hreal.1.2, hreal.2⟩

theorem month_le (d : Date) : 1 ≤ d.month ∧ d.month ≤ 12 := by
  have hday := day_le_daysInMonth d
  by_contra hout
  have hnone : daysInMonth d.year d.month = 0 := by
    unfold daysInMonth
    split <;> omega
  omega

theorem day_le (d : Date) : 1 ≤ d.day ∧ d.day ≤ 31 := by
  have hday := day_le_daysInMonth d
  have hmonth : daysInMonth d.year d.month ≤ 31 := by
    unfold daysInMonth
    split <;> (try split) <;> omega
  omega

/-! ### Eight characters -/

theorem ofNumbers?_eq_some {y : Int} {m n : Nat} {d : Date}
    (h : Date.ofNumbers? y m n = some d) : d.year = y ∧ d.month = m ∧ d.day = n := by
  unfold Date.ofNumbers? at h
  split at h
  · cases h
    exact ⟨rfl, rfl, rfl⟩
  · cases h

theorem realDate_ok {y : Int} {m n : Nat} {d : Date} :
    realDate y m n = .ok d ↔ Date.ofNumbers? y m n = some d := by
  unfold realDate
  cases Date.ofNumbers? y m n with
  | none => exact ⟨nofun, nofun⟩
  | some d' => exact ⟨fun h => by cases h; rfl, fun h => by cases h; rfl⟩

theorem parts_append (cs : List Char) : cs.take 4 ++ ((cs.drop 4).take 2 ++ cs.drop 6) = cs := by
  have hrest : cs.drop 6 = (cs.drop 4).drop 2 := by rw [List.drop_drop]
  rw [hrest, List.take_append_drop, List.take_append_drop]

theorem all_isDigit_of_subset {cs ds : List Char} (hcs : cs.all Char.isDigit = true)
    (h : ds ⊆ cs) : ds.all Char.isDigit = true := by
  have hall := List.all_eq_true.1 hcs
  exact List.all_eq_true.2 fun c hc => hall c (h hc)

/-- Eight digits are read as the day that they name. -/
theorem readCompact_of_digits {cs : List Char} {d : Date} (hlen : cs.length = 8)
    (hds : cs.all Char.isDigit = true) (hday : dayOfDigits? cs = some d) :
    readCompact cs = .ok d := by
  obtain ⟨hy, hm, hn⟩ := ofNumbers?_eq_some hday
  have hmonth := month_le d
  have hbetween := day_le d
  rw [hm] at hmonth
  rw [hn] at hbetween
  have hyear := all_isDigit_of_subset hds (List.take_subset 4 cs)
  have hmiddle : ((cs.drop 4).take 2).all Char.isDigit = true :=
    all_isDigit_of_subset hds (List.Subset.trans (List.take_subset 2 _) (List.drop_subset 4 cs))
  have hlast := all_isDigit_of_subset hds (List.drop_subset 6 cs)
  have hread : readCompact (cs.take 4 ++ ((cs.drop 4).take 2 ++ (cs.drop 6 ++ []))) = .ok d := by
    rw [readCompact, signedYear_digits hyear (by rw [List.length_take]; omega)]
    simp only [bind, Except.bind]
    rw [numberBetween_digits hmiddle (by rw [List.length_take, List.length_drop]; omega) hmonth]
    simp only []
    rw [numberBetween_digits hlast (by rw [List.length_drop]; omega) hbetween]
    exact realDate_ok.2 hday
  rwa [List.append_nil, parts_append] at hread

/-- Eight characters without blanks and signs that are read as a day are the digits of that day. -/
theorem digits_of_readCompact {cs : List Char} {d : Date} (hlen : cs.length = 8)
    (hp : cs.all isPlainMark = true) (h : readCompact cs = .ok d) :
    cs.all Char.isDigit = true ∧ dayOfDigits? cs = some d := by
  obtain ⟨⟨y, afterYear⟩, hyear, hrest⟩ := of_bind_ok h
  obtain ⟨⟨m, afterMonth⟩, hmonth, hrest'⟩ := of_bind_ok hrest
  obtain ⟨⟨n, afterDay⟩, hday, hreal⟩ := of_bind_ok hrest'
  obtain ⟨ys, rfl, hys, hylen, rfl⟩ := signedYear_ok hp hyear
  rw [List.all_append, Bool.and_eq_true] at hp
  obtain ⟨ms, rfl, hms, hmlen, rfl⟩ := numberBetween_ok hp.2 hmonth
  rw [List.all_append, Bool.and_eq_true] at hp
  obtain ⟨ns, rfl, hns, hnlen, rfl⟩ := numberBetween_ok hp.2.2 hday
  simp only at hreal
  split at hreal
  · rename_i hend
    obtain rfl := List.isEmpty_iff.1 hend
    -- The three parts have eight digits together, so each has as many as it may have.
    simp only [List.append_nil, List.length_append] at hlen ⊢
    have hy : ys.length = 4 := by omega
    have hm : ms.length = 2 := by omega
    have htake : (ys ++ (ms ++ ns)).take 4 = ys := List.take_left' hy
    have hdrop : (ys ++ (ms ++ ns)).drop 4 = ms ++ ns := List.drop_left' hy
    have hlast : (ys ++ (ms ++ ns)).drop 6 = ns := by
      rw [← List.drop_drop (i := 2) (j := 4), hdrop]
      exact List.drop_left' hm
    refine ⟨?_, ?_⟩
    · rw [List.all_append, List.all_append, hys, hms, hns]
      rfl
    · rw [dayOfDigits?, htake, hdrop, hlast, List.take_left' hm]
      exact realDate_ok.1 hreal
  · cases hreal

end Scorebook.Calendar
