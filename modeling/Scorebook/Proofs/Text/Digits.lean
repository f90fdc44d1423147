import Mathlib.Data.Nat.Digits.Defs
import Scorebook.Proofs.Text.Ends

/-!
# Decimal digits

What is written by `digits` and `paddedDigits` consists of digits, has the width asked for and is
worth the number it was made from.  As a numeral it is read back, when the number is within the
bound.
-/

namespace Scorebook.Text

theorem digitsValueFrom_cons (acc : Nat) (c : Char) (cs : List Char) :
    digitsValueFrom acc (c :: cs) = digitsValueFrom (acc * 10 + digitValue c) cs := by
  rw [digitsValueFrom.eq_def]

theorem digitsValueFrom_eq (acc : Nat) (cs : List Char) :
    digitsValueFrom acc cs = Nat.ofDigitChars 10 cs acc := by
  induction cs generalizing acc with
  | nil => rfl
  | cons c cs ih =>
    rw [digitsValueFrom_cons, ih, Nat.ofDigitChars_cons, Nat.mul_comm]
    rfl

theorem le_digitsValueFrom (acc : Nat) (cs : List Char) : acc ≤ digitsValueFrom acc cs := by
  induction cs generalizing acc with
  | nil => exact Nat.le_refl acc
  | cons c cs ih =>
    have hnext := ih (acc * 10 + digitValue c)
    rw [digitsValueFrom_cons]
    omega

theorem digitValue_le {c : Char} (h : c.isDigit = true) : digitValue c ≤ 9 := by
  have hle : c.toNat ≤ 57 := of_decide_eq_true (Bool.and_eq_true_iff.1 h).2
  unfold digitValue
  omega

theorem digitsValueFrom_lt {ds : List Char} (h : ds.all Char.isDigit = true) (acc : Nat) :
    digitsValueFrom acc ds < (acc + 1) * 10 ^ ds.length := by
  induction ds generalizing acc with
  | nil =>
    rw [List.length_nil, Nat.pow_zero, Nat.mul_one]
    exact Nat.lt_succ_self acc
  | cons d ds ih =>
    obtain ⟨hd, hds⟩ := Bool.and_eq_true_iff.1 h
    have hvalue := digitValue_le hd
    have hrest := ih hds (acc * 10 + digitValue d)
    have hstep : (acc * 10 + digitValue d + 1) * 10 ^ ds.length ≤
        (acc + 1) * 10 * 10 ^ ds.length := Nat.mul_le_mul_right _ (by omega)
    rw [digitsValueFrom_cons, List.length_cons, Nat.pow_succ, Nat.mul_comm (10 ^ ds.length),
      ← Nat.mul_assoc]
    omega

theorem digitsValue_lt {ds : List Char} (h : ds.all Char.isDigit = true) :
    digitsValue ds < 10 ^ ds.length := by
  have hlt := digitsValueFrom_lt h 0
  rwa [Nat.zero_add, Nat.one_mul] at hlt

/-- Digits in the same number that are worth the same are the same. -/
theorem digitsValueFrom_inj {ds es : List Char} (hds : ds.all Char.isDigit = true)
    (hes : es.all Char.isDigit = true) (hlen : ds.length = es.length) {a b : Nat}
    (h : digitsValueFrom a ds = digitsValueFrom b es) : a = b ∧ ds = es := by
  induction ds generalizing es a b with
  | nil =>
    obtain rfl := List.length_eq_zero_iff.1 hlen.symm
    exact ⟨h, rfl⟩
  | cons d ds ih =>
    cases es with
    | nil => cases hlen
    | cons e es =>
      obtain ⟨hd, hds⟩ := Bool.and_eq_true_iff.1 hds
      obtain ⟨he, hes⟩ := Bool.and_eq_true_iff.1 hes
      rw [digitsValueFrom_cons, digitsValueFrom_cons] at h
      obtain ⟨hvalue, rfl⟩ := ih hds hes (Nat.succ.inj hlen) h
      have hle := digitValue_le hd
      have hle' := digitValue_le he
      have hab : a = b := by omega
      have hde : digitValue d = digitValue e := by omega
      have hdigits := digits_digitValue hd
      rw [hde, digits_digitValue he] at hdigits
      obtain rfl := List.singleton_inj.1 hdigits
      exact ⟨hab, rfl⟩

theorem all_isDigit_digits (n : Nat) : (digits n).all Char.isDigit = true := by
  apply List.all_eq_true.2
  intro c hc
  exact Nat.isDigit_of_mem_toDigits (by decide) (by decide) hc

theorem digitsValue_digits (n : Nat) : digitsValue (digits n) = n := by
  rw [digitsValue, digitsValueFrom_eq]
  exact Nat.ofDigitChars_ten_toDigits

theorem digits_ne_nil (n : Nat) : digits n ≠ [] := Nat.toDigits_ne_nil

theorem not_mem_digits {c : Char} (h : c.isDigit = false) (n : Nat) : c ∉ digits n := by
  intro hc
  rw [List.all_eq_true.1 (all_isDigit_digits n) c hc] at h
  cases h

theorem not_isBlank_of_mem_digits {n : Nat} {c : Char} (hc : c ∈ digits n) : isBlank c = false :=
  isBlank_of_isDigit (List.all_eq_true.1 (all_isDigit_digits n) c hc)

theorem exists_digits_eq_cons (n : Nat) :
    ∃ c cs, digits n = c :: cs ∧ c.isDigit = true ∧ cs.all Char.isDigit = true := by
  have hall := all_isDigit_digits n
  cases hn : digits n with
  | nil => exact absurd hn (digits_ne_nil n)
  | cons c cs =>
    rw [hn, List.all_cons, Bool.and_eq_true] at hall
    exact ⟨c, cs, rfl, hall⟩

theorem digits_of_lt_ten {n : Nat} (h : n < 10) : digits n = [Nat.digitChar n] :=
  Nat.toDigits_of_lt_base h

/-- No zero stands in front of the digits of a number other than zero. -/
theorem head_digits_ne_zero {n : Nat} (hn : 0 < n) {c : Char} {cs : List Char}
    (h : digits n = c :: cs) : c ≠ '0' := by
  induction n using Nat.strongRecOn generalizing cs with
  | ind n ih =>
    by_cases hlt : n < 10
    · rw [digits_of_lt_ten hlt] at h
      cases h
      intro hzero
      have hn0 := Nat.digitChar_eq_zero.1 hzero
      omega
    · have hsplit : digits n = digits (n / 10) ++ [Nat.digitChar (n % 10)] :=
        Nat.toDigits_of_base_le (by decide) (by omega)
      obtain ⟨d, ds, hd, -, -⟩ := exists_digits_eq_cons (n / 10)
      rw [hsplit, hd, List.cons_append] at h
      cases h
      exact ih (n / 10) (by omega) (by omega) hd

/-! ### Numerals -/

/-- Digits are read as far as they stay within the bound. -/
theorem readDigitsFrom_of_all_isDigit {ds : List Char} (h : ds.all Char.isDigit = true)
    {bound acc : Nat} (hacc : acc ≤ bound) :
    readDigitsFrom bound acc ds =
      if digitsValueFrom acc ds ≤ bound then .ok (digitsValueFrom acc ds) else .error .tooLarge := by
  induction ds generalizing acc with
  | nil => exact (if_pos hacc).symm
  | cons d ds ih =>
    obtain ⟨hd, hds⟩ := Bool.and_eq_true_iff.1 h
    rw [digitsValueFrom_cons]
    simp only [readDigitsFrom, hd, Bool.not_true, Bool.false_eq_true, if_false]
    by_cases hlarge : bound < acc * 10 + digitValue d
    · -- What has outgrown the bound stays above it.
      have hle := le_digitsValueFrom (acc * 10 + digitValue d) ds
      rw [if_pos hlarge, if_neg (by omega)]
    · rw [if_neg hlarge, ih hds (Nat.le_of_not_lt hlarge)]

/-- Digits are a numeral of their value, when it is within the bound. -/
theorem numeral?_of_all_isDigit {ds : List Char} (hne : ds ≠ []) (h : ds.all Char.isDigit = true)
    (bound : Nat) :
    numeral? bound ds = if digitsValue ds ≤ bound then some (digitsValue ds) else none := by
  obtain ⟨c, cs, rfl⟩ := List.exists_cons_of_ne_nil hne
  have hc : c.isDigit = true := (Bool.and_eq_true_iff.1 h).1
  have hplus : c ≠ '+' := by
    rintro rfl
    cases hc
  have hminus : c ≠ '-' := by
    rintro rfl
    cases hc
  have hread : readNumeral bound (c :: cs) = readDigitsFrom bound 0 (c :: cs) := by
    simp [readNumeral, hplus, hminus]
  rw [numeral?, hread, readDigitsFrom_of_all_isDigit h (Nat.zero_le bound), digitsValue]
  split <;> rfl

theorem numeral?_digits (bound n : Nat) :
    numeral? bound (digits n) = if n ≤ bound then some n else none := by
  rw [numeral?_of_all_isDigit (digits_ne_nil n) (all_isDigit_digits n), digitsValue_digits]

/-! ### A fixed width -/

theorem all_isDigit_paddedDigits (width n : Nat) :
    (paddedDigits width n).all Char.isDigit = true := by
  rw [paddedDigits, List.all_append, all_isDigit_digits, Bool.and_true]
  apply List.all_eq_true.2
  intro c hc
  rw [List.eq_of_mem_replicate hc]
  rfl

theorem digitsValue_paddedDigits (width n : Nat) : digitsValue (paddedDigits width n) = n := by
  have hn := digitsValue_digits n
  rw [digitsValue, digitsValueFrom_eq] at hn ⊢
  rw [paddedDigits, Nat.ofDigitChars_append, Nat.ofDigitChars_replicate_zero, Nat.mul_zero, hn]

theorem length_paddedDigits {width n : Nat} (hw : 0 < width) (hn : n < 10 ^ width) :
    (paddedDigits width n).length = width := by
  have hle : (digits n).length ≤ width := (Nat.length_toDigits_le_iff (by decide) hw).2 hn
  rw [paddedDigits, List.length_append, List.length_replicate]
  omega

theorem exists_paddedDigits_eq_cons (width n : Nat) :
    ∃ c cs, paddedDigits width n = c :: cs ∧ c.isDigit = true := by
  have hall := all_isDigit_paddedDigits width n
  obtain ⟨d, ds, hd, -, -⟩ := exists_digits_eq_cons n
  cases hn : paddedDigits width n with
  | nil =>
    rw [paddedDigits, hd] at hn
    cases List.append_eq_nil_iff.1 hn with
    | intro _ hnil => cases hnil
  | cons c cs =>
    rw [hn, List.all_cons, Bool.and_eq_true] at hall
    exact ⟨c, cs, rfl, hall.1⟩

/-! ### A single digit -/

theorem digitChar_of_lt_ten {n : Nat} (h : n < 10) :
    (Nat.digitChar n).isDigit = true ∧ digitValue (Nat.digitChar n) = n := by
  constructor
  · rw [Nat.isDigit_digitChar, decide_eq_true h]
  · exact Nat.toNat_digitChar_sub_48_of_lt_ten h

end Scorebook.Text
