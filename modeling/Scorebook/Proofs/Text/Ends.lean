import Mathlib.Data.List.DropRight
import Scorebook.Text.Blank
import Scorebook.Text.Case
import Scorebook.Text.Numeral

/-!
# The ends of a text, capitals and single digits

Small facts on characters: text without blanks at its ends is what `trim` leaves, a capital is its
own capital, and a numeral of one character is a digit.
-/

namespace Scorebook.Text

/-! ### Trimming -/

/-- No blank stands at an end. -/
structure Tight (cs : List Char) : Prop where
  first : ∀ h : cs ≠ [], isBlank (cs.head h) = false
  last : ∀ h : cs ≠ [], isBlank (cs.getLast h) = false

theorem tight_trim (cs : List Char) : Tight (trim cs) := by
  constructor
  · intro h
    have hpre : trim cs <+: trimLeft cs := List.rdropWhile_prefix isBlank (trimLeft cs)
    have hleft : trimLeft cs ≠ [] := fun hn => h (List.prefix_nil.1 (hn ▸ hpre))
    rw [hpre.head h]
    exact List.head_dropWhile_not isBlank hleft
  · intro h
    exact Bool.eq_false_iff.2 (List.rdropWhile_last_not isBlank (trimLeft cs) h)

theorem Tight.trim_eq {cs : List Char} (h : Tight cs) : trim cs = cs := by
  have hleft : trimLeft cs = cs := by
    apply List.dropWhile_eq_self_iff.2
    intro hl
    have hfirst := h.first (List.ne_nil_of_length_pos hl)
    rw [List.head_eq_getElem] at hfirst
    exact Bool.eq_false_iff.1 hfirst
  have hright : trimRight cs = cs :=
    List.rdropWhile_eq_self_iff.2 fun hl => Bool.eq_false_iff.1 (h.last hl)
  rw [trim, hleft, hright]

theorem tight_of_solid {cs : List Char} (h : ∀ c ∈ cs, isBlank c = false) : Tight cs :=
  ⟨fun hne => h _ (List.head_mem hne), fun hne => h _ (List.getLast_mem hne)⟩

theorem Tight.not_all_isBlank {cs : List Char} (h : Tight cs) (hne : cs ≠ []) :
    cs.all isBlank = false := by
  refine List.all_eq_false.2 ⟨cs.head hne, List.head_mem hne, ?_⟩
  rw [h.first hne]
  exact Bool.false_ne_true

theorem isBlankText_trimmed {s : String} (h : isBlankText s = false) :
    isBlankText (trimmed s) = false := by
  have hne : trim s.toList ≠ [] := by
    intro hnil
    have hright : ∀ c ∈ trimLeft s.toList, isBlank c = true := List.rdropWhile_eq_nil_iff.1 hnil
    have hleft : trimLeft s.toList = [] := by
      by_contra hl
      have hhead : isBlank ((trimLeft s.toList).head hl) = false :=
        List.head_dropWhile_not isBlank hl
      cases hhead.symm.trans (hright _ (List.head_mem hl))
    have hall := List.all_eq_true.2 (List.dropWhile_eq_nil_iff.1 hleft)
    exact Bool.eq_false_iff.1 h hall
  rw [isBlankText, trimmed, String.toList_ofList]
  exact (tight_trim s.toList).not_all_isBlank hne

/-! ### ASCII characters -/

/-- What holds of the 128 ASCII characters one by one holds of every one of them. -/
theorem forall_ascii {P : Char → Prop} (h : ∀ n : Fin 128, P (Char.ofNat n)) {c : Char}
    (hc : c.toNat < 128) : P c := by
  have hn := h ⟨c.toNat, hc⟩
  rwa [Char.ofNat_toNat] at hn

theorem toNat_lt_of_isAlphanum {c : Char} (h : c.isAlphanum = true) : c.toNat < 128 := by
  rcases Bool.or_eq_true_iff.1 h with ha | hd
  · rcases Bool.or_eq_true_iff.1 ha with hu | hl
    · have hz : c.toNat ≤ 90 := (of_decide_eq_true hu).2
      omega
    · have hz : c.toNat ≤ 122 := of_decide_eq_true (Bool.and_eq_true_iff.1 hl).2
      omega
  · have hz : c.toNat ≤ 57 := of_decide_eq_true (Bool.and_eq_true_iff.1 hd).2
    omega

theorem isAlphanum_of_isDigit {c : Char} (h : c.isDigit = true) : c.isAlphanum = true := by
  rw [Char.isAlphanum, h, Bool.or_true]

theorem isBlank_of_isAlphanum {c : Char} (h : c.isAlphanum = true) : isBlank c = false := by
  exact forall_ascii (P := fun c => c.isAlphanum = true → isBlank c = false) (by decide)
    (toNat_lt_of_isAlphanum h) h

theorem isBlank_of_isDigit {c : Char} (h : c.isDigit = true) : isBlank c = false :=
  isBlank_of_isAlphanum (isAlphanum_of_isDigit h)

theorem tight_of_all_isAlphanum {cs : List Char} (h : cs.all Char.isAlphanum = true) :
    Tight cs :=
  tight_of_solid fun c hc => isBlank_of_isAlphanum (List.all_eq_true.1 h c hc)

theorem toUpper_of_not_ascii {c : Char} (h : ¬ c.toNat < 128) : c.toUpper = c := by
  unfold Char.toUpper
  refine dif_neg fun hl => h ?_
  have hz : c.toNat ≤ 122 := hl.2
  omega

theorem toUpper_toUpper (c : Char) : c.toUpper.toUpper = c.toUpper := by
  by_cases hc : c.toNat < 128
  · exact forall_ascii (P := fun c => c.toUpper.toUpper = c.toUpper) (by decide) hc
  · rw [toUpper_of_not_ascii hc, toUpper_of_not_ascii hc]

theorem isAlphanum_toUpper (c : Char) : c.toUpper.isAlphanum = c.isAlphanum := by
  by_cases hc : c.toNat < 128
  · exact forall_ascii (P := fun c => c.toUpper.isAlphanum = c.isAlphanum) (by decide) hc
  · rw [toUpper_of_not_ascii hc]

/-- A text of ASCII characters has as many bytes as characters. -/
theorem utf8ByteSize_ofList {cs : List Char} (h : ∀ c ∈ cs, c.toNat < 128) :
    (String.ofList cs).utf8ByteSize = cs.length := by
  induction cs with
  | nil => rfl
  | cons c cs ih =>
    obtain ⟨hc, hcs⟩ := List.forall_mem_cons.1 h
    have hone : c.utf8Size = 1 :=
      Char.utf8Size_eq_one_iff.2 (UInt32.le_iff_toNat_le.2 (Nat.le_of_lt_succ hc))
    rw [String.ofList_cons, String.utf8ByteSize_append, String.utf8ByteSize_singleton, hone, ih hcs,
      List.length_cons, Nat.add_comm]

/-! ### Digits -/

theorem digits_digitValue {c : Char} (h : c.isDigit = true) : digits (digitValue c) = [c] := by
  exact forall_ascii (P := fun c => c.isDigit = true → digits (digitValue c) = [c]) (by decide)
    (toNat_lt_of_isAlphanum (isAlphanum_of_isDigit h)) h

/-- A numeral of one character is a digit, and is worth its value. -/
theorem numeral?_singleton (bound : Nat) (c : Char) : numeral? bound [c] =
    if c.isDigit = true ∧ digitValue c ≤ bound then some (digitValue c) else none := by
  by_cases hp : c = '+'
  · subst hp
    rfl
  by_cases hm : c = '-'
  · subst hm
    rfl
  have hr : readNumeral bound [c] = readDigitsFrom bound 0 [c] := by simp [readNumeral, hp, hm]
  rw [numeral?, hr]
  by_cases hd : c.isDigit = true
  · by_cases hb : digitValue c ≤ bound
    · simp [readDigitsFrom, hd, hb, Nat.not_lt.2 hb, Except.toOption]
    · simp [readDigitsFrom, hd, hb, Nat.lt_of_not_le hb, Except.toOption]
  · simp [readDigitsFrom, hd, Except.toOption]

end Scorebook.Text
