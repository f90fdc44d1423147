import Scorebook.Binary64.Decimal
import Scorebook.Json.Number
import Scorebook.Json.Writing
import Scorebook.Proofs.Text.Digits

/-!
# Numbers in JSON

Reading a number takes nothing but characters of numbers, and what is written for a number is made
of such characters, so a number ends where its text does.  An integer of 64 bits is read back.
-/

namespace Scorebook.JsonNumber
open Text

def isNumberChar (c : Char) : Bool :=
  c.isDigit || c == '.' || c == 'e' || c == 'E' || c == '+' || c == '-'

theorem isNumberChar_of_isDigit {c : Char} (h : c.isDigit = true) : isNumberChar c = true := by
  simp only [isNumberChar, h, Bool.true_or]

/-! ### What reading takes -/

/-- What is left of a text when only characters of numbers were taken off it. -/
def Leaves (cs rest : List Char) : Prop := ∃ taken, cs = taken ++ rest ∧ taken.all isNumberChar

theorem Leaves.refl (cs : List Char) : Leaves cs cs := ⟨[], rfl, rfl⟩

theorem Leaves.cons {c : Char} {cs rest : List Char} (h : Leaves cs rest)
    (hc : isNumberChar c = true) : Leaves (c :: cs) rest := by
  obtain ⟨taken, rfl, htaken⟩ := h
  exact ⟨c :: taken, rfl, by rw [List.all_cons, hc, htaken]; rfl⟩

theorem Leaves.trans {cs middle rest : List Char} (h : Leaves cs middle)
    (h' : Leaves middle rest) : Leaves cs rest := by
  obtain ⟨taken, rfl, htaken⟩ := h
  obtain ⟨more, rfl, hmore⟩ := h'
  exact ⟨taken ++ more, (List.append_assoc ..).symm, by rw [List.all_append, htaken, hmore]; rfl⟩

theorem leaves_dropWhile_isDigit (cs : List Char) : Leaves cs (cs.dropWhile Char.isDigit) := by
  refine ⟨cs.takeWhile Char.isDigit, List.takeWhile_append_dropWhile.symm, ?_⟩
  apply List.all_eq_true.2
  intro c hc
  exact isNumberChar_of_isDigit (List.mem_takeWhile_imp hc)

theorem leaves_of_exponentPart {cs ds rest : List Char} {neg : Bool}
    (h : exponentPart cs = some (neg, ds, rest)) : Leaves cs rest := by
  unfold exponentPart at h
  split at h
  · rename_i hparts
    simp only at h
    split at h
    · cases h
    · cases h
      split at hparts
      · cases hparts
        exact (leaves_dropWhile_isDigit _).cons rfl
      · cases hparts
        exact (leaves_dropWhile_isDigit _).cons rfl
      · cases hparts
        exact leaves_dropWhile_isDigit _

theorem leaves_of_finish {neg : Bool} {k : Nat} {e : Int} {cs rest : List Char} {n : JsonNumber}
    (h : finish neg k e cs = some (n, rest)) : Leaves cs rest := by
  unfold finish at h
  split at h
  · rename_i c cs
    split at h
    · rename_i hc
      have hchar : isNumberChar c = true := by
        rcases hc with rfl | rfl <;> rfl
      split at h
      · cases h
      · rename_i expNeg ds after hexp
        have hleaves := (leaves_of_exponentPart hexp).cons hchar
        simp only at h
        split at h
        · split at h
          · cases h
          · cases h
            exact hleaves
        · obtain ⟨m, -, hm⟩ := Option.map_eq_some_iff.1 h
          cases hm
          exact hleaves
    · obtain ⟨m, -, hm⟩ := Option.map_eq_some_iff.1 h
      cases hm
      exact .refl _
  · obtain ⟨m, -, hm⟩ := Option.map_eq_some_iff.1 h
    cases hm
    exact .refl _

theorem leaves_of_integer {neg : Bool} {k : Nat} {cs rest : List Char} {n : JsonNumber}
    (h : afterWhole.integer neg k cs = some (n, rest)) : Leaves cs rest := by
  unfold afterWhole.integer at h
  repeat' split at h
  all_goals
    cases h
    exact .refl _

theorem leaves_of_afterWhole {neg : Bool} {whole cs rest : List Char} {n : JsonNumber}
    (h : afterWhole neg whole cs = some (n, rest)) : Leaves cs rest := by
  unfold afterWhole at h
  split at h
  · rename_i cs
    simp only at h
    split at h
    · cases h
    · have hfraction := (leaves_dropWhile_isDigit cs).cons (c := '.') rfl
      split at h
      · exact hfraction.trans (leaves_of_finish h)
      · exact hfraction.trans (leaves_of_finish h)
  · simp only at h
    split at h
    · split at h
      · exact leaves_of_finish h
      · split at h
        · exact leaves_of_finish h
        · exact leaves_of_integer h
    · split at h
      · exact leaves_of_finish h
      · exact leaves_of_integer h

/-- Reads a literal after its sign. -/
def afterSign (neg : Bool) (cs : List Char) : Option (JsonNumber × List Char) :=
  match cs with
  | '0' :: r =>
    match r with
    | c :: _ => if c.isDigit then none else afterWhole neg ['0'] r
    | [] => afterWhole neg ['0'] r
  | _ =>
    let whole := cs.takeWhile Char.isDigit
    if whole.isEmpty then none else afterWhole neg whole (cs.dropWhile Char.isDigit)

theorem read_minus (cs : List Char) : read ('-' :: cs) = afterSign true cs := rfl

theorem read_of_ne {cs : List Char} (h : ∀ r, cs ≠ '-' :: r) : read cs = afterSign false cs := by
  unfold read
  split
  rename_i neg r hsign
  split at hsign
  · exact absurd rfl (h _)
  · cases hsign
    rfl

theorem leaves_of_afterSign {neg : Bool} {cs rest : List Char} {n : JsonNumber}
    (h : afterSign neg cs = some (n, rest)) : Leaves cs rest := by
  unfold afterSign at h
  split at h
  · split at h
    · split at h
      · cases h
      · exact (leaves_of_afterWhole h).cons rfl
    · exact (leaves_of_afterWhole h).cons rfl
  · simp only at h
    split at h
    · cases h
    · exact (leaves_dropWhile_isDigit _).trans (leaves_of_afterWhole h)

/-- Reading a number takes only characters of numbers. -/
theorem leaves_of_read {cs rest : List Char} {n : JsonNumber} (h : read cs = some (n, rest)) :
    Leaves cs rest := by
  by_cases hminus : ∃ r, cs = '-' :: r
  · obtain ⟨r, rfl⟩ := hminus
    exact (leaves_of_afterSign h).cons rfl
  · rw [read_of_ne fun r hr => hminus ⟨r, hr⟩] at h
    exact leaves_of_afterSign h

/-! ### What is written -/

structure NumberText (cs : List Char) : Prop where
  nonempty : cs ≠ []
  chars : cs.all isNumberChar = true

theorem all_isNumberChar_of_digits {ds : List Char} (h : ds.all Char.isDigit = true) :
    ds.all isNumberChar = true := by
  apply List.all_eq_true.2
  intro c hc
  exact isNumberChar_of_isDigit (List.all_eq_true.1 h c hc)

theorem numberText_digits (n : Nat) : NumberText (digits n) := by
  refine ⟨Nat.toDigits_ne_nil, ?_⟩
  exact all_isNumberChar_of_digits (all_isDigit_digits n)

theorem numberText_signedDecimal (i : Int) : NumberText (signedDecimal i).toList := by
  cases i with
  | ofNat n =>
    simp only [signedDecimal, decimal, String.toList_ofList]
    exact numberText_digits n
  | negSucc n =>
    obtain ⟨-, hchars⟩ := numberText_digits (n + 1)
    have htext : (signedDecimal (.negSucc n)).toList = '-' :: digits (n + 1) := by
      simp only [signedDecimal, decimal, String.toList_append, String.toList_ofList]
      rfl
    rw [htext]
    exact ⟨List.cons_ne_nil _ _, by rw [List.all_cons, hchars]; rfl⟩

theorem all_isNumberChar_zeros (n : Nat) : (Binary64.zeros n).all isNumberChar = true := by
  apply List.all_eq_true.2
  intro c hc
  rw [List.eq_of_mem_replicate hc]
  rfl

theorem numberText_scientific (x : Binary64) : NumberText x.scientific := by
  obtain ⟨hne, hds⟩ := numberText_digits x.shortest.digits
  have hmem := List.all_eq_true.1 hds
  have hzeros := all_isNumberChar_zeros
  obtain ⟨hpne, hpower⟩ :=
    numberText_signedDecimal ((digits x.shortest.digits).length + x.shortest.scale - 1)
  have htake : ∀ k, ((digits x.shortest.digits).take k).all isNumberChar = true := fun k =>
    List.all_eq_true.2 fun c hc => hmem c (List.mem_of_mem_take hc)
  have hdrop : ∀ k, ((digits x.shortest.digits).drop k).all isNumberChar = true := fun k =>
    List.all_eq_true.2 fun c hc => hmem c (List.mem_of_mem_drop hc)
  have hsign : x.signText.all isNumberChar = true := by
    unfold Binary64.signText
    split <;> rfl
  have hpoint : isNumberChar '.' = true := rfl
  have hzero : isNumberChar '0' = true := rfl
  have hexp : isNumberChar 'e' = true := rfl
  unfold Binary64.scientific
  simp only
  split
  · exact ⟨by simp, by simp [hsign, hpoint, hzero]⟩
  split
  · exact ⟨by simp, by simp only [List.all_append, hsign, hds, hzeros]; rfl⟩
  split
  · exact ⟨by simp, by simp only [List.all_append, List.all_cons, hsign, htake, hdrop, hpoint]; rfl⟩
  split
  · exact ⟨by simp, by simp only [List.all_append, hsign, hds, hzeros]; rfl⟩
  split
  · rename_i d hd
    rw [hd] at hds
    simp only [List.all_cons, Bool.and_eq_true] at hds
    exact ⟨by simp, by simp only [List.all_append, List.all_cons, hsign, hds.1, hexp, hpower]; rfl⟩
  · rename_i d rest _ hd
    rw [hd] at hds
    simp only [List.all_cons, Bool.and_eq_true] at hds
    exact ⟨by simp, by
      simp only [List.all_append, List.all_cons, hsign, hds.1, hds.2, hpoint, hexp, hpower]
      rfl⟩
  · rename_i hd
    exact absurd hd hne

/-! ### Integers of 64 bits -/

/-- No character of a number follows. -/
def Ends (rest : List Char) : Prop := ∀ c cs, rest = c :: cs → isNumberChar c = false

theorem ends_nil : Ends [] := fun _ _ h => by cases h

theorem ends_cons {c : Char} (hc : isNumberChar c = false) (cs : List Char) : Ends (c :: cs) := by
  intro d ds h
  cases h
  exact hc

theorem takeDigits_eq {ds : List Char} {acc : Nat} (h : digitsValueFrom acc ds ≤ maxU64)
    (k : Nat) : takeDigits acc k ds = ⟨digitsValueFrom acc ds, k + ds.length, 0⟩ := by
  induction ds generalizing acc k with
  | nil => rfl
  | cons d ds ih =>
    rw [digitsValueFrom_cons] at h ⊢
    have hnext : acc * 10 + digitValue d ≤ maxU64 := Nat.le_trans (le_digitsValueFrom _ ds) h
    simp only [takeDigits, if_neg (Nat.not_lt.2 hnext), ih h, List.length_cons]
    rw [Nat.add_assoc, Nat.add_comm 1]

theorem takeDigits_digits {n : Nat} (hn : n ≤ maxU64) :
    takeDigits 0 0 (digits n) = ⟨n, 0 + (digits n).length, 0⟩ := by
  have hvalue : digitsValueFrom 0 (digits n) = n := digitsValue_digits n
  have htake := takeDigits_eq (Nat.le_trans (Nat.le_of_eq hvalue) hn) 0
  rwa [hvalue] at htake

theorem afterWhole_of_ends {rest : List Char} (hrest : Ends rest) (neg : Bool) {n : Nat}
    (hn : n ≤ maxU64) :
    afterWhole neg (digits n) rest = afterWhole.integer neg n rest := by
  have htake := takeDigits_digits hn
  cases rest with
  | nil => simp only [afterWhole, htake, Nat.lt_irrefl, if_false, gt_iff_lt]
  | cons c cs =>
    have hc := hrest c cs rfl
    have he : ¬(c = 'e' ∨ c = 'E') := by rintro (rfl | rfl) <;> cases hc
    unfold afterWhole
    split
    · rename_i hpoint
      cases hpoint
      cases hc
    · simp only [htake, if_neg he, Nat.lt_irrefl, if_false, gt_iff_lt]

theorem afterSign_digits {rest : List Char} (hrest : Ends rest) (neg : Bool) {n : Nat}
    (hn : n ≤ maxU64) :
    afterSign neg (digits n ++ rest) = afterWhole.integer neg n rest := by
  have hwhole := afterWhole_of_ends hrest neg hn
  have hnext : ∀ c cs, rest = c :: cs → c.isDigit = false := by
    intro c cs h
    cases hd : c.isDigit with
    | false => rfl
    | true => exact absurd (isNumberChar_of_isDigit hd) (Bool.eq_false_iff.1 (hrest c cs h))
  rcases Nat.eq_zero_or_pos n with rfl | hpos
  · -- The single digit zero, after which no digit may follow.
    have hzero : digits 0 = ['0'] := rfl
    rw [hzero] at hwhole ⊢
    cases rest with
    | nil => exact hwhole
    | cons c cs =>
      have hc := hnext c cs rfl
      simp only [List.cons_append, List.nil_append, afterSign, hc]
      exact hwhole
  · obtain ⟨d, ds, hdigits, hd, hds⟩ := exists_digits_eq_cons n
    have hne : d ≠ '0' := head_digits_ne_zero hpos hdigits
    have hall : ∀ c ∈ digits n, c.isDigit = true := List.all_eq_true.1 (all_isDigit_digits n)
    have htake : (digits n ++ rest).takeWhile Char.isDigit = digits n := by
      rw [List.takeWhile_append_of_pos hall]
      cases rest with
      | nil => exact List.append_nil _
      | cons c cs => rw [List.takeWhile_cons_of_neg (by simp [hnext c cs rfl]), List.append_nil]
    have hdrop : (digits n ++ rest).dropWhile Char.isDigit = rest := by
      rw [List.dropWhile_append_of_pos hall]
      cases rest with
      | nil => rfl
      | cons c cs => exact List.dropWhile_cons_of_neg (by simp [hnext c cs rfl])
    have hfull : (digits n).isEmpty = false := by rw [hdigits]; rfl
    unfold afterSign
    split
    · rename_i r hr
      rw [hdigits, List.cons_append] at hr
      cases hr
      exact absurd rfl hne
    · simp only [htake, hdrop, hfull]
      exact hwhole

/-- The integers that are read as integers. -/
def Fits (i : Int) : Prop := -9223372036854775808 ≤ i ∧ i ≤ 18446744073709551615

/-- An integer of 64 bits is read back. -/
theorem read_signedDecimal {i : Int} (hi : Fits i) {rest : List Char} (hrest : Ends rest) :
    read ((signedDecimal i).toList ++ rest) = some (.int i, rest) := by
  obtain ⟨hlow, hhigh⟩ := hi
  cases i with
  | ofNat n =>
    have hn : n ≤ maxU64 := by
      have hbound : (n : Int) ≤ 18446744073709551615 := hhigh
      unfold maxU64
      omega
    have htext : (signedDecimal (.ofNat n)).toList = digits n := by
      simp only [signedDecimal, decimal, String.toList_ofList]
    obtain ⟨d, ds, hdigits, hd, -⟩ := exists_digits_eq_cons n
    have hsign : ∀ r, digits n ++ rest ≠ '-' :: r := by
      intro r h
      rw [hdigits] at h
      cases h
      cases hd
    rw [htext, read_of_ne hsign, afterSign_digits hrest false hn]
    rfl
  | negSucc n =>
    have hn : n + 1 ≤ 9223372036854775808 := by omega
    have hmax : n + 1 ≤ maxU64 := by unfold maxU64; omega
    have htext : (signedDecimal (.negSucc n)).toList = '-' :: digits (n + 1) := by
      simp only [signedDecimal, decimal, String.toList_append, String.toList_ofList]
      rfl
    rw [htext, List.cons_append, read_minus, afterSign_digits hrest true hmax]
    simp only [afterWhole.integer, Bool.not_true, Bool.false_eq_true, if_false,
      if_neg (Nat.succ_ne_zero n), if_pos hn]
    rfl

end Scorebook.JsonNumber
