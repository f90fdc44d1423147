import Scorebook.Outs
import Scorebook.Proofs.Text.Digits
import Scorebook.Proofs.Text.Search
import Scorebook.Proofs.Text.Words

/-!
# Innings in print

`Prints whole thirds cs` says that a score sheet may print so many whole innings and thirds as `cs`.
All such texts are read alike, through the words that are left once fraction characters are spelled:
`Prints.read` is the statement from which the others follow.
-/

namespace Scorebook.Outs
open Text

variable {cs : List Char} {whole thirds : Nat}

/-! ### Texts of innings -/

/-- The character for so many thirds. -/
def fractionChar? : Nat → Option Char
  | 1 => some '⅓'
  | 2 => some '⅔'
  | _ => none

/-- So many thirds, such as `1/3`. -/
def thirdsWord (thirds : Nat) : List Char := digits thirds ++ ['/', '3']

/-- The ways in which score sheets print whole innings and thirds. -/
inductive Prints (whole : Nat) : Nat → List Char → Prop
  | inThirds {thirds : Nat} {blanks : List Char} (h : thirds < 3) (hne : blanks ≠ [])
      (hblanks : blanks.all isBlank = true) :
      Prints whole thirds (digits whole ++ blanks ++ thirdsWord thirds)
  | dotted {thirds : Nat} (h : thirds < 3) :
      Prints whole thirds (digits whole ++ '.' :: digits thirds)
  | plain : Prints whole 0 (digits whole)
  | withFraction {thirds : Nat} {c : Char} {blanks : List Char} (h : fractionChar? thirds = some c)
      (hblanks : blanks.all isBlank = true) : Prints whole thirds (digits whole ++ blanks ++ [c])

theorem words_digits (n : Nat) : words (digits n) = [digits n] :=
  words_of_solid (digits_ne_nil n) fun _ hc => not_isBlank_of_mem_digits hc

theorem words_thirdsWord (thirds : Nat) : words (thirdsWord thirds) = [thirdsWord thirds] := by
  refine words_of_solid (List.append_ne_nil_of_left_ne_nil (digits_ne_nil thirds) _) fun c hc => ?_
  rcases List.mem_append.1 hc with hc | hc
  · exact not_isBlank_of_mem_digits hc
  · have hmarks : ∀ d ∈ ['/', '3'], isBlank d = false :=
      List.forall_mem_cons.2 ⟨rfl, List.forall_mem_singleton.2 rfl⟩
    exact hmarks c hc

theorem spellFractions_append (cs ds : List Char) :
    spellFractions (cs ++ ds) = spellFractions cs ++ spellFractions ds := by
  simp only [spellFractions, replaceChar_append]

theorem spellFractions_of_not_mem (h₁ : '⅓' ∉ cs) (h₂ : '⅔' ∉ cs) : spellFractions cs = cs := by
  rw [spellFractions, replaceChar_of_not_mem h₁, replaceChar_of_not_mem h₂]

theorem spellFractions_digits (n : Nat) : spellFractions (digits n) = digits n :=
  spellFractions_of_not_mem (not_mem_digits rfl n) (not_mem_digits rfl n)

theorem spellFractions_cons {c : Char} (h₁ : c ≠ '⅓') (h₂ : c ≠ '⅔') (cs : List Char) :
    spellFractions (c :: cs) = c :: spellFractions cs := by
  have hone : spellFractions [c] = [c] :=
    spellFractions_of_not_mem (by simpa using h₁.symm) (by simpa using h₂.symm)
  exact (spellFractions_append [c] cs).trans (congrArg (· ++ spellFractions cs) hone)

theorem spellFractions_thirdsWord (thirds : Nat) :
    spellFractions (thirdsWord thirds) = thirdsWord thirds := by
  have hmarks : spellFractions ['/', '3'] = ['/', '3'] := by decide
  rw [thirdsWord, spellFractions_append, spellFractions_digits, hmarks]

theorem spellFractions_blanks {blanks : List Char} (h : blanks.all isBlank = true) :
    spellFractions blanks = blanks := by
  have hnot : ∀ c, isBlank c = false → c ∉ blanks := by
    intro c hc hmem
    rw [List.all_eq_true.1 h c hmem] at hc
    cases hc
  exact spellFractions_of_not_mem (hnot '⅓' (by decide)) (hnot '⅔' (by decide))

/-- A fraction character is spelled as a word behind a blank. -/
theorem spellFractions_fractionChar {c : Char} (h : fractionChar? thirds = some c) :
    thirds < 3 ∧ spellFractions [c] = ' ' :: thirdsWord thirds := by
  unfold fractionChar? at h
  split at h
  · cases h
    decide
  · cases h
    decide
  · cases h

/-! ### Reading -/

theorem readThirds?_thirdsWord (h : thirds < 3) :
    readThirds? (thirdsWord thirds) = some thirds := by
  have hcut : cutAt? ['/'] (thirdsWord thirds) = some (digits thirds, ['3']) :=
    cutAt?_append_cons (not_mem_digits rfl thirds)
  have hle : thirds ≤ maxU32 := by
    simp only [maxU32]
    omega
  rw [readThirds?, hcut]
  simp only [numeral?_digits, if_pos hle, Option.filter_some, decide_eq_true h, if_true]

/-- Whole innings that are too many to be read are too many for their outs. -/
theorem bind_numeral?_digits (whole thirds : Nat) :
    (numeral? maxU32 (digits whole)).bind (ofInnings? · thirds) = ofInnings? whole thirds := by
  rw [numeral?_digits]
  by_cases hle : whole ≤ maxU32
  · rw [if_pos hle, Option.bind_some]
  · rw [if_neg hle, Option.bind_none, ofInnings?, Count.ofNat?, if_neg (by omega), Option.map_none]

/-- Innings and thirds that are two words, once fractions are spelled. -/
theorem readChars?_of_two_words {blanks : List Char} (h : thirds < 3) (hne : blanks ≠ [])
    (hblanks : blanks.all isBlank = true)
    (hspelled : spellFractions cs = digits whole ++ blanks ++ thirdsWord thirds) :
    readChars? cs = ofInnings? whole thirds := by
  have hwords : words (spellFractions cs) = [digits whole, thirdsWord thirds] := by
    rw [hspelled, words_append_blanks_append hne hblanks, words_digits, words_thirdsWord]
    rfl
  rw [readChars?, hwords]
  simp only [readThirds?_thirdsWord h]
  exact bind_numeral?_digits whole thirds

theorem readChars?_of_thirdsWord (h : thirds < 3)
    (hwords : words (spellFractions cs) = [thirdsWord thirds]) :
    readChars? cs = ofInnings? 0 thirds := by
  have hmark : (thirdsWord thirds).contains '/' = true :=
    List.contains_iff_mem.2 (List.mem_append_right _ List.mem_cons_self)
  rw [readChars?, hwords]
  simp only [hmark, if_true, readThirds?_thirdsWord h, Option.bind_some]

theorem readDotted?_digits (whole : Nat) : readDotted? (digits whole) = ofInnings? whole 0 := by
  rw [readDotted?, cutAt?_of_not_mem (not_mem_digits rfl whole)]
  exact bind_numeral?_digits whole 0

theorem readDotted?_dotted (h : thirds < 3) :
    readDotted? (digits whole ++ '.' :: digits thirds) = ofInnings? whole thirds := by
  have hfilled : (digits whole).isEmpty = false := List.isEmpty_eq_false_iff.2 (digits_ne_nil whole)
  rw [readDotted?, cutAt?_append_cons (not_mem_digits rfl whole)]
  simp only [hfilled, Bool.false_eq_true, if_false]
  have hthird : thirds = 0 ∨ thirds = 1 ∨ thirds = 2 := by omega
  rcases hthird with rfl | rfl | rfl <;> exact bind_numeral?_digits whole _

theorem readChars?_of_word {w : List Char} (hw : words (spellFractions cs) = [w])
    (hmark : '/' ∉ w) : readChars? cs = readDotted? w := by
  have hcontains : w.contains '/' = false := by simpa using hmark
  rw [readChars?, hw]
  simp only [hcontains, Bool.false_eq_true, if_false]

/-- Whichever way innings are printed, they are read as their outs. -/
theorem Prints.read (h : Prints whole thirds cs) : readChars? cs = ofInnings? whole thirds := by
  cases h with
  | inThirds ht hne hblanks =>
    apply readChars?_of_two_words ht hne hblanks
    rw [spellFractions_append, spellFractions_append, spellFractions_digits,
      spellFractions_blanks hblanks, spellFractions_thirdsWord]
  | dotted ht =>
    have hdigit : ∀ n, ∀ c ∈ digits n, isBlank c = false ∧ c ≠ '/' := fun n c hc =>
      ⟨not_isBlank_of_mem_digits hc, fun he => not_mem_digits rfl n (he ▸ hc)⟩
    have hsolid : ∀ c ∈ digits whole ++ '.' :: digits thirds, isBlank c = false ∧ c ≠ '/' :=
      List.forall_mem_append.2
        ⟨hdigit whole, List.forall_mem_cons.2 ⟨by decide, hdigit thirds⟩⟩
    have hword : words (spellFractions (digits whole ++ '.' :: digits thirds)) =
        [digits whole ++ '.' :: digits thirds] := by
      rw [spellFractions_append, spellFractions_digits,
        spellFractions_cons (by decide) (by decide), spellFractions_digits]
      exact words_of_solid (List.append_ne_nil_of_left_ne_nil (digits_ne_nil whole) _)
        fun c hc => (hsolid c hc).1
    rw [readChars?_of_word hword fun hc => (hsolid _ hc).2 rfl, readDotted?_dotted ht]
  | plain =>
    have hword : words (spellFractions (digits whole)) = [digits whole] := by
      rw [spellFractions_digits, words_digits]
    rw [readChars?_of_word hword (not_mem_digits rfl whole), readDotted?_digits]
  | @withFraction _ c blanks hc hblanks =>
    -- A fraction is spelled behind a blank, so it is a word of its own even without other blanks.
    obtain ⟨ht, hspelled⟩ := spellFractions_fractionChar hc
    have hgap : (blanks ++ [' ']).all isBlank = true := by
      rw [List.all_append, hblanks]
      rfl
    apply readChars?_of_two_words ht (List.append_ne_nil_of_right_ne_nil blanks (by simp)) hgap
    rw [spellFractions_append, spellFractions_append, spellFractions_digits,
      spellFractions_blanks hblanks, hspelled]
    simp only [List.append_assoc, List.cons_append, List.nil_append]

theorem ofInnings?_parts (o : Outs) : ofInnings? o.innings o.thirds = some o := by
  have hsum : 3 * o.innings + o.thirds = o.count.toNat := Nat.div_add_mod o.count.toNat 3
  rw [ofInnings?, hsum, Count.ofNat?, if_pos (Count.toNat_le o.count), UInt32.ofNat_toNat]
  rfl

theorem count_ofInnings? (whole thirds : Nat) :
    (ofInnings? whole thirds).map (fun o => o.count.toNat) =
      if 3 * whole + thirds ≤ maxU32 then some (3 * whole + thirds) else none := by
  unfold ofInnings? Count.ofNat?
  split
  · rename_i hle
    have hlt : 3 * whole + thirds < 4294967296 := Nat.lt_succ_of_le hle
    simpa using Nat.mod_eq_of_lt hlt
  · rfl

theorem thirds_lt (o : Outs) : o.thirds < 3 := Nat.mod_lt _ (by decide)

theorem readChars?_dotted (o : Outs) : readChars? o.dotted = some o :=
  (Prints.dotted o.thirds_lt).read.trans (ofInnings?_parts o)

theorem readChars?_fractional (o : Outs) : readChars? o.fractional = some o := by
  have hparts := ofInnings?_parts o
  unfold fractional
  split
  · rename_i hthirds
    rw [hthirds] at hparts
    exact Prints.plain.read.trans hparts
  split
  · rename_i hinnings
    rw [hinnings] at hparts
    refine (readChars?_of_thirdsWord o.thirds_lt ?_).trans hparts
    exact (congrArg words (spellFractions_thirdsWord o.thirds)).trans (words_thirdsWord o.thirds)
  · have hprints : Prints o.innings o.thirds (digits o.innings ++ [' '] ++ thirdsWord o.thirds) :=
      .inThirds o.thirds_lt (List.cons_ne_nil _ _) rfl
    have htext : digits o.innings ++ ' ' :: digits o.thirds ++ ['/', '3'] =
        digits o.innings ++ [' '] ++ thirdsWord o.thirds := by
      simp only [thirdsWord, List.append_assoc, List.cons_append, List.nil_append]
    rw [htext]
    exact hprints.read.trans hparts

/-- What is printed for outs, in thirds or dotted, is read as these outs.  All ways of printing so
many innings and thirds are read alike: as their outs when these are a count, and not at all when
they are too many. -/
theorem printed_innings_agree :
    (∀ o : Outs, read? (String.ofList o.fractional) = some o ∧
      read? (String.ofList o.dotted) = some o) ∧
    ∀ (whole thirds : Nat) (s : String), Prints whole thirds s.toList →
      (read? s).map (fun o => o.count.toNat) =
        if 3 * whole + thirds ≤ maxU32 then some (3 * whole + thirds) else none := by
  constructor
  · intro o
    rw [read?, read?, String.toList_ofList, String.toList_ofList]
    exact ⟨readChars?_fractional o, readChars?_dotted o⟩
  · intro whole thirds s h
    rw [read?, h.read, count_ofInnings?]

theorem printed_innings_of_largest :
    Prints 6 2 "6 ⅔".toList ∧ (read? "6 ⅔").map (fun o => o.count.toNat) = some 20 ∧
      Prints 1431655765 0 "1431655765".toList ∧
      (read? "1431655765").map (fun o => o.count.toNat) = some 4294967295 ∧
      Prints 1431655765 1 "1431655765.1".toList ∧
      (read? "1431655765.1").map (fun o => o.count.toNat) = none := by
  have hfraction : Prints 6 2 "6 ⅔".toList := @Prints.withFraction 6 2 '⅔' [' '] rfl rfl
  have hplain : Prints 1431655765 0 "1431655765".toList := .plain
  have hdotted : Prints 1431655765 1 "1431655765.1".toList := .dotted (by decide)
  obtain ⟨-, hread⟩ := printed_innings_agree
  exact ⟨hfraction, hread 6 2 _ hfraction, hplain, hread 1431655765 0 _ hplain, hdotted,
    hread 1431655765 1 _ hdotted⟩

end Scorebook.Outs
