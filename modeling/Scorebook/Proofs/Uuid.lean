import Scorebook.Proofs.Text.Ends
import Scorebook.Uuid

/-!
# Identifiers in print

An identifier is read back from its text, so different identifiers have different texts.
-/

namespace Scorebook.Uuid
open Text

/-- The characters of the text. -/
def hyphenated (u : Uuid) : List Char :=
  u.digits.take 8 ++ '-' :: (u.digits.drop 8).take 4 ++ '-' :: (u.digits.drop 12).take 4 ++
    '-' :: (u.digits.drop 16).take 4 ++ '-' :: u.digits.drop 20

theorem length_digits (u : Uuid) : u.digits.length = 32 :=
  beq_iff_eq.1 (Bool.and_eq_true_iff.1 u.wellFormed).1

theorem isLowerHex_of_mem {u : Uuid} {c : Char} (h : c ∈ u.digits) : isLowerHex c = true :=
  List.all_eq_true.1 (Bool.and_eq_true_iff.1 u.wellFormed).2 c h

theorem toNat_lt_of_isLowerHex {c : Char} (h : isLowerHex c = true) : c.toNat < 128 := by
  rcases Bool.or_eq_true_iff.1 h with hd | hl
  · exact toNat_lt_of_isAlphanum (isAlphanum_of_isDigit hd)
  · have hf : c ≤ 'f' := of_decide_eq_true (Bool.and_eq_true_iff.1 hl).2
    have hle : c.toNat ≤ 102 := hf
    omega

theorem toLower_of_isLowerHex {c : Char} (h : isLowerHex c = true) : c.toLower = c :=
  forall_ascii (P := fun c => isLowerHex c = true → c.toLower = c) (by decide)
    (toNat_lt_of_isLowerHex h) h

theorem ofDigits?_digits (u : Uuid) : ofDigits? u.digits = some u := by
  have hlower : u.digits.map Char.toLower = u.digits :=
    (List.map_congr_left fun c hc => toLower_of_isLowerHex (isLowerHex_of_mem hc)).trans
      (List.map_id u.digits)
  unfold ofDigits?
  simp only [hlower]
  exact dif_pos u.wellFormed

theorem length_hyphenated (u : Uuid) : u.hyphenated.length = 36 := by
  simp [hyphenated, length_digits]

theorem ofHyphenated?_hyphenated (u : Uuid) : ofHyphenated? u.hyphenated = some u := by
  have hlen := length_digits u
  have hmarks : hasHyphens u.hyphenated = true := by
    simp [hasHyphens, hyphenated, List.getElem?_append, hlen]
  have hdigits : u.hyphenated.take 8 ++ (u.hyphenated.drop 9).take 4 ++
      (u.hyphenated.drop 14).take 4 ++ (u.hyphenated.drop 19).take 4 ++ u.hyphenated.drop 24 =
        u.digits := by
    have hparts : u.hyphenated.take 8 ++ (u.hyphenated.drop 9).take 4 ++
        (u.hyphenated.drop 14).take 4 ++ (u.hyphenated.drop 19).take 4 ++ u.hyphenated.drop 24 =
          u.digits.take 8 ++ (u.digits.drop 8).take 4 ++ (u.digits.drop 12).take 4 ++
            (u.digits.drop 16).take 4 ++ u.digits.drop 20 := by
      simp [hyphenated, List.drop_append, List.drop_of_length_le, hlen]
    have hjoin : ∀ n, (u.digits.drop n).take 4 ++ u.digits.drop (n + 4) = u.digits.drop n := by
      intro n
      rw [← List.drop_drop, List.take_append_drop]
    rw [hparts]
    simp only [List.append_assoc]
    rw [hjoin 16, hjoin 12, hjoin 8, List.take_append_drop]
  rw [ofHyphenated?, if_pos ⟨length_hyphenated u, hmarks⟩, hdigits, ofDigits?_digits]

theorem utf8ByteSize_text (u : Uuid) : u.text.utf8ByteSize = 36 := by
  have hascii : ∀ c ∈ u.hyphenated, c.toNat < 128 := by
    have hpart : ∀ cs : List Char, cs ⊆ u.digits → ∀ c ∈ cs, c.toNat < 128 :=
      fun cs hsub c hc => toNat_lt_of_isLowerHex (isLowerHex_of_mem (hsub hc))
    have hfour : ∀ n, ∀ c ∈ (u.digits.drop n).take 4, c.toNat < 128 :=
      fun n => hpart _ (List.Subset.trans (List.take_subset ..) (List.drop_subset ..))
    have hmark : '-'.toNat < 128 := by decide
    simp only [hyphenated, List.forall_mem_append, List.forall_mem_cons]
    exact ⟨⟨⟨⟨hpart _ (List.take_subset ..), hmark, hfour 8⟩, hmark, hfour 12⟩, hmark, hfour 16⟩,
      hmark, hpart _ (List.drop_subset ..)⟩
  exact (utf8ByteSize_ofList hascii).trans (length_hyphenated u)

/-- The text of an identifier is read back. -/
theorem read?_text (u : Uuid) : read? u.text = some u := by
  have htext : u.text.toList = u.hyphenated := String.toList_ofList
  rw [read?, utf8ByteSize_text, if_neg (by decide), if_pos rfl, htext, ofHyphenated?_hyphenated]

theorem text_inj {u v : Uuid} : u.text = v.text ↔ u = v := by
  constructor
  · intro h
    have hread := read?_text u
    rw [h, read?_text] at hread
    exact (Option.some.inj hread).symm
  · exact congrArg text

end Scorebook.Uuid
