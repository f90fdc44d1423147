import Scorebook.Json.Reading
import Scorebook.Json.Writing
import Scorebook.Proofs.Text.Ends

/-!
# Strings in JSON

A string is read back from its escaped form, whatever characters it holds.
-/

namespace Scorebook.Json
open Text

theorem stringFrom_code {a b c d : Char} {n : Nat} (h : hex4? a b c d = some n) (hn : n < 0xD800)
    (done rest : List Char) : stringFrom none done ('\\' :: 'u' :: a :: b :: c :: d :: rest) =
      stringFrom none (Char.ofNat n :: done) rest := by
  have hhigh : ¬(0xD800 ≤ n ∧ n ≤ 0xDBFF) := by omega
  have hlow : ¬(0xDC00 ≤ n ∧ n ≤ 0xDFFF) := by omega
  conv => lhs; unfold stringFrom
  simp only [h, if_neg hhigh, if_neg hlow]

theorem stringFrom_simple {c e : Char} (h : simpleEscape? c = some e) (hu : c ≠ 'u')
    (done rest : List Char) :
    stringFrom none done ('\\' :: c :: rest) = stringFrom none (e :: done) rest := by
  conv => lhs; unfold stringFrom
  simp [h, hu]

theorem stringFrom_plain {c : Char} (hquote : c ≠ '"') (hslash : c ≠ '\\') (hc : ¬c.toNat < 0x20)
    (done rest : List Char) :
    stringFrom none done (c :: rest) = stringFrom none (c :: done) rest := by
  conv => lhs; unfold stringFrom
  simp [hslash, hc]

/-- The digits by which a control without an escape of its own is written. -/
def controlDigits (n : Nat) : List Char :=
  List.replicate (4 - (hexDigits n).length) '0' ++ hexDigits n

theorem exists_controlDigits {n : Nat} (hn : n < 32) :
    ∃ a b c d, controlDigits n = [a, b, c, d] ∧ hex4? a b c d = some n := by
  have hall : ∀ n : Fin 32, (controlDigits n).length = 4 ∧
      hex4? ((controlDigits n).getD 0 '0') ((controlDigits n).getD 1 '0')
        ((controlDigits n).getD 2 '0') ((controlDigits n).getD 3 '0') = some n.val := by decide
  obtain ⟨hlength, hread⟩ := hall ⟨n, hn⟩
  obtain ⟨a, b, c, d, hdigits⟩ := List.length_eq_four.1 hlength
  rw [hdigits] at hread
  exact ⟨a, b, c, d, hdigits, hread⟩

theorem stringFrom_escapeChar (c : Char) (done rest : List Char) :
    stringFrom none done (escapeChar c ++ rest) = stringFrom none (c :: done) rest := by
  unfold escapeChar
  -- The characters with an escape of their own come first, in the order in which they are tested.
  by_cases hquote : c = '"'
  · subst hquote
    exact stringFrom_simple (by decide) (by decide) done rest
  by_cases hslash : c = '\\'
  · subst hslash
    exact stringFrom_simple (by decide) (by decide) done rest
  rw [if_neg hquote, if_neg hslash]
  split
  · subst c
    exact stringFrom_simple (by decide) (by decide) done rest
  split
  · subst c
    exact stringFrom_simple (by decide) (by decide) done rest
  split
  · subst c
    exact stringFrom_simple (by decide) (by decide) done rest
  split
  · subst c
    exact stringFrom_simple (by decide) (by decide) done rest
  split
  · subst c
    exact stringFrom_simple (by decide) (by decide) done rest
  split
  · rename_i hcontrol
    obtain ⟨x, y, z, w, hdigits, hread⟩ := exists_controlDigits hcontrol
    have hcode := stringFrom_code hread (by omega) done rest
    rw [Char.ofNat_toNat] at hcode
    have hchars : ['\\', 'u'] ++ List.replicate (4 - (hexDigits c.toNat).length) '0' ++
        hexDigits c.toNat = '\\' :: 'u' :: [x, y, z, w] := by
      rw [← hdigits]
      rfl
    simp only [hchars]
    exact hcode
  · rename_i hplain
    exact stringFrom_plain hquote hslash hplain done rest

/-- The inside of a string is read up to its closing quote. -/
theorem stringFrom_escaped (cs done rest : List Char) :
    stringFrom none done (cs.flatMap escapeChar ++ '"' :: rest) =
      some (String.ofList (done.reverse ++ cs), rest) := by
  induction cs generalizing done with
  | nil =>
    rw [List.flatMap_nil, List.nil_append, List.append_nil]
    rfl
  | cons c cs ih =>
    rw [List.flatMap_cons, List.append_assoc, stringFrom_escapeChar, ih, List.reverse_cons,
      List.append_assoc]
    rfl

/-- A string is the first lexeme of its text. -/
theorem lexeme_stringText (s : String) (rest : List Char) :
    lexeme? ((stringText s).toList ++ rest) = some (.text s, rest) := by
  have hchars : (stringText s).toList ++ rest =
      '"' :: (s.toList.flatMap escapeChar ++ '"' :: rest) := by
    simp only [stringText, String.toList_ofList, List.cons_append, List.append_assoc,
      List.nil_append]
  rw [hchars]
  have hinside := stringFrom_escaped s.toList [] rest
  rw [List.reverse_nil, List.nil_append, String.ofList_toList] at hinside
  simp only [lexeme?, hinside, Option.map_some]

end Scorebook.Json
