import Scorebook.Proofs.Calendar.Compact
import Scorebook.Proofs.GameId

/-!
# Writing game identifiers

`encode` refuses exactly the segments and sequence numbers that no identifier can hold, and what it
writes is read as the game it was given.
-/

namespace Scorebook.GameId
open Text

theorem isSegment_asciiUppered (s : String) : isSegment (asciiUppered s) = isSegment s := by
  simp only [isSegment, asciiUppered, String.toList_ofList, List.length_map, List.all_map,
    Function.comp_def, isAlphanum_toUpper]

theorem isSegment_iff {s : String} : isSegment s = true ↔
    s.toList.length = 2 ∧ ∀ c ∈ s.toList, c.isAlphanum = true := by
  simp only [isSegment, Bool.and_eq_true, beq_iff_eq, List.all_eq_true]

/-- The text of an identifier, before anything is checked. -/
def worded (d : Date) (away home : String) (n : Nat) : String :=
  String.ofList d.compact ++ asciiUppered away ++ asciiUppered home ++ decimal n

theorem encode_eq_ok_iff {d : Date} {away home x : String} {n : Nat} :
    encode d away home n = .ok x ↔
      isSegment away = true ∧ isSegment home = true ∧ n ≤ 9 ∧ x = worded d away home n := by
  have hrun : encode d away home n = (do
      checkSegment (worded d away home n) (asciiUppered away)
      checkSegment (worded d away home n) (asciiUppered home)
      if n > 9 then refuse (worded d away home n) .sequenceTooLarge
      else .ok (worded d away home n)) := rfl
  rw [hrun]
  constructor
  · intro h
    obtain ⟨_, haway, h⟩ := of_bind_ok h
    obtain ⟨_, hhome, h⟩ := of_bind_ok h
    split at h
    · cases h
    · rename_i hn
      cases h
      have ha := checkSegment_ok haway
      have hh := checkSegment_ok hhome
      rw [isSegment_asciiUppered] at ha hh
      exact ⟨ha, hh, Nat.le_of_not_lt hn, rfl⟩
  · rintro ⟨ha, hh, hn, rfl⟩
    simp only [checkSegment, isSegment_asciiUppered, ha, hh, if_true]
    exact if_neg (Nat.not_lt.2 hn)

section
variable {d : Date} {away home : String} {n : Nat}

def encodedWording (d : Date) (away home : String) (n : Nat) : Wording :=
  ⟨d.compact, away.toList.map Char.toUpper, home.toList.map Char.toUpper, Nat.digitChar n⟩

theorem capital_encodedWording :
    (encodedWording d away home n).capital = encodedWording d away home n := by
  simp only [encodedWording, Wording.capital, List.map_map, Function.comp_def, toUpper_toUpper]

theorem worded_toList (hn : n ≤ 9) :
    (worded d away home n).toList = (encodedWording d away home n).chars := by
  have hdigit : digits n = [Nat.digitChar n] := digits_of_lt_ten (by omega)
  simp only [worded, encodedWording, Wording.chars, asciiUppered, decimal, hdigit,
    String.toList_append, String.toList_ofList, List.append_assoc]

theorem all_isAlphanum_of_isSegment {s : String} (h : isSegment s = true) :
    (s.toList.map Char.toUpper).all Char.isAlphanum = true := by
  rw [List.all_map]
  apply List.all_eq_true.2
  intro c hc
  rw [Function.comp_apply, isAlphanum_toUpper]
  exact (isSegment_iff.1 h).2 c hc

/-- Every character of an encoded identifier is an ASCII letter or digit. -/
theorem all_isAlphanum_encodedWording (hlow : 0 ≤ d.year) (hhigh : d.year ≤ 9999)
    (ha : isSegment away = true) (hh : isSegment home = true) (hn : n ≤ 9) :
    (encodedWording d away home n).chars.all Char.isAlphanum = true := by
  have hday : d.compact.all Char.isAlphanum = true := by
    apply List.all_eq_true.2
    intro c hc
    have hall := Calendar.all_isDigit_compact hlow hhigh
    exact isAlphanum_of_isDigit (List.all_eq_true.1 hall c hc)
  have hdigit : (Nat.digitChar n).isAlphanum = true :=
    isAlphanum_of_isDigit (digitChar_of_lt_ten (by omega)).1
  simp only [encodedWording, Wording.chars, List.all_append, List.all_cons, List.all_nil, hday,
    all_isAlphanum_of_isSegment ha, all_isAlphanum_of_isSegment hh, hdigit, Bool.and_true]

theorem encodedWording_reads (hlow : 0 ≤ d.year) (hhigh : d.year ≤ 9999)
    (ha : isSegment away = true) (hh : isSegment home = true) (hn : n ≤ 9) :
    (encodedWording d away home n).Reads (worded d away home n)
      ⟨worded d away home n, d, d.year, asciiUppered away, asciiUppered home, n⟩ := by
  have hall := all_isAlphanum_encodedWording hlow hhigh ha hh hn
  obtain ⟨hdigit, hvalue⟩ := digitChar_of_lt_ten (n := n) (by omega)
  have htext : String.ofList (encodedWording d away home n).chars = worded d away home n := by
    rw [← worded_toList hn, String.ofList_toList]
  constructor
  · rw [worded_toList hn, (tight_of_all_isAlphanum hall).trim_eq]
  · exact Calendar.length_compact hlow hhigh
  · exact (List.length_map _).trans (isSegment_iff.1 ha).1
  · exact (List.length_map _).trans (isSegment_iff.1 hh).1
  · apply List.all_eq_true.2
    intro c hc
    exact decide_eq_true (toNat_lt_of_isAlphanum (List.all_eq_true.1 hall c hc))
  · exact Calendar.readCompact_compact hlow hhigh
  · rw [capital_encodedWording]
    exact (isSegment_asciiUppered away).trans ha
  · rw [capital_encodedWording]
    exact (isSegment_asciiUppered home).trans hh
  · exact hdigit
  · rw [capital_encodedWording, htext]
    simp only [encodedWording, hvalue]
    rfl

/-- What was encoded is decoded to what it was made from. -/
theorem decode_encode {x : String} (hlow : 0 ≤ d.year) (hhigh : d.year ≤ 9999)
    (h : encode d away home n = .ok x) :
    decode x = .ok ⟨x, d, d.year, asciiUppered away, asciiUppered home, n⟩ := by
  obtain ⟨ha, hh, hn, rfl⟩ := encode_eq_ok_iff.1 h
  exact decode_eq_ok_iff.2 ⟨_, encodedWording_reads hlow hhigh ha hh hn⟩

end

end Scorebook.GameId
