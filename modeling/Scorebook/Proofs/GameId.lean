import Scorebook.GameId
import Scorebook.Proofs.Basic
import Scorebook.Proofs.Text.Ends

/-!
# Reading game identifiers

`Wording.Reads` says part by part what an identifier is made of, and `decode_eq_ok_iff` that
decoding reads exactly such texts.  The text of a decoded identifier is read as itself, so decoding
has settled on one spelling of it.
-/

namespace Scorebook.GameId
open Text

/-- The characters of an identifier by their part. -/
structure Wording where
  day : List Char
  away : List Char
  home : List Char
  digit : Char

namespace Wording

def chars (w : Wording) : List Char := w.day ++ (w.away ++ (w.home ++ [w.digit]))

/-- The wording with its segments in upper case. -/
def capital (w : Wording) : Wording :=
  { w with away := w.away.map Char.toUpper, home := w.home.map Char.toUpper }

/-- A text is worded so up to blanks around it, and identifies a game. -/
structure Reads (w : Wording) (x : String) (g : GameId) : Prop where
  chars : trim x.toList = w.chars
  day_length : w.day.length = 8
  away_length : w.away.length = 2
  home_length : w.home.length = 2
  ascii : w.chars.all isAscii = true
  date : Calendar.readCompact w.day = .ok g.date
  away : isSegment (String.ofList w.capital.away) = true
  home : isSegment (String.ofList w.capital.home) = true
  digit : w.digit.isDigit = true
  game : g = ⟨String.ofList w.capital.chars, g.date, g.date.year, String.ofList w.capital.away,
    String.ofList w.capital.home, digitValue w.digit⟩

/-- Thirteen characters are worded in one way. -/
theorem exists_of_length {cs : List Char} (h : cs.length = size) :
    ∃ w : Wording, cs = w.chars ∧ w.day.length = 8 ∧ w.away.length = 2 ∧ w.home.length = 2 := by
  have hlast : (cs.drop 12).length = 1 := by rw [List.length_drop, h]; rfl
  obtain ⟨digit, hdigit⟩ := List.length_eq_one_iff.1 hlast
  refine ⟨⟨cs.take 8, (cs.drop 8).take 2, (cs.drop 10).take 2, digit⟩, ?_, ?_, ?_, ?_⟩
  · have h10 : cs.drop 10 = (cs.drop 10).take 2 ++ cs.drop 12 := by
      rw [← List.drop_drop (i := 2) (j := 10), List.take_append_drop]
    have h8 : cs.drop 8 = (cs.drop 8).take 2 ++ cs.drop 10 := by
      rw [← List.drop_drop (i := 2) (j := 8), List.take_append_drop]
    rw [chars, ← hdigit, ← h10, ← h8, List.take_append_drop]
  · rw [List.length_take, h]; rfl
  · rw [List.length_take, List.length_drop, h]; rfl
  · rw [List.length_take, List.length_drop, h]; rfl

/-- Decoding looks at the parts one after the other. -/
theorem decode_eq {w : Wording} {x : String} (hx : trim x.toList = w.chars)
    (hd : w.day.length = 8) (ha : w.away.length = 2) (hh : w.home.length = 2)
    (hascii : w.chars.all isAscii = true) :
    decode x = (match Calendar.readCompact w.day with
      | .error e => refuse x (.badDate e)
      | .ok date => do
        checkSegment x (String.ofList w.capital.away)
        checkSegment x (String.ofList w.capital.home)
        match numeral? maxU8 [w.digit] with
        | none => refuse x .notADigit
        | some n =>
          .ok ⟨String.ofList w.day ++ String.ofList w.capital.away ++
            String.ofList w.capital.home ++ decimal n, date, date.year,
            String.ofList w.capital.away, String.ofList w.capital.home, n⟩) := by
  have hlen : w.chars.length = size := by simp [chars, hd, ha, hh, size]
  have h8 : w.chars.drop 8 = w.away ++ (w.home ++ [w.digit]) := List.drop_left' hd
  have h10 : w.chars.drop 10 = w.home ++ [w.digit] := by
    rw [← List.drop_drop (i := 2) (j := 8), h8]
    exact List.drop_left' ha
  have h12 : w.chars.drop 12 = [w.digit] := by
    rw [← List.drop_drop (i := 2) (j := 10), h10]
    exact List.drop_left' hh
  have hday : w.chars.take 8 = w.day := List.take_left' hd
  have haway : (w.away ++ (w.home ++ [w.digit])).take 2 = w.away := List.take_left' ha
  have hhome : (w.home ++ [w.digit]).take 2 = w.home := List.take_left' hh
  unfold decode
  rw [hx]
  simp only [hlen, hascii, h8, h10, h12, hday, haway, hhome]
  simp only [asciiUppered, String.toList_ofList, Bool.not_true]
  cases Calendar.readCompact w.day with
  | error e => rfl
  | ok date => rfl

end Wording

/-! ### What is read -/

theorem checkSegment_ok {text segment : String} (h : checkSegment text segment = .ok ()) :
    isSegment segment = true := by
  unfold checkSegment at h
  split at h
  · assumption
  · cases h

theorem ofList_capital_chars (w : Wording) (hd : w.digit.isDigit = true) :
    String.ofList w.day ++ String.ofList w.capital.away ++ String.ofList w.capital.home ++
      decimal (digitValue w.digit) = String.ofList w.capital.chars := by
  rw [decimal, digits_digitValue hd, ← String.ofList_append, ← String.ofList_append,
    ← String.ofList_append]
  simp only [Wording.chars, Wording.capital, List.append_assoc]

theorem decode_eq_ok_iff {x : String} {g : GameId} :
    decode x = .ok g ↔ ∃ w : Wording, w.Reads x g := by
  constructor
  · intro h
    have hform : (trim x.toList).length = size ∧ (trim x.toList).all isAscii = true := by
      by_contra hform
      rw [Classical.not_and_iff_not_or_not, ← Ne, Bool.not_eq_true, ← Bool.not_eq_true'] at hform
      simp only [decode, if_pos hform] at h
      cases h
    obtain ⟨w, hx, hd, ha, hh⟩ := Wording.exists_of_length hform.1
    have hascii : w.chars.all isAscii = true := hx ▸ hform.2
    rw [Wording.decode_eq hx hd ha hh hascii] at h
    cases hdate : Calendar.readCompact w.day with
    | error e =>
      simp only [hdate] at h
      cases h
    | ok date =>
      simp only [hdate] at h
      obtain ⟨_, haway, h⟩ := of_bind_ok h
      obtain ⟨_, hhome, h⟩ := of_bind_ok h
      rw [numeral?_singleton] at h
      by_cases hdigit : w.digit.isDigit = true ∧ digitValue w.digit ≤ maxU8
      · simp only [if_pos hdigit] at h
        cases h
        exact ⟨w, hx, hd, ha, hh, hascii, hdate, checkSegment_ok haway, checkSegment_ok hhome,
          hdigit.1, by rw [ofList_capital_chars w hdigit.1]⟩
      · simp only [if_neg hdigit] at h
        cases h
  · rintro ⟨w, hw⟩
    have hle : digitValue w.digit ≤ maxU8 := by
      have hlt := toNat_lt_of_isAlphanum (isAlphanum_of_isDigit hw.digit)
      simp only [digitValue, maxU8]
      omega
    rw [Wording.decode_eq hw.chars hw.day_length hw.away_length hw.home_length hw.ascii, hw.date,
      numeral?_singleton, if_pos ⟨hw.digit, hle⟩]
    simp only [checkSegment, hw.away, hw.home, ofList_capital_chars w hw.digit]
    exact congrArg Except.ok hw.game.symm

theorem Wording.Reads.tight {w : Wording} {x : String} {g : GameId} (h : w.Reads x g) :
    Tight w.capital.chars := by
  obtain ⟨c, day, hday⟩ : ∃ c day, w.day = c :: day := by
    cases hd : w.day with
    | nil => cases hd ▸ h.day_length
    | cons c day => exact ⟨c, day, rfl⟩
  constructor
  · intro hne
    have hfirst := h.chars ▸ (tight_trim x.toList).first
    simpa [Wording.chars, Wording.capital, hday] using hfirst
  · intro hne
    have hlast : w.capital.chars.getLast hne = w.digit := by
      simp [Wording.chars, Wording.capital]
    rw [hlast]
    exact isBlank_of_isAlphanum (isAlphanum_of_isDigit h.digit)

theorem all_isAscii_of_isSegment {cs : List Char} (h : isSegment (String.ofList cs) = true) :
    cs.all isAscii = true := by
  simp only [isSegment, String.toList_ofList, Bool.and_eq_true, List.all_eq_true] at h
  apply List.all_eq_true.2
  intro c hc
  simpa [isAscii] using toNat_lt_of_isAlphanum (h.2 c hc)

theorem Wording.capital_capital (w : Wording) : w.capital.capital = w.capital := by
  simp only [capital, List.map_map, Function.comp_def, toUpper_toUpper]

theorem Wording.Reads.text_toList {w : Wording} {x : String} {g : GameId} (h : w.Reads x g) :
    g.text.toList = w.capital.chars := by
  rw [h.game]
  exact String.toList_ofList

/-- The text of a decoded game identifier is decoded to the same. -/
theorem decode_text {x : String} {g : GameId} (h : decode x = .ok g) : decode g.text = .ok g := by
  obtain ⟨w, hw⟩ := decode_eq_ok_iff.1 h
  -- The text is worded like the identifier with its segments in capitals.
  have hascii : w.capital.chars.all isAscii = true := by
    have hall := hw.ascii
    simp only [Wording.chars, List.all_append, Bool.and_eq_true] at hall ⊢
    exact ⟨hall.1, all_isAscii_of_isSegment hw.away, all_isAscii_of_isSegment hw.home, hall.2.2.2⟩
  refine decode_eq_ok_iff.2 ⟨w.capital, ?_⟩
  constructor
  · rw [hw.text_toList, hw.tight.trim_eq]
  · exact hw.day_length
  · exact (List.length_map _).trans hw.away_length
  · exact (List.length_map _).trans hw.home_length
  · exact hascii
  · exact hw.date
  · rw [w.capital_capital]
    exact hw.away
  · rw [w.capital_capital]
    exact hw.home
  · exact hw.digit
  · rw [w.capital_capital]
    exact hw.game

/-! ### Texts and addresses -/

section
variable {x y : String} {g g' : GameId}

theorem length_text (h : decode x = .ok g) : g.text.toList.length = size := by
  obtain ⟨w, hw⟩ := decode_eq_ok_iff.1 h
  rw [hw.text_toList]
  simp [Wording.chars, Wording.capital, hw.day_length, hw.away_length, hw.home_length, size]

/-- A decoded game is known by its text. -/
theorem eq_of_text_eq (h : decode x = .ok g) (h' : decode y = .ok g') (ht : g.text = g'.text) :
    g = g' := by
  have hg := decode_text h
  rw [ht, decode_text h'] at hg
  exact (Except.ok.inj hg).symm

theorem eq_of_sectionUrl_eq {baseUrl name other : String} (h : decode x = .ok g)
    (h' : decode y = .ok g') (hu : g.sectionUrl baseUrl name = g'.sectionUrl baseUrl other) :
    g = g' := by
  have hlist := congrArg String.toList hu
  simp only [sectionUrl, String.toList_append, List.append_assoc] at hlist
  have hrest := List.append_cancel_left (List.append_cancel_left hlist)
  have htext := (List.append_inj hrest ((length_text h).trans (length_text h').symm)).1
  exact eq_of_text_eq h h' (String.toList_inj.1 htext)

theorem lineupUrl_ne_reviewUrl (g : GameId) (baseUrl : String) :
    g.lineupUrl baseUrl ≠ g.reviewUrl baseUrl := by
  intro h
  have hlist := congrArg String.toList h
  simp only [lineupUrl, reviewUrl, sectionUrl, String.toList_append] at hlist
  have hname := List.append_cancel_left hlist
  revert hname
  decide

end

end Scorebook.GameId
