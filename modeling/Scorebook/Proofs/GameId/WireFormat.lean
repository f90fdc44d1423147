import Scorebook.Proofs.GameId.Encoding

/-!
# The wire format of game identifiers

An identifier in the wire format is eight digits that name a day, four letters or digits and one
digit, with nothing but blanks around it.  Every text in the format is read, as the game that its
parts name.  Dates are read leniently, so a text outside the format can be read as well; this
happens exactly when a blank or a sign stands among the eight characters of its date, and exactly
then is the text of the game not the one that its date, teams and number are written as.
-/

namespace Scorebook.GameId
open Text

/-- The text holds the parts and identifies a game of the day. -/
structure Wording.Wired (w : Wording) (x : String) (d : Date) : Prop where
  chars : trim x.toList = w.chars
  day_length : w.day.length = 8
  day_digits : w.day.all Char.isDigit = true
  date : Calendar.dayOfDigits? w.day = some d
  away_length : w.away.length = 2
  away : w.away.all Char.isAlphanum = true
  home_length : w.home.length = 2
  home : w.home.all Char.isAlphanum = true
  digit : w.digit.isDigit = true

/-- The game of the day that the parts name. -/
def Wording.game (w : Wording) (d : Date) : GameId :=
  ⟨String.ofList w.capital.chars, d, d.year, String.ofList w.capital.away,
    String.ofList w.capital.home, digitValue w.digit⟩

/-- The text is in the wire format and its parts name the game. -/
def InWireFormat (x : String) (g : GameId) : Prop :=
  ∃ (w : Wording) (d : Date), w.Wired x d ∧ g = w.game d

/-- No blank and no sign stands among the characters of the date. -/
def PlainDate (x : String) : Prop :=
  ((trim x.toList).take 8).all Calendar.isPlainMark = true

instance (x : String) : Decidable (PlainDate x) := inferInstanceAs (Decidable (_ = true))

/-! ### Segments -/

theorem isSegment_ofList_toUpper {cs : List Char} :
    isSegment (String.ofList (cs.map Char.toUpper)) = true ↔
      cs.length = 2 ∧ cs.all Char.isAlphanum = true := by
  simp only [isSegment, String.toList_ofList, List.length_map, List.all_map, Function.comp_def,
    isAlphanum_toUpper, Bool.and_eq_true, beq_iff_eq]

theorem isAscii_of_isAlphanum {c : Char} (h : c.isAlphanum = true) : isAscii c = true :=
  decide_eq_true (toNat_lt_of_isAlphanum h)

/-! ### The format is read -/

section
variable {w : Wording} {x : String} {d : Date} {g : GameId}

theorem Wording.Wired.ascii (h : w.Wired x d) : w.chars.all isAscii = true := by
  have hdigit : ∀ c : Char, c.isDigit = true → isAscii c = true :=
    fun c hc => isAscii_of_isAlphanum (isAlphanum_of_isDigit hc)
  have hday : w.day.all isAscii = true :=
    List.all_eq_true.2 fun c hc => hdigit c (List.all_eq_true.1 h.day_digits c hc)
  have haway : w.away.all isAscii = true :=
    List.all_eq_true.2 fun c hc => isAscii_of_isAlphanum (List.all_eq_true.1 h.away c hc)
  have hhome : w.home.all isAscii = true :=
    List.all_eq_true.2 fun c hc => isAscii_of_isAlphanum (List.all_eq_true.1 h.home c hc)
  simp only [Wording.chars, List.all_append, List.all_cons, List.all_nil, hday, haway, hhome,
    hdigit w.digit h.digit, Bool.and_true]

theorem Wording.Wired.reads (h : w.Wired x d) : w.Reads x (w.game d) where
  chars := h.chars
  day_length := h.day_length
  away_length := h.away_length
  home_length := h.home_length
  ascii := h.ascii
  date := Calendar.readCompact_of_digits h.day_length h.day_digits h.date
  away := isSegment_ofList_toUpper.2 ⟨h.away_length, h.away⟩
  home := isSegment_ofList_toUpper.2 ⟨h.home_length, h.home⟩
  digit := h.digit
  game := rfl

theorem Wording.plainDate_iff (hx : trim x.toList = w.chars) (hlen : w.day.length = 8) :
    PlainDate x ↔ w.day.all Calendar.isPlainMark = true := by
  have htake : (trim x.toList).take 8 = w.day := by
    rw [hx]
    exact List.take_left' hlen
  rw [PlainDate, htake]

theorem Wording.Wired.plainDate (h : w.Wired x d) : PlainDate x := by
  apply (plainDate_iff h.chars h.day_length).2
  apply List.all_eq_true.2
  intro c hc
  exact Calendar.isPlainMark_of_isDigit (List.all_eq_true.1 h.day_digits c hc)

/-- Without blanks and signs in its date, a text that is read is in the format. -/
theorem Wording.Reads.wired (h : w.Reads x g) (hp : PlainDate x) : w.Wired x g.date := by
  have hplain := (plainDate_iff h.chars h.day_length).1 hp
  obtain ⟨hdigits, hday⟩ := Calendar.digits_of_readCompact h.day_length hplain h.date
  obtain ⟨hawayLength, haway⟩ := isSegment_ofList_toUpper.1 h.away
  obtain ⟨hhomeLength, hhome⟩ := isSegment_ofList_toUpper.1 h.home
  exact ⟨h.chars, h.day_length, hdigits, hday, hawayLength, haway, hhomeLength, hhome, h.digit⟩

theorem inWireFormat_iff : InWireFormat x g ↔ decode x = .ok g ∧ PlainDate x := by
  constructor
  · rintro ⟨w, d, hw, rfl⟩
    exact ⟨decode_eq_ok_iff.2 ⟨w, hw.reads⟩, hw.plainDate⟩
  · rintro ⟨h, hp⟩
    obtain ⟨w, hw⟩ := decode_eq_ok_iff.1 h
    exact ⟨w, g.date, hw.wired hp, hw.game⟩

/-! ### The format is written -/

/-- What the parts of a game are written as, part by part. -/
theorem Wording.Reads.worded_eq (h : w.Reads x g) :
    worded g.date g.awaySegment g.homeSegment g.sequence =
      String.ofList ({ w with day := g.date.compact } : Wording).capital.chars := by
  have haway : g.awaySegment = String.ofList w.capital.away := by rw [h.game]
  have hhome : g.homeSegment = String.ofList w.capital.home := by rw [h.game]
  have hsequence : g.sequence = digitValue w.digit := by rw [h.game]
  have hcapital : ∀ cs : List Char, asciiUppered (String.ofList (cs.map Char.toUpper)) =
      String.ofList (cs.map Char.toUpper) := by
    intro cs
    simp only [asciiUppered, String.toList_ofList, List.map_map, Function.comp_def,
      toUpper_toUpper]
  rw [worded, haway, hhome, hsequence]
  simp only [Wording.capital, hcapital]
  exact ofList_capital_chars { w with day := g.date.compact } h.digit

/-- A game is written as its text exactly when the text is in the format. -/
theorem Wording.Reads.worded_eq_text_iff (h : w.Reads x g) :
    worded g.date g.awaySegment g.homeSegment g.sequence = g.text ↔ PlainDate x := by
  rw [plainDate_iff h.chars h.day_length]
  have htext : g.text = String.ofList w.capital.chars := by rw [h.game]
  rw [h.worded_eq, htext]
  constructor
  · intro heq
    have hchars := String.ofList_injective heq
    have hday : g.date.compact = w.day := List.append_cancel_right hchars
    obtain ⟨hlow, hhigh⟩ := Calendar.year_of_length_compact (hday ▸ h.day_length)
    have hdigits := Calendar.all_isDigit_compact hlow hhigh
    rw [hday] at hdigits
    apply List.all_eq_true.2
    intro c hc
    exact Calendar.isPlainMark_of_isDigit (List.all_eq_true.1 hdigits c hc)
  · intro hplain
    obtain ⟨hdigits, hday⟩ := Calendar.digits_of_readCompact h.day_length hplain h.date
    rw [← Calendar.eq_compact_of_digits h.day_length hdigits hday]

theorem encode_parts_iff (h : decode x = .ok g) :
    encode g.date g.awaySegment g.homeSegment g.sequence = .ok g.text ↔ PlainDate x := by
  obtain ⟨w, hw⟩ := decode_eq_ok_iff.1 h
  have haway : isSegment g.awaySegment = true := by
    rw [hw.game]
    exact hw.away
  have hhome : isSegment g.homeSegment = true := by
    rw [hw.game]
    exact hw.home
  have hsequence : g.sequence ≤ 9 := by
    rw [hw.game]
    exact digitValue_le hw.digit
  rw [encode_eq_ok_iff, ← hw.worded_eq_text_iff]
  constructor
  · rintro ⟨-, -, -, htext⟩
    exact htext.symm
  · intro htext
    exact ⟨haway, hhome, hsequence, htext.symm⟩

end

/-- A text is in the wire format exactly when it is read and no blank or sign stands in its date,
and then the text of its game is the one way to write the date, the teams and the number. -/
theorem decode_iff_inWireFormat (x : String) :
    (∀ g, InWireFormat x g ↔ decode x = .ok g ∧ PlainDate x) ∧
    (∀ g, decode x = .ok g →
      (encode g.date g.awaySegment g.homeSegment g.sequence = .ok g.text ↔ PlainDate x)) ∧
    ∀ (y : String) (g g' : GameId), decode x = .ok g → decode y = .ok g' →
      PlainDate x → PlainDate y → g.date = g'.date → g.awaySegment = g'.awaySegment →
      g.homeSegment = g'.homeSegment → g.sequence = g'.sequence → g.text = g'.text := by
  refine ⟨fun g => inWireFormat_iff, fun g h => encode_parts_iff h, ?_⟩
  intro y g g' hx hy hpx hpy hdate haway hhome hsequence
  have hwritten := (encode_parts_iff hx).2 hpx
  have hwritten' := (encode_parts_iff hy).2 hpy
  rw [hdate, haway, hhome, hsequence, hwritten'] at hwritten
  exact (Except.ok.inj hwritten).symm

/-- Two spellings of a game with blanks around them and small letters in them are in the format. -/
theorem inWireFormat_of_smallLetters :
    ∃ g g', decode " 20240305hhlg0 " = .ok g ∧ decode "20240305HhLg0\n" = .ok g' ∧
      InWireFormat " 20240305hhlg0 " g ∧
      encode g.date g.awaySegment g.homeSegment g.sequence = .ok g.text ∧ g.text = g'.text := by
  have hread : decode " 20240305hhlg0 " =
      .ok ⟨"20240305HHLG0", ⟨2024, 3, 5, by decide⟩, 2024, "HH", "LG", 0⟩ := by rfl
  have hread' : decode "20240305HhLg0\n" =
      .ok ⟨"20240305HHLG0", ⟨2024, 3, 5, by decide⟩, 2024, "HH", "LG", 0⟩ := by rfl
  have hplain : PlainDate " 20240305hhlg0 " := by decide +kernel
  have hplain' : PlainDate "20240305HhLg0\n" := by decide +kernel
  obtain ⟨hformat, hwritten, hone⟩ := decode_iff_inWireFormat " 20240305hhlg0 "
  exact ⟨_, _, hread, hread', (hformat _).2 ⟨hread, hplain⟩, (hwritten _ hread).2 hplain,
    hone _ _ _ hread hread' hplain hplain' rfl rfl rfl rfl⟩

/-- A date with blanks in place of zeros is read, and gives a game a second text. -/
theorem decode_of_blanks_in_date :
    ∃ g g', decode "2024 3 5HHLG0" = .ok g ∧ decode "20240305HHLG0" = .ok g' ∧
      g.date = g'.date ∧ g.awaySegment = g'.awaySegment ∧ g.homeSegment = g'.homeSegment ∧
      g.sequence = g'.sequence ∧ g.text ≠ g'.text ∧ (∀ i, ¬InWireFormat "2024 3 5HHLG0" i) ∧
      encode g.date g.awaySegment g.homeSegment g.sequence ≠ .ok g.text := by
  refine ⟨⟨"2024 3 5HHLG0", ⟨2024, 3, 5, by decide⟩, 2024, "HH", "LG", 0⟩,
    ⟨"20240305HHLG0", ⟨2024, 3, 5, by decide⟩, 2024, "HH", "LG", 0⟩, by rfl, by rfl, rfl, rfl, rfl,
    rfl, by decide, ?_, by decide +kernel⟩
  rintro i ⟨w, d, hw, -⟩
  have hplain := hw.plainDate
  revert hplain
  decide +kernel

end Scorebook.GameId
