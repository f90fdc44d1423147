import Scorebook.Page.Info
import Scorebook.Proofs.Text.Ends

/-!
# The items of an information block

A block prints labels with values.  `Writes l v cs` says that `cs` writes the value `v` behind the
label `l`, and `Prints items cs` that `cs` is a print of the items.  A character of a label stands
in no other label and in no value but the name of a stadium, so labels are told apart from all that
is printed between them.
-/

namespace Scorebook.Page
open Text

/-! ### Items -/

inductive InfoLabel where
  | stadium
  | attendance
  | start
  | finish
  | duration
deriving DecidableEq, Repr

def InfoLabel.text : InfoLabel → String
  | .stadium => "구장"
  | .attendance => "관중"
  | .start => "개시"
  | .finish => "종료"
  | .duration => "경기시간"

def InfoLabel.chars (l : InfoLabel) : List Char := l.text.toList

inductive InfoValue where
  | text (s : String)
  | count (n : Count)
deriving DecidableEq, Repr

/-- A label with its value, unless that is left empty. -/
structure InfoItem where
  label : InfoLabel
  value : Option InfoValue
deriving DecidableEq, Repr

def isColon (c : Char) : Bool := c == ':' || c == '：'

/-- The ways to print a value behind a label: any word without a label in it for the stadium, digits
grouped by commas for the attendance, digits and colons for a clock, and hours and minutes for the
duration, which counts the minutes of both. -/
inductive Writes : InfoLabel → Option InfoValue → List Char → Prop
  | nothing {l : InfoLabel} : Writes l none []
  | stadium {cs : List Char} (hne : cs ≠ []) (hword : ∀ c ∈ cs, isBlank c = false)
      (hplain : ∀ l : InfoLabel, ¬ l.chars <:+: cs) :
      Writes .stadium (some (.text (String.ofList cs))) cs
  | attendance {cs : List Char} {n : Count} (hmarks : ∀ c ∈ cs, (c.isDigit || c == ',') = true)
      (hdigits : cs.filter (· ≠ ',') ≠ []) (hvalue : digitsValue (cs.filter (· ≠ ',')) = n.toNat) :
      Writes .attendance (some (.count n)) cs
  | clock {l : InfoLabel} {cs : List Char} (hl : l = .start ∨ l = .finish) (hne : cs ≠ [])
      (hmarks : ∀ c ∈ cs, (c.isDigit || c == ':') = true) :
      Writes l (some (.text (String.ofList cs))) cs
  | duration {hours minutes : List Char} {n : Count} (hhours : hours ≠ [])
      (hminutes : minutes ≠ []) (hdigits : (hours ++ minutes).all Char.isDigit = true)
      (hlt : digitsValue minutes < 60)
      (hvalue : digitsValue hours * 60 + digitsValue minutes = n.toNat) :
      Writes .duration (some (.count n)) (hours ++ ':' :: minutes)

/-- The texts in which an information block may print its items: each label with a colon and its
value behind it, blanks anywhere between, and at least one between an item and the next. -/
inductive Prints : List InfoItem → List Char → Prop
  | blank {bs : List Char} (h : bs.all isBlank = true) : Prints [] bs
  | item {i : InfoItem} {items : List InfoItem} {lead before after value rest : List Char}
      {colon : Char} (hlead : lead.all isBlank = true) (hbefore : before.all isBlank = true)
      (hcolon : isColon colon = true) (hafter : after.all isBlank = true)
      (hvalue : Writes i.label i.value value) (hgap : ∀ c ∈ rest.head?, isBlank c = true)
      (hrest : Prints items rest) :
      Prints (i :: items) (lead ++ (i.label.chars ++ before ++ colon :: (after ++ value)) ++ rest)

/-- The value of the first item with a label. -/
def told? (l : InfoLabel) (items : List InfoItem) : Option InfoValue :=
  (items.find? fun i => i.label == l).bind (·.value)

def InfoValue.text? : InfoValue → Option String
  | .text s => some s
  | .count _ => none

def InfoValue.count? : InfoValue → Option Count
  | .text _ => none
  | .count n => some n

/-- What the items of an information block tell. -/
def infoOf (items : List InfoItem) : EventInfo where
  stadium := (told? .stadium items).bind InfoValue.text?
  attendance := (told? .attendance items).bind InfoValue.count?
  startTime := (told? .start items).bind InfoValue.text?
  endTime := (told? .finish items).bind InfoValue.text?
  minutes := (told? .duration items).bind InfoValue.count?

/-- The item behind the first one with a label, when that is left without a value. -/
def follower? (l : InfoLabel) : List InfoItem → Option InfoItem
  | [] => none
  | i :: items =>
    if i.label = l then (if i.value.isNone then items.head? else none) else follower? l items

/-! ### Characters of labels -/

variable {l : InfoLabel} {cs : List Char}

theorem InfoLabel.exists_chars (l : InfoLabel) : ∃ c cs, l.chars = c :: cs := by
  cases l <;> exact ⟨_, _, rfl⟩

theorem InfoLabel.chars_ne_nil (l : InfoLabel) : l.chars ≠ [] := by
  cases l <;> exact List.cons_ne_nil _ _

/-- A character that labels are made of, and that stands in no value but the name of a stadium. -/
def isLabelChar (c : Char) : Bool :=
  !isBlank c && !isColon c && !c.isDigit && c != ','

theorem isLabelChar_of_mem_chars {c : Char} (h : c ∈ l.chars) : isLabelChar c = true := by
  have hall : l.chars.all isLabelChar = true := by cases l <;> decide
  exact List.all_eq_true.1 hall c h

/-- No label begins with a character of another. -/
theorem InfoLabel.not_infix_chars {k : InfoLabel} (h : k ≠ l) : ¬ l.chars <:+: k.chars := by
  have hhead : l.chars.head?.any k.chars.contains = false := by
    cases l <;> cases k <;> first | contradiction | decide
  obtain ⟨c, cs, hchars⟩ := l.exists_chars
  intro hin
  rw [hchars] at hhead hin
  have hc : k.chars.contains c = true := List.contains_iff_mem.2 (hin.subset List.mem_cons_self)
  exact Bool.eq_false_iff.1 hhead hc

theorem not_mem_chars_of_isBlank {c : Char} (h : isBlank c = true) : c ∉ l.chars := by
  intro hc
  have hlabel := isLabelChar_of_mem_chars hc
  rw [isLabelChar, h] at hlabel
  cases hlabel

theorem isBlank_of_mem_chars {c : Char} (h : c ∈ l.chars) : isBlank c = false :=
  Bool.eq_false_iff.2 fun hblank => not_mem_chars_of_isBlank hblank h

theorem not_mem_chars_of_isColon {c : Char} (h : isColon c = true) : c ∉ l.chars := by
  intro hc
  have hlabel := isLabelChar_of_mem_chars hc
  rw [isLabelChar, h, Bool.not_true, Bool.and_false] at hlabel
  cases hlabel

theorem isBlank_of_isColon {c : Char} (h : isColon c = true) : isBlank c = false := by
  rcases Bool.or_eq_true_iff.1 h with h | h <;> rw [beq_iff_eq.1 h] <;> decide

/-! ### Printed values -/

theorem isBlank_of_mark {c mark : Char} (h : (c.isDigit || c == mark) = true)
    (hmark : isBlank mark = false) : isBlank c = false := by
  rcases Bool.or_eq_true_iff.1 h with hdigit | heq
  · exact isBlank_of_isDigit hdigit
  · rwa [beq_iff_eq.1 heq]

theorem not_isLabelChar_of_mark {c mark : Char} (h : (c.isDigit || c == mark) = true)
    (hmark : isLabelChar mark = false) : isLabelChar c = false := by
  rcases Bool.or_eq_true_iff.1 h with hdigit | heq
  · rw [isLabelChar, hdigit, Bool.not_true, Bool.and_false, Bool.false_and]
  · rwa [beq_iff_eq.1 heq]

theorem InfoLabel.not_infix_of_plain (h : ∀ c ∈ cs, isLabelChar c = false) (l : InfoLabel) :
    ¬ l.chars <:+: cs := by
  intro hin
  obtain ⟨c, rest, hchars⟩ := l.exists_chars
  have hc : c ∈ l.chars := hchars ▸ List.mem_cons_self
  cases (isLabelChar_of_mem_chars hc).symm.trans (h c (hin.subset hc))

theorem clockMark_of_duration {hours minutes : List Char}
    (h : (hours ++ minutes).all Char.isDigit = true) :
    ∀ c ∈ hours ++ ':' :: minutes, (c.isDigit || c == ':') = true := by
  have hdigits := List.all_eq_true.1 h
  intro c hc
  rcases List.mem_append.1 hc with hc | hc
  · rw [hdigits c (List.mem_append_left _ hc), Bool.true_or]
  · rcases List.mem_cons.1 hc with rfl | hc
    · rfl
    · rw [hdigits c (List.mem_append_right _ hc), Bool.true_or]

section
variable {v : Option InfoValue} {w : InfoValue}

theorem Writes.word (h : Writes l v cs) : ∀ c ∈ cs, isBlank c = false := by
  cases h with
  | nothing => exact fun c hc => by cases hc
  | stadium _ hword _ => exact hword
  | attendance hmarks _ _ => exact fun c hc => isBlank_of_mark (hmarks c hc) (by decide)
  | clock _ _ hmarks => exact fun c hc => isBlank_of_mark (hmarks c hc) (by decide)
  | duration _ _ hdigits _ _ =>
    exact fun c hc => isBlank_of_mark (clockMark_of_duration hdigits c hc) (by decide)

theorem Writes.not_infix_label (h : Writes l v cs) (k : InfoLabel) : ¬ k.chars <:+: cs := by
  cases h with
  | nothing => exact fun hin => k.chars_ne_nil (List.infix_nil.1 hin)
  | stadium _ _ hplain => exact hplain k
  | attendance hmarks _ _ =>
    exact k.not_infix_of_plain fun c hc => not_isLabelChar_of_mark (hmarks c hc) (by decide)
  | clock _ _ hmarks =>
    exact k.not_infix_of_plain fun c hc => not_isLabelChar_of_mark (hmarks c hc) (by decide)
  | duration _ _ hdigits _ _ =>
    exact k.not_infix_of_plain fun c hc =>
      not_isLabelChar_of_mark (clockMark_of_duration hdigits c hc) (by decide)

theorem Writes.ne_nil (h : Writes l (some w) cs) : cs ≠ [] := by
  cases h with
  | stadium hne _ _ => exact hne
  | attendance _ hdigits _ =>
    rintro rfl
    exact hdigits rfl
  | clock _ hne _ => exact hne
  | duration hhours _ _ _ _ => exact List.append_ne_nil_of_left_ne_nil hhours _

theorem Writes.eq_nil (h : Writes l none cs) : cs = [] := by
  cases h
  rfl

end

end Scorebook.Page
