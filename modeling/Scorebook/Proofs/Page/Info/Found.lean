import Scorebook.Proofs.Page.Info.Items
import Scorebook.Proofs.Text.Search

/-!
# What is found behind a label

Printed items are looked through for a label.  `Found l items read` lists what can be read then: the
value of the first item with the label or, when that has none, what is printed behind it.
-/

namespace Scorebook.Page
open Text

variable {l : InfoLabel} {cs : List Char}

/-! ### Looking for a label -/

theorem labelledFrom?_drop (label : List Char) (skip : Nat) (cs : List Char) :
    labelledFrom? label skip cs = labelledFrom? label 0 (cs.drop skip) := by
  induction skip generalizing cs with
  | zero => rfl
  | succ skip ih =>
    cases cs with
    | nil => rfl
    | cons c cs => exact ih cs

theorem labelledFrom?_cons {label : List Char} {c : Char} (h : ¬ label <+: c :: cs) :
    labelledFrom? label 0 (c :: cs) = labelledFrom? label 0 cs := by
  have hnone : afterStart? label (c :: cs) = none := by
    rw [Option.eq_none_iff_forall_ne_some]
    intro rest hrest
    exact h ⟨rest, (afterStart?_eq_some_iff.1 hrest).symm⟩
  rw [labelledFrom?, hnone]

/-- Text without the label is passed over, when what follows it cannot be a part of the label. -/
theorem labelledFrom?_append {label front rest : List Char} (h : ¬ label <:+: front)
    (hrest : ∀ c ∈ rest.head?, c ∉ label) :
    labelledFrom? label 0 (front ++ rest) = labelledFrom? label 0 rest := by
  induction front with
  | nil => rfl
  | cons c front ih =>
    have hstart : ¬ label <+: c :: (front ++ rest) := by
      rintro ⟨more, hmore⟩
      rw [← List.cons_append] at hmore
      -- The label ends within `front`, or reaches into `rest` and so has its first character.
      rcases List.append_eq_append_iff.1 hmore with ⟨tail, hfront, -⟩ | ⟨tail, hlabel, htail⟩
      · exact h ⟨[], tail, by rw [hfront, List.nil_append]⟩
      · cases tail with
        | nil =>
          rw [List.append_nil] at hlabel
          exact h (hlabel ▸ List.infix_rfl)
        | cons d tail =>
          have hd : d ∈ rest.head? := by rw [htail]; rfl
          exact hrest d hd (hlabel ▸ List.mem_append_right _ List.mem_cons_self)
    rw [List.cons_append, labelledFrom?_cons hstart, ih fun hin => h (List.infix_cons hin)]

/-- Characters that no label has are passed over. -/
theorem labelledFrom?_apart {apart : List Char} (h : ∀ c ∈ apart, c ∉ l.chars) (rest : List Char) :
    labelledFrom? l.chars 0 (apart ++ rest) = labelledFrom? l.chars 0 rest := by
  induction apart with
  | nil => rfl
  | cons c apart ih =>
    obtain ⟨hc, hcs⟩ := List.forall_mem_cons.1 h
    have hstart : ¬ l.chars <+: c :: (apart ++ rest) := by
      obtain ⟨d, ds, hchars⟩ := l.exists_chars
      rw [hchars] at hc ⊢
      intro hstart
      exact hc ((List.cons_prefix_cons.1 hstart).1 ▸ List.mem_cons_self)
    rw [List.cons_append, labelledFrom?_cons hstart, ih hcs]

theorem labelledFrom?_label (l : InfoLabel) (rest : List Char) :
    labelledFrom? l.chars 0 (l.chars ++ rest) =
      (valueAfterLabel? rest).or (labelledFrom? l.chars 0 rest) := by
  obtain ⟨c, cs, hchars⟩ := l.exists_chars
  have hstart : afterStart? (c :: cs) (c :: (cs ++ rest)) = some rest :=
    afterStart?_eq_some_iff.2 rfl
  rw [hchars, List.cons_append, labelledFrom?, hstart]
  cases hvalue : valueAfterLabel? rest with
  | some value => simp only [hvalue, Option.some_or]
  | none =>
    simp only [hvalue, Option.none_or, List.length_cons, Nat.add_sub_cancel]
    rw [labelledFrom?_drop, List.drop_left]

/-! ### What stands behind a label -/

theorem trimLeft_blanks_append {bs : List Char} (h : bs.all isBlank = true)
    (hcs : ∀ c ∈ cs.head?, isBlank c = false) : trimLeft (bs ++ cs) = cs := by
  rw [trimLeft, List.dropWhile_append_of_pos (List.all_eq_true.1 h)]
  cases cs with
  | nil => rfl
  | cons c cs =>
    refine List.dropWhile_cons_of_neg ?_
    rw [hcs c rfl]
    exact Bool.false_ne_true

section
variable {before gap : List Char} {colon : Char} (hbefore : before.all isBlank = true)
  (hcolon : isColon colon = true) (hgap : gap.all isBlank = true)
include hbefore hcolon hgap

theorem valueAfterLabel?_eq (hcs : ∀ c ∈ cs.head?, isBlank c = false) :
    valueAfterLabel? (before ++ colon :: (gap ++ cs)) =
      if (cs.takeWhile fun c => !isBlank c).isEmpty then none
      else some (cs.takeWhile fun c => !isBlank c) := by
  have hcolonText : ∀ c ∈ (colon :: (gap ++ cs)).head?, isBlank c = false := by
    intro c hc
    exact Option.mem_some.1 hc ▸ isBlank_of_isColon hcolon
  have hafter : afterColon? (colon :: (gap ++ cs)) = some (gap ++ cs) := by
    refine if_pos ?_
    simpa [isColon] using hcolon
  rw [valueAfterLabel?, trimLeft_blanks_append hbefore hcolonText, hafter, Option.bind_eq_bind,
    Option.bind_some, trimLeft_blanks_append hgap hcs]

/-- What is read behind a colon is the next word. -/
theorem valueAfterLabel?_word {w : List Char} (hne : w ≠ []) (hw : ∀ c ∈ w, isBlank c = false)
    (rest : List Char) :
    valueAfterLabel? (before ++ colon :: (gap ++ (w ++ rest))) =
      some (w ++ rest.takeWhile fun c => !isBlank c) := by
  have hhead : ∀ c ∈ (w ++ rest).head?, isBlank c = false := by
    obtain ⟨d, ds, rfl⟩ := List.exists_cons_of_ne_nil hne
    exact fun c hc => Option.mem_some.1 hc ▸ hw d List.mem_cons_self
  have htaken : (w ++ rest).takeWhile (fun c => !isBlank c) =
      w ++ rest.takeWhile fun c => !isBlank c := by
    refine List.takeWhile_append_of_pos fun c hc => ?_
    rw [hw c hc, Bool.not_false]
  have hfilled : (w ++ rest.takeWhile fun c => !isBlank c).isEmpty = false :=
    List.isEmpty_eq_false_iff.2 (List.append_ne_nil_of_left_ne_nil hne _)
  rw [valueAfterLabel?_eq hbefore hcolon hgap hhead, htaken, hfilled, if_neg Bool.false_ne_true]

theorem valueAfterLabel?_blank : valueAfterLabel? (before ++ colon :: gap) = none := by
  have hnothing : ∀ c ∈ ([] : List Char).head?, isBlank c = false := fun c hc => by cases hc
  have hnone := valueAfterLabel?_eq hbefore hcolon hgap hnothing
  rwa [List.append_nil] at hnone

end

/-! ### What is read for a label -/

/-- What is found for a label among printed items: the value of the first item with the label, and
for want of a value what follows instead, beginning with the next label. -/
inductive Found (l : InfoLabel) : List InfoItem → Option (List Char) → Prop
  | absent : Found l [] none
  | later {i : InfoItem} {items : List InfoItem} {read : Option (List Char)} (h : i.label ≠ l)
      (hread : Found l items read) : Found l (i :: items) read
  | value {i : InfoItem} {items : List InfoItem} {v : InfoValue} {cs : List Char}
      (h : i.label = l) (hv : i.value = some v) (hw : Writes l (some v) cs) :
      Found l (i :: items) (some cs)
  | last {i : InfoItem} (h : i.label = l) (hv : i.value = none) : Found l [i] none
  | next {i next : InfoItem} {items : List InfoItem} (more : List Char) (h : i.label = l)
      (hv : i.value = none) : Found l (i :: next :: items) (some (next.label.chars ++ more))

section
variable {before after : List Char} {colon : Char} (hbefore : before.all isBlank = true)
  (hcolon : isColon colon = true)
include hbefore hcolon

theorem not_mem_chars_of_head {c : Char} {rest : List Char}
    (h : c ∈ (before ++ colon :: rest).head?) : c ∉ l.chars := by
  cases before with
  | nil => exact Option.mem_some.1 h ▸ not_mem_chars_of_isColon hcolon
  | cons b before =>
    exact Option.mem_some.1 h ▸ not_mem_chars_of_isBlank (Bool.and_eq_true_iff.1 hbefore).1

/-- A value is passed over with its colon. -/
theorem labelledFrom?_value (hafter : after.all isBlank = true) {k : InfoLabel}
    {v : Option InfoValue} {value rest : List Char} (hvalue : Writes k v value)
    (hgap : ∀ c ∈ rest.head?, isBlank c = true) :
    labelledFrom? l.chars 0 (before ++ colon :: (after ++ (value ++ rest))) =
      labelledFrom? l.chars 0 rest := by
  have hblank : ∀ bs : List Char, bs.all isBlank = true → ∀ c ∈ bs, c ∉ l.chars :=
    fun bs hbs c hc => not_mem_chars_of_isBlank (List.all_eq_true.1 hbs c hc)
  rw [labelledFrom?_apart (hblank before hbefore), ← List.singleton_append,
    labelledFrom?_apart (List.forall_mem_singleton.2 (not_mem_chars_of_isColon hcolon)),
    labelledFrom?_apart (hblank after hafter)]
  exact labelledFrom?_append (hvalue.not_infix_label l)
    fun c hc => not_mem_chars_of_isBlank (hgap c hc)

end

theorem labelledFrom?_blank {bs : List Char} (h : bs.all isBlank = true) :
    labelledFrom? l.chars 0 bs = none := by
  have hpassed := labelledFrom?_apart (l := l)
    (fun c hc => not_mem_chars_of_isBlank (List.all_eq_true.1 h c hc)) []
  rwa [List.append_nil] at hpassed

/-- A block of items begins with the label of the first. -/
theorem Prints.exists_label {i : InfoItem} {items : List InfoItem} (h : Prints (i :: items) cs) :
    ∃ lead more, lead.all isBlank = true ∧ cs = lead ++ (i.label.chars ++ more) := by
  cases h with
  | @item _ _ lead before after value rest colon hlead =>
    refine ⟨lead, before ++ colon :: (after ++ value) ++ rest, hlead, ?_⟩
    simp only [List.append_assoc]

section
variable {before after rest : List Char} {colon : Char} (hbefore : before.all isBlank = true)
  (hcolon : isColon colon = true) (hafter : after.all isBlank = true)
include hbefore hcolon hafter

theorem valueAfterLabel?_of_writes {v : InfoValue} (hvalue : Writes l (some v) cs)
    (hgap : ∀ c ∈ rest.head?, isBlank c = true) :
    valueAfterLabel? (before ++ colon :: (after ++ (cs ++ rest))) = some cs := by
  have htaken : rest.takeWhile (fun c => !isBlank c) = [] := by
    cases rest with
    | nil => rfl
    | cons b rest => exact List.takeWhile_cons_of_neg (by simp [hgap b rfl])
  rw [valueAfterLabel?_word hbefore hcolon hafter hvalue.ne_nil hvalue.word, htaken,
    List.append_nil]

/-- Behind a label without a value the blanks are passed over, up to the next item. -/
theorem found_of_nothing {i : InfoItem} {items : List InfoItem} (hl : i.label = l)
    (hv : i.value = none) (hrest : Prints items rest) :
    Found l (i :: items) ((valueAfterLabel? (before ++ colon :: (after ++ rest))).or
      (labelledFrom? l.chars 0 rest)) := by
  cases items with
  | nil =>
    cases hrest with
    | blank hblank =>
      have hall : (after ++ rest).all isBlank = true := by
        rw [List.all_append, hafter, hblank, Bool.and_self]
      rw [valueAfterLabel?_blank hbefore hcolon hall, labelledFrom?_blank hblank]
      exact .last hl hv
  | cons next items =>
    obtain ⟨lead, more, hlead, hnext⟩ := hrest.exists_label
    have hall : (after ++ lead).all isBlank = true := by
      rw [List.all_append, hafter, hlead, Bool.and_self]
    rw [hnext, ← List.append_assoc after,
      valueAfterLabel?_word hbefore hcolon hall next.label.chars_ne_nil
        fun _ => isBlank_of_mem_chars, Option.some_or]
    exact .next _ hl hv

end

theorem found_of_prints {items : List InfoItem} (h : Prints items cs) (l : InfoLabel) :
    Found l items (labelledFrom? l.chars 0 cs) := by
  induction h with
  | blank h =>
    rw [labelledFrom?_blank h]
    exact .absent
  | @item i items lead before after value rest colon hlead hbefore hcolon hafter hvalue hgap hrest
      ih =>
    have htext : lead ++ (i.label.chars ++ before ++ colon :: (after ++ value)) ++ rest =
        lead ++ (i.label.chars ++ (before ++ colon :: (after ++ (value ++ rest)))) := by
      simp only [List.append_assoc, List.cons_append]
    have hbehind := labelledFrom?_value (l := l) hbefore hcolon hafter hvalue hgap
    rw [htext, labelledFrom?_apart
      fun c hc => not_mem_chars_of_isBlank (List.all_eq_true.1 hlead c hc)]
    by_cases hl : i.label = l
    · -- An occurrence without a value is not the last one looked at: the search goes on behind it.
      rw [hl, labelledFrom?_label, hbehind]
      cases hv : i.value with
      | some v =>
        rw [hl, hv] at hvalue
        rw [valueAfterLabel?_of_writes hbefore hcolon hafter hvalue hgap, Option.some_or]
        exact .value hl hv hvalue
      | none =>
        rw [hv] at hvalue
        rw [hvalue.eq_nil, List.nil_append]
        exact found_of_nothing hbefore hcolon hafter hl hv hrest
    · rw [labelledFrom?_append (InfoLabel.not_infix_chars hl)
        fun c hc => not_mem_chars_of_head hbefore hcolon hc, hbehind]
      exact .later hl ih

/-! ### Values and labels in their place -/

theorem told?_cons (l : InfoLabel) (i : InfoItem) (items : List InfoItem) :
    told? l (i :: items) = if i.label = l then i.value else told? l items := by
  by_cases h : i.label = l
  · rw [told?, List.find?_cons_of_pos (by rw [h, beq_self_eq_true]), if_pos h, Option.bind_some]
  · rw [told?, List.find?_cons_of_neg (by rwa [beq_iff_eq]), if_neg h, told?]

section
variable {items : List InfoItem} {read : Option (List Char)}

theorem Found.exact {α : Type} {reader : List Char → Option α} {view : InfoValue → Option α}
    (h : Found l items read) (hfollower : follower? l items = none)
    (hreader : ∀ v cs, Writes l (some v) cs → reader cs = view v) :
    read.bind reader = (told? l items).bind view := by
  induction h with
  | absent => rfl
  | later h _ ih =>
    rw [follower?, if_neg h] at hfollower
    rw [told?_cons, if_neg h, ih hfollower]
  | value h hv hw =>
    rw [told?_cons, if_pos h, hv, Option.bind_some, Option.bind_some, hreader _ _ hw]
  | last h hv => rw [told?_cons, if_pos h, hv, Option.bind_none, Option.bind_none]
  | next more h hv =>
    rw [follower?, if_pos h, hv] at hfollower
    cases hfollower

theorem Found.foreign {next : InfoItem} (h : Found l items read)
    (hfollower : follower? l items = some next) :
    told? l items = none ∧ ∃ more, read = some (next.label.chars ++ more) := by
  induction h with
  | absent => cases hfollower
  | later h _ ih =>
    rw [follower?, if_neg h] at hfollower
    rw [told?_cons, if_neg h]
    exact ih hfollower
  | value h hv _ =>
    rw [follower?, if_pos h, hv] at hfollower
    cases hfollower
  | last h hv =>
    rw [follower?, if_pos h, hv] at hfollower
    cases hfollower
  | next more h hv =>
    rw [follower?, if_pos h, hv] at hfollower
    obtain rfl := Option.some.inj hfollower
    rw [told?_cons, if_pos h]
    exact ⟨hv, more, rfl⟩

/-- Numbers and clocks are never read off the next label. -/
theorem Found.bind_eq {α : Type} {reader : List Char → Option α} {view : InfoValue → Option α}
    (h : Found l items read) (hreader : ∀ v cs, Writes l (some v) cs → reader cs = view v)
    (hlabel : ∀ (k : InfoLabel) more, reader (k.chars ++ more) = none) :
    read.bind reader = (told? l items).bind view := by
  cases hfollower : follower? l items with
  | none => exact h.exact hfollower hreader
  | some next =>
    obtain ⟨htold, more, hread⟩ := h.foreign hfollower
    rw [htold, hread, Option.bind_some, hlabel, Option.bind_none]

end

end Scorebook.Page
