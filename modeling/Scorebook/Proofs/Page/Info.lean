import Scorebook.Proofs.Page.Info.Found
import Scorebook.Proofs.Text.Digits
import Scorebook.Proofs.Text.Words

/-!
# The information block in print

`Prints items cs` says that an information block may print its items as `cs`.  Each value is read
back from behind its label, whatever stands in which order around it.  A label without a value has
none, with one exception: when the name of the stadium is missing, the next label is taken for it.
-/

namespace Scorebook

def EventInfo.withoutStadium (e : EventInfo) : EventInfo := { e with stadium := none }

theorem EventInfo.eq_of_withoutStadium {e e' : EventInfo}
    (h : e.withoutStadium = e'.withoutStadium) (hstadium : e.stadium = e'.stadium) : e = e' := by
  cases e
  cases e'
  simp_all only [EventInfo.withoutStadium, EventInfo.mk.injEq]

namespace Page
open Text

variable {l : InfoLabel} {cs : List Char}

/-! ### Collapsed blanks -/

theorem Prints.blank_cons {items : List InfoItem} {b : Char} (h : Prints items cs)
    (hb : isBlank b = true) : Prints items (b :: cs) := by
  cases h with
  | blank h => exact .blank (by rw [List.all_cons, hb, h, Bool.and_self])
  | item hlead hbefore hcolon hafter hvalue hgap hrest =>
    rw [← List.cons_append, ← List.cons_append]
    refine .item ?_ hbefore hcolon hafter hvalue hgap hrest
    rw [List.all_cons, hb, hlead, Bool.and_self]

theorem Writes.exists_collapse {v : Option InfoValue} {before after value : List Char}
    {colon : Char} (h : Writes l v value) (k : InfoLabel) (hbefore : before.all isBlank = true)
    (hcolon : isColon colon = true) (hafter : after.all isBlank = true) :
    ∃ before' after' : List Char, before'.all isBlank = true ∧ after'.all isBlank = true ∧
      collapse (k.chars ++ before ++ colon :: (after ++ value)) =
        k.chars ++ before' ++ colon :: (after' ++ value) := by
  have hcolonWord : ∀ c ∈ [colon], isBlank c = false :=
    List.forall_mem_singleton.2 (isBlank_of_isColon hcolon)
  obtain ⟨after', hafter', htail⟩ := exists_gap (List.cons_ne_nil colon []) hcolonWord hafter
    fun c hc => h.word c (List.mem_of_head? hc)
  obtain ⟨before', hbefore', hitem⟩ := exists_gap k.chars_ne_nil
    (fun _ => isBlank_of_mem_chars) hbefore
    fun c (hc : c ∈ (colon :: (after ++ value)).head?) =>
      hcolonWord c (Option.mem_some.1 hc ▸ List.mem_cons_self)
  refine ⟨before', after', hbefore', hafter', hitem.trans ?_⟩
  rw [collapse_of_solid h.word, List.append_assoc, List.append_assoc] at htail
  exact congrArg _ htail

theorem prints_collapse {items : List InfoItem} (h : Prints items cs) :
    Prints items (collapse cs) := by
  induction h with
  | @blank bs h =>
    have hnone : collapse bs = [] := by
      have hcollapse := collapse_blanks_append h []
      rwa [List.append_nil] at hcollapse
    rw [hnone]
    exact .blank rfl
  | @item i items lead before after value rest colon hlead hbefore hcolon hafter hvalue hgap hrest
      ih =>
    obtain ⟨before', after', hbefore', hafter', hitem⟩ :=
      hvalue.exists_collapse i.label hbefore hcolon hafter
    have hwords : words (i.label.chars ++ before ++ colon :: (after ++ value)) ≠ [] :=
      words_ne_nil (List.mem_append_right _ List.mem_cons_self) (isBlank_of_isColon hcolon)
    have hitems : Prints items
        (if words rest = [] then collapse rest else ' ' :: collapse rest) := by
      split
      · exact ih
      · exact ih.blank_cons rfl
    have hspaced : ∀ c ∈ (if words rest = [] then collapse rest else ' ' :: collapse rest).head?,
        isBlank c = true := by
      intro c hc
      split at hc
      · rename_i hnone
        rw [collapse, hnone] at hc
        cases hc
      · cases hc
        rfl
    rw [List.append_assoc, collapse_blanks_append hlead, collapse_append hwords hgap, hitem,
      ← List.nil_append (i.label.chars ++ before' ++ colon :: (after' ++ value))]
    exact .item rfl hbefore' hcolon hafter' hvalue hspaced hitems

/-! ### Reading values -/

theorem read?_of_digits {ds : List Char} (hne : ds ≠ []) (hds : ds.all Char.isDigit = true)
    (hle : digitsValue ds ≤ maxU32) : Count.read? ds = some (UInt32.ofNat (digitsValue ds)) := by
  rw [Count.read?, numeral?_of_all_isDigit hne hds, if_pos hle, Option.map_some]

section
variable {w : InfoValue}

theorem attendance?_of_writes (h : Writes .attendance (some w) cs) :
    attendance? cs = w.count? := by
  have htrim : trim cs = cs := (tight_of_solid h.word).trim_eq
  cases h with
  | @attendance _ n hmarks hdigits hvalue =>
    have htaken : cs.takeWhile (fun c => c.isDigit || c == ',') = cs :=
      List.takeWhile_eq_self_iff.2 hmarks
    have hall : ∀ c ∈ cs.filter (· ≠ ','), c.isDigit = true := by
      intro c hc
      obtain ⟨hmem, hcomma⟩ := List.mem_filter.1 hc
      simpa [of_decide_eq_true hcomma] using hmarks c hmem
    have hpresent : missingTexts.contains (trimmed (String.ofList cs)) = false := by
      -- The texts of a missing value have no digit.
      have hno : (missingTexts.all fun s => s.toList.all fun c => !c.isDigit) = true := by decide
      obtain ⟨d, hd⟩ := List.exists_mem_of_ne_nil _ hdigits
      rw [trimmed, String.toList_ofList, htrim, Bool.eq_false_iff]
      intro hmissing
      have hdigit := List.all_eq_true.1
        (List.all_eq_true.1 hno _ (List.contains_iff_mem.1 hmissing)) d (by
        rw [String.toList_ofList]
        exact List.mem_of_mem_filter hd)
      rw [hall d hd] at hdigit
      cases hdigit
    have hread := read?_of_digits hdigits (List.all_eq_true.2 hall) (hvalue ▸ Count.toNat_le n)
    rw [hvalue, UInt32.ofNat_toNat] at hread
    rw [attendance?, htaken, readCount?, valueChars?, hpresent, String.toList_ofList, htrim]
    simp only [Bool.false_eq_true, if_false, Option.bind_some]
    rw [hread]
    rfl
  | clock hl _ _ => simp at hl

theorem clock?_of_marks (hne : cs ≠ []) (h : ∀ c ∈ cs, (c.isDigit || c == ':') = true) :
    clock? cs = some (String.ofList cs) := by
  have htaken : cs.takeWhile (fun c => c.isDigit || c == ':') = cs := List.takeWhile_eq_self_iff.2 h
  rw [clock?, htaken, List.isEmpty_eq_false_iff.2 hne, if_neg Bool.false_ne_true]

theorem clock?_of_writes (hl : l = .start ∨ l = .finish) (h : Writes l (some w) cs) :
    clock? cs = w.text? := by
  cases h with
  | clock _ hne hmarks => exact clock?_of_marks hne hmarks
  | _ => simp at hl

theorem minutes?_of_writes (h : Writes .duration (some w) cs) :
    (clock? cs).bind readMinutes? = w.count? := by
  have htrim : trim cs = cs := (tight_of_solid h.word).trim_eq
  cases h with
  | clock hl _ _ => simp at hl
  | @duration hours minutes n hhours hminutes hdigits hlt hvalue =>
    have hmarks := clockMark_of_duration hdigits
    have hne := List.append_ne_nil_of_left_ne_nil hhours (':' :: minutes)
    rw [List.all_append, Bool.and_eq_true] at hdigits
    have hsolid : ∀ ds : List Char, ds.all Char.isDigit = true → trim ds = ds := fun ds hds =>
      (tight_of_solid fun c hc => isBlank_of_isDigit (List.all_eq_true.1 hds c hc)).trim_eq
    have hnocolon : ':' ∉ hours := fun hc => by
      cases List.all_eq_true.1 hdigits.1 ':' hc
    have hle := Count.toNat_le n
    have hminute : UInt32.ofNat (digitsValue minutes) < 60 := by
      rw [UInt32.lt_iff_toNat_lt, UInt32.toNat_ofNat_of_lt' (Nat.lt_trans hlt (by decide))]
      exact hlt
    -- The sum fits a word, so it is the sum of the words.
    have hsum : UInt32.ofNat (digitsValue hours) * 60 + UInt32.ofNat (digitsValue minutes) = n := by
      have hwords := congrArg UInt32.ofNat hvalue
      rwa [UInt32.ofNat_add, UInt32.ofNat_mul, UInt32.ofNat_toNat] at hwords
    rw [clock?_of_marks hne hmarks, Option.bind_some, readMinutes?, String.toList_ofList, htrim,
      cutAt?_append_cons hnocolon]
    simp only [Option.bind_eq_bind, Option.bind_some, hsolid _ hdigits.1, hsolid _ hdigits.2]
    rw [read?_of_digits hhours hdigits.1 (by omega), Option.bind_some,
      read?_of_digits hminutes hdigits.2 (by omega), Option.bind_some, if_pos hminute, hsum]
    rfl

end

/-- Nothing is read from a label that stands in the place of a value. -/
theorem takeWhile_label {test : Char → Bool} (h : ∀ c, isLabelChar c = true → test c = false)
    (l : InfoLabel) (more : List Char) : (l.chars ++ more).takeWhile test = [] := by
  obtain ⟨c, cs, hchars⟩ := l.exists_chars
  have hc : test c = false :=
    h c (isLabelChar_of_mem_chars (l := l) (hchars ▸ List.mem_cons_self))
  rw [hchars, List.cons_append, List.takeWhile_cons_of_neg (Bool.eq_false_iff.1 hc)]

theorem attendance?_label (l : InfoLabel) (more : List Char) :
    attendance? (l.chars ++ more) = none := by
  rw [attendance?, takeWhile_label _ l more]
  · decide
  · intro c hc
    simp_all [isLabelChar]

theorem clock?_label (l : InfoLabel) (more : List Char) : clock? (l.chars ++ more) = none := by
  rw [clock?, takeWhile_label _ l more]
  · rfl
  · intro c hc
    simp_all [isLabelChar, isColon]

/-! ### The block as a whole -/

theorem stadium_of_writes {v : InfoValue} (h : Writes .stadium (some v) cs) :
    some (String.ofList cs) = v.text? := by
  cases h with
  | stadium _ _ _ => rfl
  | clock hl _ _ => simp at hl

section
variable {items : List InfoItem} {text : String} (h : Prints items text.toList)
include h

theorem found_of_text (l : InfoLabel) : Found l items (labelled? (collapse text.toList) l.text) :=
  found_of_prints (prints_collapse h) l

theorem readInfo_withoutStadium :
    (readInfo text).withoutStadium = (infoOf items).withoutStadium := by
  have hattendance : (readInfo text).attendance = (infoOf items).attendance :=
    (found_of_text h .attendance).bind_eq (fun _ _ => attendance?_of_writes) attendance?_label
  have hstart : (readInfo text).startTime = (infoOf items).startTime :=
    (found_of_text h .start).bind_eq (fun _ _ => clock?_of_writes (.inl rfl)) clock?_label
  have hfinish : (readInfo text).endTime = (infoOf items).endTime :=
    (found_of_text h .finish).bind_eq (fun _ _ => clock?_of_writes (.inr rfl)) clock?_label
  have hminutes : (readInfo text).minutes = (infoOf items).minutes := by
    have hread : ((labelled? (collapse text.toList) InfoLabel.duration.text).bind fun cs =>
        (clock? cs).bind readMinutes?) = (infoOf items).minutes :=
      (found_of_text h .duration).bind_eq (fun _ _ => minutes?_of_writes) fun k more => by
        rw [clock?_label, Option.bind_none]
    rw [← hread, ← Option.bind_assoc]
    rfl
  rw [EventInfo.withoutStadium, EventInfo.withoutStadium, hattendance, hstart, hfinish, hminutes]

theorem stadium_of_follower_none (hfollower : follower? .stadium items = none) :
    (readInfo text).stadium = (infoOf items).stadium :=
  calc (readInfo text).stadium
    _ = (labelled? (collapse text.toList) InfoLabel.stadium.text).bind (some ∘ String.ofList) :=
      Option.map_eq_bind
    _ = (infoOf items).stadium :=
      (found_of_text h .stadium).exact hfollower fun _ _ => stadium_of_writes

theorem stadium_of_follower {next : InfoItem} (hfollower : follower? .stadium items = some next) :
    (infoOf items).stadium = none ∧
      ∃ more, (readInfo text).stadium = some (next.label.text ++ more) := by
  obtain ⟨htold, more, hread⟩ := (found_of_text h .stadium).foreign hfollower
  have hnone : (infoOf items).stadium = none := by
    rw [infoOf, htold, Option.bind_none]
  refine ⟨hnone, String.ofList more, ?_⟩
  have hstadium : (readInfo text).stadium =
      (labelled? (collapse text.toList) InfoLabel.stadium.text).map String.ofList := rfl
  rw [hstadium, hread, Option.map_some, String.ofList_append, InfoLabel.chars, String.ofList_toList]

/-- A printed information block is read as what its items tell, exactly when the name of the stadium
is not missing in front of another label; otherwise that label is read for the name, and all else is
read as told. -/
theorem printed_info_read :
    (readInfo text = infoOf items ↔ follower? .stadium items = none) ∧
      (readInfo text).withoutStadium = (infoOf items).withoutStadium ∧
      ∀ next, follower? .stadium items = some next →
        (infoOf items).stadium = none ∧
          ∃ more, (readInfo text).stadium = some (next.label.text ++ more) := by
  have hrest := readInfo_withoutStadium h
  refine ⟨⟨fun hread => ?_, fun hfollower => ?_⟩, hrest, fun next => stadium_of_follower h⟩
  · cases hfollower : follower? .stadium items with
    | none => rfl
    | some next =>
      obtain ⟨hnone, more, hlabel⟩ := stadium_of_follower h hfollower
      rw [hread, hnone] at hlabel
      cases hlabel
  · exact EventInfo.eq_of_withoutStadium hrest (stadium_of_follower_none h hfollower)

end

theorem info_read_around_empty_label :
    Prints [⟨.attendance, none⟩, ⟨.duration, some (.count 192)⟩, ⟨.stadium, some (.text "잠실")⟩]
        "관중 :\n경기시간：3:12 구장 : 잠실".toList ∧
      readInfo "관중 :\n경기시간：3:12 구장 : 잠실" = ⟨some "잠실", none, none, none, some 192⟩ := by
  have hword : ∀ c ∈ "잠실".toList, isBlank c = false := fun c hc =>
    Bool.eq_false_iff.2 (List.any_eq_false.1 (by decide) c hc)
  have hname : Writes .stadium (some (.text "잠실")) "잠실".toList :=
    .stadium (by decide) hword fun l => by cases l <;> decide
  have hlength : Writes .duration (some (.count 192)) ("3".toList ++ ':' :: "12".toList) :=
    .duration (by decide) (by decide) (by decide) (by decide) (by decide)
  have hstadium := @Prints.item ⟨.stadium, some (.text "잠실")⟩ [] [' '] [' '] [' '] _ [] ':'
    rfl rfl rfl rfl hname nofun (.blank rfl)
  have hduration := @Prints.item ⟨.duration, some (.count 192)⟩ _ ['\n'] [] [] _ _ '：'
    rfl rfl rfl rfl hlength (by rintro _ ⟨⟩; rfl) hstadium
  have hattendance := @Prints.item ⟨.attendance, none⟩ _ [] [' '] [] [] _ ':'
    rfl rfl rfl rfl .nothing (by rintro _ ⟨⟩; rfl) hduration
  have hprints := Eq.subst (motive := Prints _)
    (by decide : _ = "관중 :\n경기시간：3:12 구장 : 잠실".toList) hattendance
  exact ⟨hprints, (printed_info_read hprints).1.2 (by decide)⟩

theorem nextLabel_read_as_stadium :
    Prints [⟨.stadium, none⟩, ⟨.attendance, some (.count 100)⟩] "구장 : 관중 : 100".toList ∧
      (infoOf [⟨.stadium, none⟩, ⟨.attendance, some (.count 100)⟩]).stadium = none ∧
      (readInfo "구장 : 관중 : 100").stadium = some "관중" := by
  have hvalue : Writes .attendance (some (.count 100)) "100".toList :=
    .attendance (List.all_eq_true.1 (by decide)) (by decide) (by decide)
  have hattendance := @Prints.item ⟨.attendance, some (.count 100)⟩ [] [' '] [' '] [' '] _ [] ':'
    rfl rfl rfl rfl hvalue nofun (.blank rfl)
  have hstadium := @Prints.item ⟨.stadium, none⟩ _ [] [' '] [] [] _ ':'
    rfl rfl rfl rfl .nothing (by rintro _ ⟨⟩; rfl) hattendance
  have hprints := Eq.subst (motive := Prints _) (by decide : _ = "구장 : 관중 : 100".toList) hstadium
  exact ⟨hprints, rfl, by decide⟩

end Page

end Scorebook
