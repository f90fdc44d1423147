import Scorebook.Proofs.Text.Ends

/-!
# Words

Blanks divide the words of a text, and a text without blanks is one word.  Collapsed text has no
blank at an end, so a text that collapsing leaves alone is also left alone by trimming.
-/

namespace Scorebook.Text

/-- The pieces of a text that is cut at blanks contain no blank. -/
theorem not_isBlank_of_mem_splitOnP {cs w : List Char} (hw : w ∈ cs.splitOnP isBlank) :
    ∀ c ∈ w, isBlank c = false := by
  induction cs generalizing w with
  | nil =>
    rw [List.splitOnP_nil, List.mem_singleton] at hw
    subst hw
    exact fun c hc => by cases hc
  | cons d cs ih =>
    rw [List.splitOnP_cons_eq_if_modifyHead] at hw
    split at hw
    · rcases List.mem_cons.1 hw with rfl | hw
      · exact fun c hc => by cases hc
      · exact ih hw
    · rename_i hd
      cases hsplit : cs.splitOnP isBlank with
      | nil => exact absurd hsplit (List.splitOnP_ne_nil _ _)
      | cons v vs =>
        rw [hsplit] at hw ih
        rcases List.mem_cons.1 hw with rfl | hw
        · intro c hc
          rcases List.mem_cons.1 hc with rfl | hc
          · exact Bool.eq_false_iff.2 hd
          · exact ih List.mem_cons_self c hc
        · exact ih (List.mem_cons_of_mem _ hw)

theorem word_of_mem_words {cs w : List Char} (hw : w ∈ words cs) :
    w ≠ [] ∧ ∀ c ∈ w, isBlank c = false := by
  obtain ⟨hsplit, hne⟩ := List.mem_filter.1 hw
  refine ⟨?_, not_isBlank_of_mem_splitOnP hsplit⟩
  rintro rfl
  cases hne

theorem words_append_cons {b : Char} (hb : isBlank b = true) (cs ds : List Char) :
    words (cs ++ b :: ds) = words cs ++ words ds := by
  rw [words, List.splitOnP_append_cons cs ds hb, List.filter_append, words, words]

theorem words_blanks_append {bs : List Char} (hbs : bs.all isBlank = true) (cs : List Char) :
    words (bs ++ cs) = words cs := by
  induction bs with
  | nil => rfl
  | cons b bs ih =>
    obtain ⟨hb, hbs⟩ := Bool.and_eq_true_iff.1 hbs
    exact (words_append_cons hb [] (bs ++ cs)).trans (ih hbs)

/-- Blanks between two texts divide their words. -/
theorem words_append_blanks_append {bs : List Char} (hne : bs ≠ []) (hbs : bs.all isBlank = true)
    (cs ds : List Char) : words (cs ++ bs ++ ds) = words cs ++ words ds := by
  obtain ⟨b, bs, rfl⟩ := List.exists_cons_of_ne_nil hne
  obtain ⟨hb, hbs⟩ := Bool.and_eq_true_iff.1 hbs
  rw [List.append_assoc, List.cons_append, words_append_cons hb, words_blanks_append hbs]

/-- A text without blanks is one word. -/
theorem words_of_solid {w : List Char} (hne : w ≠ []) (hw : ∀ c ∈ w, isBlank c = false) :
    words w = [w] := by
  have hfilled : (!w.isEmpty) = true := by rw [List.isEmpty_eq_false_iff.2 hne, Bool.not_false]
  rw [words, List.splitOnP_eq_singleton hw]
  exact List.filter_cons_of_pos hfilled

theorem tight_joinWords {ws : List (List Char)}
    (hws : ∀ w ∈ ws, w ≠ [] ∧ ∀ c ∈ w, isBlank c = false) : Tight (joinWords ws) := by
  induction ws with
  | nil => exact ⟨fun h => absurd rfl h, fun h => absurd rfl h⟩
  | cons w rest ih =>
    obtain ⟨hne, hw⟩ := hws w List.mem_cons_self
    cases rest with
    | nil =>
      exact ⟨fun h => hw _ (List.head_mem h), fun h => hw _ (List.getLast_mem h)⟩
    | cons v vs =>
      have hrest := ih fun x hx => hws x (List.mem_cons_of_mem _ hx)
      have hvne : joinWords (v :: vs) ≠ [] := by
        obtain ⟨hv, -⟩ := hws v (List.mem_cons_of_mem _ List.mem_cons_self)
        cases vs with
        | nil => exact hv
        | cons u us => exact List.append_ne_nil_of_left_ne_nil hv _
      constructor
      · intro h
        have hhead : (joinWords (w :: v :: vs)).head h = w.head hne := List.head_append_of_ne_nil _
        rw [hhead]
        exact hw _ (List.head_mem hne)
      · intro h
        have hlast : (joinWords (w :: v :: vs)).getLast h = (joinWords (v :: vs)).getLast hvne := by
          simp only [joinWords]
          rw [List.getLast_append_of_ne_nil _ (List.cons_ne_nil _ _), List.getLast_cons hvne]
        rw [hlast]
        exact hrest.last hvne

theorem tight_collapse (cs : List Char) : Tight (collapse cs) :=
  tight_joinWords fun _ hw => word_of_mem_words hw

theorem mem_joinWords {c : Char} {ws : List (List Char)} (h : ∃ w ∈ ws, c ∈ w) :
    c ∈ joinWords ws := by
  induction ws with
  | nil =>
    obtain ⟨w, hw, -⟩ := h
    cases hw
  | cons v vs ih =>
    obtain ⟨w, hw, hc⟩ := h
    cases vs with
    | nil => rwa [List.mem_singleton.1 hw] at hc
    | cons u us =>
      rcases List.mem_cons.1 hw with rfl | hw
      · exact List.mem_append_left _ hc
      · exact List.mem_append_right _ (List.mem_cons_of_mem _ (ih ⟨w, hw, hc⟩))

/-- Collapsing keeps every character that is no blank. -/
theorem mem_collapse {c : Char} {cs : List Char} (h : c ∈ cs) (hc : isBlank c = false) :
    c ∈ collapse cs := by
  have hpiece : ∃ w ∈ cs.splitOnP isBlank, c ∈ w := by
    induction cs with
    | nil => cases h
    | cons d ds ih =>
      rw [List.splitOnP_cons_eq_if_modifyHead]
      rcases List.mem_cons.1 h with rfl | h
      · cases hsplit : ds.splitOnP isBlank with
        | nil => exact absurd hsplit (List.splitOnP_ne_nil _ _)
        | cons v vs =>
          rw [if_neg (Bool.eq_false_iff.1 hc)]
          exact ⟨c :: v, List.mem_cons_self, List.mem_cons_self⟩
      · obtain ⟨w, hw, hcw⟩ := ih h
        split
        · exact ⟨w, List.mem_cons_of_mem _ hw, hcw⟩
        · cases hsplit : ds.splitOnP isBlank with
          | nil => exact absurd hsplit (List.splitOnP_ne_nil _ _)
          | cons v vs =>
            rw [hsplit] at hw
            rcases List.mem_cons.1 hw with rfl | hw
            · exact ⟨d :: w, List.mem_cons_self, List.mem_cons_of_mem _ hcw⟩
            · exact ⟨w, List.mem_cons_of_mem _ hw, hcw⟩
  obtain ⟨w, hw, hcw⟩ := hpiece
  have hfilled : (!w.isEmpty) = true := by
    cases w with
    | nil => cases hcw
    | cons => rfl
  exact mem_joinWords ⟨w, List.mem_filter.2 ⟨hw, hfilled⟩, hcw⟩

theorem words_ne_nil {c : Char} {cs : List Char} (h : c ∈ cs) (hc : isBlank c = false) :
    words cs ≠ [] := by
  intro hnil
  have hmem := mem_collapse h hc
  rw [collapse, hnil] at hmem
  cases hmem

theorem joinWords_cons {w : List Char} {ws : List (List Char)} (h : ws ≠ []) :
    joinWords (w :: ws) = w ++ ' ' :: joinWords ws := by
  cases ws with
  | nil => exact absurd rfl h
  | cons => rfl

theorem joinWords_cons_char (c : Char) (w : List Char) (ws : List (List Char)) :
    joinWords ((c :: w) :: ws) = c :: joinWords (w :: ws) := by
  cases ws <;> rfl

theorem joinWords_append {ws vs : List (List Char)} (hws : ws ≠ []) (hvs : vs ≠ []) :
    joinWords (ws ++ vs) = joinWords ws ++ ' ' :: joinWords vs := by
  induction ws with
  | nil => exact absurd rfl hws
  | cons w ws ih =>
    cases ws with
    | nil => exact joinWords_cons hvs
    | cons v ws =>
      have happend : v :: ws ++ vs ≠ [] := List.cons_ne_nil _ _
      rw [List.cons_append, joinWords_cons happend, ih (List.cons_ne_nil _ _),
        joinWords_cons (List.cons_ne_nil _ _), List.append_assoc, List.cons_append]

theorem collapse_blanks_append {bs : List Char} (hbs : bs.all isBlank = true) (cs : List Char) :
    collapse (bs ++ cs) = collapse cs := by
  rw [collapse, words_blanks_append hbs, collapse]

theorem collapse_of_solid {w : List Char} (hw : ∀ c ∈ w, isBlank c = false) : collapse w = w := by
  cases w with
  | nil => rfl
  | cons c w => rw [collapse, words_of_solid (List.cons_ne_nil _ _) hw, joinWords]

/-- A character in front of a word belongs to the word. -/
theorem collapse_cons {d : Char} {cs : List Char} (hd : isBlank d = false)
    (hcs : ∀ c ∈ cs.head?, isBlank c = false) : collapse (d :: cs) = d :: collapse cs := by
  cases cs with
  | nil => exact collapse_of_solid (List.forall_mem_singleton.2 hd)
  | cons c cs =>
    have hc : isBlank c = false := hcs c rfl
    obtain ⟨v, vs, hsplit⟩ := List.exists_cons_of_ne_nil (List.splitOnP_ne_nil isBlank cs)
    have hrest : (c :: cs).splitOnP isBlank = (c :: v) :: vs := by
      rw [List.splitOnP_cons_eq_if_modifyHead, hc, hsplit]
      rfl
    have hwhole : (d :: c :: cs).splitOnP isBlank = (d :: c :: v) :: vs := by
      rw [List.splitOnP_cons_eq_if_modifyHead, hd, hrest]
      rfl
    rw [collapse, collapse, words, words, hrest, hwhole, List.filter_cons_of_pos rfl,
      List.filter_cons_of_pos rfl, joinWords_cons_char]

theorem collapse_solid_append {w cs : List Char} (hw : ∀ c ∈ w, isBlank c = false)
    (hcs : ∀ c ∈ cs.head?, isBlank c = false) : collapse (w ++ cs) = w ++ collapse cs := by
  induction w with
  | nil => rfl
  | cons d w ih =>
    obtain ⟨hd, hw⟩ := List.forall_mem_cons.1 hw
    have hhead : ∀ c ∈ (w ++ cs).head?, isBlank c = false := by
      cases w with
      | nil => exact hcs
      | cons e w => exact fun c hc => hw c (Option.mem_some.1 hc ▸ List.mem_cons_self)
    rw [List.cons_append, collapse_cons hd hhead, ih hw, List.cons_append]

/-- Blanks behind a word are collapsed to at most one. -/
theorem exists_gap {w bs cs : List Char} (hne : w ≠ []) (hw : ∀ c ∈ w, isBlank c = false)
    (hbs : bs.all isBlank = true) (hcs : ∀ c ∈ cs.head?, isBlank c = false) :
    ∃ gap, gap.all isBlank = true ∧ collapse (w ++ bs ++ cs) = w ++ gap ++ collapse cs := by
  by_cases hempty : bs = []
  · exact ⟨[], rfl, by rw [hempty, List.append_nil, collapse_solid_append hw hcs]⟩
  have hwords : words (w ++ bs ++ cs) = w :: words cs := by
    rw [words_append_blanks_append hempty hbs, words_of_solid hne hw, List.singleton_append]
  by_cases hrest : words cs = []
  · refine ⟨[], rfl, ?_⟩
    rw [collapse, collapse, hwords, hrest, List.append_nil]
    exact (List.append_nil w).symm
  · refine ⟨[' '], rfl, ?_⟩
    rw [collapse, hwords, joinWords_cons hrest, List.append_assoc]
    rfl

/-- A text and what stands behind a blank are collapsed on their own, with a blank between them
unless nothing is left of the second. -/
theorem collapse_append {cs rest : List Char} (hcs : words cs ≠ [])
    (hrest : ∀ c ∈ rest.head?, isBlank c = true) :
    collapse (cs ++ rest) =
      collapse cs ++ if words rest = [] then collapse rest else ' ' :: collapse rest := by
  have hwords : words (cs ++ rest) = words cs ++ words rest := by
    cases rest with
    | nil =>
      rw [List.append_nil]
      exact (List.append_nil _).symm
    | cons b rest =>
      have hb : isBlank b = true := hrest b rfl
      rw [words_append_cons hb, ← List.nil_append (b :: rest), words_append_cons hb]
      rfl
  rw [collapse, hwords]
  split
  · rename_i hnone
    rw [collapse, collapse, hnone, List.append_nil]
    exact (List.append_nil _).symm
  · rename_i hsome
    exact joinWords_append hcs hsome

theorem trimmed_of_collapsed {s : String} (h : collapsed s = s) : trimmed s = s := by
  have htight : Tight s.toList := by
    rw [← h, collapsed, String.toList_ofList]
    exact tight_collapse s.toList
  rw [trimmed, htight.trim_eq, String.ofList_toList]

theorem isBlankText_collapsed {s : String} (h : (collapsed s).isEmpty = false) :
    isBlankText (collapsed s) = false := by
  rw [isBlankText, collapsed, String.toList_ofList]
  refine (tight_collapse s.toList).not_all_isBlank fun hnil => ?_
  rw [collapsed, hnil] at h
  cases h

end Scorebook.Text
