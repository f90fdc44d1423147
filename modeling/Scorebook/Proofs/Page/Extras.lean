import Mathlib.Data.List.Nodup
import Mathlib.Data.List.Perm.Subperm
import Scorebook.Proofs.BoxScore.Extras
import Scorebook.Proofs.Page.Labels
import Scorebook.Proofs.Text.Digits

/-!
# Extra columns are kept

The text of every column that a dictionary does not know is kept with the row, under its label or
under the label with a suffix.  The columns are taken one by one; looking for the label of a text
comes to an end, and what is kept already stays.
-/

namespace Scorebook.Page
open Text

/-! ### Labels for one text -/

/-- A label with the suffix of a number. -/
def numbered (label : String) (n : Nat) : String := label ++ "_" ++ decimal n

/-- The key is the label, or the label with a suffix `_2`, `_3` and so on. -/
def Suffixed (label key : String) : Prop := key = label ∨ ∃ n, 2 ≤ n ∧ key = numbered label n

/-- The keys under which a text may be kept, in the order in which they are tried. -/
def choice (label : String) : Nat → String
  | 0 => label
  | i + 1 => numbered label (i + 2)

variable {x y z : Extras} {label text key : String}

theorem numbered_injective {m n : Nat} (h : numbered label m = numbered label n) : m = n := by
  have hlist := congrArg String.toList h
  simp only [numbered, decimal, String.toList_append, String.toList_ofList] at hlist
  have hvalue := congrArg digitsValue (List.append_cancel_left hlist)
  rwa [digitsValue_digits, digitsValue_digits] at hvalue

theorem numbered_ne (label : String) (n : Nat) : numbered label n ≠ label := by
  intro h
  have hlength := congrArg String.length h
  rw [numbered, String.length_append, String.length_append] at hlength
  have hmark : "_".length = 1 := rfl
  omega

theorem choice_injective {i j : Nat} (h : choice label i = choice label j) : i = j := by
  cases i with
  | zero =>
    cases j with
    | zero => rfl
    | succ j => exact absurd h.symm (numbered_ne label (j + 2))
  | succ i =>
    cases j with
    | zero => exact absurd h (numbered_ne label (i + 2))
    | succ j =>
      have hnumber : i + 2 = j + 2 := numbered_injective h
      omega

theorem labelChoices_eq (label : String) (n : Nat) :
    labelChoices label n = (List.range (n + 1)).map (choice label) := by
  rw [List.range_succ_eq_map, List.map_cons, List.map_map]
  rfl

/-- Among more keys than there are columns one is free. -/
theorem exists_free_choice (x : Extras) (label text : String) :
    ∃ i < x.entries.length + 1, (x.get? (choice label i)).all (· == text) = true := by
  by_contra hnone
  have htaken : (List.range (x.entries.length + 1)).map (choice label) ⊆ x.labels := by
    intro key hkey
    obtain ⟨i, hi, rfl⟩ := List.mem_map.1 hkey
    cases hget : x.get? (choice label i) with
    | none => exact absurd ⟨i, List.mem_range.1 hi, by rw [hget]; rfl⟩ hnone
    | some other => exact Extras.mem_labels_of_get? hget
  have hnodup : ((List.range (x.entries.length + 1)).map (choice label)).Nodup :=
    List.Nodup.map (fun _ _ => choice_injective) List.nodup_range
  have hle := (List.subperm_of_subset hnodup htaken).length_le
  rw [List.length_map, List.length_range, Extras.labels, List.length_map] at hle
  exact Nat.not_succ_le_self _ hle

/-- The search for a key: it has come to a key and would try the suffix of a number next, and it ends
with some columns.  A free key takes the text, a key with the very text leaves the columns as they
are, and any other key makes way for the next. -/
inductive Search (x : Extras) (label text : String) : String → Nat → Extras → Prop
  | free {key : String} {n : Nat} : x.get? key = none →
      Search x label text key n (x.insert key text)
  | same {key : String} {n : Nat} : x.get? key = some text → Search x label text key n x
  | taken {key other : String} {n : Nat} {y : Extras} : x.get? key = some other → other ≠ text →
      Search x label text (numbered label n) (n + 1) y → Search x label text key n y

namespace Search

variable {n : Nat}

theorem unique (h : Search x label text key n y) (h' : Search x label text key n z) : y = z := by
  induction h with
  | free hfree =>
    cases h' with
    | free => rfl
    | same hsame => cases hfree.symm.trans hsame
    | taken htaken => cases hfree.symm.trans htaken
  | same hsame =>
    cases h' with
    | free hfree => cases hfree.symm.trans hsame
    | same => rfl
    | taken htaken hne => exact absurd (Option.some.inj (htaken.symm.trans hsame)) hne
  | taken htaken hne _ ih =>
    cases h' with
    | free hfree => cases hfree.symm.trans htaken
    | same hsame => exact absurd (Option.some.inj (htaken.symm.trans hsame)) hne
    | taken _ _ hrest => exact ih hrest

/-- What is kept already stays. -/
theorem get?_of_get? (h : Search x label text key n y) {k v : String} (hx : x.get? k = some v) :
    y.get? k = some v := by
  induction h with
  | free hfree =>
    rw [Extras.get?_insert, if_neg]
    · exact hx
    · rintro rfl
      cases hfree.symm.trans hx
  | same => exact hx
  | taken _ _ _ ih => exact ih

theorem ascending (h : Search x label text key n y) (hx : x.Ascending) : y.Ascending := by
  induction h with
  | free => exact hx.insert
  | same => exact hx
  | taken _ _ _ ih => exact ih

/-- The text is under one of its keys in the end, and nothing else has come. -/
theorem result (h : Search x label text key n y) (hkey : Suffixed label key) (hn : 2 ≤ n) :
    ∃ found, Suffixed label found ∧ y.get? found = some text ∧
      ∀ e ∈ y.entries, e = (found, text) ∨ e ∈ x.entries := by
  induction h with
  | @free key =>
    refine ⟨key, hkey, ?_, fun e he => Extras.mem_putEntry he⟩
    rw [Extras.get?_insert, if_pos rfl]
  | @same key _ hsame => exact ⟨key, hkey, hsame, fun _ he => .inr he⟩
  | @taken _ _ n _ _ _ _ ih => exact ih (.inr ⟨n, hn, rfl⟩) (Nat.le_succ_of_le hn)

end Search

/-- The key that takes a text is the first that is free or has that very text. -/
theorem exists_first_choice (x : Extras) (label text : String) :
    ∃ j, keepExtra x label text = x.insert (choice label j) text ∧
      (x.get? (choice label j)).all (· == text) = true ∧
      ∀ i < j, (x.get? (choice label i)).all (· == text) = false := by
  obtain ⟨i, hi, hfree⟩ := exists_free_choice x label text
  obtain ⟨j, hj⟩ : ∃ j, (List.range (x.entries.length + 1)).find?
      (fun i => (x.get? (choice label i)).all (· == text)) = some j := by
    rw [← Option.isSome_iff_exists, List.find?_isSome]
    exact ⟨i, List.mem_range.2 hi, hfree⟩
  have hfound : (labelChoices label x.entries.length).find?
      (fun l => (x.get? l).all (· == text)) = some (choice label j) := by
    rw [labelChoices_eq, List.find?_map]
    exact congrArg (Option.map (choice label)) hj
  obtain ⟨hhere, -, hbefore⟩ := List.find?_range_eq_some.1 hj
  refine ⟨j, ?_, hhere, fun i hi => ?_⟩
  · rw [keepExtra, hfound]
  · exact Bool.not_eq_true' _ ▸ hbefore i hi

/-- The keys before the first that will do are taken, so the search goes on from each of them. -/
theorem search_of_first {j : Nat} (hx : x.Ascending)
    (hhere : (x.get? (choice label j)).all (· == text) = true)
    (hbefore : ∀ i < j, (x.get? (choice label i)).all (· == text) = false) (d : Nat) :
    ∀ i, i + d = j →
      Search x label text (choice label i) (i + 2) (x.insert (choice label j) text) := by
  induction d with
  | zero =>
    intro i hid
    obtain rfl : i = j := hid
    cases hget : x.get? (choice label i) with
    | none => exact .free hget
    | some other =>
      rw [hget] at hhere
      obtain rfl := beq_iff_eq.1 hhere
      rw [Extras.insert_of_get? hx hget]
      exact .same hget
  | succ d ih =>
    intro i hid
    have htaken := hbefore i (by omega)
    cases hget : x.get? (choice label i) with
    | none =>
      rw [hget] at htaken
      cases htaken
    | some other =>
      rw [hget] at htaken
      exact .taken hget (beq_eq_false_iff_ne.1 htaken) (ih (i + 1) (by omega))

/-- The search for the label of a text ends where the text is kept. -/
theorem search_keepExtra (hx : x.Ascending) (label text : String) :
    Search x label text label 2 (keepExtra x label text) := by
  obtain ⟨j, hkept, hhere, hbefore⟩ := exists_first_choice x label text
  rw [hkept]
  exact search_of_first hx hhere hbefore j 0 (Nat.zero_add j)

/-! ### Columns one by one -/

/-- What a row's cells with labels leave, taken in their order: a cell of a known column leaves the
columns as they are, and the text of any other is kept where the search for its label ends. -/
inductive Collects {α : Type} (column? : String → Option α) :
    Extras → List (String × Cell) → Extras → Prop
  | done {x : Extras} : Collects column? x [] x
  | known {x y : Extras} {label : String} {cell : Cell} {cells : List (String × Cell)} :
      column? label ≠ none → Collects column? x cells y →
      Collects column? x ((label, cell) :: cells) y
  | extra {x y z : Extras} {label : String} {cell : Cell} {cells : List (String × Cell)} :
      column? label = none → Search x label cell.text label 2 y → Collects column? y cells z →
      Collects column? x ((label, cell) :: cells) z

section
variable {α : Type} {column? : String → Option α} {cells before after : List (String × Cell)}
  {cell : Cell}

namespace Collects

theorem unique (h : Collects column? x cells y) (h' : Collects column? x cells z) : y = z := by
  induction h with
  | done =>
    cases h'
    rfl
  | known hknown _ ih =>
    cases h' with
    | known _ hrest => exact ih hrest
    | extra hnone => exact absurd hnone hknown
  | extra hnone hsearch _ ih =>
    cases h' with
    | known hknown => exact absurd hnone hknown
    | extra _ hsearch' hrest =>
      obtain rfl := hsearch.unique hsearch'
      exact ih hrest

theorem get?_of_get? (h : Collects column? x cells y) (hx : x.get? key = some text) :
    y.get? key = some text := by
  induction h with
  | done => exact hx
  | known _ _ ih => exact ih hx
  | extra _ hsearch _ ih => exact ih (hsearch.get?_of_get? hx)

theorem of_append (h : Collects column? x (before ++ after) z) :
    ∃ y, Collects column? x before y ∧ Collects column? y after z := by
  induction before generalizing x with
  | nil => exact ⟨x, .done, h⟩
  | cons c rest ih =>
    cases h with
    | known hknown hrest =>
      obtain ⟨y, hbefore, hafter⟩ := ih hrest
      exact ⟨y, .known hknown hbefore, hafter⟩
    | extra hnone hsearch hrest =>
      obtain ⟨y, hbefore, hafter⟩ := ih hrest
      exact ⟨y, .extra hnone hsearch hbefore, hafter⟩

/-- The text of every cell whose column is not known is there in the end. -/
theorem exists_key (h : Collects column? x cells y) (hcell : (label, cell) ∈ cells)
    (hnone : column? label = none) :
    ∃ key, Suffixed label key ∧ y.get? key = some cell.text := by
  induction h with
  | done => cases hcell
  | known hknown _ ih =>
    rcases List.mem_cons.1 hcell with heq | hrest
    · obtain ⟨rfl, rfl⟩ := Prod.mk.inj heq
      exact absurd hnone hknown
    · exact ih hrest
  | extra _ hsearch hrest ih =>
    rcases List.mem_cons.1 hcell with heq | hlater
    · obtain ⟨rfl, rfl⟩ := Prod.mk.inj heq
      obtain ⟨key, hkey, hget, -⟩ := hsearch.result (.inl rfl) (Nat.le_refl 2)
      exact ⟨key, hkey, hrest.get?_of_get? hget⟩
    · exact ih hlater

/-- Everything that has come is the text of a cell whose column is not known. -/
theorem exists_cell (h : Collects column? x cells y) (hentry : (key, text) ∈ y.entries) :
    (key, text) ∈ x.entries ∨ ∃ label cell, (label, cell) ∈ cells ∧ column? label = none ∧
      Suffixed label key ∧ cell.text = text := by
  induction h with
  | done => exact .inl hentry
  | known _ _ ih =>
    refine (ih hentry).imp_right ?_
    rintro ⟨label, cell, hcell, hlabel⟩
    exact ⟨label, cell, List.mem_cons_of_mem _ hcell, hlabel⟩
  | @extra x y z first firstCell cells hnone hsearch _ ih =>
    rcases ih hentry with hkept | ⟨label, cell, hcell, hlabel⟩
    · obtain ⟨found, hfound, -, hentries⟩ := hsearch.result (.inl rfl) (Nat.le_refl 2)
      rcases hentries _ hkept with heq | hold
      · obtain ⟨rfl, rfl⟩ := Prod.mk.inj heq
        exact .inr ⟨first, firstCell, List.mem_cons_self, hnone, hfound, rfl⟩
      · exact .inl hold
    · exact .inr ⟨label, cell, List.mem_cons_of_mem _ hcell, hlabel⟩

end Collects

theorem collects_foldl (hx : x.Ascending) (cells : List (String × Cell)) :
    Collects column? x cells ((lookedUp column? cells).foldl
      (fun extras c => if c.column.isNone then keepExtra extras c.label c.cell.text else extras)
      x) := by
  induction cells generalizing x with
  | nil => exact .done
  | cons c rest ih =>
    obtain ⟨label, cell⟩ := c
    rw [lookedUp_cons, List.foldl_cons]
    cases hcolumn : column? label with
    | none =>
      have hsearch := search_keepExtra hx label cell.text
      exact .extra hcolumn hsearch (ih (hsearch.ascending hx))
    | some kind =>
      have hknown : column? label ≠ none := by
        rw [hcolumn]
        nofun
      exact .known hknown (ih hx)

theorem collects_extrasOf (column? : String → Option α) (cells : List (String × Cell)) :
    Collects column? .empty cells (extrasOf (lookedUp column? cells)) :=
  collects_foldl Extras.ascending_empty cells

/-- No label and no suffix of one that is not known is known. -/
theorem column?_of_suffixed (hmade : ∀ header : String, '_' ∈ header.toList → column? header = none)
    (hkey : Suffixed label key) (hlabel : column? label = none) : column? key = none := by
  rcases hkey with rfl | ⟨n, -, rfl⟩
  · exact hlabel
  · refine hmade _ ?_
    simp only [numbered, String.toList_append, List.mem_append]
    exact .inl (.inr (by decide))

/-- The columns are all that a row's cells hold beyond what the dictionary knows. -/
structure KeepsExtras (column? : String → Option α) (cells : List (String × Cell)) (x : Extras) :
    Prop where
  collected : ∀ y, Collects column? .empty cells y ↔ y = x
  steady : ∀ before after, cells = before ++ after →
    ∃ y, (∀ z, Collects column? .empty before z ↔ z = y) ∧
      ∀ key text, y.get? key = some text → x.get? key = some text
  kept : ∀ label cell, (label, cell) ∈ cells → column? label = none →
    ∃ key, Suffixed label key ∧ x.get? key = some cell.text
  sound : ∀ key text, (key, text) ∈ x.entries →
    ∃ label cell, (label, cell) ∈ cells ∧ column? label = none ∧ Suffixed label key ∧
      cell.text = text
  unknown : ∀ key ∈ x.labels, column? key = none

theorem keepsExtras_extrasOf
    (hmade : ∀ header : String, '_' ∈ header.toList → column? header = none)
    (cells : List (String × Cell)) :
    KeepsExtras column? cells (extrasOf (lookedUp column? cells)) := by
  have hall := collects_extrasOf column? cells
  have hsound : ∀ key text, (key, text) ∈ (extrasOf (lookedUp column? cells)).entries →
      ∃ label cell, (label, cell) ∈ cells ∧ column? label = none ∧ Suffixed label key ∧
        cell.text = text := fun key text hentry =>
    (hall.exists_cell hentry).resolve_left nofun
  constructor
  case collected =>
    intro y
    constructor
    · exact fun h => h.unique hall
    · rintro rfl
      exact hall
  case steady =>
    rintro before after rfl
    obtain ⟨y, hbefore, hafter⟩ := hall.of_append
    refine ⟨y, fun z => ⟨fun h => h.unique hbefore, ?_⟩, fun _ _ => hafter.get?_of_get?⟩
    rintro rfl
    exact hbefore
  case kept => exact fun _ _ => hall.exists_key
  case sound => exact hsound
  case unknown =>
    intro key hkey
    obtain ⟨⟨_, text⟩, hentry, rfl⟩ := List.mem_map.1 hkey
    obtain ⟨label, cell, -, hlabel, hkey, -⟩ := hsound _ text hentry
    exact column?_of_suffixed hmade hkey hlabel

end

end Scorebook.Page
