import Scorebook.Page.Rows
import Scorebook.Proofs.Text.Words

/-!
# Labels of columns

Every cell of a row has a label, which depends on the headers and the width of its table only.  No
dictionary knows a label with an underscore, and so none that was made up.
-/

namespace Scorebook.Page
open Text

/-! ### Widths -/

theorem le_foldl_max (ns : List Nat) (w : Nat) :
    w ≤ ns.foldl max w ∧ ∀ n ∈ ns, n ≤ ns.foldl max w := by
  induction ns generalizing w with
  | nil => exact ⟨Nat.le_refl w, fun n hn => by cases hn⟩
  | cons m ms ih =>
    obtain ⟨hfirst, hrest⟩ := ih (max w m)
    refine ⟨Nat.le_trans (Nat.le_max_left w m) hfirst, fun n hn => ?_⟩
    rcases List.mem_cons.1 hn with rfl | hn
    · exact Nat.le_trans (Nat.le_max_right w n) hfirst
    · exact hrest n hn

namespace Table

variable {t t' : Table}

theorem width_eq (t : Table) : t.width = (t.rows.map List.length).foldl max t.headers.length :=
  List.foldl_map.symm

theorem length_le_width {row : List Cell} (h : row ∈ t.rows) : row.length ≤ t.width := by
  rw [width_eq]
  exact (le_foldl_max _ _).right _ (List.mem_map_of_mem h)

/-- The tables have the same headers and as many columns. -/
structure SameForm (t t' : Table) : Prop where
  headers : t'.headers = t.headers
  width : t'.width = t.width

theorem sameForm_of_lengths (hheaders : t'.headers = t.headers)
    (hlengths : t'.rows.map List.length = t.rows.map List.length) : SameForm t t' where
  headers := hheaders
  width := by rw [width_eq, width_eq, hheaders, hlengths]

theorem SameForm.header_eq (h : SameForm t t') : t'.header = t.header := by
  funext i
  rw [header, header, h.headers]

end Table

/-! ### The label of a column -/

/-- The label of a column of a table of hitters' names.  When no column of at least three is one of
names, the first three are the place in the order, the position and the name, where their headers
say nothing known. -/
def hitterLabel (t : Table) (j : Nat) : String :=
  if (∀ i < t.width, battingColumn? (t.header i) ≠ some .name) ∧ 3 ≤ t.width ∧
      battingColumn? (t.header j) = none then
    nameTableLabels[j]?.getD (t.header j)
  else t.header j

theorem hitterLabel_congr {t t' : Table} (h : t.SameForm t') : hitterLabel t' = hitterLabel t := by
  funext j
  simp only [hitterLabel, h.header_eq, h.width]

theorem any_name_labels {t : Table} :
    t.labels.any (fun l => battingColumn? l == some .name) = true ↔
      ¬∀ i < t.width, battingColumn? (t.header i) ≠ some .name := by
  simp only [Table.labels, List.any_map, List.any_eq_true, List.mem_range, Function.comp_apply,
    beq_iff_eq, ne_eq, not_forall, exists_prop, Decidable.not_not]

theorem hitterLabels_eq (t : Table) : hitterLabels t = (List.range t.width).map (hitterLabel t) := by
  have hlength : t.labels.length = t.width := by rw [Table.labels, List.length_map, List.length_range]
  unfold hitterLabels
  extract_lets labels
  split
  · rename_i hkept
    refine List.map_congr_left fun j _ => ?_
    rw [hitterLabel, if_neg]
    rintro ⟨hnames, hwide, -⟩
    rcases hkept with hany | hnarrow
    · exact any_name_labels.1 hany hnames
    · rw [hlength] at hnarrow
      exact absurd hnarrow (Nat.not_lt.2 hwide)
  · rename_i hreplaced
    obtain ⟨hnames, hwide⟩ := not_or.1 hreplaced
    rw [any_name_labels, Decidable.not_not] at hnames
    rw [hlength, Nat.not_lt] at hwide
    have hfirst : ∀ j standIn, nameTableLabels[j]? = some standIn →
        (if (battingColumn? (t.header j)).isNone then standIn else t.header j) = hitterLabel t j := by
      intro j standIn hj
      rw [hitterLabel, hj, Option.getD_some]
      refine if_congr ?_ rfl rfl
      rw [Option.isNone_iff_eq_none]
      exact ⟨fun h => ⟨hnames, hwide, h⟩, fun h => h.right.right⟩
    have hrest : ∀ j, hitterLabel t (3 + j) = t.header (3 + j) := by
      intro j
      have hnone : nameTableLabels[3 + j]? = none := List.getElem?_eq_none (Nat.le_add_right 3 j)
      rw [hitterLabel, hnone, Option.getD_none, ite_self]
    obtain ⟨n, hn⟩ := Nat.exists_eq_add_of_le hwide
    have hlabels : ∀ f : Nat → String,
        (List.range t.width).map f = [f 0, f 1, f 2] ++ (List.range n).map fun j => f (3 + j) := by
      intro f
      rw [hn, List.range_add, List.map_append, List.map_map]
      rfl
    rw [hlabels, ← hfirst 0 _ rfl, ← hfirst 1 _ rfl, ← hfirst 2 _ rfl]
    simp only [labels, Table.labels, hlabels, hrest, nameTableLabels, List.cons_append,
      List.nil_append, List.zipWith_cons_cons, List.zipWith_nil_right, List.length_cons,
      List.length_nil, List.drop_succ_cons, List.drop_zero]

/-! ### Labelled rows -/

/-- The cells of a row with the labels of their columns. -/
def withLabels (label : Nat → String) (row : List Cell) : List (String × Cell) :=
  row.mapIdx fun j cell => (label j, cell)

/-- Labelled cells with what their columns hold. -/
def lookedUp {α : Type} (column? : String → Option α) (cells : List (String × Cell)) :
    List (LabelledCell α) :=
  cells.map fun (label, cell) => ⟨label, column? label, cell⟩

theorem lookedUp_cons {α : Type} (column? : String → Option α) (label : String) (cell : Cell)
    (cells : List (String × Cell)) :
    lookedUp column? ((label, cell) :: cells) =
      ⟨label, column? label, cell⟩ :: lookedUp column? cells :=
  rfl

theorem lookedUp_append {α : Type} (column? : String → Option α) (cells cells' : List (String × Cell)) :
    lookedUp column? (cells ++ cells') = lookedUp column? cells ++ lookedUp column? cells' :=
  List.map_append

/-- Every cell of a row that is not longer than the labels has its label. -/
theorem labelled_range {α : Type} (column? : String → Option α) (label : Nat → String) {w : Nat}
    {row : List Cell} (h : row.length ≤ w) :
    labelled column? ((List.range w).map label) row = lookedUp column? (withLabels label row) := by
  refine List.ext_getElem? fun j => ?_
  rw [labelled, lookedUp, withLabels, List.getElem?_zipWith, List.getElem?_map, List.getElem?_map,
    List.getElem?_mapIdx]
  cases hcell : row[j]? with
  | none => simp
  | some cell =>
    have hj : j < w := Nat.lt_of_lt_of_le (List.getElem?_eq_some_iff.1 hcell).1 h
    rw [List.getElem?_range hj]
    rfl

section
variable {t : Table} {row : List Cell} (h : row ∈ t.rows)
include h

theorem labelled_labels {α : Type} (column? : String → Option α) :
    labelled column? t.labels row = lookedUp column? (withLabels t.header row) :=
  labelled_range column? t.header (Table.length_le_width h)

theorem labelled_hitterLabels :
    labelled battingColumn? (hitterLabels t) row =
      lookedUp battingColumn? (withLabels (hitterLabel t) row) := by
  rw [hitterLabels_eq]
  exact labelled_range battingColumn? (hitterLabel t) (Table.length_le_width h)

end

/-! ### Labels with an underscore -/

theorem underscore_mem_headerKey {header : String} (h : '_' ∈ header.toList) :
    '_' ∈ (headerKey header).toList := by
  have hcollapsed : '_' ∈ (collapsed header).toList := by
    rw [collapsed, String.toList_ofList]
    exact mem_collapse h (by decide)
  rw [headerKey, uppered, String.toList_ofList]
  exact List.mem_flatMap.2 ⟨'_', hcollapsed, by decide⟩

theorem lookupHeader_of_underscore {α : Type} {d : Dictionary α} {header : String}
    (hd : ∀ entry ∈ d, ∀ known ∈ entry.1, '_' ∉ known.toList) (h : '_' ∈ header.toList) :
    lookupHeader d header = none := by
  rw [lookupHeader, Option.map_eq_none_iff, List.find?_eq_none]
  intro entry hentry hknown
  exact hd entry hentry _ (List.contains_iff_mem.1 hknown) (underscore_mem_headerKey h)

theorem battingColumn?_of_underscore {header : String} (h : '_' ∈ header.toList) :
    battingColumn? header = none :=
  lookupHeader_of_underscore (by decide +kernel) h

theorem pitchingColumn?_of_underscore {header : String} (h : '_' ∈ header.toList) :
    pitchingColumn? header = none :=
  lookupHeader_of_underscore (by decide +kernel) h

end Scorebook.Page
