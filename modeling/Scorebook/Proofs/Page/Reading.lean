import Scorebook.Page.Reading
import Scorebook.Proofs.Text.Words

/-!
# Tables read from markup

Texts on a page are collapsed when they are read, so the text of a link that is kept with a cell is
not blank.  The elements of most pages stand in the order in which they were made, and then they are
selected without being sorted.
-/

namespace Scorebook.Page
open Text Markup

theorem select_of_inOrder {d : Document} {test : Placed → Bool}
    (h : (placedIn [] d.nodes).Pairwise fun p q => Document.madeBefore p q = true) :
    d.select test = (placedIn [] d.nodes).filter test :=
  List.mergeSort_of_pairwise (h.filter _)

/-- A page whose elements stand in order is given by its elements as they stand. -/
theorem ofMarkup_eq {markup : String} {p : Page}
    (h : (placedIn [] (parse markup).nodes).Pairwise
        (fun p q => Document.madeBefore p q = true) ∧
      ((placedIn [] (parse markup).nodes).filter fun p => p.name == "table").map readTable =
        p.tables ∧
      ((placedIn [] (parse markup).nodes).filter
        fun p => p.element.classes.any infoClasses.contains).head?.map (·.text) = p.info) :
    ofMarkup markup = p := by
  obtain ⟨hsorted, htables, hinfo⟩ := h
  rw [ofMarkup, ofDocument, select_of_inOrder hsorted, select_of_inOrder hsorted, htables, hinfo]

/-- A cell whose link, if it has one, is not blank. -/
def Cell.WellRead (c : Cell) : Prop := ∀ s, c.linkText = some s → isBlankText s = false

def Table.WellRead (t : Table) : Prop := ∀ row ∈ t.rows, ∀ c ∈ row, c.WellRead

theorem wellRead_readCell (p : Placed) : (readCell p).WellRead := by
  intro s hs
  obtain ⟨hlink, hne⟩ := Option.filter_eq_some_iff.1 hs
  obtain ⟨a, -, rfl⟩ := Option.map_eq_some_iff.1 hlink
  exact isBlankText_collapsed ((Bool.not_eq_true' _).mp hne)

theorem wellRead_readTable (p : Placed) : (readTable p).WellRead := by
  have hrows : ∀ (led : Bool) (rs : List Placed),
      ∀ row ∈ (if led then (rs.map readRow).drop 1 else rs.map readRow), ∀ c ∈ row,
        c.WellRead := by
    intro led rs row hrow c hc
    have hread : row ∈ rs.map readRow := by
      split at hrow
      · exact List.mem_of_mem_drop hrow
      · exact hrow
    obtain ⟨r, -, rfl⟩ := List.mem_map.1 hread
    obtain ⟨q, -, rfl⟩ := List.mem_map.1 hc
    exact wellRead_readCell q
  exact hrows _ _

theorem wellRead_ofMarkup {markup : String} {t : Table} (ht : t ∈ (ofMarkup markup).tables) :
    t.WellRead := by
  obtain ⟨p, -, rfl⟩ := List.mem_map.1 ht
  exact wellRead_readTable p

end Scorebook.Page
