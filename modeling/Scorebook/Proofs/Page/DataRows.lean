import Scorebook.Proofs.Page.Reading

/-!
# Rows that a table keeps

The data rows of a table are those of its bodies, or without such rows all outside a head.  A
leading row of header cells is taken for the headers, and then the first data row is left out.  It
is the leading row itself that is left out, unless the row is no data row: when it stands in front
of the bodies, as a row of a foot does, the table loses a row.
-/

namespace Scorebook

namespace Markup

/-! ### Elements below elements -/

section
variable {p c : Placed}

mutual
/-- What is below an element of a node is in the node. -/
theorem mem_placed_of_mem_below {around : List Element} (n : Node)
    (hp : p ∈ n.placed around) (hc : c ∈ p.below) : c ∈ n.placed around := by
  cases n with
  | element head children =>
    rcases List.mem_cons.1 hp with rfl | hp
    · exact List.mem_cons_of_mem _ hc
    · exact List.mem_cons_of_mem _ (mem_placedIn_of_mem_below children hp hc)
  | text s => cases hp
  | comment => cases hp
theorem mem_placedIn_of_mem_below {around : List Element} (ns : List Node)
    (hp : p ∈ placedIn around ns) (hc : c ∈ p.below) : c ∈ placedIn around ns := by
  cases ns with
  | nil => cases hp
  | cons n ns =>
    rcases List.mem_append.1 hp with hp | hp
    · exact List.mem_append_left _ (mem_placed_of_mem_below n hp hc)
    · exact List.mem_append_right _ (mem_placedIn_of_mem_below ns hp hc)
end

mutual
/-- The elements around a node are around each of its elements. -/
theorem suffix_ancestors_of_mem_placed {around : List Element} (n : Node)
    (hp : p ∈ n.placed around) : around <:+ p.ancestors := by
  cases n with
  | element head children =>
    rcases List.mem_cons.1 hp with rfl | hp
    · exact List.suffix_rfl
    · exact (List.suffix_cons ..).trans (suffix_ancestors_of_mem_placedIn children hp)
  | text s => cases hp
  | comment => cases hp
theorem suffix_ancestors_of_mem_placedIn {around : List Element} (ns : List Node)
    (hp : p ∈ placedIn around ns) : around <:+ p.ancestors := by
  cases ns with
  | nil => cases hp
  | cons n ns =>
    rcases List.mem_append.1 hp with hp | hp
    · exact suffix_ancestors_of_mem_placed n hp
    · exact suffix_ancestors_of_mem_placedIn ns hp
end

end

namespace Placed
variable {p q c : Placed}

theorem below_trans (hq : q ∈ p.below) (hc : c ∈ q.below) : c ∈ p.below :=
  mem_placedIn_of_mem_below _ hq hc

theorem isInside_of_mem_below {name : String} (hc : c ∈ p.below) (h : p.isInside name = true) :
    c.isInside name = true := by
  obtain ⟨a, ha, hname⟩ := List.any_eq_true.1 h
  have haround : p.element :: p.ancestors <:+ c.ancestors :=
    suffix_ancestors_of_mem_placedIn _ hc
  exact List.any_eq_true.2 ⟨a, haround.subset (List.mem_cons_of_mem _ ha), hname⟩

end Placed

end Markup

namespace Page
open Markup

/-! ### The rows of a table -/

def rowsBelow (p : Placed) : List Placed := p.below.filter fun r => r.name == "tr"

def hasBodyRows (p : Placed) : Bool := (rowsBelow p).any fun r => r.isChildOf "tbody"

/-- Whether a row counts among the data rows of a table. -/
def isDataRow (p r : Placed) : Bool :=
  if hasBodyRows p then r.isChildOf "tbody" else !r.isInside "thead"

def dataRows (p : Placed) : List Placed := (rowsBelow p).filter (isDataRow p)

def headCells (p : Placed) : List Placed :=
  p.below.filter fun c => c.name == "th" && c.isInside "thead"

/-- The leading row, when its header cells take the place of headers in a head. -/
def promoted? (p : Placed) : Option Placed :=
  (rowsBelow p).head?.filter fun r => (headCells p).isEmpty && (headerRow? r).isSome

section
variable {p r : Placed}

theorem headerRow?_eq_some_iff {texts : List String} :
    headerRow? r = some texts ↔
      (cellsBelow r ≠ [] ∧ ∀ c ∈ cellsBelow r, c.name = "th") ∧
        (cellsBelow r).map (·.text) = texts := by
  simp [headerRow?]

theorem promoted?_eq_some_iff :
    promoted? p = some r ↔
      (rowsBelow p).head? = some r ∧ headCells p = [] ∧ (headerRow? r).isSome = true := by
  simp [promoted?]

theorem bind_headerRow?_promoted? (p : Placed) :
    (promoted? p).bind headerRow? =
      if (headCells p).isEmpty then (rowsBelow p).head?.bind headerRow? else none := by
  unfold promoted?
  cases (rowsBelow p).head? with
  | none => simp
  | some r =>
    cases hcells : (headCells p).isEmpty <;> cases hr : headerRow? r <;> simp [Option.filter, hr]

theorem isSome_bind_promoted? (p : Placed) :
    ((promoted? p).bind headerRow?).isSome = (promoted? p).isSome := by
  cases hp : promoted? p with
  | none => rfl
  | some r => exact (promoted?_eq_some_iff.1 hp).2.2

theorem dataRows_eq (p : Placed) :
    dataRows p =
      if ((rowsBelow p).filter fun r => r.isChildOf "tbody").isEmpty then
        (rowsBelow p).filter fun r => !r.isInside "thead"
      else (rowsBelow p).filter fun r => r.isChildOf "tbody" := by
  have hbodies : ((rowsBelow p).filter fun r => r.isChildOf "tbody").isEmpty = !hasBodyRows p := by
    rw [Bool.eq_iff_iff, hasBodyRows]
    simp
  rw [hbodies]
  unfold dataRows isDataRow
  cases hasBodyRows p <;> rfl

theorem readTable_eq (p : Placed) :
    readTable p = {
      id := p.element.attribute? "id"
      headers := ((promoted? p).bind headerRow?).getD ((headCells p).map (·.text))
      rows := (if (promoted? p).isSome then (dataRows p).drop 1 else dataRows p).map readRow } := by
  rw [apply_ite (List.map readRow), List.map_drop, ← isSome_bind_promoted?,
    bind_headerRow?_promoted?, dataRows_eq]
  simp only [readTable, List.isEmpty_map]
  rfl

theorem isInside_head_of_promoted? (h : promoted? p = some r) : r.isInside "thead" = false := by
  obtain ⟨hhead, hcells, hsome⟩ := promoted?_eq_some_iff.1 h
  obtain ⟨texts, htexts⟩ := Option.isSome_iff_exists.1 hsome
  obtain ⟨⟨hne, hall⟩, -⟩ := headerRow?_eq_some_iff.1 htexts
  obtain ⟨c, hc⟩ := List.exists_mem_of_ne_nil _ hne
  have hrow : r ∈ p.below := (List.mem_filter.1 (List.mem_of_head? hhead)).1
  have hcell : c ∈ r.below := (List.mem_filter.1 hc).1
  rw [Bool.eq_false_iff]
  intro hinside
  -- The header cells of the row would stand in the head as well, and nothing would be promoted.
  have hmem : c ∈ headCells p := by
    refine List.mem_filter.2 ⟨Placed.below_trans hrow hcell, ?_⟩
    rw [hall c hc, Placed.isInside_of_mem_below hcell hinside]
    rfl
  rw [hcells] at hmem
  cases hmem

theorem isDataRow_iff_of_promoted? (h : promoted? p = some r) :
    isDataRow p r = true ↔ hasBodyRows p = false ∨ r.isChildOf "tbody" = true := by
  have hhead := isInside_head_of_promoted? h
  cases hbodies : hasBodyRows p <;> simp [isDataRow, hbodies, hhead]

/-- A table with a promoted row has a data row: that row, or one of a body. -/
theorem dataRows_ne_nil_of_promoted? (h : promoted? p = some r) : dataRows p ≠ [] := by
  have hexists : ∃ q ∈ rowsBelow p, isDataRow p q = true := by
    cases hbodies : hasBodyRows p with
    | false =>
      have hrow : r ∈ rowsBelow p := List.mem_of_head? (promoted?_eq_some_iff.1 h).1
      exact ⟨r, hrow, (isDataRow_iff_of_promoted? h).2 (.inl hbodies)⟩
    | true =>
      obtain ⟨q, hq, hchild⟩ := List.any_eq_true.1 hbodies
      refine ⟨q, hq, ?_⟩
      rwa [isDataRow, hbodies, if_pos rfl]
  obtain ⟨q, hq, hdata⟩ := hexists
  exact List.ne_nil_of_mem (List.mem_filter.2 ⟨hq, hdata⟩)

theorem rows_of_promoted? (h : promoted? p = some r) :
    (readTable p).rows = ((dataRows p).drop 1).map readRow := by
  rw [readTable_eq, h]
  rfl

/-- The first data row is left out for a promoted row, so all others are kept exactly when the
promoted row is the first data row. -/
theorem rows_kept_iff_of_promoted? {others : List Placed} (h : promoted? p = some r)
    (hrows : rowsBelow p = r :: others) :
    (readTable p).rows = (others.filter (isDataRow p)).map readRow ↔ isDataRow p r = true := by
  have hne := dataRows_ne_nil_of_promoted? h
  rw [rows_of_promoted? h]
  rw [dataRows, hrows] at hne ⊢
  cases hr : isDataRow p r with
  | true => simp [List.filter_cons_of_pos hr]
  | false =>
    -- What is left out is one of the others, so they cannot all be there.
    have hneg : ¬ isDataRow p r = true := by simp [hr]
    rw [List.filter_cons_of_neg hneg] at hne ⊢
    have hlength := List.length_pos_iff.2 hne
    refine iff_of_false (fun heq => ?_) Bool.false_ne_true
    have hsame := congrArg List.length heq
    simp only [List.length_map, List.length_drop] at hsame
    omega

end

/-- Without a promoted row a table keeps all of its data rows.  For a promoted row it leaves out its
first data row and no other; that is the promoted row, and all other data rows are kept, exactly
when no row is in a body or the promoted one is. -/
theorem data_rows_kept (p : Placed) :
    match promoted? p with
    | none => (readTable p).rows = (dataRows p).map readRow
    | some r => ∃ others, rowsBelow p = r :: others ∧
        (readTable p).headers = (cellsBelow r).map (·.text) ∧
        (isDataRow p r = true ↔ hasBodyRows p = false ∨ r.isChildOf "tbody" = true) ∧
        ((readTable p).rows = (others.filter (isDataRow p)).map readRow ↔
          isDataRow p r = true) ∧
        dataRows p ≠ [] ∧ (readTable p).rows = ((dataRows p).drop 1).map readRow := by
  cases h : promoted? p with
  | none =>
    rw [readTable_eq, h]
    rfl
  | some r =>
    obtain ⟨hhead, -, hsome⟩ := promoted?_eq_some_iff.1 h
    obtain ⟨others, hrows⟩ := List.head?_eq_some_iff.1 hhead
    obtain ⟨texts, htexts⟩ := Option.isSome_iff_exists.1 hsome
    have hheaders : (readTable p).headers = (cellsBelow r).map (·.text) := by
      rw [readTable_eq, h, Option.bind_some, htexts, (headerRow?_eq_some_iff.1 htexts).2]
      rfl
    exact ⟨others, hrows, hheaders, isDataRow_iff_of_promoted? h,
      rows_kept_iff_of_promoted? h hrows, dataRows_ne_nil_of_promoted? h, rows_of_promoted? h⟩

/-- The only table of a page whose elements stand in order, by what can be seen of it. -/
theorem exists_table {α : Type} {markup : String} {view : Placed → α} {a : α}
    (h : (placedIn [] (parse markup).nodes).Pairwise (fun p q => Document.madeBefore p q = true) ∧
      ((placedIn [] (parse markup).nodes).filter fun p => p.name == "table").map view = [a]) :
    ∃ p ∈ (parse markup).select fun p => p.name == "table", view p = a := by
  obtain ⟨hsorted, hview⟩ := h
  rw [← select_of_inOrder hsorted] at hview
  obtain ⟨p, hselect, hp⟩ := List.map_eq_singleton_iff.1 hview
  exact ⟨p, hselect ▸ List.mem_singleton_self p, hp⟩

def headlessMarkup : String :=
  "<table><tr><th>팀</th><th>R</th></tr><tr><td>LG</td><td>3</td></tr></table>"

theorem leading_row_of_headlessMarkup :
    ∃ p ∈ (parse headlessMarkup).select fun p => p.name == "table", ∃ r others,
      promoted? p = some r ∧ rowsBelow p = r :: others ∧ isDataRow p r = true ∧
      (readTable p).headers = (cellsBelow r).map (·.text) ∧
      (readTable p).rows = (others.filter (isDataRow p)).map readRow ∧
      (readTable p).rows = [[⟨"LG", none, none⟩, ⟨"3", none, none⟩]] := by
  have hview : ∃ p ∈ (parse headlessMarkup).select fun p => p.name == "table",
      ((promoted? p).map (isDataRow p), (readTable p).rows) =
        (some true, [[⟨"LG", none, none⟩, ⟨"3", none, none⟩]]) :=
    exists_table (by decide +kernel)
  obtain ⟨p, htable, hp⟩ := hview
  obtain ⟨hpromoted, hread⟩ := Prod.mk.inj hp
  obtain ⟨r, hr, hdata⟩ := Option.map_eq_some_iff.1 hpromoted
  have hrows := data_rows_kept p
  rw [hr] at hrows
  obtain ⟨others, hothers, hheaders, -, hkept, -⟩ := hrows
  exact ⟨p, htable, r, others, hr, hothers, hdata, hheaders, hkept.2 hdata, hread⟩

/-- A table with a foot of header cells in front of its body. -/
def footedMarkup : String :=
  "<table><tfoot><tr><th>합계</th><th>5</th></tr></tfoot>" ++
  "<tbody><tr><td>LG</td><td>3</td></tr><tr><td>SS</td><td>2</td></tr></tbody></table>"

/-- The row of the foot is promoted, and the first row of the body is lost to it. -/
theorem first_row_lost_to_foot :
    ∃ p ∈ (parse footedMarkup).select fun p => p.name == "table", ∃ r others,
      promoted? p = some r ∧ rowsBelow p = r :: others ∧
      (others.filter (isDataRow p)).map readRow =
        [[⟨"LG", none, none⟩, ⟨"3", none, none⟩], [⟨"SS", none, none⟩, ⟨"2", none, none⟩]] ∧
      (readTable p).rows = [[⟨"SS", none, none⟩, ⟨"2", none, none⟩]] := by
  have hview : ∃ p ∈ (parse footedMarkup).select fun p => p.name == "table",
      ((promoted? p).isSome, ((rowsBelow p).tail.filter (isDataRow p)).map readRow,
        (readTable p).rows) =
      (true, [[⟨"LG", none, none⟩, ⟨"3", none, none⟩], [⟨"SS", none, none⟩, ⟨"2", none, none⟩]],
        [[⟨"SS", none, none⟩, ⟨"2", none, none⟩]]) :=
    exists_table (by decide +kernel)
  obtain ⟨p, htable, hp⟩ := hview
  simp only [Prod.mk.injEq] at hp
  obtain ⟨hsome, hkept, hread⟩ := hp
  obtain ⟨r, hr⟩ := Option.isSome_iff_exists.1 hsome
  obtain ⟨others, hrows⟩ := List.head?_eq_some_iff.1 (promoted?_eq_some_iff.1 hr).1
  rw [hrows, List.tail_cons] at hkept
  exact ⟨p, htable, r, others, hr, hrows, hkept, hread⟩

end Page

end Scorebook
