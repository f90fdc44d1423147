import Scorebook.Store.Cell

/-!
# Tables

A row gives a cell for each of its columns by name.  Rows are kept in one of two ways: under a key,
where a row takes the place of the one with the same key, or in a log, where rows are numbered as
they come and stay in the order of their numbers.
-/

namespace Scorebook.Store

/-- A row: its cells by the names of the columns. -/
abbrev Row := List (String × Cell)

/-- The cell of a column; null when the row has no such column. -/
def Row.cell (r : Row) (name : String) : Cell := (r.lookup name).getD .null

/-- Whether two rows agree on a key.  A null cell agrees with nothing. -/
def Row.sameKey (key : List String) (r s : Row) : Bool :=
  key.all fun name => r.cell name == s.cell name && r.cell name != .null

/-- Puts a row in the place of the one with the same key. -/
def putRow (key : List String) (row : Row) (rows : List Row) : List Row :=
  rows.filter (fun r => !r.sameKey key row) ++ [row]

/-- A row over an older one: the cells of some columns, and those of the older row elsewhere. -/
def Row.over (row : Row) (columns : List String) (old : Row) : Row :=
  row.map fun (name, c) => (name, if columns.contains name then c else old.cell name)

/-- Puts a row into a table.  Where one with the same key is there, the row updates some columns of
it. -/
def mergeRow (key updated : List String) (row : Row) (rows : List Row) : List Row :=
  match rows.find? fun r => r.sameKey key row with
  | none => rows ++ [row]
  | some old => putRow key (row.over (key ++ updated) old) rows

theorem Row.over_eq_self {row : Row} {columns : List String}
    (h : ∀ name ∈ row.map Prod.fst, name ∈ columns) (old : Row) : row.over columns old = row := by
  refine (List.map_congr_left ?_).trans (List.map_id row)
  intro c hc
  have hname : columns.contains c.1 = true :=
    List.contains_iff_mem.2 (h c.1 (List.mem_map.2 ⟨c, hc, rfl⟩))
  simp only [hname, if_true, id]

/-- A row that updates all of its columns takes the place of the one that is there. -/
theorem mergeRow_eq_putRow {key updated : List String} {row : Row}
    (h : ∀ name ∈ row.map Prod.fst, name ∈ key ++ updated) (rows : List Row) :
    mergeRow key updated row rows = putRow key row rows := by
  unfold mergeRow
  split
  · rename_i hnone
    have hkept : rows.filter (fun r => !r.sameKey key row) = rows := by
      apply List.filter_eq_self.2
      intro r hr
      simpa using List.find?_eq_none.1 hnone r hr
    rw [putRow, hkept]
  · rw [Row.over_eq_self h]

def rowsWith (name text : String) (rows : List Row) : List Row :=
  rows.filter fun r => r.cell name == .text text

/-- Rows that are numbered as they come. -/
structure Log where
  /-- The rows by ascending number. -/
  rows : List (Int × Row)
  /-- The highest number that was given so far, zero at first. -/
  last : Int
deriving Repr

namespace Log

def empty : Log := ⟨[], 0⟩

def append (l : Log) (row : Row) : Log := ⟨l.rows ++ [(l.last + 1, row)], l.last + 1⟩

def appendAll (l : Log) (rows : List Row) : Log := rows.foldl append l

/-- Puts a row under a number, in the place of one that is there. -/
def placeIn (number : Int) (row : Row) : List (Int × Row) → List (Int × Row)
  | [] => [(number, row)]
  | (n, r) :: rest =>
    if number < n then (number, row) :: (n, r) :: rest
    else if number = n then (n, row) :: rest
    else (n, r) :: placeIn number row rest

def place (l : Log) (number : Int) (row : Row) : Log :=
  ⟨placeIn number row l.rows, max l.last number⟩

def toList (l : Log) : List Row := l.rows.map Prod.snd

@[simp] theorem toList_append (l : Log) (row : Row) :
    (l.append row).toList = l.toList ++ [row] := by
  simp [toList, append]

@[simp] theorem toList_appendAll (l : Log) (rows : List Row) :
    (l.appendAll rows).toList = l.toList ++ rows := by
  induction rows generalizing l with
  | nil => simp [appendAll]
  | cons row rows ih =>
    have h := ih (l.append row)
    simp only [appendAll, List.foldl_cons] at h ⊢
    rw [h, toList_append, List.append_assoc, List.singleton_append]

end Log

end Scorebook.Store
