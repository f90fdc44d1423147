import Scorebook.BoxScore.Row
import Scorebook.Page.CellText
import Scorebook.Page.Column
import Scorebook.Page.Table

/-!
# Players' rows from tables

Each cell of a row is paired with the label of its column.  A column that a dictionary knows gives
the value it holds, the first of several with a value counting; every other column is kept under its
label.  A row without a name, or with the totals of the team, gives no player.
-/

namespace Scorebook.Page
open Text

def totalNames : List String := ["합계", "팀합계", "TOTAL", "Total"]

/-- A cell with the label of its column and what the column holds. -/
structure LabelledCell (α : Type) where
  label : String
  column : Option α
  cell : Cell

def labelled {α : Type} (column? : String → Option α) (labels : List String) (row : List Cell) :
    List (LabelledCell α) :=
  List.zipWith (fun label cell => ⟨label, column? label, cell⟩) labels row

/-- The first value that a column of one kind gives. -/
def firstValue? {α β : Type} [DecidableEq α] (cells : List (LabelledCell α)) (kind : α)
    (read : String → Option β) : Option β :=
  cells.findSome? fun c => if c.column = some kind then read c.cell.text else none

/-! ### Extra columns -/

/-- The labels under which a value may be kept: its own, then with the suffixes `_2`, `_3` and so
on. -/
def labelChoices (label : String) (suffixes : Nat) : List String :=
  label :: (List.range suffixes).map fun i => label ++ "_" ++ decimal (i + 2)

/-- Keeps a value under the first of its labels that is free or has that very value. -/
def keepExtra (extras : Extras) (label text : String) : Extras :=
  match (labelChoices label extras.entries.length).find? fun l =>
    (extras.get? l).all (· == text) with
  | some free => extras.insert free text
  | none => extras

/-- The columns of a row that the dictionary does not know. -/
def extrasOf {α : Type} (cells : List (LabelledCell α)) : Extras :=
  cells.foldl
    (fun extras c => if c.column.isNone then keepExtra extras c.label c.cell.text else extras)
    .empty

/-! ### Who the player is -/

/-- The name and number of the player of a row, from the cell of the name column; the number may
stand in another cell. -/
def identity? {α : Type} [DecidableEq α] (nameColumn : α) (cells : List (LabelledCell α)) :
    Option (String × Option PlayerId) := do
  let named ← cells.find? fun c => c.column == some nameColumn
  let name ← named.cell.linkText.or (filledText? named.cell.text)
  if totalNames.contains (trimmed name) then none
  else some (name, named.cell.player.or (cells.findSome? fun c => c.cell.player))

/-- The rows that are a player's, with the place in the order of appearance. -/
def playersOf {α β : Type} [DecidableEq α] (nameColumn : α)
    (row : Count → String → Option PlayerId → List (LabelledCell α) → β)
    (rows : List (List (LabelledCell α))) : List β :=
  let kept := rows.filterMap fun cells => (identity? nameColumn cells).map (·, cells)
  kept.mapIdx fun i ((name, player), cells) => row (UInt32.ofNat (i + 1)) name player cells

/-! ### Hitters -/

def lastInOrder : Count := 9

def hitterRow (side : Side) (sequence : Count) (name : String) (player : Option PlayerId)
    (cells : List (LabelledCell BattingColumn)) : HitterRow :=
  let order := firstValue? cells .order leadingNumber?
  { appearance :=
      ⟨player, name, none, side, firstValue? cells .uniform filledText?, sequence⟩
    battingOrder := order
    position := firstValue? cells .position filledText?
    isStarter := order.any (· ≤ lastInOrder)
    line :=
      ⟨fun c => firstValue? cells (.stat (.count c)) readCount?,
        fun r => firstValue? cells (.stat (.rate r)) readRate?⟩
    extras := extrasOf cells }

/-- The labels that stand in for the first three columns of a table of names without headers. -/
def nameTableLabels : List String := ["타순", "포지션", "선수명"]

/-- The labels of a table of hitters' names.  When none of them is that of a name column, the first
three that are not known are taken by position. -/
def hitterLabels (t : Table) : List String :=
  let labels := t.labels
  if labels.any (fun l => battingColumn? l == some .name) ∨ labels.length < nameTableLabels.length
  then labels
  else
    List.zipWith (fun label standIn => if (battingColumn? label).isNone then standIn else label)
      labels nameTableLabels ++ labels.drop nameTableLabels.length

def hittersOf (side : Side) (rows : List (List (LabelledCell BattingColumn))) : List HitterRow :=
  playersOf .name (hitterRow side) rows

def hitters (side : Side) (t : Table) : List HitterRow :=
  hittersOf side (t.rows.map (labelled battingColumn? (hitterLabels t)))

/-- The hitters of a table of names and one of statistics, put together row by row.  Rows are never
matched by name. -/
def hittersOfBoth (side : Side) (names stats : Table) : List HitterRow :=
  hittersOf side (List.zipWith
    (fun n s => labelled battingColumn? (hitterLabels names) n ++
      labelled battingColumn? stats.labels s)
    names.rows stats.rows)

/-! ### Pitchers -/

/-- The row of a pitcher; the first to appear started. -/
def pitcherRow (side : Side) (sequence : Count) (name : String) (player : Option PlayerId)
    (cells : List (LabelledCell PitchingColumn)) : PitcherRow where
  appearance := ⟨player, name, none, side, firstValue? cells .uniform filledText?, sequence⟩
  isStarting := sequence == 1
  line :=
    { outs := firstValue? cells (.stat .innings) Outs.read?
      counts := fun c => firstValue? cells (.stat (.count c)) readCount?
      rates := fun r => firstValue? cells (.stat (.rate r)) readRate?
      decision := firstValue? cells (.stat .decision) Decision.read? }
  extras := extrasOf cells

def pitchers (side : Side) (t : Table) : List PitcherRow :=
  playersOf .name (pitcherRow side) (t.rows.map (labelled pitchingColumn? t.labels))

end Scorebook.Page
