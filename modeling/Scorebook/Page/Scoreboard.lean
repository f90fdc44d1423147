import Scorebook.BoxScore.Basic
import Scorebook.Page.CellText
import Scorebook.Page.Table

/-!
# Scoreboards

The runs of each inning and the totals of both teams.  They stand in one table, or side by side in
three: the teams, the innings, and the totals.
-/

namespace Scorebook.Page
open Text

def teamHeaders : List String := ["TEAM", "팀", "팀명"]

def playerHeaders : List String := ["타수", "AB", "이닝", "IP", "선수명"]

/-- The number of the last inning that a header may name. -/
def lastInning : Nat := 25

def isInningHeader (h : String) : Bool :=
  match numeral? maxU32 (h.toList.reverse.dropWhile (· == '회')).reverse with
  | some n => 1 ≤ n && n ≤ lastInning
  | none => false

def hasTwoRows (t : Table) : Bool := t.rows.length ≥ 2

/-- Whether a table has columns of totals and none of players. -/
def hasTotals (t : Table) : Bool :=
  t.hasHeader ["R"] && t.hasHeader ["H"] && !t.hasHeader playerHeaders

def isScoreboard (t : Table) : Bool := t.hasHeader teamHeaders && hasTotals t && hasTwoRows t

def isTeamPart (t : Table) : Bool := t.hasHeader teamHeaders && !hasTotals t && hasTwoRows t

def isInningPart (t : Table) : Bool :=
  t.headers.countP isInningHeader ≥ 3 && !t.hasHeader teamHeaders && !hasTotals t && hasTwoRows t

def isTotalsPart (t : Table) : Bool := hasTotals t && !t.hasHeader teamHeaders && hasTwoRows t

def hasWhole (tables : List Table) : Bool := tables.any isScoreboard

/-- Whether a page has a scoreboard in three tables. -/
def hasParts (tables : List Table) : Bool :=
  tables.any isTeamPart && tables.any isInningPart && tables.any isTotalsPart

/-- The text of a cell, if the column and the cell exist. -/
def textAt? (row : List Cell) (column : Option Nat) : Option String :=
  (column.bind (row[·]?)).map (·.text)

def halvesOf (t : Table) (row : List Cell) : List (Option Count) :=
  (t.headers.zipIdx.filter fun (h, _) => isInningHeader h).map fun (_, i) =>
    (textAt? row (some i)).bind readCount?

/-- The line of a team, from its name, its innings, and its row of the table of totals. -/
def lineOf (name : Option String) (halves : List (Option Count)) (totals : Table)
    (row : List Cell) : TeamLine :=
  let total := fun header => (textAt? row (totals.column? [header])).bind readCount?
  { TeamLine.blank with
    name := name.bind filledText?
    score := total "R"
    hits := total "H"
    errors := total "E"
    halves := halves }

/-- The row of a side: the away team stands first. -/
def rowOf (t : Table) : Side → List Cell
  | .away => t.rows[0]?.getD []
  | .home => t.rows[1]?.getD []

def readWhole (t : Table) : PerSide TeamLine :=
  .ofFn fun side =>
    lineOf (textAt? (rowOf t side) (t.column? teamHeaders)) (halvesOf t (rowOf t side)) t
      (rowOf t side)

def readParts (team innings totals : Table) : PerSide TeamLine :=
  .ofFn fun side =>
    lineOf (textAt? (rowOf team side) (team.column? teamHeaders))
      (halvesOf innings (rowOf innings side)) totals (rowOf totals side)

/-- Reads the scoreboard of a page, if it has one. -/
def scoreboard? (tables : List Table) : Option (PerSide TeamLine) :=
  match tables.find? isScoreboard with
  | some t => some (readWhole t)
  | none => do
    let team ← tables.find? isTeamPart
    let innings ← tables.find? isInningPart
    let totals ← tables.find? isTotalsPart
    some (readParts team innings totals)

end Scorebook.Page
