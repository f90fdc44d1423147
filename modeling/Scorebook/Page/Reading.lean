import Scorebook.Markup.Parsing
import Scorebook.Page.Extraction

/-!
# Reading pages

A page of markup is read into its tables and its information block.  An element counts by the
elements around it anywhere on the page, so the cells of a table within a cell belong to both.
-/

namespace Scorebook.Page
open Text Markup

/-- The first link to a player below an element. -/
def playerLink? (p : Placed) : Option Placed :=
  p.below.find? fun a =>
    a.name == "a" && (a.element.attribute? "href").any fun h => hasPiece "playerId=".toList h.toList

def readCell (p : Placed) : Cell :=
  let link := playerLink? p
  { text := p.text
    player := (link.bind fun a => a.element.attribute? "href").bind linkedPlayer?
    linkText := (link.map (·.text)).filter fun t => !t.isEmpty }

def cellsBelow (p : Placed) : List Placed :=
  p.below.filter fun c => c.name == "th" || c.name == "td"

def readRow (p : Placed) : List Cell := (cellsBelow p).map readCell

/-- The texts of a row that has header cells only. -/
def headerRow? (p : Placed) : Option (List String) :=
  let cells := cellsBelow p
  if !cells.isEmpty && cells.all (fun c => c.name == "th") then some (cells.map (·.text)) else none

/-- Reads a table.  Its headers are the header cells of its head; its rows are those of its bodies,
or without such rows all outside the head.  Without headers in a head, a leading row of header cells
takes their place. -/
def readTable (p : Placed) : Table :=
  let inner := p.below
  let rows := inner.filter fun r => r.name == "tr"
  let inBodies := rows.filter fun r => r.isChildOf "tbody"
  let body := (if inBodies.isEmpty then rows.filter fun r => !r.isInside "thead" else inBodies).map
    readRow
  let headers := (inner.filter fun c => c.name == "th" && c.isInside "thead").map (·.text)
  let leading := if headers.isEmpty then rows.head?.bind headerRow? else none
  { id := p.element.attribute? "id"
    headers := leading.getD headers
    rows := if leading.isSome then body.drop 1 else body }

def infoClasses : List String := ["box-score-area", "game-info", "score-board"]

def ofDocument (d : Document) : Page :=
  { tables := (d.select fun p => p.name == "table").map readTable
    info := ((d.select fun p => p.element.classes.any infoClasses.contains).head?).map (·.text) }

def ofMarkup (markup : String) : Page := ofDocument (Markup.parse markup)

end Scorebook.Page
