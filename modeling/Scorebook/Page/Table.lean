import Scorebook.PlayerId
import Scorebook.Text.Case
import Scorebook.Text.Numeral

/-!
# Tables of a page

A page is read once into plain tables; everything else works on these.
-/

namespace Scorebook.Page
open Text

structure Cell where
  text : String
  /-- The player to whom a link in the cell leads. -/
  player : Option PlayerId
  /-- The text of that link. -/
  linkText : Option String
deriving DecidableEq, Repr

/-- A table: its column headers and its rows of cells. -/
structure Table where
  id : Option String
  headers : List String
  rows : List (List Cell)
deriving DecidableEq, Repr

namespace Table

/-- The label of a column without a header. -/
def columnLabel (i : Nat) : String := "COL_" ++ decimal i

/-- The label of a column: its header, unless that is blank. -/
def header (t : Table) (i : Nat) : String :=
  match t.headers[i]? with
  | some h => if h.isEmpty then columnLabel i else h
  | none => columnLabel i

/-- Whether a header is one of the wanted, up to the case of ASCII letters. -/
def isWanted (wanted : List String) (header : String) : Bool :=
  wanted.any (sameIgnoringAsciiCase header)

def hasHeader (t : Table) (wanted : List String) : Bool := t.headers.any (isWanted wanted)

/-- The first column with one of the wanted headers. -/
def column? (t : Table) (wanted : List String) : Option Nat := t.headers.findIdx? (isWanted wanted)

/-- The number of columns: the most that the headers or any row have. -/
def width (t : Table) : Nat := t.rows.foldl (fun w row => max w row.length) t.headers.length

def labels (t : Table) : List String := (List.range t.width).map t.header

end Table

def tableById? (tables : List Table) (id : String) : Option Table :=
  tables.find? fun t => t.id == some id

end Scorebook.Page
