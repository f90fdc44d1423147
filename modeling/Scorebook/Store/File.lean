import Scorebook.Json.Reading
import Scorebook.Store.Basic

/-!
# Stores as files

A store is kept in a file as JSON: its rows table by table, each row as the array of its cells in
the order of the columns, and in a log behind its number.  An empty file is a store without rows.
-/

namespace Scorebook.Store

def Cell.toJson : Cell → Json
  | .null => .null
  | .int i => .ofInt i
  | .real x => .ofBinary64 x
  | .text s => .str s

def Cell.ofJson? : Json.Decoder Cell
  | .null => some .null
  | .num (.int i) => some (.int i)
  | .num (.float x) => some (.real x)
  | .str s => some (.text s)
  | _ => none

def rowJson (columns : List Column) (r : Row) : Json :=
  .arr (columns.map fun c => (r.cell c.name).toJson)

def readRow (columns : List Column) : Json.Decoder Row := fun v => do
  let cells ← Json.list? Cell.ofJson? v
  if cells.length = columns.length then some ((columns.map (·.name)).zip cells) else none

def rowsJson (columns : List Column) (rows : List Row) : Json :=
  .arr (rows.map (rowJson columns))

/-- A log as its highest number and its numbered rows. -/
def logJson (columns : List Column) (l : Log) : Json :=
  .arr [.ofInt l.last, .arr (l.rows.map fun (n, r) => .arr [.ofInt n, rowJson columns r])]

def readInt : Json.Decoder Int := Json.intBetween? Cell.minInt Cell.maxInt

def readNumbered (columns : List Column) : Json.Decoder (Int × Row)
  | .arr [n, r] => do
    let n ← readInt n
    let r ← readRow columns r
    some (n, r)
  | _ => none

def readLog (columns : List Column) : Json.Decoder Log
  | .arr [last, rows] => do
    let last ← readInt last
    let rows ← Json.list? (readNumbered columns) rows
    some ⟨rows, last⟩
  | _ => none

def tableNames : List String :=
  ["games", "quarantine", "ingest_runs", "ingest_outcomes", "review_items", "roster"]

def toJson (s : Store) : Json :=
  .obj (tableNames.zip
    [rowsJson gameColumns s.games, rowsJson quarantineColumns s.quarantine,
      rowsJson runColumns s.runs, logJson outcomeColumns s.outcomes,
      logJson reviewColumns s.review, rowsJson rosterColumns s.roster])

def ofJson? : Json.Decoder Store := fun v =>
  match Json.record? tableNames v with
  | some [games, quarantine, runs, outcomes, review, roster] => do
    let games ← games.required (Json.list? (readRow gameColumns))
    let quarantine ← quarantine.required (Json.list? (readRow quarantineColumns))
    let runs ← runs.required (Json.list? (readRow runColumns))
    let outcomes ← outcomes.required (readLog outcomeColumns)
    let review ← review.required (readLog reviewColumns)
    let roster ← roster.required (Json.list? (readRow rosterColumns))
    some ⟨games, quarantine, runs, outcomes, review, roster⟩
  | _ => none

def fileText (s : Store) : String := s.toJson.compact ++ "\n"

def ofFileText? (text : String) : Option Store :=
  if text.isEmpty then some empty else (Json.read? text).bind ofJson?

end Scorebook.Store
