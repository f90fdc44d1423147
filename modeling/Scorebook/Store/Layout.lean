import Scorebook.Store.Table

/-!
# Layout

The columns of the tables: what each prefers to hold and what becomes of a missing value.  The
layout decides which rows may be put into a table as they stand.
-/

namespace Scorebook.Store

inductive Missing where
  /-- The column holds null. -/
  | allowed
  /-- The row is refused. -/
  | refused
  /-- The column takes this value. -/
  | filled (c : Cell)
deriving DecidableEq, Repr

structure Column where
  name : String
  kind : ColumnKind
  missing : Missing
deriving DecidableEq, Repr

namespace Column

/-- A column of texts that every row has to give. -/
def text (name : String) : Column := ⟨name, .text, .refused⟩

/-- A column of texts that may be null. -/
def text? (name : String) : Column := ⟨name, .text, .allowed⟩

/-- A column of integers that every row has to give. -/
def integer (name : String) : Column := ⟨name, .integer, .refused⟩

/-- A column of integers that may be null. -/
def integer? (name : String) : Column := ⟨name, .integer, .allowed⟩

/-- A column of messages, as JSON; without a value there are none. -/
def messages (name : String) : Column := ⟨name, .text, .filled (.text "[]")⟩

/-- The cell that the column holds for a value; `none` when it may not be missing. -/
def hold? (c : Column) (given : Cell) : Option Cell :=
  if given = .null then
    match c.missing with
    | .allowed => some .null
    | .refused => none
    | .filled cell => some cell
  else some (c.kind.hold given)

end Column

def gameColumns : List Column :=
  [.text? "game_id", .text? "game_date", .text "era", .text? "away_code", .text? "home_code",
    .integer? "away_score", .integer? "home_score", .text "box_score_json",
    .messages "warnings_json", .text "saved_at"]

def quarantineColumns : List Column :=
  [.text? "game_id", .text "box_score_json", .text "errors_json", .messages "warnings_json",
    .text "quarantined_at"]

def runColumns : List Column :=
  [.text? "run_id", .text "started_at", .text "finished_at", .integer "total", .integer "accepted",
    .integer "quarantined", .integer "no_data", .integer "failed_transient", .integer "failed"]

/-- How games ended, apart from the number of the row. -/
def outcomeColumns : List Column :=
  [.text "run_id", .text "game_id", .text "status", .integer "attempts",
    .messages "messages_json", .text "recorded_at"]

/-- The review items, apart from the number of the row. -/
def reviewColumns : List Column :=
  [.text "game_id", .text "side", .text "subject", .text "kind", .text "item_json",
    .text "flagged_at"]

def rosterColumns : List Column :=
  [.integer "player_id", .text "name", .text "team_code", .integer "season_year",
    .text? "uniform_no"]

def outcomeNumber : String := "outcome_id"
def reviewNumber : String := "review_id"

/-- The key of games, accepted or set aside. -/
def gameKey : List String := ["game_id"]
def runKey : List String := ["run_id"]
def rosterKey : List String := ["player_id", "team_code", "season_year"]

/-- What a game updates when it is accepted again. -/
def gameUpdates : List String :=
  ["game_date", "era", "away_code", "home_code", "away_score", "home_score", "box_score_json",
    "warnings_json", "saved_at"]

/-- What a game updates when it is set aside again. -/
def quarantineUpdates : List String :=
  ["box_score_json", "errors_json", "warnings_json", "quarantined_at"]

def rosterUpdates : List String := ["name", "uniform_no"]

/-- The row that a table with these columns holds for the given cells; `none` when a column is
unknown or a value is missing. -/
def fullRow? (columns : List Column) (given : Row) : Option Row :=
  if given.all fun (name, _) => columns.any fun c => c.name == name then
    columns.mapM fun c => (c.hold? (given.cell c.name)).map (c.name, ·)
  else none

/-- The number that a row asks for: none when the cell is null. -/
def numberIn? : Cell → Option (Option Int)
  | .null => some none
  | c =>
    match ColumnKind.integer.hold c with
    | .int i => some (some i)
    | _ => none

def placeRow? (numberColumn : String) (columns : List Column) (given : Row) (log : Log) :
    Option Log := do
  let number ← numberIn? (given.cell numberColumn)
  let row ← fullRow? columns (given.filter fun c => c.1 != numberColumn)
  match number with
  | none => some (log.append row)
  | some n => some (log.place n row)

end Scorebook.Store
