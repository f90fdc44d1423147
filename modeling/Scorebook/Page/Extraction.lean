import Scorebook.Page.Info
import Scorebook.Page.Layout

/-!
# Box scores from pages

A page is its tables and its information block.  Its era is decided, its lines and rows are read,
and the teams are identified: by the printed name, or else by the game identifier, for the season of
the game.
-/

namespace Scorebook

/-- What a page holds: its tables in document order and the text of its information block. -/
structure Page where
  tables : List Page.Table
  info : Option String

namespace Page

def identifyTeam (h : Franchise.History) (id : Option GameId) (season : Option Int) (side : Side)
    (line : TeamLine) : TeamLine :=
  let byName := line.name.bind fun name => season.bind (h.team? name)
  let code := byName.or (id.bind fun g => g.team? h side)
  let season := season.or (id.map (·.season))
  { line with
    code := code
    franchiseCode := code.bind fun c => season.bind (h.franchiseCode? c) }

def assemble (h : Franchise.History) (p : Page) (gameId : String) (id : Option GameId)
    (date : Option Date) (era : Era) (lines : Lines) : BoxScore :=
  let teams : PerSide TeamLine := .ofFn fun side =>
    identifyTeam h id (date.map (·.year)) side (lines.teams.get side)
  { gameId := gameId
    date := date
    era := era
    info := (p.info.map readInfo).getD .blank
    teams := teams
    hitters := .ofFn fun side => (lines.hitters.get side).map fun r =>
      { r with appearance := { r.appearance with team := (teams.get side).code } }
    pitchers := .ofFn fun side => (lines.pitchers.get side).map fun r =>
      { r with appearance := { r.appearance with team := (teams.get side).code } }
    notes := notes p.tables }

/-- Extracts the box score of a page.  The date defaults to that of the identifier.  A legacy page
names no teams, so its identifier has to be readable. -/
def extract (h : Franchise.History) (p : Page) (gameId : String) (date : Option Date) :
    Except ExtractionError BoxScore := do
  match (Signature.ofTables p.tables).era? with
  | none => .error .noLayout
  | some era =>
    let id ← match era, GameId.decode gameId with
      | _, .ok id => .ok (some id)
      | .legacy, .error e => .error (.badGameId e)
      | _, .error _ => .ok none
    let lines ← readLines era p.tables
    .ok (assemble h p gameId id (date.or (id.map (·.date))) era lines)

end Page

end Scorebook
