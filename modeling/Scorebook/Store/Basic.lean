import Scorebook.Json.Writing
import Scorebook.Outcome
import Scorebook.Review
import Scorebook.Roster.Basic
import Scorebook.Store.Layout
import Scorebook.Validation

/-!
# The store

Where the records of runs are kept: accepted games, games set aside, the outcomes of all games, the
review items, the runs, and the rosters.  Accepting a game removes its copy that was set aside;
setting a game aside leaves an accepted copy alone.  Structured values are held as compact JSON.
-/

namespace Scorebook

structure Store where
  games : List Store.Row
  quarantine : List Store.Row
  runs : List Store.Row
  outcomes : Store.Log
  review : Store.Log
  roster : List Store.Row
deriving Repr

namespace Store
open Text

def empty : Store := ⟨[], [], [], .empty, .empty, []⟩

def messagesText (messages : List String) : String := (Json.ofTexts messages).compact

def gameRow (b : BoxScore) (v : Validation) (now : Instant) : Row :=
  [("game_id", .text b.gameId), ("game_date", .ofText? (b.date.map Date.iso)),
    ("era", .text b.era.name), ("away_code", .ofText? b.teams.away.code),
    ("home_code", .ofText? b.teams.home.code), ("away_score", .ofCount? b.teams.away.score),
    ("home_score", .ofCount? b.teams.home.score), ("box_score_json", .text b.toJson.compact),
    ("warnings_json", .text (messagesText v.warnings)), ("saved_at", .text now.offsetText)]

/-- The row of a game that is set aside. -/
def quarantineRow (b : BoxScore) (v : Validation) (now : Instant) : Row :=
  [("game_id", .text b.gameId), ("box_score_json", .text b.toJson.compact),
    ("errors_json", .text (messagesText v.errors)),
    ("warnings_json", .text (messagesText v.warnings)), ("quarantined_at", .text now.offsetText)]

def outcomeRow (o : OutcomeRecord) : Row :=
  [("run_id", .text o.run.text), ("game_id", .text o.gameId), ("status", .text o.status.name),
    ("attempts", .ofCount o.attempts), ("messages_json", .text (messagesText o.messages)),
    ("recorded_at", .text o.recordedAt.offsetText)]

def reviewRow (now : Instant) (r : ReviewItem) : Row :=
  [("game_id", .text r.gameId), ("side", .text r.side.name), ("subject", .text r.subject),
    ("kind", .text r.kind.name), ("item_json", .text r.toJson.compact),
    ("flagged_at", .text now.offsetText)]

def runRow (s : RunSummary) : Row :=
  [("run_id", .text s.run.text), ("started_at", .text s.started.offsetText),
    ("finished_at", .text s.finished.offsetText), ("total", .ofCount s.total)] ++
    GameStatus.all.map fun g => (g.name, .ofCount (s.withStatus g))

/-- The row of a roster entry; its name is trimmed. -/
def rosterRow (e : RosterEntry) : Row :=
  [("player_id", .ofCount e.player.number), ("name", .text (trimmed e.name)),
    ("team_code", .text e.team), ("season_year", .int e.season),
    ("uniform_no", .ofText? e.uniform)]

/-- Accepts a game, in place of earlier copies of both kinds. -/
def save (s : Store) (b : BoxScore) (v : Validation) (now : Instant) : Store :=
  { s with
    games := mergeRow gameKey gameUpdates (gameRow b v now) s.games
    quarantine := s.quarantine.filter fun r => r.cell "game_id" != .text b.gameId }

/-- Sets a game aside, in place of an earlier copy that was set aside. -/
def setAside (s : Store) (b : BoxScore) (v : Validation) (now : Instant) : Store :=
  { s with
    quarantine := mergeRow gameKey quarantineUpdates (quarantineRow b v now) s.quarantine }

def recordOutcome (s : Store) (o : OutcomeRecord) : Store :=
  { s with outcomes := s.outcomes.append (outcomeRow o) }

def flag (s : Store) (items : List ReviewItem) (now : Instant) : Store :=
  { s with review := s.review.appendAll (items.map (reviewRow now)) }

/-- Records a run, in place of an earlier record of it. -/
def recordRun (s : Store) (r : RunSummary) : Store :=
  { s with runs := putRow runKey (runRow r) s.runs }

/-- Adds a roster entry, in place of the one of the same player, team and season. -/
def addRosterEntry (s : Store) (e : RosterEntry) : Store :=
  { s with roster := mergeRow rosterKey rosterUpdates (rosterRow e) s.roster }

/-- An accepted game takes the place of an earlier copy as a whole. -/
theorem save_eq (s : Store) (b : BoxScore) (v : Validation) (now : Instant) :
    s.save b v now = { s with
      games := putRow gameKey (gameRow b v now) s.games
      quarantine := s.quarantine.filter fun r => r.cell "game_id" != .text b.gameId } := by
  have hall : ∀ name ∈ (gameRow b v now).map Prod.fst, name ∈ gameKey ++ gameUpdates :=
    fun _ h => h
  rw [save, mergeRow_eq_putRow hall]

/-- A game that is set aside takes the place of an earlier copy as a whole. -/
theorem setAside_eq (s : Store) (b : BoxScore) (v : Validation) (now : Instant) :
    s.setAside b v now =
      { s with quarantine := putRow gameKey (quarantineRow b v now) s.quarantine } := by
  have hall : ∀ name ∈ (quarantineRow b v now).map Prod.fst, name ∈ gameKey ++ quarantineUpdates :=
    fun _ h => h
  rw [setAside, mergeRow_eq_putRow hall]

/-- Puts a row into a table as it stands; `none` when there is no such table or the row does not fit
its layout. -/
def insertRow? (s : Store) (table : String) (given : Row) : Option Store :=
  match table with
  | "games" =>
    (fullRow? gameColumns given).map fun r => { s with games := putRow gameKey r s.games }
  | "quarantine" =>
    (fullRow? quarantineColumns given).map fun r =>
      { s with quarantine := putRow gameKey r s.quarantine }
  | "ingest_runs" =>
    (fullRow? runColumns given).map fun r => { s with runs := putRow runKey r s.runs }
  | "ingest_outcomes" =>
    (placeRow? outcomeNumber outcomeColumns given s.outcomes).map fun l => { s with outcomes := l }
  | "review_items" =>
    (placeRow? reviewNumber reviewColumns given s.review).map fun l => { s with review := l }
  | "roster" =>
    (fullRow? rosterColumns given).map fun r => { s with roster := putRow rosterKey r s.roster }
  | _ => none

end Store

end Scorebook
