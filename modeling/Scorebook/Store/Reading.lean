import Scorebook.Json.Reading
import Scorebook.Store.Basic
import Scorebook.Text.Quoted

/-!
# Reading from the store

A read takes the cells of the rows it needs first, and turns them into values after that: a cell of
the wrong type fails before any text that does not read, whichever row it stands in.  Of several
texts that do not read the first in order of rows, and within a row of columns, gives the error.
-/

namespace Scorebook

/-- Why a read from the store failed. -/
inductive StoreError where
  /-- A cell of the wrong type, or a row that does not fit. -/
  | database
  /-- A structured value that does not read. -/
  | json
  /-- An identifier that does not read. -/
  | uuid
  /-- A timestamp that does not read. -/
  | timestamp
  /-- A status that there is none of. -/
  | unknownStatus (text : String)
deriving DecidableEq, Repr

def StoreError.message : StoreError → String
  | database => "database error"
  | json => "json error"
  | uuid => "uuid parse error"
  | timestamp => "date/time parse error"
  | unknownStatus text => "unknown status value: " ++ Text.quoted text

namespace Store
open Text

/-! ### Cells -/

def textIn (r : Row) (name : String) : Except StoreError String :=
  match r.cell name with
  | .text s => .ok s
  | _ => .error .database

/-- The text of a cell that may be null. -/
def optionalTextIn (r : Row) (name : String) : Except StoreError (Option String) :=
  match r.cell name with
  | .null => .ok none
  | .text s => .ok (some s)
  | _ => .error .database

def countIn (r : Row) (name : String) : Except StoreError Count :=
  match r.cell name with
  | .int (.ofNat n) => if n ≤ maxU32 then .ok (UInt32.ofNat n) else .error .database
  | _ => .error .database

def seasonIn (r : Row) (name : String) : Except StoreError Int :=
  match r.cell name with
  | .int i => if -2147483648 ≤ i ∧ i ≤ 2147483647 then .ok i else .error .database
  | _ => .error .database

/-! ### Texts -/

def decode {α : Type} (decoder : Json.Decoder α) (text : String) : Except StoreError α :=
  match (Json.read? text).bind decoder with
  | some a => .ok a
  | none => .error .json

def decodeMessages (text : String) : Except StoreError (List String) :=
  decode (Json.list? Json.text?) text

def decodeInstant (text : String) : Except StoreError Instant :=
  match Instant.readStrict text.toList with
  | .ok t => .ok t
  | .error _ => .error .timestamp

/-- Reads the identifier of a run from text. -/
def decodeRun (text : String) : Except StoreError Uuid :=
  match Uuid.read? text with
  | some u => .ok u
  | none => .error .uuid

def decodeStatus (text : String) : Except StoreError GameStatus :=
  match GameStatus.ofName? text with
  | some g => .ok g
  | none => .error (.unknownStatus text)

/-! ### Games -/

structure StoredGame where
  boxScore : BoxScore
  validation : Validation
  storedAt : Instant

/-- Reads the texts of a game; it is valid when there are no errors. -/
def storedGame (boxScore : String) (errors : Option String) (warnings storedAt : String) :
    Except StoreError StoredGame := do
  let b ← decode BoxScore.ofJson? boxScore
  let errors ← match errors with
    | some text => decodeMessages text
    | none => .ok []
  let warnings ← decodeMessages warnings
  let at_ ← decodeInstant storedAt
  .ok ⟨b, ⟨errors.isEmpty, errors, warnings⟩, at_⟩

def readGameRow (r : Row) : Except StoreError StoredGame := do
  let boxScore ← textIn r "box_score_json"
  let warnings ← textIn r "warnings_json"
  let at_ ← textIn r "saved_at"
  storedGame boxScore none warnings at_

def readQuarantineRow (r : Row) : Except StoreError StoredGame := do
  let boxScore ← textIn r "box_score_json"
  let errors ← textIn r "errors_json"
  let warnings ← textIn r "warnings_json"
  let at_ ← textIn r "quarantined_at"
  storedGame boxScore (some errors) warnings at_

def readRow? {α : Type} (read : Row → Except StoreError α) :
    Option Row → Except StoreError (Option α)
  | none => .ok none
  | some r => (read r).map some

def game (s : Store) (gameId : String) : Except StoreError (Option StoredGame) :=
  readRow? readGameRow (rowsWith "game_id" gameId s.games).head?

def gameSetAside (s : Store) (gameId : String) : Except StoreError (Option StoredGame) :=
  readRow? readQuarantineRow (rowsWith "game_id" gameId s.quarantine).head?

/-! ### Outcomes, review items and runs -/

structure OutcomeCells where
  run : String
  gameId : String
  status : String
  attempts : Count
  messages : String
  recordedAt : String

def outcomeCells (r : Row) : Except StoreError OutcomeCells := do
  let run ← textIn r "run_id"
  let gameId ← textIn r "game_id"
  let status ← textIn r "status"
  let attempts ← countIn r "attempts"
  let messages ← textIn r "messages_json"
  let recordedAt ← textIn r "recorded_at"
  .ok ⟨run, gameId, status, attempts, messages, recordedAt⟩

def OutcomeCells.read (c : OutcomeCells) : Except StoreError OutcomeRecord := do
  let run ← decodeRun c.run
  let status ← decodeStatus c.status
  let messages ← decodeMessages c.messages
  let recordedAt ← decodeInstant c.recordedAt
  .ok ⟨run, c.gameId, status, c.attempts, messages, recordedAt⟩

/-- The outcomes of a run, in the order in which they were recorded. -/
def outcomesOf (s : Store) (run : Uuid) : Except StoreError (List OutcomeRecord) := do
  let cells ← (rowsWith "run_id" run.text s.outcomes.toList).mapM outcomeCells
  cells.mapM OutcomeCells.read

/-- The review items of a game, in the order in which they were flagged. -/
def reviewItemsOf (s : Store) (gameId : String) : Except StoreError (List ReviewItem) := do
  let texts ← (rowsWith "game_id" gameId s.review.toList).mapM (textIn · "item_json")
  texts.mapM (decode ReviewItem.ofJson?)

def readRunRow (r : Row) : Except StoreError RunSummary := do
  let run ← textIn r "run_id"
  let started ← textIn r "started_at"
  let finished ← textIn r "finished_at"
  let total ← countIn r "total"
  let counts ← GameStatus.all.mapM fun g => countIn r g.name
  let run ← decodeRun run
  let started ← decodeInstant started
  let finished ← decodeInstant finished
  .ok (.ofCounts run started finished total counts)

def runOf (s : Store) (run : Uuid) : Except StoreError (Option RunSummary) :=
  readRow? readRunRow (rowsWith "run_id" run.text s.runs).head?

/-! ### Rosters -/

/-- Whether the row of a roster answers a question; blanks around the name do not count. -/
def rosterRowAnswers (q : RosterQuery) (r : Row) : Bool :=
  r.cell "name" == .text (trimmed q.name) && r.cell "team_code" == .text q.team &&
    r.cell "season_year" == .int q.season

def readCandidate (r : Row) : Except StoreError Candidate := do
  let player ← countIn r "player_id"
  let uniform ← optionalTextIn r "uniform_no"
  .ok ⟨⟨player⟩, uniform⟩

/-- The players of a roster for a question, by ascending number. -/
def lookup (s : Store) : RosterQuery → Except StoreError (List Candidate) := fun q => do
  let found ← (s.roster.filter (rosterRowAnswers q)).mapM readCandidate
  .ok (found.mergeSort fun c d => c.player.number ≤ d.player.number)

def readRosterRow (r : Row) : Except StoreError RosterEntry := do
  let player ← countIn r "player_id"
  let name ← textIn r "name"
  let team ← textIn r "team_code"
  let season ← seasonIn r "season_year"
  let uniform ← optionalTextIn r "uniform_no"
  .ok ⟨⟨player⟩, name, team, season, uniform⟩

/-- The order of roster entries: by player, team and season. -/
def entryBefore (a b : RosterEntry) : Bool :=
  if a.player ≠ b.player then a.player.number < b.player.number
  else if a.team ≠ b.team then a.team < b.team
  else a.season ≤ b.season

def rosterEntries (s : Store) : Except StoreError (List RosterEntry) :=
  (s.roster.mapM readRosterRow).map fun entries => entries.mergeSort entryBefore

end Store

end Scorebook
