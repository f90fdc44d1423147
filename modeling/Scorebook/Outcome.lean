import Scorebook.Calendar.Encoding
import Scorebook.Count
import Scorebook.Uuid

/-!
# Outcomes

How the games of a run ended: a record for every game and a summary of the run.
-/

namespace Scorebook

inductive GameStatus where
  /-- Valid and kept. -/
  | accepted
  /-- Extracted but not valid; kept aside. -/
  | quarantined
  /-- The page holds no box score. -/
  | noData
  /-- The page could not be fetched in the attempts allowed. -/
  | failedTransient
  /-- Anything else. -/
  | failed
deriving DecidableEq, Repr, Inhabited

namespace GameStatus

def all : List GameStatus := [accepted, quarantined, noData, failedTransient, failed]

def name : GameStatus → String
  | accepted => "accepted"
  | quarantined => "quarantined"
  | noData => "no_data"
  | failedTransient => "failed_transient"
  | failed => "failed"

def ofName? (s : String) : Option GameStatus := all.find? fun g => g.name == s

def ofJson? : Json.Decoder GameStatus := fun v => Json.choiceName? v |>.bind ofName?

theorem ofName?_name (g : GameStatus) : ofName? g.name = some g := by
  cases g <;> decide

theorem mem_all (g : GameStatus) : g ∈ all := by
  cases g <;> decide

end GameStatus

def Uuid.ofJson? : Json.Decoder Uuid
  | .str s => Uuid.read? s
  | _ => none

structure OutcomeRecord where
  run : Uuid
  gameId : String
  status : GameStatus
  attempts : Count
  /-- Errors, warnings or the failure, as the status has it. -/
  messages : List String
  recordedAt : Instant
deriving DecidableEq

structure RunSummary where
  run : Uuid
  started : Instant
  finished : Instant
  total : Count
  /-- The number of games with a status. -/
  withStatus : GameStatus → Count

namespace RunSummary

/-- A run without games, finished as it started. -/
def blank (run : Uuid) (started : Instant) : RunSummary := ⟨run, started, started, 0, fun _ => 0⟩

def count (s : RunSummary) (status : GameStatus) : RunSummary :=
  { s with
    total := s.total + 1
    withStatus := fun g => if g = status then s.withStatus g + 1 else s.withStatus g }

end RunSummary

/-! ### As JSON -/

namespace OutcomeRecord

def toJson (o : OutcomeRecord) : Json :=
  .obj [("run_id", .str o.run.text), ("game_id", .str o.gameId), ("status", .str o.status.name),
    ("attempts", .ofNat o.attempts.toNat), ("messages", .ofTexts o.messages),
    ("recorded_at", o.recordedAt.toJson)]

def ofJson? : Json.Decoder OutcomeRecord := fun v =>
  match Json.record?
    ["run_id", "game_id", "status", "attempts", "messages", "recorded_at"] v with
  | some [run, gameId, status, attempts, messages, recordedAt] => do
    let run ← run.required Uuid.ofJson?
    let gameId ← gameId.required Json.text?
    let status ← status.required GameStatus.ofJson?
    let attempts ← attempts.required Json.count?
    let messages ← messages.required (Json.list? Json.text?)
    let recordedAt ← recordedAt.required Instant.ofJson?
    some ⟨run, gameId, status, attempts, messages, recordedAt⟩
  | _ => none

end OutcomeRecord

namespace RunSummary

def countFields (s : RunSummary) : List (String × Json) :=
  ("total", .ofNat s.total.toNat) ::
    GameStatus.all.map fun g => (g.name, .ofNat (s.withStatus g).toNat)

def toJson (s : RunSummary) : Json :=
  .obj ([("run_id", .str s.run.text), ("started_at", s.started.toJson),
    ("finished_at", s.finished.toJson)] ++ s.countFields)

/-- The summary with the given counts, in the order of `GameStatus.all`. -/
def ofCounts (run : Uuid) (started finished : Instant) (total : Count) (counts : List Count) :
    RunSummary :=
  ⟨run, started, finished, total, fun g => counts[GameStatus.all.idxOf g]?.getD 0⟩

def ofJson? : Json.Decoder RunSummary := fun v =>
  match Json.record? (["run_id", "started_at", "finished_at", "total"] ++
    GameStatus.all.map GameStatus.name) v with
  | some (run :: started :: finished :: total :: counts) => do
    let run ← run.required Uuid.ofJson?
    let started ← started.required Instant.ofJson?
    let finished ← finished.required Instant.ofJson?
    let total ← total.required Json.count?
    let counts ← counts.mapM (·.required Json.count?)
    some (ofCounts run started finished total counts)
  | _ => none

end RunSummary

end Scorebook
