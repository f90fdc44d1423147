import Scorebook.Outcome

/-!
# Results of games

How one game of a run ended, with what belongs to each way of ending.
-/

namespace Scorebook.Ingest

inductive GameOutcome where
  | accepted (warnings : List String)
  | quarantined (errors : List String)
  /-- The page holds no box score. -/
  | noData
  /-- No attempt got a page. -/
  | failedTransient (attempts : Nat) (error : String)
  | failed (error : String)
deriving DecidableEq, Repr

namespace GameOutcome

def status : GameOutcome → GameStatus
  | accepted _ => .accepted
  | quarantined _ => .quarantined
  | noData => .noData
  | failedTransient .. => .failedTransient
  | failed _ => .failed

def messages : GameOutcome → List String
  | accepted warnings => warnings
  | quarantined errors => errors
  | noData => []
  | failedTransient _ error => [error]
  | failed error => [error]

end GameOutcome

structure GameResult where
  gameId : String
  /-- The attempts to fetch its pages; none when the identifier was refused. -/
  attempts : Nat
  outcome : GameOutcome
deriving DecidableEq, Repr

def GameResult.record (r : GameResult) (run : Uuid) (now : Instant) : OutcomeRecord :=
  ⟨run, r.gameId, r.outcome.status, Count.saturate r.attempts, r.outcome.messages, now⟩

structure Report where
  summary : RunSummary
  /-- The results by game identifier. -/
  results : List GameResult

namespace Report

def ofResults (summary : RunSummary) (results : List GameResult) : Report :=
  ⟨summary, results.mergeSort fun a b => a.gameId ≤ b.gameId⟩

/-- The result of a game, the first if there are several. -/
def get? (r : Report) (gameId : String) : Option GameResult :=
  r.results.find? fun g => g.gameId == gameId

end Report

end Scorebook.Ingest
