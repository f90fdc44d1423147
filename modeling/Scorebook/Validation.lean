import Scorebook.BoxScore.Basic

/-!
# Validation

Checks of a box score before it is accepted.  Errors keep it from being accepted; warnings only
accompany it.  The warnings say that runs are not conserved: the halves of a team, or the runs of
its hitters, do not add up to its score.  Every check runs whatever the others found.
-/

namespace Scorebook
open Text

structure Validation where
  isValid : Bool
  errors : List String
  warnings : List String
deriving DecidableEq, Repr

namespace Validation

def identityErrors (b : BoxScore) : List String :=
  (if isBlankText b.gameId then ["Missing game_id"] else []) ++
    (if b.date.isNone then ["Missing game_date"] else [])

def teamErrors (codes : Franchise.CodeSet) (side : Side) (t : TeamLine) : List String :=
  match t.code with
  | none => ["Missing " ++ side.name ++ " team code"]
  | some code =>
    match t.franchiseCode with
    | none => ["Unresolved franchise for " ++ side.name ++ " team code '" ++ code ++ "'"]
    | some franchise =>
      if codes.contains franchise then []
      else
        ["Invalid " ++ side.name ++ " team code: '" ++ franchise ++ "'. Must be one of [" ++
          ", ".intercalate codes.members ++ "]"]

/-- Errors of a side without hitters or without pitchers. -/
def lineupErrors (b : BoxScore) (side : Side) : List String :=
  (if (b.hitters.get side).isEmpty then ["No hitter rows for " ++ side.name] else []) ++
    (if (b.pitchers.get side).isEmpty then ["No pitcher rows for " ++ side.name] else [])

/-- The warning that the halves of a side do not add up to its score. -/
def lineScoreWarnings (side : Side) (t : TeamLine) : List String :=
  match t.score with
  | none => []
  | some score =>
    if t.halves.isEmpty ∨ t.total = score then []
    else
      [side.name ++ " line score (" ++ Count.text t.total ++ ") != total score (" ++
        Count.text score ++ ")"]

def hitterRuns (rows : List HitterRow) : List Count := rows.filterMap fun r => r.line.counts .runs

/-- The warning that the hitters' runs of a side do not add up to its score.  When no row carries
runs the column was missing, and there is nothing to check. -/
def hitterRunsWarnings (side : Side) (t : TeamLine) (rows : List HitterRow) : List String :=
  match t.score with
  | none => []
  | some score =>
    let runs := hitterRuns rows
    if runs.isEmpty ∨ Count.sum runs = score then []
    else
      [side.name ++ " hitter runs (" ++ Count.text (Count.sum runs) ++ ") != team score (" ++
        Count.text score ++ ")"]

/-- All errors of a box score, for a set of canonical codes. -/
def allErrors (codes : Franchise.CodeSet) (b : BoxScore) : List String :=
  identityErrors b ++ Side.both.flatMap (fun side => teamErrors codes side (b.teams.get side)) ++
    Side.both.flatMap (lineupErrors b)

def allWarnings (b : BoxScore) : List String :=
  Side.both.flatMap fun side =>
    lineScoreWarnings side (b.teams.get side) ++
      hitterRunsWarnings side (b.teams.get side) (b.hitters.get side)

/-- Checks a box score against the set of canonical codes. -/
def ofBoxScore (codes : Franchise.CodeSet) (b : BoxScore) : Validation :=
  let errors := allErrors codes b
  ⟨errors.isEmpty, errors, allWarnings b⟩

def toJson (v : Validation) : Json :=
  .obj [("is_valid", .bool v.isValid), ("errors", .ofTexts v.errors),
    ("warnings", .ofTexts v.warnings)]

def ofJson? : Json.Decoder Validation := fun v =>
  match Json.record? ["is_valid", "errors", "warnings"] v with
  | some [isValid, errors, warnings] => do
    let isValid ← isValid.required Json.bool?
    let errors ← errors.required (Json.list? Json.text?)
    let warnings ← warnings.required (Json.list? Json.text?)
    some ⟨isValid, errors, warnings⟩
  | _ => none

end Validation

end Scorebook
