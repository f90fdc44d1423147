import Scorebook.PlayerId

/-!
# Rosters

A roster says which player had which name for a team in a season.  It is asked by name, team and
season, and answers with candidates.
-/

namespace Scorebook

/-- One player on the roster of a team for a season. -/
structure RosterEntry where
  player : PlayerId
  name : String
  team : String
  season : Int
  uniform : Option String
deriving DecidableEq, Repr

structure RosterQuery where
  name : String
  team : String
  season : Int
deriving DecidableEq, Repr

structure Candidate where
  player : PlayerId
  uniform : Option String
deriving DecidableEq, Repr

/-! ### As JSON -/

def RosterEntry.toJson (e : RosterEntry) : Json :=
  .obj [("player_id", e.player.toJson), ("name", .str e.name), ("team_code", .str e.team),
    ("season_year", .ofInt e.season), ("uniform_no", .ofText? e.uniform)]

def RosterEntry.ofJson? : Json.Decoder RosterEntry := fun v =>
  match Json.record? ["player_id", "name", "team_code", "season_year", "uniform_no"] v with
  | some [player, name, team, season, uniform] => do
    let player ← player.required PlayerId.ofJson?
    let name ← name.required Json.text?
    let team ← team.required Json.text?
    let season ← season.required Json.season?
    let uniform ← uniform.optional Json.text?
    some ⟨player, name, team, season, uniform⟩
  | _ => none

def RosterQuery.toJson (q : RosterQuery) : Json :=
  .obj [("name", .str q.name), ("team_code", .str q.team), ("season_year", .ofInt q.season)]

def RosterQuery.ofJson? : Json.Decoder RosterQuery := fun v =>
  match Json.record? ["name", "team_code", "season_year"] v with
  | some [name, team, season] => do
    let name ← name.required Json.text?
    let team ← team.required Json.text?
    let season ← season.required Json.season?
    some ⟨name, team, season⟩
  | _ => none

def Candidate.toJson (c : Candidate) : Json :=
  .obj [("player_id", c.player.toJson), ("uniform_no", .ofText? c.uniform)]

def Candidate.ofJson? : Json.Decoder Candidate := fun v =>
  match Json.record? ["player_id", "uniform_no"] v with
  | some [player, uniform] => do
    let player ← player.required PlayerId.ofJson?
    let uniform ← uniform.optional Json.text?
    some ⟨player, uniform⟩
  | _ => none

end Scorebook
