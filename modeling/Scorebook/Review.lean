import Scorebook.PlayerId
import Scorebook.Side

/-!
# Review items

What was left open rather than guessed, for a person to look at.
-/

namespace Scorebook

/-- Why an item needs review. -/
inductive ReviewKind where
  /-- A team name or segment that stands for no franchise of the season. -/
  | unresolvedTeam (token : String)
  /-- Several players of the roster have the name. -/
  | ambiguousPlayer (candidates : List PlayerId)
  /-- No player of the roster has the name. -/
  | unknownPlayer
deriving DecidableEq, Repr

/-- Something left open. -/
structure ReviewItem where
  gameId : String
  side : Side
  /-- The name of the player or of the team, as printed. -/
  subject : String
  team : Option String
  season : Option Int
  kind : ReviewKind
deriving DecidableEq, Repr

namespace ReviewKind

def name : ReviewKind → String
  | unresolvedTeam _ => "unresolved_team"
  | ambiguousPlayer _ => "ambiguous_player"
  | unknownPlayer => "unknown_player"

def fields : ReviewKind → List (String × Json)
  | unresolvedTeam token => [("token", .str token)]
  | ambiguousPlayer ids => [("candidates", .arr (ids.map PlayerId.toJson))]
  | unknownPlayer => []

/-- The name of a kind that is given by name or by number. -/
def nameOf? : Json → Option String
  | .str s => some s
  | .num (.int 0) => some "unresolved_team"
  | .num (.int 1) => some "ambiguous_player"
  | .num (.int 2) => some "unknown_player"
  | _ => none

def ofFields? (fields : List (String × Json)) : Option ReviewKind := do
  match Json.valuesOf "kind" fields with
  | [kind] =>
    let name ← nameOf? kind
    if name = "unresolved_team" then
      match Json.valuesOf "token" fields with
      | [v] => (Json.text? v).map unresolvedTeam
      | _ => none
    else if name = "ambiguous_player" then
      match Json.valuesOf "candidates" fields with
      | [v] => (Json.list? PlayerId.ofJson? v).map ambiguousPlayer
      | _ => none
    else if name = "unknown_player" then some unknownPlayer
    else none
  | _ => none

end ReviewKind

namespace ReviewItem

/-- The item as an object, the fields of its kind among the others. -/
def toJson (r : ReviewItem) : Json :=
  .obj ([("game_id", .str r.gameId), ("side", .str r.side.name), ("subject", .str r.subject),
    ("team_code", .ofText? r.team), ("season", .ofOption .ofInt r.season),
    ("kind", .str r.kind.name)] ++ r.kind.fields)

def ofJson? : Json.Decoder ReviewItem
  | .obj fields =>
    match Json.record? ["game_id", "side", "subject", "team_code", "season"] (.obj fields) with
    | some [gameId, side, subject, team, season] => do
      let gameId ← gameId.required Json.text?
      let side ← side.required Side.ofJson?
      let subject ← subject.required Json.text?
      let team ← team.optional Json.text?
      let season ← season.optional Json.season?
      let kind ← ReviewKind.ofFields? fields
      some ⟨gameId, side, subject, team, season, kind⟩
    | _ => none
  | _ => none

end ReviewItem

end Scorebook
