import Scorebook.BoxScore.Extras
import Scorebook.PlayerId
import Scorebook.Side
import Scorebook.Stat.Batting
import Scorebook.Stat.Pitching

/-!
# Rows of a box score

A row is the appearance of a player in a game, as a hitter or as a pitcher.  What both kinds of
rows say about the player is an `Appearance`.
-/

namespace Scorebook

structure Appearance where
  /-- The player, once known. -/
  player : Option PlayerId
  name : String
  /-- The code of the team in the season. -/
  team : Option String
  side : Side
  uniform : Option String
  /-- The place in the order of appearance of the side, from one. -/
  sequence : Count
deriving DecidableEq, Repr

structure HitterRow where
  appearance : Appearance
  battingOrder : Option Count
  position : Option String
  isStarter : Bool
  line : BattingLine
  extras : Extras

structure PitcherRow where
  appearance : Appearance
  isStarting : Bool
  line : PitchingLine
  extras : Extras

instance : DecidableEq HitterRow := fun r r' =>
  decidable_of_iff (r.appearance = r'.appearance ∧ r.battingOrder = r'.battingOrder ∧
    r.position = r'.position ∧ r.isStarter = r'.isStarter ∧ r.line = r'.line ∧
    r.extras = r'.extras) (Iff.of_eq (HitterRow.mk.injEq ..).symm)

instance : DecidableEq PitcherRow := fun r r' =>
  decidable_of_iff (r.appearance = r'.appearance ∧ r.isStarting = r'.isStarting ∧
    r.line = r'.line ∧ r.extras = r'.extras) (Iff.of_eq (PitcherRow.mk.injEq ..).symm)

/-! ### As JSON -/

def HitterRow.toJson (r : HitterRow) : Json :=
  let a := r.appearance
  .obj [("player_id", .ofOption PlayerId.toJson a.player), ("player_name", .str a.name),
    ("team_code", .ofText? a.team), ("team_side", .str a.side.name),
    ("uniform_no", .ofText? a.uniform),
    ("batting_order", .ofNat? (r.battingOrder.map UInt32.toNat)),
    ("position", .ofText? r.position), ("is_starter", .bool r.isStarter),
    ("appearance_seq", .ofNat a.sequence.toNat), ("stats", r.line.toJson),
    ("extras", r.extras.toJson)]

def PitcherRow.toJson (r : PitcherRow) : Json :=
  let a := r.appearance
  .obj [("player_id", .ofOption PlayerId.toJson a.player), ("player_name", .str a.name),
    ("team_code", .ofText? a.team), ("team_side", .str a.side.name),
    ("uniform_no", .ofText? a.uniform), ("is_starting", .bool r.isStarting),
    ("appearance_seq", .ofNat a.sequence.toNat), ("stats", r.line.toJson),
    ("extras", r.extras.toJson)]

def HitterRow.ofJson? : Json.Decoder HitterRow := fun v =>
  match Json.record? ["player_id", "player_name", "team_code", "team_side", "uniform_no",
    "batting_order", "position", "is_starter", "appearance_seq", "stats", "extras"] v with
  | some [player, name, team, side, uniform, order, position, starter, sequence, line, extras] => do
    let player ← player.optional PlayerId.ofJson?
    let name ← name.required Json.text?
    let team ← team.optional Json.text?
    let side ← side.required Side.ofJson?
    let uniform ← uniform.optional Json.text?
    let order ← order.optional Json.count?
    let position ← position.optional Json.text?
    let starter ← starter.required Json.bool?
    let sequence ← sequence.required Json.count?
    let line ← line.required BattingLine.ofJson?
    let extras ← extras.required Extras.ofJson?
    some ⟨⟨player, name, team, side, uniform, sequence⟩, order, position, starter, line, extras⟩
  | _ => none

def PitcherRow.ofJson? : Json.Decoder PitcherRow := fun v =>
  match Json.record? ["player_id", "player_name", "team_code", "team_side", "uniform_no",
    "is_starting", "appearance_seq", "stats", "extras"] v with
  | some [player, name, team, side, uniform, starting, sequence, line, extras] => do
    let player ← player.optional PlayerId.ofJson?
    let name ← name.required Json.text?
    let team ← team.optional Json.text?
    let side ← side.required Side.ofJson?
    let uniform ← uniform.optional Json.text?
    let starting ← starting.required Json.bool?
    let sequence ← sequence.required Json.count?
    let line ← line.required PitchingLine.ofJson?
    let extras ← extras.required Extras.ofJson?
    some ⟨⟨player, name, team, side, uniform, sequence⟩, starting, line, extras⟩
  | _ => none

end Scorebook
