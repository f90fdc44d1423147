import Scorebook.BoxScore.Row
import Scorebook.Era
import Scorebook.GameId

/-!
# Box scores

The record of one game: its teams with their scores, the rows of hitters and pitchers, what is
known about the event, and notes.
-/

namespace Scorebook

structure EventInfo where
  stadium : Option String
  attendance : Option Count
  startTime : Option String
  endTime : Option String
  /-- The length of the game in minutes. -/
  minutes : Option Count
deriving DecidableEq, Repr

def EventInfo.blank : EventInfo := ⟨none, none, none, none, none⟩

structure TeamLine where
  /-- The name as printed. -/
  name : Option String
  /-- The code of the team in the season of the game. -/
  code : Option String
  /-- The modern code of the franchise. -/
  franchiseCode : Option String
  score : Option Count
  hits : Option Count
  errors : Option Count
  /-- The runs of each half inning; one that was not played has none. -/
  halves : List (Option Count)
deriving DecidableEq, Repr

namespace TeamLine

def blank : TeamLine := ⟨none, none, none, none, none, none, []⟩

def playedHalves (t : TeamLine) : List Count := t.halves.filterMap id

/-- The sum of the played halves, held at the largest count. -/
def total (t : TeamLine) : Count := Count.sum t.playedHalves

end TeamLine

structure Note where
  kind : String
  text : String
deriving DecidableEq, Repr

structure BoxScore where
  gameId : String
  date : Option Date
  era : Era
  info : EventInfo
  teams : PerSide TeamLine
  hitters : PerSide (List HitterRow)
  pitchers : PerSide (List PitcherRow)
  notes : List Note

instance : DecidableEq BoxScore := fun b b' =>
  decidable_of_iff (b.gameId = b'.gameId ∧ b.date = b'.date ∧ b.era = b'.era ∧ b.info = b'.info ∧
    b.teams = b'.teams ∧ b.hitters = b'.hitters ∧ b.pitchers = b'.pitchers ∧ b.notes = b'.notes)
    (Iff.of_eq (BoxScore.mk.injEq ..).symm)

namespace BoxScore

/-- A record with nothing but its identifier, date and era. -/
def blank (gameId : String) (date : Option Date) (era : Era) : BoxScore :=
  ⟨gameId, date, era, .blank, ⟨.blank, .blank⟩, ⟨[], []⟩, ⟨[], []⟩, []⟩

/-- The season, from the date or else from the identifier. -/
def season? (b : BoxScore) : Option Int :=
  match b.date with
  | some d => some d.year
  | none => (GameId.decode b.gameId).toOption.map (·.season)

/-- The names of the rows of a side without a player. -/
def unidentifiedOf {α : Type} (view : α → Appearance) (rows : PerSide (List α)) :
    List (Side × String) :=
  Side.both.flatMap fun side =>
    ((rows.get side).filter fun r => (view r).player.isNone).map fun r => (side, (view r).name)

/-- The names of the rows without a player: hitters first, then pitchers. -/
def unidentified (b : BoxScore) : List (Side × String) :=
  unidentifiedOf HitterRow.appearance b.hitters ++
    unidentifiedOf PitcherRow.appearance b.pitchers

/-- The appearances of all rows with the side they stand on: for each side the hitters, then the
pitchers. -/
def appearances (b : BoxScore) : List (Side × Appearance) :=
  Side.both.flatMap fun side =>
    (b.hitters.get side).map (fun r => (side, r.appearance)) ++
      (b.pitchers.get side).map fun r => (side, r.appearance)

def putHitters (rows : List HitterRow) (as : List Appearance) : List HitterRow :=
  List.zipWith (fun r a => { r with appearance := a }) rows as

def putPitchers (rows : List PitcherRow) (as : List Appearance) : List PitcherRow :=
  List.zipWith (fun r a => { r with appearance := a }) rows as

/-- The record with all its appearances replaced, in the order of `appearances`. -/
def withAppearances (b : BoxScore) (as : List Appearance) : BoxScore :=
  let (awayHitters, as) := as.splitAt b.hitters.away.length
  let (awayPitchers, as) := as.splitAt b.pitchers.away.length
  let (homeHitters, homePitchers) := as.splitAt b.hitters.home.length
  { b with
    hitters := ⟨putHitters b.hitters.away awayHitters, putHitters b.hitters.home homeHitters⟩
    pitchers :=
      ⟨putPitchers b.pitchers.away awayPitchers, putPitchers b.pitchers.home homePitchers⟩ }

end BoxScore

/-! ### As JSON -/

def EventInfo.toJson (i : EventInfo) : Json :=
  .obj [("stadium", .ofText? i.stadium), ("attendance", .ofNat? (i.attendance.map UInt32.toNat)),
    ("start_time", .ofText? i.startTime), ("end_time", .ofText? i.endTime),
    ("duration_minutes", .ofNat? (i.minutes.map UInt32.toNat))]

def EventInfo.ofJson? : Json.Decoder EventInfo := fun v =>
  match Json.record? ["stadium", "attendance", "start_time", "end_time", "duration_minutes"] v with
  | some [stadium, attendance, start, finish, minutes] => do
    let stadium ← stadium.optional Json.text?
    let attendance ← attendance.optional Json.count?
    let start ← start.optional Json.text?
    let finish ← finish.optional Json.text?
    let minutes ← minutes.optional Json.count?
    some ⟨stadium, attendance, start, finish, minutes⟩
  | _ => none

/-- An optional count as a number or `null`. -/
def optionalCount (c : Option Count) : Json := .ofNat? (c.map UInt32.toNat)

def TeamLine.toJson (t : TeamLine) : Json :=
  .obj [("name", .ofText? t.name), ("resolved_code", .ofText? t.code),
    ("franchise_code", .ofText? t.franchiseCode), ("score", optionalCount t.score),
    ("hits", optionalCount t.hits), ("errors", optionalCount t.errors),
    ("line_score", .arr (t.halves.map optionalCount))]

def TeamLine.ofJson? : Json.Decoder TeamLine := fun v =>
  match Json.record?
    ["name", "resolved_code", "franchise_code", "score", "hits", "errors", "line_score"] v with
  | some [name, code, franchise, score, hits, errors, halves] => do
    let name ← name.optional Json.text?
    let code ← code.optional Json.text?
    let franchise ← franchise.optional Json.text?
    let score ← score.optional Json.count?
    let hits ← hits.optional Json.count?
    let errors ← errors.optional Json.count?
    let halves ← halves.required (Json.list? (Json.nullable? Json.count?))
    some ⟨name, code, franchise, score, hits, errors, halves⟩
  | _ => none

def Note.toJson (n : Note) : Json := .obj [("type", .str n.kind), ("text", .str n.text)]

def Note.ofJson? : Json.Decoder Note := fun v =>
  match Json.record? ["type", "text"] v with
  | some [kind, text] => do
    let kind ← kind.required Json.text?
    let text ← text.required Json.text?
    some ⟨kind, text⟩
  | _ => none

namespace BoxScore

def toJson (b : BoxScore) : Json :=
  .obj [("game_id", .str b.gameId), ("game_date", .ofOption Date.toJson b.date),
    ("era", .str b.era.name), ("metadata", b.info.toJson),
    ("teams", b.teams.toJson TeamLine.toJson),
    ("hitters", b.hitters.toJson fun rows => .arr (rows.map HitterRow.toJson)),
    ("pitchers", b.pitchers.toJson fun rows => .arr (rows.map PitcherRow.toJson)),
    ("summary_notes", .arr (b.notes.map Note.toJson))]

def ofJson? : Json.Decoder BoxScore := fun v =>
  match Json.record? ["game_id", "game_date", "era", "metadata", "teams", "hitters", "pitchers",
    "summary_notes"] v with
  | some [gameId, date, era, info, teams, hitters, pitchers, notes] => do
    let gameId ← gameId.required Json.text?
    let date ← date.optional Date.ofJson?
    let era ← era.required Era.ofJson?
    let info ← info.required EventInfo.ofJson?
    let teams ← teams.required (PerSide.ofJson? TeamLine.ofJson?)
    let hitters ← hitters.required (PerSide.ofJson? (Json.list? HitterRow.ofJson?))
    let pitchers ← pitchers.required (PerSide.ofJson? (Json.list? PitcherRow.ofJson?))
    let notes ← notes.required (Json.list? Note.ofJson?)
    some ⟨gameId, date, era, info, teams, hitters, pitchers, notes⟩
  | _ => none

end BoxScore

end Scorebook
