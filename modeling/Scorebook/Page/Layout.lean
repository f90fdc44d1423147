import Scorebook.Page.Rows
import Scorebook.Page.Scoreboard

/-!
# Page layouts

A few structural facts about a page, its signature, decide its era, and the era decides how the
lines and rows are read from its tables.
-/

namespace Scorebook.Page
open Text

/-- Why no box score was extracted. -/
inductive ExtractionError where
  /-- The page has none of the known layouts; usually the game was not played. -/
  | noLayout
  | rowMismatch (side : Side) (names stats : Nat)
  | missingTable (what : String)
  | badGameId (error : GameIdError)
deriving DecidableEq, Repr

def ExtractionError.message : ExtractionError → String
  | .noLayout => "no known page layout found"
  | .rowMismatch side names stats =>
    side.name ++ " hitter tables disagree: " ++ decimal names ++ " name rows, " ++
      decimal stats ++ " stat rows"
  | .missingTable what => "required table missing: " ++ what
  | .badGameId e => e.message

/-! ### Tables with known ids -/

inductive TableRole where
  /-- Order, position and name of each hitter. -/
  | hitterNames
  /-- The statistics of each hitter, row by row. -/
  | hitterStats
  | pitchers
deriving DecidableEq, Repr

def TableRole.id (role : TableRole) (side : Side) : String :=
  let sideName := match side with
    | .away => "Away"
    | .home => "Home"
  let kind := match role with
    | .hitterNames => "Hitter1"
    | .hitterStats => "Hitter3"
    | .pitchers => "Pitcher"
  "tbl" ++ sideName ++ kind

def knownIds : List String :=
  [TableRole.hitterNames, .hitterStats, .pitchers].flatMap fun role => Side.both.map role.id

def hasKnownId (t : Table) : Bool := t.id.any knownIds.contains

def roleTable? (tables : List Table) (role : TableRole) (side : Side) : Option Table :=
  tableById? tables (role.id side)

def countRole (tables : List Table) (role : TableRole) : Nat :=
  Side.both.countP fun side => (roleTable? tables role side).isSome

/-! ### Signatures -/

structure Signature where
  /-- The sides with a table of hitters' names, of hitters' statistics, and of pitchers. -/
  nameTables : Nat
  statTables : Nat
  pitcherTables : Nat
  wholeScoreboard : Bool
  partedScoreboard : Bool
  /-- Tables without a known id whose headers are those of hitters or of pitchers. -/
  otherHitterTables : Nat
  otherPitcherTables : Nat
deriving DecidableEq, Repr

namespace Signature

def ofTables (tables : List Table) : Signature :=
  let others := tables.filter fun t => !hasKnownId t
  { nameTables := countRole tables .hitterNames
    statTables := countRole tables .hitterStats
    pitcherTables := countRole tables .pitchers
    wholeScoreboard := hasWhole tables
    partedScoreboard := hasParts tables
    otherHitterTables := others.countP fun t => areHitterHeaders t.headers
    otherPitcherTables := others.countP fun t => arePitcherHeaders t.headers }

def hasScoreboard (s : Signature) : Bool := s.wholeScoreboard || s.partedScoreboard

/-- The era of a signature, if it is that of a known layout. -/
def era? (s : Signature) : Option Era :=
  if s.nameTables = 2 then
    if s.hasScoreboard && s.pitcherTables == 2 then some .modern
    else if !s.hasScoreboard && s.statTables == 2 then some .legacy
    else none
  else if s.nameTables = 0 ∧ s.statTables = 0 ∧ s.pitcherTables = 0 ∧ s.hasScoreboard = true ∧
      s.otherHitterTables ≥ 2 ∧ s.otherPitcherTables ≥ 2 then some .transitional
  else none

end Signature

/-! ### Reading by era -/

structure Lines where
  teams : PerSide TeamLine
  hitters : PerSide (List HitterRow)
  pitchers : PerSide (List PitcherRow)

/-- A value for each side, the first error ending the work. -/
def forSides {α : Type} (f : Side → Except ExtractionError α) :
    Except ExtractionError (PerSide α) := do
  let away ← f .away
  let home ← f .home
  .ok ⟨away, home⟩

/-- The table of a role, or an error. -/
def requireRole (tables : List Table) (role : TableRole) (side : Side) :
    Except ExtractionError Table :=
  match roleTable? tables role side with
  | some t => .ok t
  | none => .error (.missingTable (role.id side))

/-- The hitters of a table of names and one of statistics, which must have as many rows. -/
def zippedHitters (side : Side) (names stats : Table) : Except ExtractionError (List HitterRow) :=
  if names.rows.length = stats.rows.length then .ok (hittersOfBoth side names stats)
  else .error (.rowMismatch side names.rows.length stats.rows.length)

/-- The pitchers of the tables with ids; a missing table has none. -/
def pitchersById (tables : List Table) : PerSide (List PitcherRow) :=
  .ofFn fun side => ((roleTable? tables .pitchers side).map (pitchers side)).getD []

def blankTeams : PerSide TeamLine := ⟨.blank, .blank⟩

/-- Reads a modern page.  In some seasons names and statistics stand in one table. -/
def readModern (tables : List Table) : Except ExtractionError Lines := do
  let hitters ← forSides fun side => do
    let names ← requireRole tables .hitterNames side
    match roleTable? tables .hitterStats side with
    | some stats => zippedHitters side names stats
    | none => .ok (hitters side names)
  .ok ⟨(scoreboard? tables).getD blankTeams, hitters, pitchersById tables⟩

/-- Reads a legacy page.  It names no teams. -/
def readLegacy (tables : List Table) : Except ExtractionError Lines := do
  let hitters ← forSides fun side => do
    let names ← requireRole tables .hitterNames side
    let stats ← requireRole tables .hitterStats side
    zippedHitters side names stats
  .ok ⟨blankTeams, hitters, pitchersById tables⟩

/-- The tables without a known id whose headers pass a test. -/
def tablesByHeaders (tables : List Table) (test : List String → Bool) : List Table :=
  tables.filter fun t => !hasKnownId t && test t.headers

/-- The table of a side among tables in document order, away first. -/
def sideTable (tables : List Table) (side : Side) (what : String) :
    Except ExtractionError Table :=
  let i := match side with
    | .away => 0
    | .home => 1
  match tables[i]? with
  | some t => .ok t
  | none => .error (.missingTable (side.name ++ " " ++ what ++ " table"))

def readTransitional (tables : List Table) : Except ExtractionError Lines := do
  match scoreboard? tables with
  | none => .error (.missingTable "scoreboard")
  | some teams =>
    let rows ← forSides fun side => do
      let h ← sideTable (tablesByHeaders tables areHitterHeaders) side "hitter"
      let p ← sideTable (tablesByHeaders tables arePitcherHeaders) side "pitcher"
      .ok (hitters side h, pitchers side p)
    .ok ⟨teams, .ofFn fun side => (rows.get side).1, .ofFn fun side => (rows.get side).2⟩

def readLines (era : Era) (tables : List Table) : Except ExtractionError Lines :=
  match era with
  | .modern => readModern tables
  | .legacy => readLegacy tables
  | .transitional => readTransitional tables

end Scorebook.Page
