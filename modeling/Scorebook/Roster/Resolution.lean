import Scorebook.BoxScore.Basic
import Scorebook.Review
import Scorebook.Roster.Lineup
import Scorebook.Roster.Match

/-!
# Finding the players of a box score

Old pages print names only.  For a row without a player the lineup of the game is asked first, then
the roster of the team for the season; a name that is not decided becomes a review item.  A roster
may fail, and the first failure ends the work; rows filled before it stay filled.
-/

namespace Scorebook

/-- A roster that may fail: the candidates for a question. -/
abbrev RosterSource (ε : Type) := RosterQuery → Except ε (List Candidate)

/-- A roster and the former names of players, with the names under which it lists them. -/
structure Resolver (ε : Type) where
  roster : RosterSource ε
  /-- Of several pairs for a name the last one counts. -/
  aliases : List (String × String)

namespace Resolver
open Text

variable {ε : Type}

def rosterName (r : Resolver ε) (name : String) : String :=
  ((r.aliases.reverse.lookup (trimmed name)).getD (trimmed name))

def question (r : Resolver ε) (name team : String) (season : Int) : RosterQuery :=
  ⟨r.rosterName name, team, season⟩

/-- Decides on a player by name, team and season. -/
def findPlayer (r : Resolver ε) (name team : String) (season : Int) (uniform : Option String) :
    Except ε PlayerMatch :=
  (r.roster (r.question name team season)).map fun found =>
    PlayerMatch.ofCandidates found uniform

/-- Whether a player is sought for a row: it has none, its name is not blank, and its team is
known. -/
def isPending (a : Appearance) : Bool :=
  a.player.isNone && !isBlankText a.name && a.team.isSome

/-- The row with a player, and with a uniform number if it had none. -/
def fill (a : Appearance) (player : PlayerId) (uniform : Option String) : Appearance :=
  { a with player := some player, uniform := a.uniform.or uniform }

/-- The player whom the lineup gives for a row, with the uniform number listed there. -/
def onLineup? (lineup : Lineup) (a : Appearance) : Option (PlayerId × Option String) :=
  let candidates := lineup.candidates a.name
  (PlayerMatch.ofCandidates candidates a.uniform).player?.map fun p =>
    (p, (candidates.find? fun c => c.player == p).bind (·.uniform))

/-- The review item of a row that was not decided. -/
def openItem (gameId : String) (season : Int) (side : Side) (a : Appearance) (kind : ReviewKind) :
    ReviewItem :=
  ⟨gameId, side, trimmed a.name, a.team, some season, kind⟩

/-- What a decision makes of a row: it is filled, or a review item says why not. -/
def decided (gameId : String) (season : Int) (side : Side) (a : Appearance) :
    PlayerMatch → Appearance × List ReviewItem
  | .unique player => (fill a player none, [])
  | .ambiguous players => (a, [openItem gameId season side a (.ambiguousPlayer players)])
  | .missing => (a, [openItem gameId season side a .unknownPlayer])

/-- Works on one pending row, by the lineup or else by the roster. -/
def resolveRow (r : Resolver ε) (lineup : Lineup) (gameId : String) (season : Int) (side : Side)
    (a : Appearance) : Except ε (Appearance × List ReviewItem) :=
  match onLineup? lineup a with
  | some (player, uniform) => .ok (fill a player uniform, [])
  | none =>
    (r.findPlayer a.name (a.team.getD "") season a.uniform).map (decided gameId season side a)

/-- What a pass over rows leaves: the rows, the items, and the failure that ended it. -/
structure Pass (ε α : Type) where
  rows : α
  items : List ReviewItem
  failure : Option ε

/-- Works on appearances in order up to the first failure. -/
def resolveRows (work : Side → Appearance → Except ε (Appearance × List ReviewItem)) :
    List (Side × Appearance) → Pass ε (List Appearance)
  | [] => ⟨[], [], none⟩
  | (side, a) :: rest =>
    if isPending a then
      match work side a with
      | .error e => ⟨a :: rest.map Prod.snd, [], some e⟩
      | .ok (a', items) =>
        let p := resolveRows work rest
        ⟨a' :: p.rows, items ++ p.items, p.failure⟩
    else
      let p := resolveRows work rest
      ⟨a :: p.rows, p.items, p.failure⟩

/-- Fills the rows of a box score.  Without a season nothing is done. -/
def resolveBoxScore (r : Resolver ε) (lineup : Lineup) (b : BoxScore) : Pass ε BoxScore :=
  match b.season? with
  | none => ⟨b, [], none⟩
  | some season =>
    let p := resolveRows (r.resolveRow lineup b.gameId season) b.appearances
    ⟨b.withAppearances p.rows, p.items, p.failure⟩

end Resolver

end Scorebook
