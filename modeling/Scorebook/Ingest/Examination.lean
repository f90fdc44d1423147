import Scorebook.Page.LineupLinks
import Scorebook.Page.Reading
import Scorebook.Roster.Resolution
import Scorebook.Settings.Basic
import Scorebook.Validation

/-!
# Examining a page

From the review page of a game to a verdict: the box score is extracted, its players are sought, and
it is validated, strictly in this order, so that only a resolved box score is validated.  What
stayed open is listed for review.
-/

namespace Scorebook.Ingest

structure Setup where
  settings : Settings
  history : Franchise.History
  /-- The roster; a failure is given by its wording. -/
  roster : RosterSource String

/-- The roster with the aliases of the settings. -/
def Setup.resolver (s : Setup) : Resolver String := ⟨s.roster, s.settings.aliasPairs⟩

/-- What the examination of a page leads to. -/
inductive Verdict where
  /-- The page holds no box score. -/
  | noData
  | failed (error : String)
  /-- A box score to be kept, with what validation found and what is left for review. -/
  | keep (boxScore : BoxScore) (validation : Validation) (review : List ReviewItem)

/-- The name by which a team that was not resolved is known: as printed, or else its segment. -/
def teamToken (g : GameId) (b : BoxScore) (side : Side) : String :=
  (b.teams.get side).name.getD (g.segment side)

/-- The review items of the sides whose team was not resolved. -/
def unresolvedTeams (g : GameId) (b : BoxScore) : List ReviewItem :=
  (Side.both.filter fun side => (b.teams.get side).code.isNone).map fun side =>
    ⟨b.gameId, side, teamToken g b side, none, some g.season,
      .unresolvedTeam (teamToken g b side)⟩

/-- The verdict on a box score whose players have been sought. -/
def verdictOn (s : Setup) (g : GameId) (b : BoxScore) (found : Resolver.Pass String BoxScore) :
    Verdict :=
  match found.failure with
  | some e => .failed ("roster lookup failed: " ++ e)
  | none =>
    .keep found.rows (.ofBoxScore s.history.canonicalCodes found.rows)
      (unresolvedTeams g b ++ found.items)

/-- Seeks the players of a box score and validates it. -/
def judge (s : Setup) (g : GameId) (lineup : Lineup) (b : BoxScore) : Verdict :=
  verdictOn s g b (s.resolver.resolveBoxScore lineup b)

def examinePage (s : Setup) (g : GameId) (lineup : Lineup) (page : Page) : Verdict :=
  match Page.extract s.history page g.text (some g.date) with
  | .ok b => judge s g lineup b
  | .error .noLayout => .noData
  | .error e => .failed e.message

def examine (s : Setup) (g : GameId) (lineup : Lineup) (markup : String) : Verdict :=
  examinePage s g lineup (Page.ofMarkup markup)

end Scorebook.Ingest
