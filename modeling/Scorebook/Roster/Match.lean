import Scorebook.Roster.Basic

/-!
# Deciding among candidates

One candidate is taken, several are only told apart by the uniform number.  A player that is listed
more than once counts once, with the uniform number listed first.
-/

namespace Scorebook

inductive PlayerMatch where
  | unique (player : PlayerId)
  /-- The players in ascending order of their numbers. -/
  | ambiguous (players : List PlayerId)
  | missing
deriving DecidableEq, Repr

namespace PlayerMatch
open Text

def player? : PlayerMatch → Option PlayerId
  | unique p => some p
  | _ => none

/-- The first candidate of every player, after those of the players already `seen`. -/
def distinctAfter (seen : List PlayerId) : List Candidate → List Candidate
  | [] => []
  | c :: cs =>
    if seen.contains c.player then distinctAfter seen cs
    else c :: distinctAfter (c.player :: seen) cs

def distinct (candidates : List Candidate) : List Candidate := distinctAfter [] candidates

/-- A uniform number that can tell players apart: trimmed, and not blank. -/
def tellingUniform? (uniform : Option String) : Option String :=
  (uniform.map trimmed).filter fun u => !u.isEmpty

/-- The candidates with a uniform number, blanks around it aside. -/
def wearing (uniform : String) (candidates : List Candidate) : List Candidate :=
  candidates.filter fun c => c.uniform.map trimmed == some uniform

/-- Decides among candidates, with the uniform number of the player sought if it is known. -/
def ofCandidates (candidates : List Candidate) (uniform : Option String) : PlayerMatch :=
  match distinct candidates with
  | [] => missing
  | [only] => unique only.player
  | several =>
    let worn := match tellingUniform? uniform with
      | some u => wearing u several
      | none => []
    match worn with
    | [one] => unique one.player
    | _ => ambiguous (several.foldl (fun done c => c.player.put done) [])

end PlayerMatch

end Scorebook
