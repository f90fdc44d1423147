import Scorebook.Outs
import Scorebook.Json.Decoding

/-!
# Pitching statistics

A pitching line holds the outs recorded, counts, rates and the decision of the pitcher.
-/

namespace Scorebook

inductive PitchingCount where
  | battersFaced
  | pitches
  | atBatsAgainst
  | hitsAllowed
  | runsAllowed
  | earnedRuns
  | homeRunsAllowed
  | walksAllowed
  | strikeouts
  | hitBatters
  | wildPitches
  | balks
  | wins
  | losses
  | saves
  | holds
deriving DecidableEq, Repr

inductive PitchingRate where
  | earnedRunAverage
  | walksAndHitsPerInning
  | strikeoutsPerNine
  | walksPerNine
  | strikeoutWalkRatio
deriving DecidableEq, Repr

inductive PitchingStat where
  | innings
  | count (c : PitchingCount)
  | rate (r : PitchingRate)
  | decision
deriving DecidableEq, Repr

/-- The result with which a pitcher is credited. -/
inductive Decision where
  | win
  | loss
  | save
  | hold
deriving DecidableEq, Repr

namespace PitchingCount

def all : List PitchingCount :=
  [battersFaced, pitches, atBatsAgainst, hitsAllowed, runsAllowed, earnedRuns, homeRunsAllowed,
    walksAllowed, strikeouts, hitBatters, wildPitches, balks, wins, losses, saves, holds]

def name : PitchingCount → String
  | battersFaced => "batters_faced"
  | pitches => "pitches"
  | atBatsAgainst => "at_bats_against"
  | hitsAllowed => "hits_allowed"
  | runsAllowed => "runs_allowed"
  | earnedRuns => "earned_runs"
  | homeRunsAllowed => "home_runs_allowed"
  | walksAllowed => "walks_allowed"
  | strikeouts => "strikeouts"
  | hitBatters => "hit_batters"
  | wildPitches => "wild_pitches"
  | balks => "balks"
  | wins => "wins"
  | losses => "losses"
  | saves => "saves"
  | holds => "holds"

theorem mem_all (c : PitchingCount) : c ∈ all := by
  cases c <;> decide

end PitchingCount

namespace PitchingRate

def all : List PitchingRate :=
  [earnedRunAverage, walksAndHitsPerInning, strikeoutsPerNine, walksPerNine, strikeoutWalkRatio]

def name : PitchingRate → String
  | earnedRunAverage => "era"
  | walksAndHitsPerInning => "whip"
  | strikeoutsPerNine => "strikeouts_per_nine"
  | walksPerNine => "walks_per_nine"
  | strikeoutWalkRatio => "strikeout_walk_ratio"

theorem mem_all (r : PitchingRate) : r ∈ all := by
  cases r <;> decide

end PitchingRate

/-- The statistic with a field name; the outs recorded go by `innings`. -/
def PitchingStat.ofName? (s : String) : Option PitchingStat :=
  if s = "innings" then some innings
  else if s = "decision" then some decision
  else
    ((PitchingCount.all.find? fun c => c.name == s).map count).or
      ((PitchingRate.all.find? fun r => r.name == s).map rate)

namespace Decision
open Text

def letter : Decision → String
  | win => "W"
  | loss => "L"
  | save => "S"
  | hold => "H"

def ofLetter? (s : String) : Option Decision :=
  [win, loss, save, hold].find? fun d => d.letter == s

def spellings : Decision → List String
  | win => ["승", "W", "w", "Win", "WIN"]
  | loss => ["패", "L", "l", "Loss", "LOSS"]
  | save => ["세", "세이브", "S", "s", "SV", "Save"]
  | hold => ["홀", "홀드", "H", "h", "HLD", "Hold"]

def read? (s : String) : Option Decision :=
  [win, loss, save, hold].find? fun d => d.spellings.contains (trimmed s)

def ofJson? : Json.Decoder Decision := fun v => Json.choiceName? v |>.bind ofLetter?

end Decision

structure PitchingLine where
  outs : Option Outs
  counts : PitchingCount → Option Count
  rates : PitchingRate → Option Binary64
  decision : Option Decision

namespace PitchingLine

def blank : PitchingLine := ⟨none, fun _ => none, fun _ => none, none⟩

def setCount (l : PitchingLine) (c : PitchingCount) (value : Option Count) : PitchingLine :=
  { l with counts := fun d => if d = c then value else l.counts d }

def setRate (l : PitchingLine) (r : PitchingRate) (value : Option Binary64) : PitchingLine :=
  { l with rates := fun s => if s = r then value else l.rates s }

@[simp] theorem counts_setCount (l : PitchingLine) (c d : PitchingCount) (value : Option Count) :
    (l.setCount c value).counts d = if d = c then value else l.counts d := rfl

@[simp] theorem rates_setRate (l : PitchingLine) (r s : PitchingRate) (value : Option Binary64) :
    (l.setRate r value).rates s = if s = r then value else l.rates s := rfl

/-- Two lines are the same when they have the same values, of which there are finitely many. -/
theorem eq_iff {l l' : PitchingLine} :
    l = l' ↔ l.outs = l'.outs ∧
      PitchingCount.all.map l.counts = PitchingCount.all.map l'.counts ∧
      PitchingRate.all.map l.rates = PitchingRate.all.map l'.rates ∧ l.decision = l'.decision := by
  constructor
  · rintro rfl
    exact ⟨rfl, rfl, rfl, rfl⟩
  · rintro ⟨houts, hcounts, hrates, hdecision⟩
    obtain ⟨outs, counts, rates, decision⟩ := l
    have hc : counts = l'.counts :=
      funext fun c => List.map_inj_left.1 hcounts c (PitchingCount.mem_all c)
    have hr : rates = l'.rates :=
      funext fun r => List.map_inj_left.1 hrates r (PitchingRate.mem_all r)
    obtain rfl : outs = l'.outs := houts
    obtain rfl : decision = l'.decision := hdecision
    rw [hc, hr]

instance : DecidableEq PitchingLine := fun _ _ => decidable_of_iff _ eq_iff.symm

def toJson (l : PitchingLine) : Json :=
  .obj (("outs", Json.ofNat? (l.outs.map fun o => o.count.toNat)) ::
    (PitchingCount.all.map fun c => (c.name, Json.ofNat? ((l.counts c).map UInt32.toNat))) ++
    (PitchingRate.all.map fun r => (r.name, Json.ofOption Json.ofBinary64 (l.rates r))) ++
    [("decision", Json.ofText? (l.decision.map Decision.letter))])

def fieldNames : List String :=
  "outs" :: PitchingCount.all.map PitchingCount.name ++ PitchingRate.all.map PitchingRate.name ++
    ["decision"]

def outs? : Json.Decoder Outs := fun v => (Json.count? v).map Outs.mk

def ofJson? : Json.Decoder PitchingLine := fun v => do
  let given ← Json.record? fieldNames v
  match given with
  | outs :: rest =>
    let outs ← outs.optional outs?
    let counts ← (rest.take PitchingCount.all.length).mapM (·.optional Json.count?)
    let rest := rest.drop PitchingCount.all.length
    let rates ← (rest.take PitchingRate.all.length).mapM (·.optional Json.binary64?)
    match rest.drop PitchingRate.all.length with
    | [decision] =>
      let decision ← decision.optional Decision.ofJson?
      some ⟨outs, fun c => (counts[PitchingCount.all.idxOf c]?).join,
        fun r => (rates[PitchingRate.all.idxOf r]?).join, decision⟩
    | _ => none
  | [] => none

end PitchingLine

end Scorebook
