import Scorebook.Stat.Batting
import Scorebook.Stat.Pitching
import Scorebook.Text.Blank
import Scorebook.Text.Case

/-!
# What columns hold

Dictionaries from printed headers to what their columns hold.  A header may mean different things in
a hitters' and in a pitchers' table.  A header is looked up with its blanks collapsed and in upper
case; one that no dictionary knows has no meaning here and is kept as an extra column.
-/

namespace Scorebook.Page
open Text

/-- What a column of a hitters' table holds. -/
inductive BattingColumn where
  | name
  | uniform
  | order
  | position
  | stat (s : BattingStat)
deriving DecidableEq, Repr

inductive PitchingColumn where
  | name
  | uniform
  | stat (s : PitchingStat)
deriving DecidableEq, Repr

def nameHeaders : List String := ["선수명", "선수", "이름", "NAME", "PLAYER"]

def uniformHeaders : List String := ["등번호", "배번", "UNIFORM"]

def battingCountHeaders : BattingCount → List String
  | .plateAppearances => ["타석", "PA"]
  | .atBats => ["타수", "AB"]
  | .runs => ["득점", "R"]
  | .hits => ["안타", "H"]
  | .doubles => ["2루타", "2B"]
  | .triples => ["3루타", "3B"]
  | .homeRuns => ["홈런", "HR"]
  | .runsBattedIn => ["타점", "RBI"]
  | .walks => ["볼넷", "BB"]
  | .intentionalWalks => ["고의4구", "IBB"]
  | .hitByPitch => ["사구", "HBP"]
  | .strikeouts => ["삼진", "SO"]
  | .stolenBases => ["도루", "SB"]
  | .caughtStealing => ["도실", "CS"]
  | .sacrificeHits => ["희타", "SAC"]
  | .sacrificeFlies => ["희비", "SF"]
  | .groundedIntoDoublePlay => ["병살", "GDP"]

def battingRateHeaders : BattingRate → List String
  | .average => ["타율", "AVG"]
  | .onBase => ["출루율", "OBP"]
  | .slugging => ["장타율", "SLG"]
  | .onBasePlusSlugging => ["OPS"]
  | .isolatedPower => ["ISO"]
  | .ballsInPlay => ["BABIP"]

def pitchingCountHeaders : PitchingCount → List String
  | .battersFaced => ["타자", "TBF"]
  | .pitches => ["투구수", "NP"]
  | .atBatsAgainst => ["타수", "AB"]
  | .hitsAllowed => ["피안타", "H"]
  | .runsAllowed => ["실점", "R"]
  | .earnedRuns => ["자책", "ER"]
  | .homeRunsAllowed => ["피홈런", "HR"]
  | .walksAllowed => ["볼넷", "4사구", "BB"]
  | .strikeouts => ["삼진", "SO"]
  | .hitBatters => ["사구", "HBP"]
  | .wildPitches => ["폭투", "WP"]
  | .balks => ["보크", "BK"]
  | .wins => ["승", "W"]
  | .losses => ["패", "L"]
  | .saves => ["세", "SV"]
  | .holds => ["홀드", "HLD"]

def pitchingRateHeaders : PitchingRate → List String
  | .earnedRunAverage => ["평균자책점", "ERA"]
  | .walksAndHitsPerInning => ["WHIP"]
  | .strikeoutsPerNine => ["K/9"]
  | .walksPerNine => ["BB/9"]
  | .strikeoutWalkRatio => ["K/BB"]

/-- A dictionary: the headers of each kind of column. -/
abbrev Dictionary (α : Type) := List (List String × α)

def battingDictionary : Dictionary BattingColumn :=
  [(nameHeaders, .name), (uniformHeaders, .uniform),
    (["타순", "타순(교체)", "순", "NO", "NO."], .order),
    (["POS", "포지션", "수비위치", "위치"], .position)] ++
  BattingCount.all.map (fun c => (battingCountHeaders c, .stat (.count c))) ++
  BattingRate.all.map fun r => (battingRateHeaders r, .stat (.rate r))

def pitchingDictionary : Dictionary PitchingColumn :=
  [(nameHeaders, .name), (uniformHeaders, .uniform), (["이닝", "IP"], .stat .innings),
    (["결과", "결"], .stat .decision)] ++
  PitchingCount.all.map (fun c => (pitchingCountHeaders c, .stat (.count c))) ++
  PitchingRate.all.map fun r => (pitchingRateHeaders r, .stat (.rate r))

/-- The form of a header under which it is looked up. -/
def headerKey (header : String) : String := uppered (collapsed header)

def lookupHeader {α : Type} (d : Dictionary α) (header : String) : Option α :=
  let key := headerKey header
  (d.find? fun entry => entry.1.contains key).map Prod.snd

/-- What a column of a hitters' table with the header holds. -/
def battingColumn? (header : String) : Option BattingColumn := lookupHeader battingDictionary header

def pitchingColumn? (header : String) : Option PitchingColumn :=
  lookupHeader pitchingDictionary header

/-- Whether a table with these headers lists hitters: at-bats and names, but no innings pitched
(pitchers' tables print at-bats too). -/
def areHitterHeaders (headers : List String) : Bool :=
  headers.any (fun h => battingColumn? h == some (.stat (.count .atBats))) &&
    headers.any (fun h => battingColumn? h == some .name) &&
    !headers.any fun h => pitchingColumn? h == some (.stat .innings)

/-- Whether a table with these headers lists pitchers: innings pitched and strikeouts. -/
def arePitcherHeaders (headers : List String) : Bool :=
  headers.any (fun h => pitchingColumn? h == some (.stat .innings)) &&
    headers.any fun h => pitchingColumn? h == some (.stat (.count .strikeouts))

end Scorebook.Page
