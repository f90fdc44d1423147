import Scorebook.Count
import Scorebook.Json.Decoding

/-!
# Batting statistics

A batting line holds counts and rates.  A value that is absent was not printed, which is not the
same as zero.
-/

namespace Scorebook

inductive BattingCount where
  | plateAppearances
  | atBats
  | runs
  | hits
  | doubles
  | triples
  | homeRuns
  | runsBattedIn
  | walks
  | intentionalWalks
  | hitByPitch
  | strikeouts
  | stolenBases
  | caughtStealing
  | sacrificeHits
  | sacrificeFlies
  | groundedIntoDoublePlay
deriving DecidableEq, Repr

inductive BattingRate where
  | average
  | onBase
  | slugging
  | onBasePlusSlugging
  | isolatedPower
  | ballsInPlay
deriving DecidableEq, Repr

inductive BattingStat where
  | count (c : BattingCount)
  | rate (r : BattingRate)
deriving DecidableEq, Repr

namespace BattingCount

def all : List BattingCount :=
  [plateAppearances, atBats, runs, hits, doubles, triples, homeRuns, runsBattedIn, walks,
    intentionalWalks, hitByPitch, strikeouts, stolenBases, caughtStealing, sacrificeHits,
    sacrificeFlies, groundedIntoDoublePlay]

def name : BattingCount → String
  | plateAppearances => "plate_appearances"
  | atBats => "at_bats"
  | runs => "runs"
  | hits => "hits"
  | doubles => "doubles"
  | triples => "triples"
  | homeRuns => "home_runs"
  | runsBattedIn => "rbi"
  | walks => "walks"
  | intentionalWalks => "intentional_walks"
  | hitByPitch => "hit_by_pitch"
  | strikeouts => "strikeouts"
  | stolenBases => "stolen_bases"
  | caughtStealing => "caught_stealing"
  | sacrificeHits => "sacrifice_hits"
  | sacrificeFlies => "sacrifice_flies"
  | groundedIntoDoublePlay => "grounded_into_double_play"

theorem mem_all (c : BattingCount) : c ∈ all := by
  cases c <;> decide

end BattingCount

namespace BattingRate

def all : List BattingRate :=
  [average, onBase, slugging, onBasePlusSlugging, isolatedPower, ballsInPlay]

def name : BattingRate → String
  | average => "average"
  | onBase => "on_base_pct"
  | slugging => "slugging_pct"
  | onBasePlusSlugging => "ops"
  | isolatedPower => "iso"
  | ballsInPlay => "babip"

theorem mem_all (r : BattingRate) : r ∈ all := by
  cases r <;> decide

end BattingRate

def BattingStat.ofName? (s : String) : Option BattingStat :=
  ((BattingCount.all.find? fun c => c.name == s).map count).or
    ((BattingRate.all.find? fun r => r.name == s).map rate)

structure BattingLine where
  counts : BattingCount → Option Count
  rates : BattingRate → Option Binary64

namespace BattingLine

def blank : BattingLine := ⟨fun _ => none, fun _ => none⟩

def setCount (l : BattingLine) (c : BattingCount) (value : Option Count) : BattingLine :=
  { l with counts := fun d => if d = c then value else l.counts d }

def setRate (l : BattingLine) (r : BattingRate) (value : Option Binary64) : BattingLine :=
  { l with rates := fun s => if s = r then value else l.rates s }

@[simp] theorem counts_setCount (l : BattingLine) (c d : BattingCount) (value : Option Count) :
    (l.setCount c value).counts d = if d = c then value else l.counts d := rfl

@[simp] theorem rates_setRate (l : BattingLine) (r s : BattingRate) (value : Option Binary64) :
    (l.setRate r value).rates s = if s = r then value else l.rates s := rfl

@[simp] theorem rates_setCount (l : BattingLine) (c : BattingCount) (value : Option Count) :
    (l.setCount c value).rates = l.rates := rfl

@[simp] theorem counts_setRate (l : BattingLine) (r : BattingRate) (value : Option Binary64) :
    (l.setRate r value).counts = l.counts := rfl

/-- Two lines are the same when they have the same values, of which there are finitely many. -/
theorem eq_iff {l l' : BattingLine} :
    l = l' ↔ BattingCount.all.map l.counts = BattingCount.all.map l'.counts ∧
      BattingRate.all.map l.rates = BattingRate.all.map l'.rates := by
  constructor
  · rintro rfl
    exact ⟨rfl, rfl⟩
  · rintro ⟨hcounts, hrates⟩
    obtain ⟨counts, rates⟩ := l
    have hc : counts = l'.counts :=
      funext fun c => List.map_inj_left.1 hcounts c (BattingCount.mem_all c)
    have hr : rates = l'.rates :=
      funext fun r => List.map_inj_left.1 hrates r (BattingRate.mem_all r)
    rw [hc, hr]

instance : DecidableEq BattingLine := fun _ _ => decidable_of_iff _ eq_iff.symm

def toJson (l : BattingLine) : Json :=
  .obj (BattingCount.all.map (fun c => (c.name, Json.ofNat? ((l.counts c).map UInt32.toNat))) ++
    BattingRate.all.map fun r => (r.name, Json.ofOption Json.ofBinary64 (l.rates r)))

def fieldNames : List String :=
  BattingCount.all.map BattingCount.name ++ BattingRate.all.map BattingRate.name

def ofJson? : Json.Decoder BattingLine := fun v => do
  let given ← Json.record? fieldNames v
  let counts ← (given.take BattingCount.all.length).mapM (·.optional Json.count?)
  let rates ← (given.drop BattingCount.all.length).mapM (·.optional Json.binary64?)
  some ⟨fun c => (counts[BattingCount.all.idxOf c]?).join,
    fun r => (rates[BattingRate.all.idxOf r]?).join⟩

end BattingLine

end Scorebook
