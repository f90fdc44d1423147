import Mathlib.Logic.Basic
import Scorebook.Proofs.Count
import Scorebook.Validation

/-!
# Conservation of runs

The warnings of a box score say for which sides the halves, or the runs of the hitters, do not add
up to the score.  Sums are held at the largest count, so they are compared exactly below it; a
score of the largest count also passes with a larger sum.
-/

namespace Scorebook.Validation
open Text

/-- The counts add up to a score, as far as a sum that is held at the largest count shows. -/
def AddUp (cs : List Count) (score : Count) : Prop := min (Count.exactSum cs) maxU32 = score.toNat

instance (cs : List Count) (score : Count) : Decidable (AddUp cs score) :=
  inferInstanceAs (Decidable (_ = _))

/-- Some row says how many runs its hitter scored. -/
def RunsPrinted (rows : List HitterRow) : Prop :=
  ∃ r ∈ rows, (r.line.counts .runs).isSome = true

instance (rows : List HitterRow) : Decidable (RunsPrinted rows) :=
  inferInstanceAs (Decidable (∃ r ∈ rows, _))

/-- A warning with the held sum of some counts and the score that it is not. -/
def mismatch (side : Side) (what : String) (cs : List Count) (which : String) (score : Count) :
    String :=
  side.name ++ what ++ decimal (min (Count.exactSum cs) maxU32) ++ which ++
    decimal score.toNat ++ ")"

section
variable {codes : Franchise.CodeSet} {b : BoxScore} {side : Side} {t : TeamLine}
  {rows : List HitterRow} {cs : List Count} {score : Count}

theorem sum_eq_iff_addUp : Count.sum cs = score ↔ AddUp cs score := Count.sum_eq_iff

theorem text_sum (cs : List Count) :
    Count.text (Count.sum cs) = decimal (min (Count.exactSum cs) maxU32) := by
  rw [Count.text, Count.toNat_sum]

theorem runsPrinted_iff : RunsPrinted rows ↔ hitterRuns rows ≠ [] := by
  rw [Ne, hitterRuns, List.filterMap_eq_nil_iff]
  simp only [RunsPrinted, Option.isSome_iff_ne_none, not_forall, exists_prop, Ne]

/-! ### One side -/

theorem lineScoreWarnings_of_score (h : t.score = some score) :
    lineScoreWarnings side t =
      if t.halves ≠ [] ∧ ¬AddUp t.playedHalves score then
        [mismatch side " line score (" t.playedHalves ") != total score (" score]
      else [] := by
  have hpass : (t.halves.isEmpty = true ∨ t.total = score) ↔
      ¬(t.halves ≠ [] ∧ ¬AddUp t.playedHalves score) := by
    rw [TeamLine.total, sum_eq_iff_addUp, List.isEmpty_iff]
    exact or_iff_not_and_not
  simp only [lineScoreWarnings, h]
  rw [if_congr hpass rfl rfl, ite_not, TeamLine.total, text_sum]
  rfl

theorem hitterRunsWarnings_of_score (h : t.score = some score) :
    hitterRunsWarnings side t rows =
      if RunsPrinted rows ∧ ¬AddUp (hitterRuns rows) score then
        [mismatch side " hitter runs (" (hitterRuns rows) ") != team score (" score]
      else [] := by
  have hpass : ((hitterRuns rows).isEmpty = true ∨ Count.sum (hitterRuns rows) = score) ↔
      ¬(RunsPrinted rows ∧ ¬AddUp (hitterRuns rows) score) := by
    rw [runsPrinted_iff, sum_eq_iff_addUp, List.isEmpty_iff]
    exact or_iff_not_and_not
  simp only [hitterRunsWarnings, h]
  rw [if_congr hpass rfl rfl, ite_not, text_sum]
  rfl

/-- The warnings of a side in terms of exact sums. -/
theorem sideWarnings_eq (side : Side) (t : TeamLine) (rows : List HitterRow) :
    lineScoreWarnings side t ++ hitterRunsWarnings side t rows =
      match t.score with
      | none => []
      | some score =>
        (if t.halves ≠ [] ∧ ¬AddUp t.playedHalves score then
          [mismatch side " line score (" t.playedHalves ") != total score (" score]
        else []) ++
        if RunsPrinted rows ∧ ¬AddUp (hitterRuns rows) score then
          [mismatch side " hitter runs (" (hitterRuns rows) ") != team score (" score]
        else [] := by
  split
  · rename_i h
    simp only [lineScoreWarnings, hitterRunsWarnings, h, List.append_nil]
  · rename_i score h
    rw [lineScoreWarnings_of_score h, hitterRunsWarnings_of_score h]

/-- A sum that is compared below the largest count is compared exactly. -/
theorem AddUp.exact (h : AddUp cs score) (hscore : score.toNat ≠ maxU32) :
    Count.exactSum cs = score.toNat :=
  (Count.held_eq_iff.1 h).resolve_right fun hlarge => hscore hlarge.left

/-! ### Both sides -/

theorem warnings_eq_nil_iff :
    (ofBoxScore codes b).warnings = [] ↔ ∀ side score, (b.teams.get side).score = some score →
      ((b.teams.get side).halves ≠ [] → AddUp (b.teams.get side).playedHalves score) ∧
      (RunsPrinted (b.hitters.get side) → AddUp (hitterRuns (b.hitters.get side)) score) := by
  have hsides : (ofBoxScore codes b).warnings = [] ↔ ∀ side,
      lineScoreWarnings side (b.teams.get side) ++
        hitterRunsWarnings side (b.teams.get side) (b.hitters.get side) = [] := by
    rw [ofBoxScore, allWarnings, List.flatMap_eq_nil_iff]
    exact ⟨fun h side => h side side.mem_both, fun h side _ => h side⟩
  rw [hsides]
  refine forall_congr' fun side => ?_
  rw [sideWarnings_eq]
  cases (b.teams.get side).score with
  | none => simp
  | some score => simp [Decidable.not_not]

/-- The warnings of a box score, side by side: of a side with a score, one when its halves are
printed and do not add up to the score, and one when its hitters' runs are printed and do not; of a
side without a score, none.  Below the largest count the sums that are compared are the exact ones,
so a record without warnings conserves the runs of every side with such a score. -/
theorem warnings_exact (codes : Franchise.CodeSet) (b : BoxScore) :
    (ofBoxScore codes b).warnings = Side.both.flatMap (fun side =>
      match (b.teams.get side).score with
      | none => []
      | some score =>
        (if (b.teams.get side).halves ≠ [] ∧ ¬AddUp (b.teams.get side).playedHalves score then
          [mismatch side " line score (" (b.teams.get side).playedHalves ") != total score (" score]
        else []) ++
        if RunsPrinted (b.hitters.get side) ∧ ¬AddUp (hitterRuns (b.hitters.get side)) score then
          [mismatch side " hitter runs (" (hitterRuns (b.hitters.get side)) ") != team score ("
            score]
        else []) ∧
    (∀ cs score, AddUp cs score ↔
      Count.exactSum cs = score.toNat ∨ score.toNat = maxU32 ∧ maxU32 < Count.exactSum cs) ∧
    ((ofBoxScore codes b).warnings = [] → ∀ side score, (b.teams.get side).score = some score →
      score.toNat ≠ maxU32 →
      ((b.teams.get side).halves ≠ [] →
        Count.exactSum (b.teams.get side).playedHalves = score.toNat) ∧
      (RunsPrinted (b.hitters.get side) →
        Count.exactSum (hitterRuns (b.hitters.get side)) = score.toNat)) := by
  refine ⟨?_, fun _ _ => Count.held_eq_iff, fun hnone side score hscore hsmall => ?_⟩
  · rw [ofBoxScore, allWarnings]
    simp only [sideWarnings_eq]
  · obtain ⟨hhalves, hruns⟩ := warnings_eq_nil_iff.1 hnone side score hscore
    exact ⟨fun h => (hhalves h).exact hsmall, fun h => (hruns h).exact hsmall⟩

end

/-- A hitter with so many runs. -/
def scorer (runs : Count) : HitterRow :=
  ⟨⟨none, "A", none, .away, none, 1⟩, none, none, false,
    BattingLine.blank.setCount .runs (some runs), .empty⟩

/-- A record whose away side has a score, halves and hitters, and nothing else. -/
def scoredRecord (score : Count) (halves : List (Option Count)) (runs : List Count) : BoxScore :=
  { BoxScore.blank "20240323HHLG0" none .modern with
    teams := ⟨{ TeamLine.blank with score := some score, halves := halves }, .blank⟩
    hitters := ⟨runs.map scorer, []⟩ }

/-- Halves and runs that come to more than a score of the largest count are not warned of. -/
theorem oversized_runs_pass :
    let b := scoredRecord 4294967295 [some 4294967295, some 1] [4294967295, 3]
    (b.teams.get .away).score = some 4294967295 ∧
    (b.teams.get .away).halves ≠ [] ∧
    Count.exactSum (b.teams.get .away).playedHalves = 4294967296 ∧
    RunsPrinted (b.hitters.get .away) ∧
    Count.exactSum (hitterRuns (b.hitters.get .away)) = 4294967298 ∧
    (ofBoxScore ⟨[]⟩ b).warnings = [] := by
  decide +kernel

/-- A half that was not played adds nothing. -/
theorem warnings_exact_of_unplayed :
    (ofBoxScore ⟨[]⟩ (scoredRecord 3 [some 1, none, some 2] [3])).warnings = [] ∧
    Count.exactSum [1, 2] = 3 ∧
    (ofBoxScore ⟨[]⟩ (scoredRecord 3 [some 1, none, some 1] [2, 2])).warnings =
      ["away line score (2) != total score (3)", "away hitter runs (4) != team score (3)"] := by
  have hnone : (ofBoxScore ⟨[]⟩ (scoredRecord 3 [some 1, none, some 2] [3])).warnings = [] := by
    decide +kernel
  obtain ⟨-, -, hconserved⟩ := warnings_exact ⟨[]⟩ (scoredRecord 3 [some 1, none, some 2] [3])
  obtain ⟨hhalves, -⟩ := hconserved hnone .away 3 rfl (by decide)
  refine ⟨hnone, hhalves (by decide), ?_⟩
  rw [(warnings_exact ⟨[]⟩ (scoredRecord 3 [some 1, none, some 1] [2, 2])).left]
  decide +kernel

end Scorebook.Validation
