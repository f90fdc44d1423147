import Scorebook.Proofs.BoxScore.Appearances
import Scorebook.Proofs.Validation

/-!
# A record without its players

Finding a player gives a row a player and perhaps a uniform number.  A record without both says
what does not depend on who was found, and that is all that validation looks at.
-/

namespace Scorebook

def Appearance.withoutPlayer (a : Appearance) : Appearance :=
  { a with player := none, uniform := none }

namespace BoxScore

/-- The record with the players and the uniform numbers of all rows taken out. -/
def withoutPlayers (b : BoxScore) : BoxScore := b.mapAppearances fun x => x.2.withoutPlayer

variable {b b' : BoxScore}

theorem teams_of_withoutPlayers (h : b.withoutPlayers = b'.withoutPlayers) :
    b.teams = b'.teams := by
  have hteams : b.withoutPlayers.teams = b'.withoutPlayers.teams := by rw [h]
  exact hteams

theorem map_putHitters (e : Appearance → Appearance) (rows : List HitterRow)
    (as : List Appearance) :
    (putHitters rows as).map (fun r => { r with appearance := e r.appearance }) =
      putHitters rows (as.map e) := by
  rw [putHitters, putHitters, List.map_zipWith, List.zipWith_map_right]

theorem map_putPitchers (e : Appearance → Appearance) (rows : List PitcherRow)
    (as : List Appearance) :
    (putPitchers rows as).map (fun r => { r with appearance := e r.appearance }) =
      putPitchers rows (as.map e) := by
  rw [putPitchers, putPitchers, List.map_zipWith, List.zipWith_map_right]

theorem mapAppearances_withAppearances (e : Appearance → Appearance) (b : BoxScore)
    (as : List Appearance) :
    (b.withAppearances as).mapAppearances (fun x => e x.2) = b.withAppearances (as.map e) := by
  simp only [withAppearances, List.splitAt_eq, mapAppearances, PerSide.ofFn, PerSide.get,
    map_putHitters, map_putPitchers, List.map_take, List.map_drop]

/-- Appearances that are those of a record up to players make the same record up to players. -/
theorem withoutPlayers_withAppearances {as : List Appearance}
    (h : as.map Appearance.withoutPlayer = b.appearances.map fun x => x.2.withoutPlayer) :
    (b.withAppearances as).withoutPlayers = b.withoutPlayers := by
  rw [withoutPlayers, mapAppearances_withAppearances, h, withAppearances_map, withoutPlayers]

theorem sameChecks_withoutPlayers (b : BoxScore) : b.SameChecks b.withoutPlayers where
  gameId := rfl
  date := rfl
  team := fun _ => rfl
  hitters := fun side => by
    rw [withoutPlayers, hitters_mapAppearances, List.forall₂_map_right_iff]
    exact List.forall₂_same.2 fun _ _ => rfl
  pitchers := fun side => by
    rw [withoutPlayers, pitchers_mapAppearances, List.length_map]

end BoxScore

/-- Validation does not look at players. -/
theorem Validation.ofBoxScore_of_withoutPlayers {codes : Franchise.CodeSet} {b b' : BoxScore}
    (h : b.withoutPlayers = b'.withoutPlayers) : ofBoxScore codes b = ofBoxScore codes b' := by
  rw [← ofBoxScore_eq_of_sameChecks b.sameChecks_withoutPlayers, h,
    ofBoxScore_eq_of_sameChecks b'.sameChecks_withoutPlayers]

end Scorebook
