import Mathlib.Data.List.Forall2
import Scorebook.BoxScore.Basic

/-!
# The appearances of a record

Replacing the appearances of a record one for one gives each row its new appearance in its own
place.
-/

namespace Scorebook

namespace BoxScore

/-- Two records that differ in the appearances of their rows at most. -/
structure SameButAppearances (b b' : BoxScore) : Prop where
  record : b' = { b with hitters := b'.hitters, pitchers := b'.pitchers }
  hitters : ∀ side, List.Forall₂ (fun r r' => r' = { r with appearance := r'.appearance })
    (b.hitters.get side) (b'.hitters.get side)
  pitchers : ∀ side, List.Forall₂ (fun r r' => r' = { r with appearance := r'.appearance })
    (b.pitchers.get side) (b'.pitchers.get side)

def mapAppearances (f : Side × Appearance → Appearance) (b : BoxScore) : BoxScore :=
  { b with
    hitters := .ofFn fun side =>
      (b.hitters.get side).map fun r => { r with appearance := f (side, r.appearance) }
    pitchers := .ofFn fun side =>
      (b.pitchers.get side).map fun r => { r with appearance := f (side, r.appearance) } }

section
variable (f g : Side × Appearance → Appearance) (b : BoxScore)

@[simp] theorem hitters_mapAppearances (side : Side) :
    (b.mapAppearances f).hitters.get side =
      (b.hitters.get side).map fun r => { r with appearance := f (side, r.appearance) } :=
  PerSide.get_ofFn _ side

@[simp] theorem pitchers_mapAppearances (side : Side) :
    (b.mapAppearances f).pitchers.get side =
      (b.pitchers.get side).map fun r => { r with appearance := f (side, r.appearance) } :=
  PerSide.get_ofFn _ side

theorem season?_mapAppearances : (b.mapAppearances f).season? = b.season? := rfl

theorem appearances_mapAppearances :
    (b.mapAppearances f).appearances = b.appearances.map fun x => (x.1, f x) := by
  simp [appearances, Side.both, List.map_map, Function.comp_def]

theorem sameButAppearances_map : SameButAppearances b (b.mapAppearances f) where
  record := rfl
  hitters side := by
    rw [hitters_mapAppearances, List.forall₂_map_right_iff]
    exact List.forall₂_same.2 fun _ _ => rfl
  pitchers side := by
    rw [pitchers_mapAppearances, List.forall₂_map_right_iff]
    exact List.forall₂_same.2 fun _ _ => rfl

theorem mapAppearances_mapAppearances :
    (b.mapAppearances f).mapAppearances g = b.mapAppearances fun x => g (x.1, f x) := by
  simp [mapAppearances, PerSide.ofFn, PerSide.get, List.map_map, Function.comp_def]

theorem putHitters_map (h : Appearance → Appearance) (rows : List HitterRow) :
    putHitters rows (rows.map fun r => h r.appearance) =
      rows.map fun r => { r with appearance := h r.appearance } := by
  rw [putHitters, List.zipWith_map_right, List.zipWith_self]

theorem putPitchers_map (h : Appearance → Appearance) (rows : List PitcherRow) :
    putPitchers rows (rows.map fun r => h r.appearance) =
      rows.map fun r => { r with appearance := h r.appearance } := by
  rw [putPitchers, List.zipWith_map_right, List.zipWith_self]

/-- The appearances are listed and put back in the same order. -/
theorem withAppearances_map :
    b.withAppearances (b.appearances.map f) = b.mapAppearances f := by
  have hlisted : b.appearances.map f =
      b.hitters.away.map (fun r => f (.away, r.appearance)) ++
        (b.pitchers.away.map (fun r => f (.away, r.appearance)) ++
          (b.hitters.home.map (fun r => f (.home, r.appearance)) ++
            b.pitchers.home.map fun r => f (.home, r.appearance))) := by
    simp [appearances, Side.both, PerSide.get, List.map_map, Function.comp_def]
  rw [hlisted]
  simp only [withAppearances, List.splitAt_eq]
  rw [List.take_left' (List.length_map ..), List.drop_left' (List.length_map ..),
    List.take_left' (List.length_map ..), List.drop_left' (List.length_map ..),
    List.take_left' (List.length_map ..), List.drop_left' (List.length_map ..)]
  rw [putHitters_map fun a => f (.away, a), putHitters_map fun a => f (.home, a),
    putPitchers_map fun a => f (.away, a), putPitchers_map fun a => f (.home, a)]
  rfl

end

end BoxScore

end Scorebook
