import Mathlib.Data.List.Forall2
import Scorebook.Proofs.Page.Extras
import Scorebook.Proofs.Page.Players

/-!
# Nothing of a player's row is lost

Every row of a player is made from the cells of one row of a page's table, or of one row in each of
two.  What no dictionary knows of them is in the row's extra columns.
-/

namespace Scorebook.Page

section
variable {α : Type} {column? : String → Option α}

/-- The rows of cells that are players'. -/
def playerCells [DecidableEq α] (nameColumn : α) (column? : String → Option α)
    (rows : List (List (String × Cell))) : List (List (String × Cell)) :=
  rows.filter fun cells => isPlayer nameColumn (lookedUp column? cells)

/-- Every player's row is made from the cells of one row, in the order of those of players. -/
theorem forall₂_playersOf {ρ : Type} [DecidableEq α] {nameColumn : α}
    {row : Count → String → Option PlayerId → List (LabelledCell α) → ρ}
    {P : List (String × Cell) → ρ → Prop}
    (h : ∀ sequence name player cells,
      identity? nameColumn (lookedUp column? cells) = some (name, player) →
      P cells (row sequence name player (lookedUp column? cells)))
    (rows : List (List (String × Cell))) :
    List.Forall₂ P (playerCells nameColumn column? rows)
      (playersOf nameColumn row (rows.map (lookedUp column?))) := by
  have hplayers : (rows.map (lookedUp column?)).filter (isPlayer nameColumn) =
      (playerCells nameColumn column? rows).map (lookedUp column?) := List.filter_map ..
  refine List.forall₂_iff_get.2 ⟨?_, fun k hk hk' => ?_⟩
  · rw [length_playersOf, hplayers, List.length_map]
  · have hplace : ((rows.map (lookedUp column?)).filter (isPlayer nameColumn))[k]? =
        some (lookedUp column? ((playerCells nameColumn column? rows).get ⟨k, hk⟩)) := by
      rw [hplayers, List.getElem?_map, List.getElem?_eq_getElem hk]
      rfl
    obtain ⟨name, player, hidentity, hmade⟩ := getElem?_playersOf row hplace
    have hrow := (List.getElem?_eq_some_iff.1 hmade).2
    rw [List.get_eq_getElem, List.get_eq_getElem, hrow]
    exact h _ name player _ hidentity

end

section
variable {side : Side}

/-- The row is that of the hitter whom the cells name, with all they hold beyond the dictionary. -/
def HitterOf (cells : List (String × Cell)) (r : HitterRow) : Prop :=
  identity? .name (lookedUp battingColumn? cells) =
    some (r.appearance.name, r.appearance.player) ∧
  KeepsExtras battingColumn? cells r.extras

def PitcherOf (cells : List (String × Cell)) (r : PitcherRow) : Prop :=
  identity? .name (lookedUp pitchingColumn? cells) =
    some (r.appearance.name, r.appearance.player) ∧
  KeepsExtras pitchingColumn? cells r.extras

theorem forall₂_hittersOf (side : Side) (rows : List (List (String × Cell))) :
    List.Forall₂ HitterOf (playerCells .name battingColumn? rows)
      (hittersOf side (rows.map (lookedUp battingColumn?))) :=
  forall₂_playersOf (fun _ _ _ cells hidentity =>
    ⟨hidentity, keepsExtras_extrasOf (fun _ => battingColumn?_of_underscore) cells⟩) rows

theorem forall₂_hitters (side : Side) (t : Table) :
    List.Forall₂ HitterOf
      (playerCells .name battingColumn? (t.rows.map (withLabels (hitterLabel t))))
      (hitters side t) := by
  have hrows : t.rows.map (labelled battingColumn? (hitterLabels t)) =
      (t.rows.map (withLabels (hitterLabel t))).map (lookedUp battingColumn?) := by
    rw [List.map_map]
    exact List.map_congr_left fun row hrow => labelled_hitterLabels hrow
  rw [hitters, hrows]
  exact forall₂_hittersOf side _

theorem forall₂_zippedHitters {names stats : Table} {rows : List HitterRow}
    (h : zippedHitters side names stats = .ok rows) :
    List.Forall₂ HitterOf
      (playerCells .name battingColumn?
        ((List.range names.rows.length).map (zippedCells names stats)))
      rows := by
  obtain rfl := eq_hittersOf_of_zippedHitters h
  have hrows : (List.range names.rows.length).map (zippedRow names stats) =
      ((List.range names.rows.length).map (zippedCells names stats)).map
        (lookedUp battingColumn?) := List.map_map.symm
  rw [hrows]
  exact forall₂_hittersOf side _

theorem forall₂_pitchers (side : Side) (t : Table) :
    List.Forall₂ PitcherOf
      (playerCells .name pitchingColumn? (t.rows.map (withLabels t.header)))
      (pitchers side t) := by
  have hrows : t.rows.map (labelled pitchingColumn? t.labels) =
      (t.rows.map (withLabels t.header)).map (lookedUp pitchingColumn?) := by
    rw [List.map_map]
    exact List.map_congr_left fun row hrow => labelled_labels hrow pitchingColumn?
  rw [pitchers, hrows]
  exact forall₂_playersOf (fun _ _ _ cells hidentity =>
    ⟨hidentity, keepsExtras_extrasOf (fun _ => pitchingColumn?_of_underscore) cells⟩) _

end

/-- Nothing of a player's row is lost.  Every row of hitters in one table, of hitters in two and of
pitchers is made from the cells of one row of the page, in their order.  Going through the cells, the
search for a label always comes to an end, and what has been kept stays; in the end the text of every
cell whose label the dictionary does not know is under that label or a suffixed one, all that is kept
is the text of such a cell, and no label among those kept is one that the dictionary knows. -/
theorem extras_lossless (side : Side) :
    (∀ t, List.Forall₂ HitterOf
      (playerCells .name battingColumn? (t.rows.map (withLabels (hitterLabel t))))
      (hitters side t)) ∧
    (∀ names stats rows, zippedHitters side names stats = .ok rows →
      List.Forall₂ HitterOf
        (playerCells .name battingColumn?
          ((List.range names.rows.length).map (zippedCells names stats)))
        rows) ∧
    ∀ t, List.Forall₂ PitcherOf
      (playerCells .name pitchingColumn? (t.rows.map (withLabels t.header)))
      (pitchers side t) :=
  ⟨forall₂_hitters side, fun _ _ _ => forall₂_zippedHitters, forall₂_pitchers side⟩

/-- One hitter with remarks in both tables, the last under a header that looks made up. -/
def remarkedName : Table := textTable ["선수명", "비고"] [["A", "x"]]

def remarkedStats : Table := textTable ["비고", "비고_2"] [["y", "z"]]

/-- Three remarks under two headers are all kept. -/
theorem extras_of_both_tables :
    ∃ r, zippedHitters .away remarkedName remarkedStats = .ok [r] ∧
      HitterOf (zippedCells remarkedName remarkedStats 0) r ∧
      r.extras = ⟨[("비고", "x"), ("비고_2", "y"), ("비고_2_2", "z")]⟩ := by
  have hlength : remarkedName.rows.length = remarkedStats.rows.length := rfl
  have hzipped := zippedHitters_of_eq .away hlength
  obtain ⟨-, hboth, -⟩ := extras_lossless .away
  have hrows := hboth _ _ _ hzipped
  have hplayer : playerCells .name battingColumn?
      ((List.range remarkedName.rows.length).map (zippedCells remarkedName remarkedStats)) =
        [zippedCells remarkedName remarkedStats 0] := by
    decide +kernel
  have hextras : extrasOf (zippedRow remarkedName remarkedStats 0) =
      ⟨[("비고", "x"), ("비고_2", "y"), ("비고_2_2", "z")]⟩ := by
    decide +kernel
  rw [hplayer] at hrows
  obtain ⟨r, rest, hr, hrest, hlist⟩ := List.forall₂_cons_left_iff.1 hrows
  obtain rfl := List.forall₂_nil_left_iff.1 hrest
  refine ⟨r, hzipped.trans (congrArg Except.ok hlist), hr, ?_⟩
  rw [← hextras]
  exact ((hr.2.collected _).1 (collects_extrasOf battingColumn? _)).symm

end Scorebook.Page
