import Scorebook.Store.Basic

/-!
# What a store keeps of a game

The copies of a game are its rows in the tables of accepted games, of games set aside and of review
items, without the time at which a row was written and without the number of a review item.  What a
write does to the copies of a game is told by the copies alone, and a write for another game leaves
them as they are.
-/

namespace Scorebook

namespace Store

def timeColumns : List String := ["saved_at", "quarantined_at", "flagged_at"]

def Row.untimed (r : Row) : Row := r.filter fun c => !timeColumns.contains c.1

/-- What a store keeps of a game. -/
structure Copies where
  accepted : List Row
  setAside : List Row
  review : List Row

def copies (s : Store) (gameId : String) : Copies where
  accepted := (rowsWith "game_id" gameId s.games).map Row.untimed
  setAside := (rowsWith "game_id" gameId s.quarantine).map Row.untimed
  review := (rowsWith "game_id" gameId s.review.toList).map Row.untimed

/-! ### Rows with a text -/

section
variable {name text other : String} {row : Row} {rows : List Row}

theorem rowsWith_append (rows more : List Row) (name text : String) :
    rowsWith name text (rows ++ more) = rowsWith name text rows ++ rowsWith name text more :=
  List.filter_append ..

/-- Under a key of one column rows have the same key when they have the same text there. -/
theorem sameKey_singleton (r : Row) (h : row.cell name = .text text) :
    r.sameKey [name] row = (r.cell name == .text text) := by
  simp only [Row.sameKey, List.all_cons, List.all_nil, Bool.and_true, h]
  cases hr : r.cell name == Cell.text text with
  | false => rfl
  | true =>
    rw [beq_iff_eq.1 hr]
    rfl

/-- A row takes the place of the one with the same text. -/
theorem rowsWith_putRow (h : row.cell name = .text text) :
    rowsWith name text (putRow [name] row rows) = [row] := by
  have hold : rowsWith name text (rows.filter fun r => !r.sameKey [name] row) = [] := by
    apply List.filter_eq_nil_iff.2
    intro r hr
    have hne := (List.mem_filter.1 hr).2
    rw [sameKey_singleton r h] at hne
    simpa using hne
  have hnew : rowsWith name text [row] = [row] :=
    List.filter_cons_of_pos (by simp [h])
  rw [putRow, rowsWith_append, hold, hnew, List.nil_append]

/-- A row with one text leaves the rows with other texts as they are. -/
theorem rowsWith_putRow_of_ne (h : row.cell name = .text other) (hne : other ≠ text) :
    rowsWith name text (putRow [name] row rows) = rowsWith name text rows := by
  have hnew : rowsWith name text [row] = [] :=
    List.filter_cons_of_neg (by simp [h, hne])
  rw [putRow, rowsWith_append, hnew, List.append_nil, rowsWith, rowsWith, List.filter_filter]
  apply List.filter_congr
  intro r _
  rw [sameKey_singleton r h]
  cases hr : r.cell name == Cell.text text with
  | false => rfl
  | true =>
    rw [beq_iff_eq.1 hr]
    simp [Ne.symm hne]

end

/-! ### Rows of a game -/

section
variable {gameId other : String}

/-- No row of a game is left when its rows are taken out. -/
theorem rowsWith_filter_ne (rows : List Row) :
    rowsWith "game_id" gameId (rows.filter fun r => r.cell "game_id" != .text gameId) = [] := by
  apply List.filter_eq_nil_iff.2
  intro r hr
  have hne := (List.mem_filter.1 hr).2
  simpa using hne

/-- Taking out the rows of one game leaves those of other games. -/
theorem rowsWith_filter_ne_of_ne (hne : other ≠ gameId) (rows : List Row) :
    rowsWith "game_id" gameId (rows.filter fun r => r.cell "game_id" != .text other) =
      rowsWith "game_id" gameId rows := by
  rw [rowsWith, rowsWith, List.filter_filter]
  apply List.filter_congr
  intro r _
  cases hr : r.cell "game_id" == Cell.text gameId with
  | false => rfl
  | true =>
    rw [beq_iff_eq.1 hr]
    simp [Ne.symm hne]

end

/-! ### Writes -/

section
variable (s : Store) (b : BoxScore) (v : Validation) (now : Instant) {gameId : String}

/-- An accepted game takes the place of all of its copies. -/
theorem copies_save (h : b.gameId = gameId) : (s.save b v now).copies gameId =
    { s.copies gameId with accepted := [(gameRow b v .epoch).untimed], setAside := [] } := by
  have hrow : (gameRow b v now).cell "game_id" = .text gameId := congrArg Cell.text h
  simp only [copies, save_eq, gameKey, rowsWith_putRow hrow, h, rowsWith_filter_ne]
  rfl

/-- A game that is set aside takes the place of an earlier copy. -/
theorem copies_setAside (h : b.gameId = gameId) : (s.setAside b v now).copies gameId =
    { s.copies gameId with setAside := [(quarantineRow b v .epoch).untimed] } := by
  have hrow : (quarantineRow b v now).cell "game_id" = .text gameId := congrArg Cell.text h
  simp only [copies, setAside_eq, gameKey, rowsWith_putRow hrow]
  rfl

theorem copies_flag (items : List ReviewItem) (h : ∀ i ∈ items, i.gameId = gameId) :
    (s.flag items now).copies gameId =
      { s.copies gameId with
        review := (s.copies gameId).review ++
          items.map fun i => (reviewRow .epoch i).untimed } := by
  have hrows : rowsWith "game_id" gameId (items.map (reviewRow now)) =
      items.map (reviewRow now) := by
    apply List.filter_eq_self.2
    intro r hr
    obtain ⟨i, hi, rfl⟩ := List.mem_map.1 hr
    exact beq_iff_eq.2 (congrArg Cell.text (h i hi))
  have hnew : (rowsWith "game_id" gameId (s.review.toList ++ items.map (reviewRow now))).map
      Row.untimed = (rowsWith "game_id" gameId s.review.toList).map Row.untimed ++
        items.map fun i => (reviewRow .epoch i).untimed := by
    rw [rowsWith_append, hrows, List.map_append, List.map_map]
    rfl
  simp only [copies, flag, Log.toList_appendAll, hnew]

theorem copies_save_of_ne (h : b.gameId ≠ gameId) :
    (s.save b v now).copies gameId = s.copies gameId := by
  have hrow : (gameRow b v now).cell "game_id" = .text b.gameId := rfl
  simp only [copies, save_eq, gameKey, rowsWith_putRow_of_ne hrow h, rowsWith_filter_ne_of_ne h]

theorem copies_setAside_of_ne (h : b.gameId ≠ gameId) :
    (s.setAside b v now).copies gameId = s.copies gameId := by
  have hrow : (quarantineRow b v now).cell "game_id" = .text b.gameId := rfl
  simp only [copies, setAside_eq, gameKey, rowsWith_putRow_of_ne hrow h]

theorem copies_flag_of_ne (items : List ReviewItem) (h : ∀ i ∈ items, i.gameId ≠ gameId) :
    (s.flag items now).copies gameId = s.copies gameId := by
  have hrows : rowsWith "game_id" gameId (items.map (reviewRow now)) = [] := by
    apply List.filter_eq_nil_iff.2
    intro r hr
    obtain ⟨i, hi, rfl⟩ := List.mem_map.1 hr
    exact fun he => h i hi (Cell.text.inj (beq_iff_eq.1 he))
  simp only [copies, flag, Log.toList_appendAll, rowsWith_append, hrows, List.append_nil]

end

end Store

end Scorebook
