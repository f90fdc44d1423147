import Scorebook.Page.Layout
import Scorebook.Proofs.Page.Labels

/-!
# Rows that are players'

The players of a table are its rows that name one, in their order.  Where names and statistics stand
in two tables, each player is read off the rows of one number in both; what stands in the other rows
can only move its place in the order of appearance.
-/

namespace Scorebook.Page
open Text

/-- The name that a cell prints: the text of its link, or else its own unless that is blank. -/
def Cell.name? (c : Cell) : Option String := c.linkText.or (filledText? c.text)

/-! ### One table -/

section
variable {α ρ : Type} [DecidableEq α] {nameColumn : α} {cells : List (LabelledCell α)}
  {rows : List (List (LabelledCell α))}

def nameCell? (nameColumn : α) (cells : List (LabelledCell α)) : Option Cell :=
  (cells.find? fun c => c.column == some nameColumn).map LabelledCell.cell

/-- Whether a row is a player's: its name cell prints a name, and not that of the totals. -/
def isPlayer (nameColumn : α) (cells : List (LabelledCell α)) : Bool :=
  ((nameCell? nameColumn cells).bind Cell.name?).any fun name => !totalNames.contains (trimmed name)

theorem isSome_identity? : (identity? nameColumn cells).isSome = isPlayer nameColumn cells := by
  unfold identity? isPlayer nameCell?
  cases cells.find? fun c => c.column == some nameColumn with
  | none => rfl
  | some named =>
    show (Option.bind named.cell.name? _).isSome = named.cell.name?.any _
    cases named.cell.name? with
    | none => rfl
    | some name =>
      simp only [Option.bind_some, Option.any_some]
      split
      · rename_i htotals
        rw [htotals]
        rfl
      · rename_i hother
        rw [Bool.eq_false_iff.2 hother]
        rfl

theorem length_playersOf (row : Count → String → Option PlayerId → List (LabelledCell α) → ρ) :
    (playersOf nameColumn row rows).length = (rows.filter (isPlayer nameColumn)).length := by
  rw [playersOf, List.length_mapIdx, List.length_filterMap_eq_countP, List.countP_eq_length_filter]
  congr 2
  funext cells
  rw [Option.isSome_map, isSome_identity?]

/-- The rows that are kept with their identities are those of players, in the same places. -/
theorem getElem?_identified {k : Nat} (h : (rows.filter (isPlayer nameColumn))[k]? = some cells) :
    ∃ identity, identity? nameColumn cells = some identity ∧
      (rows.filterMap fun cells => (identity? nameColumn cells).map (·, cells))[k]? =
        some (identity, cells) := by
  induction rows generalizing k with
  | nil => cases h
  | cons first rest ih =>
    rw [List.filter_cons, ← isSome_identity?] at h
    cases hfirst : identity? nameColumn first with
    | none =>
      rw [hfirst] at h
      obtain ⟨identity, hidentity, hplace⟩ := ih h
      refine ⟨identity, hidentity, ?_⟩
      rw [List.filterMap_cons, hfirst]
      exact hplace
    | some identity =>
      rw [hfirst] at h
      rw [List.filterMap_cons, hfirst]
      cases k with
      | zero =>
        obtain rfl := Option.some.inj h
        exact ⟨identity, hfirst, rfl⟩
      | succ k => exact ih h

/-- Each player's row is made from the cells of the row that stands in its place among the rows of
players. -/
theorem getElem?_playersOf (row : Count → String → Option PlayerId → List (LabelledCell α) → ρ)
    {k : Nat} (h : (rows.filter (isPlayer nameColumn))[k]? = some cells) :
    ∃ name player, identity? nameColumn cells = some (name, player) ∧
      (playersOf nameColumn row rows)[k]? =
        some (row (UInt32.ofNat (k + 1)) name player cells) := by
  obtain ⟨⟨name, player⟩, hidentity, hplace⟩ := getElem?_identified h
  refine ⟨name, player, hidentity, ?_⟩
  rw [playersOf, List.getElem?_mapIdx, hplace, Option.map_some]

end

/-! ### Names and statistics in two tables -/

/-- The cells of the rows of a number in both tables, with their labels. -/
def zippedCells (names stats : Table) (i : Nat) : List (String × Cell) :=
  withLabels (hitterLabel names) (names.rows[i]?.getD []) ++
    withLabels stats.header (stats.rows[i]?.getD [])

def zippedRow (names stats : Table) (i : Nat) : List (LabelledCell BattingColumn) :=
  lookedUp battingColumn? (zippedCells names stats i)

/-- The numbers of the rows that are players', in order. -/
def playerIndexes (names stats : Table) : List Nat :=
  (List.range names.rows.length).filter fun i => isPlayer .name (zippedRow names stats i)

section
variable {side : Side} {names stats names' stats' : Table}

theorem mem_playerIndexes {i : Nat} : i ∈ playerIndexes names stats ↔
    names.rows[i]?.isSome = true ∧ isPlayer .name (zippedRow names stats i) = true := by
  rw [playerIndexes, List.mem_filter, List.mem_range, isSome_getElem?]

theorem zippedHitters_eq_error (side : Side) (names stats : Table) (e : ExtractionError) :
    zippedHitters side names stats = .error e ↔
      names.rows.length ≠ stats.rows.length ∧
        e = .rowMismatch side names.rows.length stats.rows.length := by
  unfold zippedHitters
  split
  · rename_i h
    exact ⟨nofun, fun he => absurd h he.left⟩
  · rename_i h
    exact ⟨fun he => ⟨h, (Except.error.inj he).symm⟩, fun he => he.right ▸ rfl⟩

theorem hittersOfBoth_eq (side : Side) (h : names.rows.length = stats.rows.length) :
    hittersOfBoth side names stats =
      hittersOf side ((List.range names.rows.length).map (zippedRow names stats)) := by
  rw [hittersOfBoth]
  congr 1
  refine List.ext_getElem? fun i => ?_
  rw [List.getElem?_zipWith, List.getElem?_map]
  by_cases hi : i < names.rows.length
  · have hnames := List.getElem?_eq_getElem hi
    have hstats := List.getElem?_eq_getElem (h ▸ hi)
    rw [hnames, hstats, List.getElem?_range hi, Option.map_some, zippedRow, zippedCells, hnames,
      hstats, lookedUp_append]
    show some (labelled battingColumn? (hitterLabels names) _ ++
      labelled battingColumn? stats.labels _) = _
    rw [labelled_hitterLabels (List.getElem_mem hi), labelled_labels (List.getElem_mem _)]
    rfl
  · have hrange : (List.range names.rows.length)[i]? = none :=
      List.getElem?_eq_none (List.length_range ▸ Nat.le_of_not_lt hi)
    rw [List.getElem?_eq_none (Nat.le_of_not_lt hi), hrange]
    rfl

theorem zippedHitters_of_eq (side : Side) (h : names.rows.length = stats.rows.length) :
    zippedHitters side names stats =
      .ok (hittersOf side ((List.range names.rows.length).map (zippedRow names stats))) := by
  rw [← hittersOfBoth_eq side h]
  exact if_pos h

theorem filter_zippedRows :
    ((List.range names.rows.length).map (zippedRow names stats)).filter (isPlayer .name) =
      (playerIndexes names stats).map (zippedRow names stats) :=
  List.filter_map ..

theorem eq_hittersOf_of_zippedHitters {rows : List HitterRow}
    (h : zippedHitters side names stats = .ok rows) :
    rows = hittersOf side ((List.range names.rows.length).map (zippedRow names stats)) := by
  have hlength : names.rows.length = stats.rows.length := by
    by_contra hne
    rw [(zippedHitters_eq_error side names stats _).2 ⟨hne, rfl⟩] at h
    cases h
  rw [zippedHitters_of_eq side hlength] at h
  exact (Except.ok.inj h).symm

/-- The hitters of two tables stand in the order of their numbers, each made from the cells under its
number. -/
theorem hitters_of_zippedHitters {rows : List HitterRow}
    (h : zippedHitters side names stats = .ok rows) :
    rows.length = (playerIndexes names stats).length ∧
    ∀ k i, (playerIndexes names stats)[k]? = some i → ∃ name player,
      identity? .name (zippedRow names stats i) = some (name, player) ∧
      rows[k]? = some (hitterRow side (UInt32.ofNat (k + 1)) name player
        (zippedRow names stats i)) := by
  obtain rfl := eq_hittersOf_of_zippedHitters h
  constructor
  · rw [hittersOf, length_playersOf, filter_zippedRows, List.length_map]
  · intro k i hi
    refine getElem?_playersOf (hitterRow side) ?_
    rw [filter_zippedRows, List.getElem?_map, hi, Option.map_some]

theorem zippedRow_congr (hnames : names.SameForm names') (hstats : stats.SameForm stats') {i : Nat}
    (hi : names'.rows[i]? = names.rows[i]?) (hi' : stats'.rows[i]? = stats.rows[i]?) :
    zippedRow names' stats' i = zippedRow names stats i := by
  rw [zippedRow, zippedRow, zippedCells, zippedCells, hi, hi', hitterLabel_congr hnames,
    hstats.header_eq]

end

/-- Two tables of hitters are put together exactly when they have as many rows.  The hitters are
then those of the numbers whose name cell prints a name that is not the totals', in order, each read
off the cells of its number in both tables.  Tables of the same headers and widths, as they stay
when cells are replaced, give the same hitter for a number under which their rows are the same, up to
the place in the order of appearance, whatever stands in the other rows. -/
theorem zipped_by_position (side : Side) (names stats : Table) :
    (∀ e, zippedHitters side names stats = .error e ↔
      names.rows.length ≠ stats.rows.length ∧
        e = .rowMismatch side names.rows.length stats.rows.length) ∧
    (names.rows.length = stats.rows.length → ∃ rows, zippedHitters side names stats = .ok rows) ∧
    (∀ rows, zippedHitters side names stats = .ok rows →
      rows.length = (playerIndexes names stats).length ∧
      (∀ k i, (playerIndexes names stats)[k]? = some i → ∃ name player,
        identity? .name (zippedRow names stats i) = some (name, player) ∧
        rows[k]? = some (hitterRow side (UInt32.ofNat (k + 1)) name player
          (zippedRow names stats i))) ∧
      ∀ names' stats' rows' i, names.SameForm names' → stats.SameForm stats' →
        names'.rows[i]? = names.rows[i]? → stats'.rows[i]? = stats.rows[i]? →
        zippedHitters side names' stats' = .ok rows' →
        (i ∈ playerIndexes names' stats' ↔ i ∈ playerIndexes names stats) ∧
        ∀ (k k' : Nat) (r r' : HitterRow),
          (playerIndexes names stats)[k]? = some i → rows[k]? = some r →
          (playerIndexes names' stats')[k']? = some i → rows'[k']? = some r' →
          r' = { r with
            appearance := { r.appearance with sequence := r'.appearance.sequence } }) ∧
    ∀ t t' : Table, t'.headers = t.headers → t'.rows.map List.length = t.rows.map List.length →
      t.SameForm t' := by
  refine ⟨zippedHitters_eq_error side names stats, fun h => ⟨_, zippedHitters_of_eq side h⟩,
    fun rows hrows => ?_, fun _ _ => Table.sameForm_of_lengths⟩
  obtain ⟨hlength, hplaced⟩ := hitters_of_zippedHitters hrows
  refine ⟨hlength, hplaced, fun names' stats' rows' i hnames hstats hi hi' hrows' => ?_⟩
  have hcells : zippedRow names' stats' i = zippedRow names stats i :=
    zippedRow_congr hnames hstats hi hi'
  constructor
  · rw [mem_playerIndexes, mem_playerIndexes, hi, hcells]
  · intro k k' r r' hk hr hk' hr'
    obtain ⟨name, player, hidentity, hmade⟩ := hplaced k i hk
    obtain ⟨name', player', hidentity', hmade'⟩ := (hitters_of_zippedHitters hrows').right k' i hk'
    rw [hcells, hidentity] at hidentity'
    obtain ⟨rfl, rfl⟩ := Prod.mk.inj (Option.some.inj hidentity')
    rw [hmade] at hr
    rw [hmade', hcells] at hr'
    rw [← Option.some.inj hr, ← Option.some.inj hr']
    rfl

def textTable (headers : List String) (rows : List (List String)) : Table :=
  ⟨none, headers, rows.map fun row => row.map fun s => ⟨s, none, none⟩⟩

/-- Names of two hitters around the totals. -/
def namesAround (first : String) : Table :=
  textTable ["타순", "포지션", "선수명"] [["1", "二", first], ["", "", "합계"], ["2", "中", "A"]]

def atBatsAround (first : String) : Table := textTable ["타수"] [[first], ["9"], ["4"]]

/-- The second of two hitters of one name keeps his at-bats when the first is gone. -/
theorem zipped_namesakes :
    ∃ rows rows' r r', zippedHitters .away (namesAround "A") (atBatsAround "5") = .ok rows ∧
      zippedHitters .away (namesAround "") (atBatsAround "0") = .ok rows' ∧
      rows[1]? = some r ∧ rows'[0]? = some r' ∧ r.line.counts .atBats = some 4 ∧
      r' = { r with appearance := { r.appearance with sequence := r'.appearance.sequence } } := by
  obtain ⟨-, hok, hrows, hform⟩ := zipped_by_position .away (namesAround "A") (atBatsAround "5")
  obtain ⟨-, hok', hrows', -⟩ := zipped_by_position .away (namesAround "") (atBatsAround "0")
  obtain ⟨rows, hzipped⟩ := hok (by decide)
  obtain ⟨rows', hzipped'⟩ := hok' (by decide)
  obtain ⟨-, hplaced, hsame⟩ := hrows rows hzipped
  obtain ⟨-, hplaced', -⟩ := hrows' rows' hzipped'
  have hsecond : (playerIndexes (namesAround "A") (atBatsAround "5"))[1]? = some 2 := by
    decide +kernel
  have honly : (playerIndexes (namesAround "") (atBatsAround "0"))[0]? = some 2 := by
    decide +kernel
  obtain ⟨name, player, -, hr⟩ := hplaced 1 2 hsecond
  obtain ⟨name', player', -, hr'⟩ := hplaced' 0 2 honly
  obtain ⟨-, hagree⟩ := hsame (namesAround "") (atBatsAround "0") rows' 2 (hform _ _ rfl rfl)
    (hform _ _ rfl rfl) rfl rfl hzipped'
  refine ⟨rows, rows', _, _, hzipped, hzipped', hr, hr', ?_, hagree 1 0 _ _ hsecond hr honly hr'⟩
  show firstValue? (zippedRow _ _ 2) (.stat (.count .atBats)) readCount? = some 4
  decide +kernel

end Scorebook.Page
