import Scorebook.Proofs.Page.Extraction
import Scorebook.Proofs.Page.Players
import Scorebook.Proofs.Page.Scoreboard

/-!
# Layouts

The signature of a page and the reading of its tables look for the same tables.  A page whose layout
is known is read, unless two tables of hitters do not go together.
-/

namespace Scorebook.Page

variable {tables : List Table}

/-! ### What a signature counts -/

theorem exists_roleTable {role : TableRole} (h : countRole tables role = 2) (side : Side) :
    ∃ t, roleTable? tables role side = some t := by
  have hall : ∀ side ∈ Side.both, (roleTable? tables role side).isSome = true :=
    List.countP_eq_length.1 h
  exact Option.isSome_iff_exists.1 (hall side side.mem_both)

theorem countP_others (test : List String → Bool) :
    (tables.filter fun t => !hasKnownId t).countP (fun t => test t.headers) =
      (tablesByHeaders tables test).length := by
  rw [List.countP_eq_length_filter, List.filter_filter, tablesByHeaders]
  congr 2
  funext t
  exact Bool.and_comm _ _

/-- What a signature of each era has counted. -/
theorem of_era? {era : Era} (h : (Signature.ofTables tables).era? = some era) :
    match era with
    | .modern => countRole tables .hitterNames = 2 ∧ (scoreboard? tables).isSome = true
    | .legacy => countRole tables .hitterNames = 2 ∧ countRole tables .hitterStats = 2
    | .transitional => (scoreboard? tables).isSome = true ∧
        2 ≤ (tablesByHeaders tables areHitterHeaders).length ∧
        2 ≤ (tablesByHeaders tables arePitcherHeaders).length := by
  rw [isSome_scoreboard?, ← countP_others, ← countP_others]
  unfold Signature.era? at h
  split at h
  · rename_i hnames
    split at h
    · rename_i hmodern
      obtain rfl := Option.some.inj h
      exact ⟨hnames, (Bool.and_eq_true_iff.1 hmodern).left⟩
    · split at h
      · rename_i hlegacy
        obtain rfl := Option.some.inj h
        exact ⟨hnames, beq_iff_eq.1 (Bool.and_eq_true_iff.1 hlegacy).right⟩
      · cases h
  · split at h
    · rename_i hothers
      obtain rfl := Option.some.inj h
      obtain ⟨-, -, -, hboard, hhitters, hpitchers⟩ := hothers
      exact ⟨hboard, hhitters, hpitchers⟩
    · cases h

/-! ### Errors of the readers -/

/-- The error says that a side has tables of names and of statistics with different numbers of
rows. -/
def RowsDisagree (tables : List Table) (e : ExtractionError) : Prop :=
  ∃ side names stats, roleTable? tables .hitterNames side = some names ∧
    roleTable? tables .hitterStats side = some stats ∧
    names.rows.length ≠ stats.rows.length ∧
    e = .rowMismatch side names.rows.length stats.rows.length

section
variable {side : Side} {e : ExtractionError}

theorem of_forSides_error {α : Type} {f : Side → Except ExtractionError α}
    (h : forSides f = .error e) : ∃ side, f side = .error e := by
  rcases of_bind_error h with haway | ⟨away, -, h⟩
  · exact ⟨.away, haway⟩
  · rcases of_bind_error h with hhome | ⟨home, -, h⟩
    · exact ⟨.home, hhome⟩
    · cases h

theorem requireRole_eq_ok {role : TableRole} {t : Table} :
    requireRole tables role side = .ok t ↔ roleTable? tables role side = some t := by
  unfold requireRole
  split <;> simp_all

theorem requireRole_ne_error {role : TableRole} (h : countRole tables role = 2) :
    requireRole tables role side ≠ .error e := by
  obtain ⟨t, ht⟩ := exists_roleTable h side
  rw [requireRole_eq_ok.2 ht]
  exact fun h => by cases h

theorem sideTable_ne_error {what : String} (h : 2 ≤ tables.length) :
    sideTable tables side what ≠ .error e := by
  intro he
  unfold sideTable at he
  extract_lets i at he
  have hi : i < tables.length := by cases side <;> exact Nat.lt_of_lt_of_le (by decide) h
  rw [List.getElem?_eq_getElem hi] at he
  cases he

theorem rowsDisagree_of_readModern (hnames : countRole tables .hitterNames = 2)
    (h : readModern tables = .error e) : RowsDisagree tables e := by
  rcases of_bind_error h with h | ⟨hitters, -, h⟩
  · obtain ⟨side, h⟩ := of_forSides_error h
    rcases of_bind_error h with h | ⟨names, hfound, h⟩
    · exact absurd h (requireRole_ne_error hnames)
    · split at h
      · rename_i stats hstats
        obtain ⟨hlength, rfl⟩ := (zippedHitters_eq_error side names stats e).1 h
        exact ⟨side, names, stats, requireRole_eq_ok.1 hfound, hstats, hlength, rfl⟩
      · cases h
  · cases h

theorem rowsDisagree_of_readLegacy (hnames : countRole tables .hitterNames = 2)
    (hstats : countRole tables .hitterStats = 2) (h : readLegacy tables = .error e) :
    RowsDisagree tables e := by
  rcases of_bind_error h with h | ⟨hitters, -, h⟩
  · obtain ⟨side, h⟩ := of_forSides_error h
    rcases of_bind_error h with h | ⟨names, hfound, h⟩
    · exact absurd h (requireRole_ne_error hnames)
    · rcases of_bind_error h with h | ⟨stats, hfound', h⟩
      · exact absurd h (requireRole_ne_error hstats)
      · obtain ⟨hlength, rfl⟩ := (zippedHitters_eq_error side names stats e).1 h
        exact ⟨side, names, stats, requireRole_eq_ok.1 hfound, requireRole_eq_ok.1 hfound',
          hlength, rfl⟩
  · cases h

theorem readTransitional_ne_error (hboard : (scoreboard? tables).isSome = true)
    (hhitters : 2 ≤ (tablesByHeaders tables areHitterHeaders).length)
    (hpitchers : 2 ≤ (tablesByHeaders tables arePitcherHeaders).length) :
    readTransitional tables ≠ .error e := by
  intro h
  obtain ⟨teams, hteams⟩ := Option.isSome_iff_exists.1 hboard
  simp only [readTransitional, hteams] at h
  rcases of_bind_error h with h | ⟨rows, -, h⟩
  · obtain ⟨side, h⟩ := of_forSides_error h
    rcases of_bind_error h with h | ⟨hitting, -, h⟩
    · exact sideTable_ne_error hhitters h
    · rcases of_bind_error h with h | ⟨pitching, -, h⟩
      · exact sideTable_ne_error hpitchers h
      · cases h
  · cases h

/-- A page whose layout is known fails to be read only where rows of hitters do not go together, and
never when its tables were found by their headers. -/
theorem rowsDisagree_of_readLines {era : Era}
    (hera : (Signature.ofTables tables).era? = some era) (h : readLines era tables = .error e) :
    RowsDisagree tables e ∧ era ≠ .transitional := by
  have hcounted := of_era? hera
  cases era with
  | modern =>
    exact ⟨rowsDisagree_of_readModern hcounted.left h, fun hc => by cases hc⟩
  | legacy =>
    exact ⟨rowsDisagree_of_readLegacy hcounted.left hcounted.right h, fun hc => by cases hc⟩
  | transitional =>
    obtain ⟨hboard, hhitters, hpitchers⟩ := hcounted
    exact absurd h (readTransitional_ne_error hboard hhitters hpitchers)

/-- Why a page gave no box score: it has no known layout, its identifier is needed and cannot be
read, or its tables cannot be read. -/
theorem of_extract_error {h : Franchise.History} {p : Page} {gameId : String} {date : Option Date}
    (he : extract h p gameId date = .error e) :
    (Signature.ofTables p.tables).era? = none ∧ e = .noLayout ∨
    (∃ g, (Signature.ofTables p.tables).era? = some .legacy ∧ GameId.decode gameId = .error g ∧
      e = .badGameId g) ∨
    ∃ era, (Signature.ofTables p.tables).era? = some era ∧ readLines era p.tables = .error e := by
  unfold extract at he
  cases hera : (Signature.ofTables p.tables).era? with
  | none =>
    simp only [hera] at he
    exact .inl ⟨rfl, (Except.error.inj he).symm⟩
  | some era =>
    right
    have hread : ∀ (era : Era) (make : Lines → BoxScore),
        (readLines era p.tables >>= fun lines => .ok (make lines)) = .error e →
        readLines era p.tables = .error e := by
      intro era make hrest
      rcases of_bind_error hrest with hlines | ⟨lines, -, hrest⟩
      · exact hlines
      · cases hrest
    simp only [hera] at he
    split at he
    · exact .inr ⟨_, rfl, hread _ _ he⟩
    · rename_i g hg
      exact .inl ⟨g, rfl, hg, (Except.error.inj he).symm⟩
    · exact .inr ⟨_, rfl, hread _ _ he⟩

end

/-- A page whose layout is known is read, unless rows of hitters do not go together, which cannot
happen to tables that were found by their headers.  Its scoreboard is read exactly when its
signature has one, so a modern page has its teams from a scoreboard, and no row that does not exist
is taken.  So a page gives no box score only because it has no known layout, because rows disagree,
or because a legacy page comes with an identifier that cannot be read. -/
theorem known_layouts_read (tables : List Table) :
    (∀ era, (Signature.ofTables tables).era? = some era →
      (∃ lines, readLines era tables = .ok lines) ∨
      ∃ e, readLines era tables = .error e ∧ RowsDisagree tables e ∧ era ≠ .transitional) ∧
    (scoreboard? tables).isSome = (Signature.ofTables tables).hasScoreboard ∧
    ((Signature.ofTables tables).era? = some .modern → ∀ lines,
      readLines .modern tables = .ok lines → scoreboard? tables = some lines.teams) ∧
    scoreboardByRows? tables = some (scoreboard? tables) ∧
    ∀ h info gameId date e, extract h ⟨tables, info⟩ gameId date = .error e →
      (Signature.ofTables tables).era? = none ∧ e = .noLayout ∨
      RowsDisagree tables e ∨
      ∃ g, (Signature.ofTables tables).era? = some .legacy ∧ GameId.decode gameId = .error g ∧
        e = .badGameId g := by
  refine ⟨fun era hera => ?_, isSome_scoreboard?, fun hera lines hlines => ?_,
    scoreboardByRows?_eq, fun h info gameId date e he => ?_⟩
  · cases hread : readLines era tables with
    | ok lines => exact .inl ⟨lines, rfl⟩
    | error e => exact .inr ⟨e, rfl, rowsDisagree_of_readLines hera hread⟩
  · obtain ⟨teams, hteams⟩ := Option.isSome_iff_exists.1 (of_era? hera).right
    obtain ⟨hitters, -, hmade⟩ := of_bind_ok hlines
    rw [← Except.ok.inj hmade, hteams, Option.getD_some]
  · rcases of_extract_error he with hnone | hid | ⟨era, hera, hread⟩
    · exact .inl hnone
    · exact .inr (.inr hid)
    · exact .inr (.inl (rowsDisagree_of_readLines hera hread).left)

/-- A legacy page with a hitter who has no statistics. -/
def unequalTables : List Table :=
  [⟨some "tblAwayHitter1", [], [[]]⟩, ⟨some "tblAwayHitter3", [], []⟩,
    ⟨some "tblHomeHitter1", [], []⟩, ⟨some "tblHomeHitter3", [], []⟩]

/-- A modern page of empty tables. -/
def boardedTables : List Table :=
  [⟨none, ["TEAM", "R", "H"], [[], []]⟩, ⟨some "tblAwayHitter1", [], []⟩,
    ⟨some "tblHomeHitter1", [], []⟩, ⟨some "tblAwayPitcher", [], []⟩,
    ⟨some "tblHomePitcher", [], []⟩]

theorem known_layouts_of_unequal_and_boarded :
    (∃ e, readLines .legacy unequalTables = .error e ∧ RowsDisagree unequalTables e) ∧
    (∃ lines, readLines .modern boardedTables = .ok lines ∧
      scoreboard? boardedTables = some lines.teams) ∧
    ∃ e, extract (.ofReference ⟨[], [], [], [], []⟩) ⟨unequalTables, none⟩ "20240323HHLG0" none =
      .error e ∧ RowsDisagree unequalTables e := by
  obtain ⟨hlegacy, -, -, -, herrors⟩ := known_layouts_read unequalTables
  obtain ⟨hmodern, -, hteams, -, -⟩ := known_layouts_read boardedTables
  have hunequal : (Signature.ofTables unequalTables).era? = some .legacy := by decide +kernel
  have hboarded : (Signature.ofTables boardedTables).era? = some .modern := by decide +kernel
  refine ⟨?_, ?_, ?_⟩
  · have hfails : (readLines .legacy unequalTables).isOk = false := by decide +kernel
    rcases hlegacy .legacy hunequal with ⟨lines, hlines⟩ | ⟨e, he, hrows, -⟩
    · rw [hlines] at hfails
      cases hfails
    · exact ⟨e, he, hrows⟩
  · have hreads : (readLines .modern boardedTables).isOk = true := by decide +kernel
    rcases hmodern .modern hboarded with ⟨lines, hlines⟩ | ⟨e, he, -, -⟩
    · exact ⟨lines, hlines, hteams hboarded lines hlines⟩
    · rw [he] at hreads
      cases hreads
  · have hfails : (extract (.ofReference ⟨[], [], [], [], []⟩) ⟨unequalTables, none⟩
        "20240323HHLG0" none).isOk = false := by decide +kernel
    have hdecoded : (GameId.decode "20240323HHLG0").isOk = true := by decide +kernel
    cases he : extract (.ofReference ⟨[], [], [], [], []⟩) ⟨unequalTables, none⟩ "20240323HHLG0"
        none with
    | ok b =>
      rw [he] at hfails
      cases hfails
    | error e =>
      rcases herrors _ _ _ _ e he with ⟨hnone, -⟩ | hrows | ⟨g, -, hg, -⟩
      · rw [hunequal] at hnone
        cases hnone
      · exact ⟨e, rfl, hrows⟩
      · rw [hg] at hdecoded
        cases hdecoded

end Scorebook.Page
