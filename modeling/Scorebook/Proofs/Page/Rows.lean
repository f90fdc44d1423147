import Scorebook.Page.Layout
import Scorebook.Proofs.Page.Reading

/-!
# Rows of players

The rows that are read off a table are those of players, in order: a row without a name or with the
totals of the team leaves no gap in the places, wherever it stands.
-/

namespace Scorebook.Page
open Text

/-- The appearance in a row of a side, the rows being counted from zero.  A place has 32 bits. -/
structure InPlace (side : Side) (team : Option String) (i : Nat) (a : Appearance) : Prop where
  side : a.side = side
  team : a.team = team
  sequence : a.sequence.toNat = (i + 1) % UInt32.size
  named : isBlankText a.name = false
  notTotals : trimmed a.name ∉ totalNames

/-- Rows of a side, each in its place and with what is said of starters, which may look at its
number. -/
def RowsInOrder {ρ : Type} (view : ρ → Appearance) (starts : Nat → ρ → Prop) (side : Side)
    (team : Option String) (rows : List ρ) : Prop :=
  ∀ i r, rows[i]? = some r → InPlace side team i (view r) ∧ starts i r

def HittersInOrder : Side → Option String → List HitterRow → Prop :=
  RowsInOrder HitterRow.appearance fun _ r =>
    r.isStarter = true ↔ ∃ o, r.battingOrder = some o ∧ o ≤ 9

def PitchersInOrder : Side → Option String → List PitcherRow → Prop :=
  RowsInOrder PitcherRow.appearance fun i r => r.isStarting = true ↔ i % UInt32.size = 0

section
variable {ρ : Type} {view : ρ → Appearance} {starts : Nat → ρ → Prop} {side : Side}
  {team code : Option String} {rows : List ρ}

theorem rowsInOrder_nil : RowsInOrder view starts side team [] := by
  intro i r hr
  cases hr

theorem RowsInOrder.withTeam {f : ρ → ρ} (h : RowsInOrder view starts side team rows)
    (hview : ∀ r, view (f r) = { view r with team := code })
    (hstarts : ∀ i r, starts i r → starts i (f r)) :
    RowsInOrder view starts side code (rows.map f) := by
  intro i r' hr'
  rw [List.getElem?_map, Option.map_eq_some_iff] at hr'
  obtain ⟨r, hr, rfl⟩ := hr'
  obtain ⟨hplace, hstart⟩ := h i r hr
  refine ⟨?_, hstarts i r hstart⟩
  rw [hview]
  exact ⟨hplace.side, rfl, hplace.sequence, hplace.named, hplace.notTotals⟩

end

theorem cell_mem_of_labelled {α : Type} {column? : String → Option α} {labels : List String}
    {row : List Cell} {c : LabelledCell α} (hc : c ∈ labelled column? labels row) : c.cell ∈ row := by
  obtain ⟨i, hi, rfl⟩ := List.getElem_of_mem hc
  simp only [labelled, List.getElem_zipWith]
  exact List.getElem_mem _

theorem filledText?_eq_some {s t : String} (h : filledText? s = some t) :
    isBlankText t = false := by
  unfold filledText? at h
  split at h
  · cases h
  · rename_i hs
    obtain rfl := Option.some.inj h
    exact isBlankText_trimmed (Bool.eq_false_iff.2 hs)

section
variable {α ρ : Type} [DecidableEq α] {nameColumn : α}

theorem name_of_identity? {cells : List (LabelledCell α)} {name : String} {player : Option PlayerId}
    (hread : ∀ c ∈ cells, c.cell.WellRead)
    (h : identity? nameColumn cells = some (name, player)) :
    isBlankText name = false ∧ trimmed name ∉ totalNames := by
  obtain ⟨named, hnamed, h⟩ := Option.bind_eq_some_iff.1 h
  obtain ⟨found, hfound, h⟩ := Option.bind_eq_some_iff.1 h
  split at h
  · cases h
  · rename_i hlabel
    obtain ⟨rfl, -⟩ := Prod.mk.inj (Option.some.inj h)
    refine ⟨?_, fun hmem => hlabel (List.contains_iff_mem.2 hmem)⟩
    rcases Option.or_eq_some_iff.1 hfound with hlink | ⟨-, htext⟩
    · exact hread named (List.mem_of_find?_eq_some hnamed) found hlink
    · exact filledText?_eq_some htext

/-- The rows that are kept are numbered without gaps. -/
theorem rowsInOrder_playersOf {view : ρ → Appearance} {starts : Nat → ρ → Prop} {side : Side}
    {row : Count → String → Option PlayerId → List (LabelledCell α) → ρ}
    {uniform : List (LabelledCell α) → Option String} {rows : List (List (LabelledCell α))}
    (hread : ∀ cells ∈ rows, ∀ c ∈ cells, c.cell.WellRead)
    (hview : ∀ sequence name player cells, view (row sequence name player cells) =
      ⟨player, name, none, side, uniform cells, sequence⟩)
    (hstarts : ∀ i name player cells, starts i (row (UInt32.ofNat (i + 1)) name player cells)) :
    RowsInOrder view starts side none (playersOf nameColumn row rows) := by
  intro i r hr
  rw [playersOf, List.getElem?_mapIdx, Option.map_eq_some_iff] at hr
  obtain ⟨⟨⟨name, player⟩, cells⟩, hkept, rfl⟩ := hr
  obtain ⟨cells', hmem, hsome⟩ := List.mem_filterMap.1 (List.mem_of_getElem? hkept)
  obtain ⟨found, hfound, hpair⟩ := Option.map_eq_some_iff.1 hsome
  obtain ⟨rfl, rfl⟩ := Prod.mk.inj hpair
  obtain ⟨hnamed, hplayer⟩ := name_of_identity? (hread _ hmem) hfound
  refine ⟨?_, hstarts i name player _⟩
  rw [hview]
  exact ⟨rfl, rfl, UInt32.toNat_ofNat, hnamed, hplayer⟩

end

variable {side : Side}

theorem hittersInOrder_hittersOf {rows : List (List (LabelledCell BattingColumn))}
    (hread : ∀ cells ∈ rows, ∀ c ∈ cells, c.cell.WellRead) :
    HittersInOrder side none (hittersOf side rows) := by
  refine rowsInOrder_playersOf hread (fun _ _ _ _ => rfl) fun i name player cells => ?_
  simp only [hitterRow, Option.any_eq_true]
  exact exists_congr fun o => and_congr_right fun _ => decide_eq_true_iff

theorem hittersInOrder_hitters {t : Table} (hread : t.WellRead) :
    HittersInOrder side none (hitters side t) := by
  refine hittersInOrder_hittersOf fun cells hcells c hc => ?_
  obtain ⟨row, hrow, rfl⟩ := List.mem_map.1 hcells
  exact hread row hrow _ (cell_mem_of_labelled hc)

theorem hittersInOrder_hittersOfBoth {names stats : Table} (hnames : names.WellRead)
    (hstats : stats.WellRead) : HittersInOrder side none (hittersOfBoth side names stats) := by
  refine hittersInOrder_hittersOf fun cells hcells c hc => ?_
  obtain ⟨i, hi, rfl⟩ := List.getElem_of_mem hcells
  rw [List.getElem_zipWith, List.mem_append] at hc
  rcases hc with hc | hc
  · exact hnames _ (List.getElem_mem _) _ (cell_mem_of_labelled hc)
  · exact hstats _ (List.getElem_mem _) _ (cell_mem_of_labelled hc)

theorem hittersInOrder_zippedHitters {names stats : Table} {rows : List HitterRow}
    (hnames : names.WellRead) (hstats : stats.WellRead)
    (h : zippedHitters side names stats = .ok rows) : HittersInOrder side none rows := by
  unfold zippedHitters at h
  split at h
  · rw [← Except.ok.inj h]
    exact hittersInOrder_hittersOfBoth hnames hstats
  · cases h

theorem isStarting_iff (i : Nat) : (UInt32.ofNat (i + 1) == 1) = true ↔ i % UInt32.size = 0 := by
  rw [beq_iff_eq, ← UInt32.toNat_inj, UInt32.toNat_ofNat]
  show (i + 1) % 4294967296 = 1 ↔ i % 4294967296 = 0
  omega

theorem pitchersInOrder_pitchers {t : Table} (hread : t.WellRead) :
    PitchersInOrder side none (pitchers side t) := by
  refine rowsInOrder_playersOf (fun cells hcells c hc => ?_) (fun _ _ _ _ => rfl)
    fun i _ _ _ => isStarting_iff i
  obtain ⟨row, hrow, rfl⟩ := List.mem_map.1 hcells
  exact hread row hrow _ (cell_mem_of_labelled hc)

end Scorebook.Page
