import Scorebook.Proofs.Page.Rows
import Scorebook.Proofs.Page.Teams
import Scorebook.Proofs.Validation

/-!
# Records extracted from pages

Whatever its layout, a page gives a record whose rows stand in their places under the codes of their
sides, whose sides have as many halves, and whose franchise codes are canonical.
-/

namespace Scorebook.Page

/-! ### Layouts -/

/-- What every layout reads from a page. -/
structure Lines.InOrder (lines : Lines) : Prop where
  hitters : ∀ side, HittersInOrder side none (lines.hitters.get side)
  pitchers : ∀ side, PitchersInOrder side none (lines.pitchers.get side)
  halves : lines.teams.away.halves.length = lines.teams.home.halves.length

theorem of_forSides {α : Type} {f : Side → Except ExtractionError α} {x : PerSide α}
    (h : forSides f = .ok x) (side : Side) : f side = .ok (x.get side) := by
  obtain ⟨away, haway, h⟩ := of_bind_ok h
  obtain ⟨home, hhome, h⟩ := of_bind_ok h
  obtain rfl := Except.ok.inj h
  cases side
  · exact haway
  · exact hhome

/-- The halves are counted by the headers, not by the cells of a row. -/
theorem length_halvesOf (t : Table) (row row' : List Cell) :
    (halvesOf t row).length = (halvesOf t row').length := by
  simp only [halvesOf, List.length_map]

theorem length_halves_scoreboard {tables : List Table} {teams : PerSide TeamLine}
    (h : scoreboard? tables = some teams) :
    teams.away.halves.length = teams.home.halves.length := by
  unfold scoreboard? at h
  split at h
  · obtain rfl := Option.some.inj h
    exact length_halvesOf _ _ _
  · obtain ⟨team, -, h⟩ := Option.bind_eq_some_iff.1 h
    obtain ⟨innings, -, h⟩ := Option.bind_eq_some_iff.1 h
    obtain ⟨totals, -, h⟩ := Option.bind_eq_some_iff.1 h
    obtain rfl := Option.some.inj h
    exact length_halvesOf _ _ _

section
variable {tables : List Table} {side : Side} {t : Table} (hread : ∀ t ∈ tables, t.WellRead)
include hread

theorem wellRead_roleTable {role : TableRole} (h : roleTable? tables role side = some t) :
    t.WellRead :=
  hread t (List.mem_of_find?_eq_some h)

theorem wellRead_requireRole {role : TableRole} (h : requireRole tables role side = .ok t) :
    t.WellRead := by
  unfold requireRole at h
  split at h
  · rename_i found hfound
    obtain rfl := Except.ok.inj h
    exact wellRead_roleTable hread hfound
  · cases h

theorem wellRead_sideTable {test : List String → Bool} {what : String}
    (h : sideTable (tablesByHeaders tables test) side what = .ok t) : t.WellRead := by
  unfold sideTable at h
  extract_lets i at h
  split at h
  · rename_i found hfound
    obtain rfl := Except.ok.inj h
    exact hread found (List.mem_filter.1 (List.mem_of_getElem? hfound)).left
  · cases h

theorem pitchersInOrder_pitchersById (side : Side) :
    PitchersInOrder side none ((pitchersById tables).get side) := by
  rw [pitchersById, PerSide.get_ofFn]
  cases ht : roleTable? tables .pitchers side with
  | none => exact rowsInOrder_nil
  | some t => exact pitchersInOrder_pitchers (wellRead_roleTable hread ht)

theorem inOrder_readModern {lines : Lines} (h : readModern tables = .ok lines) :
    lines.InOrder := by
  obtain ⟨rows, hrows, h⟩ := of_bind_ok h
  obtain rfl := Except.ok.inj h
  refine ⟨fun side => ?_, pitchersInOrder_pitchersById hread, ?_⟩
  · obtain ⟨names, hnames, hside⟩ := of_bind_ok (of_forSides hrows side)
    have hnames := wellRead_requireRole hread hnames
    split at hside
    · rename_i stats hstats
      exact hittersInOrder_zippedHitters hnames (wellRead_roleTable hread hstats) hside
    · obtain hside := Except.ok.inj hside
      rw [← hside]
      exact hittersInOrder_hitters hnames
  · cases hteams : scoreboard? tables with
    | none => rfl
    | some teams => exact length_halves_scoreboard hteams

theorem inOrder_readLegacy {lines : Lines} (h : readLegacy tables = .ok lines) :
    lines.InOrder := by
  obtain ⟨rows, hrows, h⟩ := of_bind_ok h
  obtain rfl := Except.ok.inj h
  refine ⟨fun side => ?_, pitchersInOrder_pitchersById hread, rfl⟩
  obtain ⟨names, hnames, hside⟩ := of_bind_ok (of_forSides hrows side)
  obtain ⟨stats, hstats, hside⟩ := of_bind_ok hside
  exact hittersInOrder_zippedHitters (wellRead_requireRole hread hnames)
    (wellRead_requireRole hread hstats) hside

theorem inOrder_readTransitional {lines : Lines} (h : readTransitional tables = .ok lines) :
    lines.InOrder := by
  unfold readTransitional at h
  split at h
  · cases h
  · rename_i teams hteams
    obtain ⟨rows, hrows, h⟩ := of_bind_ok h
    obtain rfl := Except.ok.inj h
    have hsides : ∀ side, HittersInOrder side none (rows.get side).1 ∧
        PitchersInOrder side none (rows.get side).2 := by
      intro side
      obtain ⟨hitting, hhitting, hside⟩ := of_bind_ok (of_forSides hrows side)
      obtain ⟨pitching, hpitching, hside⟩ := of_bind_ok hside
      rw [← Except.ok.inj hside]
      exact ⟨hittersInOrder_hitters (wellRead_sideTable hread hhitting),
        pitchersInOrder_pitchers (wellRead_sideTable hread hpitching)⟩
    refine ⟨fun side => ?_, fun side => ?_, length_halves_scoreboard hteams⟩
    · rw [PerSide.get_ofFn]
      exact (hsides side).left
    · rw [PerSide.get_ofFn]
      exact (hsides side).right

theorem inOrder_readLines {era : Era} {lines : Lines} (h : readLines era tables = .ok lines) :
    lines.InOrder := by
  cases era with
  | modern => exact inOrder_readModern hread h
  | legacy => exact inOrder_readLegacy hread h
  | transitional => exact inOrder_readTransitional hread h

end

/-! ### Assembly -/

/-- The rows of a record stand in their places under the codes of their sides, which have as many
halves; the franchise codes are canonical, so validation calls no code invalid. -/
theorem extracted_record_inOrder {h : Franchise.History} {markup gameId : String}
    {date : Option Date} {b : BoxScore}
    (hb : extract h (ofMarkup markup) gameId date = .ok b) :
    (∀ side, HittersInOrder side (b.teams.get side).code (b.hitters.get side) ∧
      PitchersInOrder side (b.teams.get side).code (b.pitchers.get side)) ∧
    b.teams.away.halves.length = b.teams.home.halves.length ∧
    (∀ side c, (b.teams.get side).franchiseCode = some c → h.canonicalCodes.contains c = true) ∧
    ∀ e ∈ (Validation.ofBoxScore h.canonicalCodes b).errors, ¬"Invalid ".toList <+: e.toList := by
  obtain ⟨id, era, lines, ha⟩ := assembled_of_extract hb
  have hlines := inOrder_readLines (fun _ => wellRead_ofMarkup) ha.read
  have hcanonical : ∀ side c, (b.teams.get side).franchiseCode = some c →
      h.canonicalCodes.contains c = true := by
    intro side c hc
    rw [ha.team side] at hc
    obtain ⟨code, -, hc⟩ := Option.bind_eq_some_iff.1 hc
    obtain ⟨season, -, hc⟩ := Option.bind_eq_some_iff.1 hc
    exact Franchise.canonical_of_franchiseCode hc
  refine ⟨?_, ?_, hcanonical, fun e he => Validation.not_invalid_of_canonical hcanonical he⟩
  · rw [ha.made]
    intro side
    simp only [assemble, PerSide.get_ofFn]
    exact ⟨(hlines.hitters side).withTeam (fun _ => rfl) fun _ _ h => h,
      (hlines.pitchers side).withTeam (fun _ => rfl) fun _ _ h => h⟩
  · rw [ha.made]
    exact hlines.halves

/-- A page without known ids whose away hitters are a starter with a link, the totals, and a
substitute. -/
def totalledMarkup : String :=
  "<table><th>팀<th>1<th>R<th>H<tr><td>SS<td>2<tr><td>LT</table>" ++
  "<table><th>순<th>이름<th>AB<tr><td>1<td><a href=?playerId=7>A</a><tr><td><td>TOTAL" ++
  "<tr><td>10<td>B</table><table><th>이름<th>AB</table>" ++
  "<table><th>이름<th>IP<th>SO<tr><td>C</table><table><th>이름<th>IP<th>SO</table>"

def totalledPage : Page :=
  let cell (text : String) : Cell := ⟨text, none, none⟩
  { tables :=
      [⟨none, ["팀", "1", "R", "H"], [[cell "SS", cell "2"], [cell "LT"]]⟩,
        ⟨none, ["순", "이름", "AB"],
          [[cell "1", ⟨"A", some ⟨7⟩, some "A"⟩], [cell "", cell "TOTAL"], [cell "10", cell "B"]]⟩,
        ⟨none, ["이름", "AB"], []⟩, ⟨none, ["이름", "IP", "SO"], [[cell "C"]]⟩,
        ⟨none, ["이름", "IP", "SO"], []⟩]
    info := none }

theorem ofMarkup_totalledMarkup : ofMarkup totalledMarkup = totalledPage :=
  ofMarkup_eq (by decide +kernel)

theorem extracted_record_totalledMarkup :
    ∃ b, extract (.ofReference lateReference) (ofMarkup totalledMarkup) "19900412SSLT0" none =
        .ok b ∧
      b.hitters.away.map (fun r => (r.appearance.name, r.battingOrder)) =
        [("A", some 1), ("B", some 10)] ∧
      HittersInOrder .away (some "SS") b.hitters.away ∧
      PitchersInOrder .away (some "SS") b.pitchers.away ∧
      b.teams.away.halves = [some 2] ∧ b.teams.home.halves.length = 1 ∧
      b.teams.away.franchiseCode = some "SS" ∧
      (Franchise.History.ofReference lateReference).canonicalCodes.contains "SS" = true ∧
      ∀ e ∈ (Validation.ofBoxScore (Franchise.History.ofReference lateReference).canonicalCodes
        b).errors, ¬"Invalid ".toList <+: e.toList := by
  have hview : (extract (.ofReference lateReference) totalledPage "19900412SSLT0" none).toOption.map
      (fun b => (b.hitters.away.map (fun r => (r.appearance.name, r.battingOrder)),
        b.teams.away.code, b.teams.away.halves, b.teams.away.franchiseCode)) =
      some ([("A", some 1), ("B", some 10)], some "SS", [some 2], some "SS") := by decide +kernel
  cases hb : extract (.ofReference lateReference) totalledPage "19900412SSLT0" none with
  | error e =>
    rw [hb] at hview
    cases hview
  | ok b =>
    rw [hb] at hview
    simp only [Except.toOption, Option.map_some, Option.some.injEq, Prod.mk.injEq] at hview
    obtain ⟨hhitters, hcode, hhalves, hfranchise⟩ := hview
    rw [← ofMarkup_totalledMarkup] at hb
    obtain ⟨hrows, hlength, hcanonical, herrors⟩ := extracted_record_inOrder hb
    have haway : HittersInOrder .away b.teams.away.code b.hitters.away ∧
        PitchersInOrder .away b.teams.away.code b.pitchers.away := hrows .away
    rw [hcode] at haway
    rw [hhalves] at hlength
    exact ⟨b, hb, hhitters, haway.left, haway.right, hhalves, hlength.symm, hfranchise,
      hcanonical .away "SS" hfranchise, herrors⟩

end Scorebook.Page
