import Scorebook.Proofs.Franchise.Owners
import Scorebook.Proofs.GameId
import Scorebook.Proofs.Page.Extraction

/-!
# Codes on a box score

Where the code of a side comes from: from the printed name or the segment of the identifier, looked
up for a season, or as it stands from the table of segments.  Only in the last case can it be a code
that nobody used in the season of the game.
-/

namespace Scorebook
open Text

/-- What a code stands for in a season: a side that is no franchise, or an entry of the history. -/
def Franchise.History.InUse (h : Franchise.History) (season : Int) (c : String) : Prop :=
  h.designators.contains c = true ∨ ∃ e ∈ h.entries, e.code = c ∧ e.covers season = true

theorem Franchise.History.inUse_of_team {h : Franchise.History} {token c : String} {season : Int}
    (ht : h.team? token season = some c) : h.InUse season c := by
  rcases Franchise.team_cases ht with hc | ⟨-, -, hd⟩
  · exact .inr (Franchise.exists_entry_of_codeInSeason hc)
  · exact .inl hd

theorem GameId.season_eq_year {x : String} {g : GameId} (hg : decode x = .ok g) :
    g.season = g.date.year := by
  obtain ⟨w, hw⟩ := decode_eq_ok_iff.1 hg
  rw [hw.game]

/-- The table of segments is used as it stands when it leads to no team of the season. -/
def GameId.TakenAsIs (g : GameId) (h : Franchise.History) (side : Side) (c : String) : Prop :=
  h.team? (g.segment side) g.season = none ∧ h.segmentCode? (g.segment side) = some c ∧
    h.team? c g.season = none

/-- The code of a segment is that of a team of the season, unless the table is used as it stands. -/
theorem GameId.exists_token_of_team {g : GameId} {h : Franchise.History} {side : Side} {c : String}
    (hc : g.team? h side = some c) :
    (∃ token, h.team? token g.season = some c) ∨ g.TakenAsIs h side c := by
  unfold GameId.team? at hc
  cases hown : h.team? (g.segment side) g.season with
  | some code =>
    simp only [hown] at hc
    obtain rfl := Option.some.inj hc
    exact .inl ⟨_, hown⟩
  | none =>
    simp only [hown] at hc
    obtain ⟨k, hk, hkc⟩ := Option.map_eq_some_iff.1 hc
    cases hagain : h.team? k g.season with
    | some code =>
      rw [hagain, Option.getD_some] at hkc
      subst hkc
      exact .inl ⟨k, hagain⟩
    | none =>
      rw [hagain, Option.getD_none] at hkc
      subst hkc
      exact .inr ⟨hown, hk, hagain⟩

theorem GameId.team_cases {g : GameId} {h : Franchise.History} {side : Side} {c : String}
    (hc : g.team? h side = some c) : h.InUse g.season c ∨ g.TakenAsIs h side c := by
  rcases GameId.exists_token_of_team hc with ⟨token, ht⟩ | hraw
  · exact .inl (Franchise.History.inUse_of_team ht)
  · exact .inr hraw

namespace Page

section
variable {h : Franchise.History} {p : Page} {gameId : String} {date : Option Date}
  {id : Option GameId} {era : Era} {lines : Lines} {b : BoxScore}

theorem Assembled.decode {g : GameId} (ha : Assembled h p gameId date id era lines b)
    (hid : id = some g) : GameId.decode gameId = .ok g := by
  have hdecoded := ha.decoded
  rw [hid] at hdecoded
  cases hg : GameId.decode gameId with
  | ok g' =>
    rw [hg] at hdecoded
    exact congrArg Except.ok (Option.some.inj hdecoded).symm
  | error e =>
    rw [hg] at hdecoded
    cases hdecoded

/-- The season of a box score is that of the given date, or else that of the identifier. -/
theorem Assembled.season (ha : Assembled h p gameId date id era lines b) :
    b.season? = (date.or (id.map (·.date))).map (·.year) := by
  obtain ⟨-, hid, -, -, rfl⟩ := ha
  simp only [BoxScore.season?, assemble]
  cases hdate : date.or (id.map (·.date)) with
  | some d => rfl
  | none =>
    have hnone : id = none := by
      cases id with
      | none => rfl
      | some g => cases date <;> cases hdate
    rw [← hid, hnone]
    rfl

theorem Assembled.team (ha : Assembled h p gameId date id era lines b) (side : Side) :
    b.teams.get side =
      identifyTeam h id ((date.or (id.map (·.date))).map (·.year)) side (lines.teams.get side) := by
  obtain ⟨-, -, -, -, rfl⟩ := ha
  cases side <;> rfl

theorem Assembled.code (ha : Assembled h p gameId date id era lines b) (side : Side) :
    (b.teams.get side).code = ((b.teams.get side).name.bind fun name =>
      b.season?.bind (h.team? name)).or (id.bind fun g => g.team? h side) := by
  rw [ha.team side, ha.season]
  rfl

/-- When the given date agrees with the identifier, the box score has the season of the latter. -/
theorem Assembled.season_of_agrees {g : GameId} (ha : Assembled h p gameId date id era lines b)
    (hid : id = some g) (hagrees : ∀ d, date = some d → d.year = g.season) :
    b.season? = some g.season := by
  rw [ha.season, hid]
  cases date with
  | some d => exact congrArg some (hagrees d rfl)
  | none => exact congrArg some (GameId.season_eq_year (ha.decode hid)).symm

end

/-- A box score carries codes of its season.  The code of a side is a designator or a code of the
history for the season of the box score, with two exceptions: when a date of another year is given,
a code of the segment is one for the season of the identifier, and the table of segments may have
the code for a segment that, like the code itself, stands for no team of that season.  A side whose
printed name stands for no team of the season, and whose segment neither stands for one nor is in
the table, is left open. -/
theorem extracted_codes_in_use {r : Franchise.Reference} {h : Franchise.History}
    (hload : Franchise.History.load r = .ok h) {p : Page} {gameId : String} {date : Option Date}
    {b : BoxScore} (hb : extract h p gameId date = .ok b) (side : Side) :
    (∀ c, (b.teams.get side).code = some c →
      h.designators.contains c = true ∨
      (∃ season, b.season? = some season ∧
        ∃ e ∈ r.history, e.code = c ∧ e.covers season = true) ∨
      ∃ g, GameId.decode gameId = .ok g ∧
        ((∃ d, date = some d ∧ d.year ≠ g.season ∧
            ∃ e ∈ r.history, e.code = c ∧ e.covers g.season = true) ∨
          (h.team? (g.segment side) g.season = none ∧
            h.segmentCode? (g.segment side) = some c ∧ h.team? c g.season = none))) ∧
    ((∀ name season, (b.teams.get side).name = some name → b.season? = some season →
        h.team? name season = none) →
      (∀ g, GameId.decode gameId = .ok g → h.team? (g.segment side) g.season = none ∧
        h.segmentCode? (g.segment side) = none) →
      (b.teams.get side).code = none) := by
  obtain ⟨-, rfl⟩ := Franchise.load_eq_ok_iff.1 hload
  obtain ⟨id, era, lines, ha⟩ := assembled_of_extract hb
  have hcode := ha.code side
  constructor
  · intro c hc
    rw [hcode, Option.or_eq_some_iff] at hc
    rcases hc with hname | ⟨-, hsegment⟩
    · -- The printed name is looked up for the season of the box score itself.
      obtain ⟨name, -, hname⟩ := Option.bind_eq_some_iff.1 hname
      obtain ⟨season, hs, ht⟩ := Option.bind_eq_some_iff.1 hname
      rcases Franchise.History.inUse_of_team ht with hd | he
      · exact .inl hd
      · exact .inr (.inl ⟨season, hs, he⟩)
    · obtain ⟨g, hid, hg⟩ := Option.bind_eq_some_iff.1 hsegment
      have hdecode := ha.decode hid
      rcases GameId.team_cases hg with (hd | he) | hraw
      · exact .inl hd
      · -- The segment is looked up for the season of the identifier.
        by_cases hagrees : ∀ d, date = some d → d.year = g.season
        · exact .inr (.inl ⟨g.season, ha.season_of_agrees hid hagrees, he⟩)
        · push Not at hagrees
          obtain ⟨d, hd, hyear⟩ := hagrees
          exact .inr (.inr ⟨g, hdecode, .inl ⟨d, hd, hyear, he⟩⟩)
      · exact .inr (.inr ⟨g, hdecode, .inr hraw⟩)
  · intro hname hsegment
    rw [hcode, Option.or_eq_none_iff]
    constructor
    · rw [Option.bind_eq_none_iff]
      intro name hn
      rw [Option.bind_eq_none_iff]
      intro season hs
      exact hname name season hn hs
    · rw [Option.bind_eq_none_iff]
      intro g hid
      obtain ⟨hown, htable⟩ := hsegment g (ha.decode hid)
      simp only [GameId.team?, hown, htable, Option.map_none]

/-- A history that begins in 1982, with a table of segments for its only code. -/
def lateReference : Franchise.Reference where
  history := [⟨⟨1⟩, "SS", 1982, none⟩]
  modern := [⟨⟨1⟩, "SS"⟩]
  designators := []
  names := []
  segments := [⟨"SS", "SS"⟩]

theorem load_lateReference :
    Franchise.History.load lateReference = .ok (.ofReference lateReference) := by
  have hsorted : lateReference.history.Pairwise fun a b => a.first ≤ b.first := by decide
  have hproblem : Franchise.firstProblem? lateReference = none := by
    simp only [Franchise.firstProblem?, Franchise.timeline_of_sorted hsorted]
    decide +kernel
  exact Franchise.load_eq_ok_iff.2 ⟨hproblem, rfl⟩

/-- A legacy page without rows. -/
def emptyLegacyPage : Page where
  tables := [⟨some "tblAwayHitter1", [], []⟩, ⟨some "tblAwayHitter3", [], []⟩,
    ⟨some "tblHomeHitter1", [], []⟩, ⟨some "tblHomeHitter3", [], []⟩]
  info := none

theorem exists_extracted (gameId : String) (date : Option Date) (code name : Option String)
    (season : Option Int)
    (hview : (extract (.ofReference lateReference) emptyLegacyPage gameId date).toOption.map
      (fun b => ((b.teams.get .away).code, (b.teams.get .home).name, b.season?)) =
        some (code, name, season)) :
    ∃ b, extract (.ofReference lateReference) emptyLegacyPage gameId date = .ok b ∧
      (b.teams.get .away).code = code ∧ (b.teams.get .home).name = name ∧ b.season? = season := by
  obtain ⟨b, hb, hview⟩ := Option.map_eq_some_iff.1 hview
  simp only [Prod.mk.injEq] at hview
  cases hextract : extract (.ofReference lateReference) emptyLegacyPage gameId date with
  | error e =>
    rw [hextract] at hb
    cases hb
  | ok b' =>
    rw [hextract] at hb
    obtain rfl := Option.some.inj hb
    exact ⟨b', rfl, hview⟩

/-- A year before the history begins a box score still has its code, which is neither a designator
nor in use: from the table of segments, or from an identifier of another year than the date. -/
theorem code_before_history :
    Franchise.History.load lateReference = .ok (.ofReference lateReference) ∧
    (∃ b, extract (.ofReference lateReference) emptyLegacyPage "19810412SSLT0" none = .ok b ∧
      (b.teams.get .away).code = some "SS" ∧ b.season? = some 1981) ∧
    (∃ b, extract (.ofReference lateReference) emptyLegacyPage "19900412SSLT0"
        (some ⟨1981, 4, 12, by decide⟩) = .ok b ∧
      (b.teams.get .away).code = some "SS" ∧ b.season? = some 1981) ∧
    ¬((Franchise.History.ofReference lateReference).designators.contains "SS" = true ∨
      ∃ e ∈ lateReference.history, e.code = "SS" ∧ e.covers 1981 = true) := by
  obtain ⟨b, hb, hcode, -, hs⟩ := exists_extracted "19810412SSLT0" none (some "SS") none
    (some 1981) (by decide +kernel)
  obtain ⟨b', hb', hcode', -, hs'⟩ := exists_extracted "19900412SSLT0"
    (some ⟨1981, 4, 12, by decide⟩) (some "SS") none (some 1981) (by decide +kernel)
  exact ⟨load_lateReference, ⟨b, hb, hcode, hs⟩, ⟨b', hb', hcode', hs'⟩, by decide⟩

/-- In 1990 the code is one of the season, and the side of an unknown segment is left open. -/
theorem codes_in_history :
    ∃ b, extract (.ofReference lateReference) emptyLegacyPage "19900412SSLT0" none = .ok b ∧
      (∃ season, b.season? = some season ∧
        ∃ e ∈ lateReference.history, e.code = "SS" ∧ e.covers season = true) ∧
      (b.teams.get .home).code = none := by
  obtain ⟨b, hb, haway, hname, -⟩ := exists_extracted "19900412SSLT0" none (some "SS") none
    (some 1990) (by decide +kernel)
  have hlookups : (GameId.decode "19900412SSLT0").toOption.map (fun g =>
      ((Franchise.History.ofReference lateReference).team? (g.segment .away) g.season,
        (Franchise.History.ofReference lateReference).team? (g.segment .home) g.season,
        (Franchise.History.ofReference lateReference).segmentCode? (g.segment .home))) =
          some (some "SS", none, none) := by decide +kernel
  obtain ⟨hused, -⟩ := extracted_codes_in_use load_lateReference hb .away
  obtain ⟨-, hopen⟩ := extracted_codes_in_use load_lateReference hb .home
  refine ⟨b, hb, ?_, ?_⟩
  · rcases hused "SS" haway with hd | huse | ⟨g, hg, ⟨d, hd, -⟩ | ⟨hnone, -⟩⟩
    · exact absurd hd (by decide)
    · exact huse
    · cases hd
    · -- The segment stands for the team of the season itself.
      rw [hg] at hlookups
      obtain ⟨hteam, -⟩ := Prod.mk.inj (Option.some.inj hlookups)
      exact absurd (hteam.symm.trans hnone) (Option.some_ne_none _)
  · refine hopen (fun name season hn => ?_) fun g hg => ?_
    · cases hname.symm.trans hn
    · rw [hg] at hlookups
      exact Prod.mk.inj (Prod.mk.inj (Option.some.inj hlookups)).2

end Page

end Scorebook
