import Scorebook.Proofs.Ingest.Writes
import Scorebook.Proofs.Page.Teams

/-!
# Teams that are flagged

When the page of a game has been dealt with and every write succeeded, a side is flagged as an open
team exactly when it carries no code.  A side without a code has no franchise either, but a side may
carry a code that leads to no franchise in the season of the game: then it is stored without a
franchise and nothing is flagged for it.
-/

namespace Scorebook.Ingest
open Text

/-- The items that a call flags for review, if it succeeds. -/
def flaggedBy : SinkCall × Option String → List ReviewItem
  | (.flag items, none) => items
  | _ => []

/-- The items flagged for review among exchanges. -/
def flaggedItems (xs : List Exchange) : List ReviewItem := (callsOf xs).flatMap flaggedBy

/-- Some item leaves the team of a side open. -/
def FlagsTeam (items : List ReviewItem) (side : Side) : Prop :=
  ∃ i ∈ items, i.side = side ∧ isTeamItem i = true

/-- A game is kept with this record, as accepted or set aside. -/
def KeptAs (xs : List Exchange) (b : BoxScore) : Prop :=
  ∃ v, (.save b v, none) ∈ callsOf xs ∨ (.setAside b v, none) ∈ callsOf xs

section
variable {s : Setup} {g : GameId} {lineup : Lineup} {markup : String} {xs qs : List Exchange}
  {b : BoxScore} {review : List ReviewItem} {o : GameOutcome} {side : Side}

theorem allWritten_iff : AllWritten xs ↔ ∀ call ∈ callsOf xs, call.2 = none := by
  constructor
  · rintro h ⟨c, failure⟩ hcall
    obtain ⟨x, hx, hview⟩ := List.mem_filterMap.1 hcall
    cases x with
    | write c' failure' =>
      cases hview
      exact h c failure hx
    | _ => cases hview
  · exact fun h c failure hx => h (c, failure) (List.mem_filterMap.2 ⟨_, hx, rfl⟩)

theorem flaggedBy_keepingCall (f : Option String) : flaggedBy (keepingCall s b, f) = [] := by
  unfold keepingCall
  split <;> rfl

/-- When no call failed, all that was left open is flagged. -/
theorem CallsFor.flaggedItems (hk : CallsFor s b review (callsOf xs) o) (hw : AllWritten xs) :
    flaggedItems xs = review := by
  have hcalls := allWritten_iff.1 hw
  unfold Ingest.flaggedItems
  generalize callsOf xs = calls at hk hcalls
  cases hk with
  | lost e => cases hcalls _ List.mem_cons_self
  | clear h => rw [List.flatMap_singleton, flaggedBy_keepingCall, h]
  | unflagged h e => cases hcalls _ (List.mem_cons_of_mem _ List.mem_cons_self)
  | flagged h =>
    rw [List.flatMap_cons, flaggedBy_keepingCall, List.nil_append, List.flatMap_singleton]
    rfl

/-- The record that is kept is the resolved one. -/
theorem KeptAs.eq_of_kept {b' : BoxScore} (hk : CallsFor s b review (callsOf xs) o)
    (h : KeptAs xs b') : b' = b := by
  obtain ⟨v, hsave | haside⟩ := h
  · exact (hk.saved_iff.1 ⟨_, hsave⟩).1.symm
  · exact (hk.setAside_iff.1 ⟨_, haside⟩).1.symm

theorem flagsTeam_unresolvedTeams :
    FlagsTeam (unresolvedTeams g b) side ↔ (b.teams.get side).code = none := by
  constructor
  · rintro ⟨i, hi, rfl, -⟩
    obtain ⟨side, hside, rfl⟩ := List.mem_map.1 hi
    exact Option.isNone_iff_eq_none.1 (List.mem_filter.1 hside).2
  · intro hnone
    have hside : side ∈ Side.both.filter fun side => (b.teams.get side).code.isNone :=
      List.mem_filter.2 ⟨side.mem_both, Option.isNone_iff_eq_none.2 hnone⟩
    exact ⟨_, List.mem_map_of_mem hside, rfl, rfl⟩

/-- What is left open of a record includes the team of a side exactly when it has no code. -/
theorem Resolved.flagsTeam (hr : Resolved s g lineup markup qs b review) (side : Side) :
    FlagsTeam review side ↔ (b.teams.get side).code = none := by
  obtain ⟨hread, hsought, -⟩ := hr
  obtain ⟨hsame, hitems, -⟩ := sought_of_seekPlayers hsought
  rw [BoxScore.teams_of_withoutPlayers hsame, ← flagsTeam_unresolvedTeams (g := g)]
  constructor
  · rintro ⟨i, hi, hside, hteam⟩
    rcases List.mem_append.1 hi with hi | hi
    · exact ⟨i, hi, hside, hteam⟩
    · rw [hitems i hi] at hteam
      cases hteam
  · rintro ⟨i, hi, hside, hteam⟩
    exact ⟨i, List.mem_append_left _ hi, hside, hteam⟩

/-- A record is kept only when the page came to it. -/
theorem KeptAs.resolved {result : Attempt} (h : KeptAs xs b)
    (hends : (settle s g lineup (.ok markup)).Ends xs result) :
    ∃ review o, Resolved s g lineup markup (questionsOf xs) b review ∧
      CallsFor s b review (callsOf xs) o := by
  obtain ⟨o, -, hdealt⟩ := dealt_of_settle hends
  generalize hcalls : callsOf xs = calls at hdealt
  cases hdealt with
  | resolved hr hk =>
    obtain rfl := h.eq_of_kept (hcalls ▸ hk)
    exact ⟨_, o, hr, hk⟩
  | _ => obtain ⟨v, h | h⟩ := h <;> rw [hcalls] at h <;> cases h

theorem KeptAs.flagsTeam_iff {result : Attempt} (h : KeptAs xs b)
    (hends : (settle s g lineup (.ok markup)).Ends xs result) (hw : AllWritten xs) (side : Side) :
    FlagsTeam (flaggedItems xs) side ↔ (b.teams.get side).code = none := by
  obtain ⟨review, o, hr, hk⟩ := h.resolved hends
  rw [hk.flaggedItems hw]
  exact hr.flagsTeam side

/-- The teams of a record are identified for the season of the game. -/
theorem Resolved.team (hr : Resolved s g lineup markup qs b review)
    (hg : GameId.decode g.text = .ok g) (side : Side) :
    (b.teams.get side).franchiseCode =
        (b.teams.get side).code.bind (s.history.franchiseCode? · g.season) ∧
      ∀ c, (b.teams.get side).code = some c →
        (∃ token, s.history.team? token g.season = some c) ∨ g.TakenAsIs s.history side c := by
  obtain ⟨hread, hsought, -⟩ := hr
  obtain ⟨hsame, -, -⟩ := sought_of_seekPlayers hsought
  rw [BoxScore.teams_of_withoutPlayers hsame]
  obtain ⟨id, era, lines, ha⟩ := Page.assembled_of_extract hread
  have hid : id = some g := by rw [ha.decoded, hg]; rfl
  have hyear : g.date.year = g.season := (GameId.season_eq_year hg).symm
  have hseason := ha.season_of_agrees hid fun d hd => by
    rw [← Option.some.inj hd]
    exact hyear
  constructor
  · rw [ha.team side, Option.some_or, Option.map_some, hyear]
    simp only [Page.identifyTeam, Option.some_or, Option.bind_some]
  · intro c hc
    rw [ha.code side, Option.or_eq_some_iff, hseason, hid] at hc
    simp only [Option.bind_some] at hc
    rcases hc with hname | ⟨-, hsegment⟩
    · obtain ⟨name, -, ht⟩ := Option.bind_eq_some_iff.1 hname
      exact .inl ⟨name, ht⟩
    · exact GameId.exists_token_of_team hsegment

end

/-- Of a game that is kept while every write succeeds a side is flagged as an open team exactly when
it has no code, and then it has no franchise.  The other sides without a franchise are those whose
code leads to none in the season of the game; nothing is flagged for them.  Such a code comes from
the table of segments as it stands, or is not written as codes are looked up. -/
theorem team_flagged_iff {r : Franchise.Reference} {s : Setup} {x : String} {g : GameId}
    {lineup : Lineup} {markup : String} {xs : List Exchange} {result : Attempt} {b : BoxScore}
    (hload : Franchise.History.load r = .ok s.history) (hg : GameId.decode x = .ok g)
    (h : (settle s g lineup (.ok markup)).Ends xs result) (hw : AllWritten xs)
    (hb : KeptAs xs b) (side : Side) :
    (FlagsTeam (flaggedItems xs) side ↔ (b.teams.get side).code = none) ∧
    ((b.teams.get side).code = none → (b.teams.get side).franchiseCode = none) ∧
    ((FlagsTeam (flaggedItems xs) side ↔ (b.teams.get side).franchiseCode = none) ↔
      ∀ c, (b.teams.get side).code = some c → s.history.franchiseCode? c g.season ≠ none) ∧
    ∀ c, (b.teams.get side).code = some c → s.history.franchiseCode? c g.season = none →
      g.TakenAsIs s.history side c ∨ ¬Franchise.Plain c := by
  obtain ⟨review, o, hr, -⟩ := hb.resolved h
  obtain ⟨hfranchise, htoken⟩ := hr.team (GameId.decode_text hg) side
  have hflags := hb.flagsTeam_iff h hw side
  refine ⟨hflags, fun hnone => by rw [hfranchise, hnone, Option.bind_none], ?_, ?_⟩
  · rw [hflags, hfranchise]
    cases (b.teams.get side).code with
    | none => simp
    | some c => simp
  · intro c hc hnone
    rcases htoken c hc with ⟨token, ht⟩ | hraw
    · right
      intro hplain
      obtain ⟨k, hk, -⟩ := (Franchise.load_resolves_franchises hload token g.season).2.2 c ht hplain
      cases hnone.symm.trans hk
    · exact .inl hraw

/-! ### A game before the history begins -/

/-- Responses with a roster of nobody and a store that keeps everything. -/
def emptyDisk : Responses := { fullDisk with store := fun _ _ => none }

def lateTeamSetup : Setup :=
  { Run.bareSetup with history := .ofReference Page.lateReference }

/-- The markup of a legacy page without rows. -/
def emptyMarkup : String :=
  "<table id=tblAwayHitter1></table><table id=tblAwayHitter3></table>" ++
  "<table id=tblHomeHitter1></table><table id=tblHomeHitter3></table>"

theorem ofMarkup_emptyMarkup : Page.ofMarkup emptyMarkup = Page.emptyLegacyPage :=
  Page.ofMarkup_eq (by decide +kernel)

/-- A game of the year before the history begins. -/
def firstGame : GameId := ⟨"19810412SSLT0", ⟨1981, 4, 12, by decide⟩, 1981, "SS", "LT", 0⟩

theorem decode_firstGame : GameId.decode "19810412SSLT0" = .ok firstGame := by decide +kernel

def firstExchanges : List Exchange :=
  ((settle lateTeamSetup firstGame .empty (.ok emptyMarkup)).carryOut emptyDisk []).1

/-- Code and franchise code of both sides of a record that is set aside. -/
def SinkCall.teamsAside : SinkCall → List (Option String × Option String)
  | .setAside b _ =>
    Side.both.map fun side => ((b.teams.get side).code, (b.teams.get side).franchiseCode)
  | _ => []

theorem calls_firstExchanges :
    (callsOf firstExchanges).map (fun call => (call.1.teamsAside, call.2)) =
      [([(some "SS", none), (none, none)], none), ([], none)] := by
  rw [firstExchanges, settle, inspect, ofMarkup_emptyMarkup]
  decide +kernel

theorem ends_firstExchanges : ∃ result,
    (settle lateTeamSetup firstGame .empty (.ok emptyMarkup)).Ends firstExchanges result :=
  ⟨_, Work.ends_carryOut _ _ _⟩

/-- The game is set aside with a code of the away team that leads to no franchise. -/
theorem exists_firstRecord : AllWritten firstExchanges ∧ ∃ b, KeptAs firstExchanges b ∧
    (b.teams.get .away).code = some "SS" ∧ (b.teams.get .away).franchiseCode = none ∧
    (b.teams.get .home).code = none ∧ (b.teams.get .home).franchiseCode = none := by
  obtain ⟨⟨c, f⟩, rest, hcalls, hfirst, hrest⟩ := List.map_eq_cons_iff.1 calls_firstExchanges
  obtain ⟨⟨c', f'⟩, hsecond, hlast⟩ := List.map_eq_singleton_iff.1 hrest
  obtain ⟨hteams, rfl⟩ := Prod.mk.inj hfirst
  obtain ⟨-, rfl⟩ := Prod.mk.inj hlast
  constructor
  · rw [allWritten_iff, hcalls, hsecond]
    exact fun call hcall => by
      rcases List.mem_cons.1 hcall with rfl | hcall
      · rfl
      · rw [List.mem_singleton.1 hcall]
  · cases c with
    | setAside b v =>
      simp only [SinkCall.teamsAside, Side.both, List.map_cons, List.map_nil, List.cons.injEq,
        Prod.mk.injEq, and_true] at hteams
      obtain ⟨⟨hcode, hfranchise⟩, hcode', hfranchise'⟩ := hteams
      refine ⟨b, ⟨v, .inr ?_⟩, hcode, hfranchise, hcode', hfranchise'⟩
      rw [hcalls]
      exact List.mem_cons_self
    | _ => cases hteams

/-- Nothing is flagged for the away team, although it is stored without a franchise. -/
theorem unflagged_without_franchise :
    Franchise.History.load Page.lateReference = .ok lateTeamSetup.history ∧
    GameId.decode "19810412SSLT0" = .ok firstGame ∧
    (∃ result,
      (settle lateTeamSetup firstGame .empty (.ok emptyMarkup)).Ends firstExchanges result) ∧
    AllWritten firstExchanges ∧
    ∃ b, KeptAs firstExchanges b ∧ (b.teams.get .away).franchiseCode = none ∧
      ¬FlagsTeam (flaggedItems firstExchanges) .away := by
  obtain ⟨result, hends⟩ := ends_firstExchanges
  obtain ⟨hw, b, hb, hcode, hfranchise, -⟩ := exists_firstRecord
  refine ⟨Page.load_lateReference, decode_firstGame, ⟨result, hends⟩, hw, b, hb, hfranchise,
    fun hflags => ?_⟩
  rw [hb.flagsTeam_iff hends hw, hcode] at hflags
  cases hflags

/-- The home team, whose segment leads to nothing, is flagged, and the code of the away team is that
of the table as it stands. -/
theorem flagged_without_code :
    AllWritten firstExchanges ∧ ∃ b, KeptAs firstExchanges b ∧
      (b.teams.get .home).franchiseCode = none ∧ FlagsTeam (flaggedItems firstExchanges) .home ∧
      firstGame.TakenAsIs lateTeamSetup.history .away "SS" := by
  obtain ⟨result, hends⟩ := ends_firstExchanges
  obtain ⟨hw, b, hb, hcode, -, hcode', hfranchise'⟩ := exists_firstRecord
  obtain ⟨hhome, -⟩ := team_flagged_iff Page.load_lateReference decode_firstGame hends hw hb .home
  obtain ⟨-, -, -, haway⟩ :=
    team_flagged_iff Page.load_lateReference decode_firstGame hends hw hb .away
  refine ⟨hw, b, hb, hfranchise', hhome.2 hcode', ?_⟩
  rcases haway "SS" hcode (by decide +kernel) with hraw | hplain
  · exact hraw
  · exact absurd ⟨by decide, by decide +kernel, by decide +kernel⟩ hplain

end Scorebook.Ingest
