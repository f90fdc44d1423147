import Mathlib.Data.List.Nodup
import Scorebook.Proofs.Store.History

/-!
# Rosters of a store

The roster of a store is the image of the entries that were added last, one for each player, team
and season.  This is a fact about rows; a question is then answered from the entries alone.
-/

namespace Scorebook

namespace RosterEntry

/-- What an entry is about: a player with a team in a season. -/
def spot (e : RosterEntry) : PlayerId × String × Int := (e.player, e.team, e.season)

def candidate (e : RosterEntry) : Candidate := ⟨e.player, e.uniform⟩

/-- Whether an entry answers a question; blanks around the names do not count. -/
def answers (q : RosterQuery) (e : RosterEntry) : Bool :=
  Text.trimmed e.name == Text.trimmed q.name && e.team == q.team && e.season == q.season

theorem spot_of_answers {q : RosterQuery} {e : RosterEntry} (h : e.answers q = true) :
    e.spot = (e.player, q.team, q.season) := by
  simp only [answers, Bool.and_eq_true, beq_iff_eq] at h
  rw [spot, h.1.2, h.2]

end RosterEntry

namespace Store
open Text

/-! ### The log -/

def Operation.entryFor? (spot : PlayerId × String × Int) : Operation → Option RosterEntry
  | addRosterEntry e => if e.spot = spot then some e else none
  | _ => none

/-- The entry that was added last for a player with a team in a season. -/
def lastAdded? (spot : PlayerId × String × Int) (ops : List Operation) : Option RosterEntry :=
  (ops.filterMap (Operation.entryFor? spot)).getLast?

section
variable {spot : PlayerId × String × Int} {ops : List Operation} {e : RosterEntry}

theorem lastAdded?_concat (o : Operation) :
    lastAdded? spot (ops ++ [o]) = (o.entryFor? spot).or (lastAdded? spot ops) :=
  getLast?_filterMap_concat ..

theorem spot_of_lastAdded? (h : lastAdded? spot ops = some e) : e.spot = spot := by
  obtain ⟨o, -, he⟩ := List.mem_filterMap.1 (List.mem_of_getLast? h)
  cases o with
  | addRosterEntry d =>
    obtain ⟨hspot, hd⟩ := Option.ite_none_right_eq_some.1 he
    cases hd
    exact hspot
  | _ => cases he

end

/-! ### Rows -/

theorem addRosterEntry_eq (s : Store) (e : RosterEntry) :
    s.addRosterEntry e = { s with roster := putRow rosterKey (rosterRow e) s.roster } := by
  have hall : ∀ name ∈ (rosterRow e).map Prod.fst, name ∈ rosterKey ++ rosterUpdates := by
    have hnames : (rosterRow e).map Prod.fst = rosterColumns.map Column.name := rfl
    rw [hnames]
    decide
  rw [addRosterEntry, mergeRow_eq_putRow hall]

@[simp] theorem rosterRow_cells (e : RosterEntry) :
    (rosterRow e).cell "player_id" = .ofCount e.player.number ∧
      (rosterRow e).cell "name" = .text (trimmed e.name) ∧
      (rosterRow e).cell "team_code" = .text e.team ∧
      (rosterRow e).cell "season_year" = .int e.season ∧
      (rosterRow e).cell "uniform_no" = .ofText? e.uniform := ⟨rfl, rfl, rfl, rfl, rfl⟩

theorem sameKey_rosterRow (d e : RosterEntry) :
    (rosterRow d).sameKey rosterKey (rosterRow e) = decide (d.spot = e.spot) := by
  have hplayer : d.player.number.toNat = e.player.number.toNat ↔ d.player = e.player := by
    rw [UInt32.toNat_inj]
    exact ⟨congrArg PlayerId.mk, congrArg PlayerId.number⟩
  rw [Bool.eq_iff_iff, decide_eq_true_iff]
  simp [Row.sameKey, rosterKey, Cell.ofCount, RosterEntry.spot, hplayer]

theorem putRow_rosterRow (es : List RosterEntry) (e : RosterEntry) :
    putRow rosterKey (rosterRow e) (es.map rosterRow) =
      (es.filter (fun d => d.spot ≠ e.spot) ++ [e]).map rosterRow := by
  have hkept : (fun r : Row => !r.sameKey rosterKey (rosterRow e)) ∘ rosterRow =
      fun d => decide (d.spot ≠ e.spot) := by
    funext d
    simp [sameKey_rosterRow]
  rw [putRow, List.filter_map, hkept, List.map_append]
  rfl

/-- The entries that were added last, one for each player, team and season. -/
structure LastEntries (ops : List Operation) (es : List RosterEntry) : Prop where
  distinct : (es.map RosterEntry.spot).Nodup
  mem_iff : ∀ e, e ∈ es ↔ lastAdded? e.spot ops = some e

section
variable {ops : List Operation} {es : List RosterEntry}

/-- An entry that is added takes the place of the one that is about the same. -/
theorem LastEntries.add (h : LastEntries ops es) (e : RosterEntry) :
    LastEntries (ops ++ [.addRosterEntry e]) (es.filter (fun d => d.spot ≠ e.spot) ++ [e]) where
  distinct := by
    have hold : ((es.filter fun d => d.spot ≠ e.spot).map RosterEntry.spot).Nodup :=
      h.distinct.sublist (List.filter_sublist.map _)
    have hnew : e.spot ∉ (es.filter fun d => d.spot ≠ e.spot).map RosterEntry.spot := by
      intro hmem
      obtain ⟨d, hd, hspot⟩ := List.mem_map.1 hmem
      exact of_decide_eq_true (List.mem_filter.1 hd).2 hspot
    rw [List.map_append, List.map_singleton]
    exact hold.append (List.nodup_singleton _) (List.disjoint_singleton.2 hnew)
  mem_iff := by
    intro d
    rw [lastAdded?_concat, Operation.entryFor?, List.mem_append, List.mem_filter, h.mem_iff d]
    by_cases hspot : e.spot = d.spot
    · simp [hspot, eq_comm]
    · have hne : d ≠ e := fun hde => hspot (congrArg RosterEntry.spot hde.symm)
      simp [hspot, hne, Ne.symm hspot]

theorem LastEntries.other (h : LastEntries ops es) {o : Operation}
    (ho : ∀ spot, o.entryFor? spot = none) : LastEntries (ops ++ [o]) es where
  distinct := h.distinct
  mem_iff := by
    intro e
    rw [lastAdded?_concat, ho, Option.none_or]
    exact h.mem_iff e

end

theorem roster_performAll (ops : List Operation) :
    ∃ es, (performAll ops).roster = es.map rosterRow ∧ LastEntries ops es := by
  induction ops using List.reverseRecOn with
  | nil => exact ⟨[], rfl, ⟨List.nodup_nil, fun e => by simp [lastAdded?]⟩⟩
  | append_singleton ops o ih =>
    obtain ⟨es, hrows, hlast⟩ := ih
    rw [performAll_concat]
    cases o with
    | addRosterEntry e =>
      refine ⟨_, ?_, hlast.add e⟩
      rw [Operation.perform, addRosterEntry_eq, hrows, putRow_rosterRow]
    | _ => exact ⟨es, hrows, hlast.other fun _ => rfl⟩

/-! ### Questions -/

theorem rosterRowAnswers_rosterRow (q : RosterQuery) (e : RosterEntry) :
    rosterRowAnswers q (rosterRow e) = e.answers q := by
  rw [rosterRowAnswers, RosterEntry.answers, Bool.eq_iff_iff]
  simp only [rosterRow_cells, Bool.and_eq_true, beq_iff_eq, Cell.text.injEq, Cell.int.injEq]

theorem readCandidate_rosterRow (e : RosterEntry) :
    readCandidate (rosterRow e) = .ok e.candidate := by
  have hplayer : countIn (rosterRow e) "player_id" = .ok e.player.number := countIn_of_cell rfl
  have huniform : optionalTextIn (rosterRow e) "uniform_no" = .ok e.uniform := by
    simp only [optionalTextIn, rosterRow_cells]
    cases e.uniform <;> rfl
  rw [readCandidate, hplayer, huniform]
  rfl

theorem lookup_of_entries {s : Store} {es : List RosterEntry} (h : s.roster = es.map rosterRow)
    (q : RosterQuery) : s.lookup q =
      .ok (((es.filter (·.answers q)).map RosterEntry.candidate).mergeSort
        fun c d => c.player.number ≤ d.player.number) := by
  have hanswers : rosterRowAnswers q ∘ rosterRow = fun e => e.answers q :=
    funext fun e => rosterRowAnswers_rosterRow q e
  have hread : readCandidate ∘ rosterRow = fun e => pure e.candidate :=
    funext readCandidate_rosterRow
  rw [lookup, h, List.filter_map, hanswers, List.mapM_map, hread, List.mapM_pure]
  rfl

section
variable {ops : List Operation} {es : List RosterEntry}

theorem LastEntries.players_distinct (h : LastEntries ops es) (q : RosterQuery) :
    (((es.filter (·.answers q)).map RosterEntry.candidate).map Candidate.player).Nodup := by
  have hspots : (es.filter (·.answers q)).Pairwise fun d e => d.spot ≠ e.spot :=
    (List.pairwise_map.1 h.distinct).filter _
  refine List.pairwise_map.2 (List.pairwise_map.2 (hspots.imp_of_mem ?_))
  intro d e hd he hne hplayer
  have hd' := RosterEntry.spot_of_answers (List.mem_filter.1 hd).2
  have he' := RosterEntry.spot_of_answers (List.mem_filter.1 he).2
  have hplayer' : d.player = e.player := hplayer
  exact hne (by rw [hd', he', hplayer'])

theorem LastEntries.mem_candidates (h : LastEntries ops es) (q : RosterQuery) (c : Candidate) :
    c ∈ (es.filter (·.answers q)).map RosterEntry.candidate ↔
      ∃ e, lastAdded? (c.player, q.team, q.season) ops = some e ∧
        trimmed e.name = trimmed q.name ∧ e.uniform = c.uniform := by
  constructor
  · intro hc
    obtain ⟨e, he, rfl⟩ := List.mem_map.1 hc
    obtain ⟨hmem, hanswers⟩ := List.mem_filter.1 he
    have hlast := (h.mem_iff e).1 hmem
    rw [RosterEntry.spot_of_answers hanswers] at hlast
    simp only [RosterEntry.answers, Bool.and_eq_true, beq_iff_eq] at hanswers
    exact ⟨e, hlast, hanswers.1.1, rfl⟩
  · rintro ⟨e, hlast, hname, huniform⟩
    have hspot := spot_of_lastAdded? hlast
    have hmem : e ∈ es := (h.mem_iff e).2 (hspot ▸ hlast)
    obtain ⟨hplayer, hteam, hseason⟩ :
        e.player = c.player ∧ e.team = q.team ∧ e.season = q.season := by
      simpa [RosterEntry.spot] using hspot
    have hanswers : e.answers q = true := by
      simp only [RosterEntry.answers, Bool.and_eq_true, beq_iff_eq]
      exact ⟨⟨hname, hteam⟩, hseason⟩
    have hcandidate : e.candidate = c := by rw [RosterEntry.candidate, hplayer, huniform]
    exact List.mem_map.2 ⟨e, List.mem_filter.2 ⟨hmem, hanswers⟩, hcandidate⟩

end

theorem ascending_mergeSort {cs : List Candidate} (h : (cs.map Candidate.player).Nodup) :
    (cs.mergeSort fun c d => c.player.number ≤ d.player.number).Pairwise
      fun c d => c.player.number < d.player.number := by
  have hsorted : (cs.mergeSort fun c d => c.player.number ≤ d.player.number).Pairwise
      fun c d => decide (c.player.number ≤ d.player.number) = true := by
    refine List.pairwise_mergeSort (fun a b c hab hbc => ?_) (fun a b => ?_) cs
    · exact decide_eq_true (UInt32.le_trans (of_decide_eq_true hab) (of_decide_eq_true hbc))
    · rw [Bool.or_eq_true, decide_eq_true_iff, decide_eq_true_iff]
      exact UInt32.le_total _ _
  have hdistinct : (cs.mergeSort fun c d => c.player.number ≤ d.player.number).Pairwise
      fun c d => c.player ≠ d.player :=
    List.pairwise_map.1 (((List.mergeSort_perm cs _).map Candidate.player).nodup_iff.2 h)
  refine (hsorted.and hdistinct).imp ?_
  rintro c d ⟨hle, hne⟩
  exact UInt32.lt_of_le_of_ne (of_decide_eq_true hle) fun he => hne (congrArg PlayerId.mk he)

/-- A roster answers a question with the players whose last entry for the team and the season has
the name asked for, blanks at its ends apart: with each of them once, by ascending number, and with
the uniform number of that entry. -/
theorem lookup_names_last_entries (ops : List Operation) (q : RosterQuery) :
    ∃ found, (performAll ops).lookup q = .ok found ∧
      found.Pairwise (fun c d => c.player.number < d.player.number) ∧
      ∀ c, c ∈ found ↔ ∃ e, lastAdded? (c.player, q.team, q.season) ops = some e ∧
        trimmed e.name = trimmed q.name ∧ e.uniform = c.uniform := by
  obtain ⟨es, hrows, hlast⟩ := roster_performAll ops
  refine ⟨_, lookup_of_entries hrows q, ascending_mergeSort (hlast.players_distinct q), fun c => ?_⟩
  rw [List.mem_mergeSort]
  exact hlast.mem_candidates q c

/-- A player who is entered under another name is found under that name only. -/
example :
    let renamed : List Operation := [.addRosterEntry ⟨⟨1⟩, "김민수", "SK", 2009, some "11"⟩,
      .addRosterEntry ⟨⟨1⟩, " 김민우 ", "SK", 2009, none⟩]
    (performAll renamed).lookup ⟨"김민수", "SK", 2009⟩ = .ok [] ∧
      (performAll renamed).lookup ⟨"김민우", "SK", 2009⟩ = .ok [⟨⟨1⟩, none⟩] := by
  cbv

end Store

end Scorebook
