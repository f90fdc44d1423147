import Mathlib.Data.Finset.Card
import Mathlib.Data.List.Sort
import Scorebook.Roster.Match

/-!
# Decisions among candidates

A decision among candidates concerns two sets of players: those that are listed at all, and those
that are listed with the uniform number sought.  Of the rows of a player only the first is looked
at, so the decision is the one these two sets call for as long as the rows of a player agree on the
number; rows that disagree make it depend on their order.
-/

namespace Scorebook.PlayerMatch

/-! ### The two sets -/

def wears (uniform : Option String) (c : Candidate) : Bool :=
  (tellingUniform? uniform).any fun u => c.uniform.map Text.trimmed == some u

def players (cs : List Candidate) : Finset PlayerId := (cs.map Candidate.player).toFinset

/-- The players with some row that carries the number. -/
def wearers (uniform : Option String) (cs : List Candidate) : Finset PlayerId :=
  players (cs.filter (wears uniform))

/-- The players whose first row carries the number. -/
def firstWearers (uniform : Option String) (cs : List Candidate) : Finset PlayerId :=
  (players cs).filter fun p => (cs.find? fun c => c.player == p).any (wears uniform)

def Ascending (ps : List PlayerId) : Prop := ps.Pairwise fun p q => p.number.toNat < q.number.toNat

/-- What is to be decided when `all` are listed and `worn` are listed with the number sought. -/
inductive Decision (all worn : Finset PlayerId) : PlayerMatch → Prop
  | missing : all = ∅ → Decision all worn .missing
  | sole {p : PlayerId} : all = {p} → Decision all worn (.unique p)
  | told {p : PlayerId} : 1 < all.card → worn = {p} → Decision all worn (.unique p)
  | ambiguous {ps : List PlayerId} : 1 < all.card → (∀ p, worn ≠ {p}) → Ascending ps →
    ps.toFinset = all → Decision all worn (.ambiguous ps)

/-- The rows of a player agree on whether they carry the number. -/
def Agreeing (uniform : Option String) (cs : List Candidate) : Prop :=
  ∀ c ∈ cs, ∀ d ∈ cs, c.player = d.player → wears uniform c = wears uniform d

instance (ps : List PlayerId) : Decidable (Ascending ps) :=
  inferInstanceAs (Decidable (ps.Pairwise fun p q => p.number.toNat < q.number.toNat))

instance (uniform : Option String) (cs : List Candidate) : Decidable (Agreeing uniform cs) :=
  inferInstanceAs (Decidable (∀ c ∈ cs, ∀ d ∈ cs, c.player = d.player →
    wears uniform c = wears uniform d))

section
variable {uniform : Option String} {cs ds : List Candidate} {c : Candidate} {p : PlayerId}

theorem mem_players : p ∈ players cs ↔ ∃ c ∈ cs, c.player = p := by
  simp [players]

theorem mem_wearers : p ∈ wearers uniform cs ↔ ∃ c ∈ cs, wears uniform c = true ∧ c.player = p := by
  simp only [wearers, mem_players, List.mem_filter, and_assoc]

theorem of_find?_player (h : cs.find? (fun x => x.player == p) = some c) :
    c ∈ cs ∧ c.player = p := by
  have hp := List.find?_some h
  exact ⟨List.mem_of_find?_eq_some h, beq_iff_eq.1 hp⟩

theorem mem_firstWearers : p ∈ firstWearers uniform cs ↔
    ∃ c, cs.find? (fun x => x.player == p) = some c ∧ wears uniform c = true := by
  simp only [firstWearers, Finset.mem_filter, Option.any_eq_true]
  constructor
  · exact fun h => h.2
  · rintro ⟨c, hc, hw⟩
    exact ⟨mem_players.2 ⟨c, of_find?_player hc⟩, c, hc, hw⟩

theorem firstWearers_subset : firstWearers uniform cs ⊆ wearers uniform cs := by
  intro p hp
  obtain ⟨c, hc, hw⟩ := mem_firstWearers.1 hp
  obtain ⟨hmem, hplayer⟩ := of_find?_player hc
  exact mem_wearers.2 ⟨c, hmem, hw, hplayer⟩

/-! ### The first row of every player -/

theorem mem_distinctAfter {seen : List PlayerId} : c ∈ distinctAfter seen cs ↔
    c.player ∉ seen ∧ cs.find? (fun x => x.player == c.player) = some c := by
  induction cs generalizing seen with
  | nil => simp [distinctAfter]
  | cons x xs ih =>
    by_cases hx : x.player = c.player
    · by_cases hs : c.player ∈ seen
      · simp [distinctAfter, hx, hs, ih]
      · have hnot : c ∉ distinctAfter (c.player :: seen) xs := by
          rw [ih]
          exact fun h => h.1 List.mem_cons_self
        simp [distinctAfter, hx, hs, hnot, eq_comm]
    · have hne : c ≠ x := fun h => hx (congrArg Candidate.player h.symm)
      have hne' : c.player ≠ x.player := fun h => hx h.symm
      by_cases hs : x.player ∈ seen
      · simp [distinctAfter, hx, hs, ih]
      · simp [distinctAfter, hx, hs, hne, hne', ih]

theorem mem_distinct :
    c ∈ distinct cs ↔ cs.find? (fun x => x.player == c.player) = some c := by
  simp [distinct, mem_distinctAfter]

theorem nodup_distinctAfter (seen : List PlayerId) (cs : List Candidate) :
    ((distinctAfter seen cs).map Candidate.player).Nodup := by
  induction cs generalizing seen with
  | nil => exact List.nodup_nil
  | cons x xs ih =>
    unfold distinctAfter
    split
    · exact ih seen
    · refine List.nodup_cons.2 ⟨?_, ih _⟩
      intro hmem
      obtain ⟨d, hd, hplayer⟩ := List.mem_map.1 hmem
      exact (mem_distinctAfter.1 hd).1 (hplayer ▸ List.mem_cons_self)

theorem players_distinct (cs : List Candidate) : players (distinct cs) = players cs := by
  ext p
  rw [mem_players, mem_players]
  constructor
  · rintro ⟨c, hc, rfl⟩
    exact ⟨c, List.mem_of_find?_eq_some (mem_distinct.1 hc), rfl⟩
  · rintro ⟨c, hc, rfl⟩
    cases hfind : cs.find? fun x => x.player == c.player with
    | none => exact absurd (beq_iff_eq.2 rfl) (List.find?_eq_none.1 hfind c hc)
    | some first =>
      obtain ⟨-, hplayer⟩ := of_find?_player hfind
      exact ⟨first, mem_distinct.2 (hplayer ▸ hfind), hplayer⟩

theorem wearers_distinct (uniform : Option String) (cs : List Candidate) :
    wearers uniform (distinct cs) = firstWearers uniform cs := by
  ext p
  rw [mem_wearers, mem_firstWearers]
  constructor
  · rintro ⟨c, hc, hw, rfl⟩
    exact ⟨c, mem_distinct.1 hc, hw⟩
  · rintro ⟨c, hc, hw⟩
    obtain ⟨-, hplayer⟩ := of_find?_player hc
    exact ⟨c, mem_distinct.2 (hplayer ▸ hc), hw, hplayer⟩

/-! ### Players in ascending order -/

theorem mem_put {q : PlayerId} {ps : List PlayerId} : q ∈ p.put ps ↔ q = p ∨ q ∈ ps := by
  induction ps with
  | nil => simp [PlayerId.put]
  | cons r rs ih =>
    unfold PlayerId.put
    split
    · exact List.mem_cons
    · split
      · rename_i hp
        simp [hp]
      · rw [List.mem_cons, ih, List.mem_cons]
        exact or_left_comm

theorem ascending_put {ps : List PlayerId} (h : Ascending ps) : Ascending (p.put ps) := by
  induction ps with
  | nil => exact List.pairwise_singleton ..
  | cons r rs ih =>
    obtain ⟨hr, hrs⟩ := List.pairwise_cons.1 h
    unfold PlayerId.put
    split
    · rename_i hlt
      refine List.pairwise_cons.2 ⟨fun q hq => ?_, h⟩
      rcases List.mem_cons.1 hq with rfl | hq
      · exact hlt
      · exact Nat.lt_trans hlt (hr q hq)
    · split
      · exact h
      · rename_i hlt hne
        have hnumber : p.number.toNat ≠ r.number.toNat := by
          intro heq
          have hwords := UInt32.toNat_inj.1 heq
          cases p
          cases r
          exact hne (congrArg PlayerId.mk hwords)
        refine List.pairwise_cons.2 ⟨fun q hq => ?_, ih hrs⟩
        rcases mem_put.1 hq with rfl | hq
        · omega
        · exact hr q hq

theorem mem_foldl_put {done : List PlayerId} :
    p ∈ cs.foldl (fun done c => c.player.put done) done ↔ p ∈ players cs ∨ p ∈ done := by
  induction cs generalizing done with
  | nil => simp [players]
  | cons c rest ih =>
    rw [List.foldl_cons, ih, mem_put, mem_players, mem_players]
    simp only [List.exists_mem_cons_iff, eq_comm (a := p)]
    exact or_left_comm.trans or_assoc.symm

theorem ascending_foldl_put {done : List PlayerId} (h : Ascending done) :
    Ascending (cs.foldl (fun done c => c.player.put done) done) := by
  induction cs generalizing done with
  | nil => exact h
  | cons c rest ih => exact ih (ascending_put h)

theorem eq_of_ascending {ps qs : List PlayerId} (hp : Ascending ps) (hq : Ascending qs)
    (h : ps.toFinset = qs.toFinset) : ps = qs := by
  have hnodup : ∀ {l : List PlayerId}, Ascending l → l.Nodup := by
    intro l hl
    refine List.Pairwise.imp ?_ hl
    rintro a b hlt rfl
    exact Nat.lt_irrefl _ hlt
  have hperm : ps.Perm qs := List.perm_of_nodup_nodup_toFinset_eq (hnodup hp) (hnodup hq) h
  exact hperm.eq_of_pairwise (fun a b _ _ hab hba => absurd hab (Nat.lt_asymm hba)) hp hq

/-! ### Decisions -/

theorem Decision.eq {all worn : Finset PlayerId} {m m' : PlayerMatch} (h : Decision all worn m)
    (h' : Decision all worn m') : m = m' := by
  cases h with
  | missing hall =>
    subst hall
    cases h' with
    | missing _ => rfl
    | sole hsole => cases Finset.singleton_ne_empty _ hsole.symm
    | told hcard _ => cases hcard
    | ambiguous hcard _ _ _ => cases hcard
  | sole hall =>
    subst hall
    cases h' with
    | missing hnone => cases Finset.singleton_ne_empty _ hnone
    | sole hsole => rw [Finset.singleton_injective hsole]
    | told hcard _ => cases Nat.lt_irrefl _ hcard
    | ambiguous hcard _ _ _ => cases Nat.lt_irrefl _ hcard
  | told hcard hworn =>
    subst hworn
    cases h' with
    | missing hnone => exact absurd hcard (by simp [hnone])
    | sole hsole => exact absurd hcard (by simp [hsole])
    | told _ hone => rw [Finset.singleton_injective hone]
    | ambiguous _ hnot _ _ => cases hnot _ rfl
  | ambiguous hcard hnot hasc hids =>
    cases h' with
    | missing hnone => exact absurd hcard (by simp [hnone])
    | sole hsole => exact absurd hcard (by simp [hsole])
    | told _ hone => cases hnot _ hone
    | ambiguous _ _ hasc' hids' => rw [eq_of_ascending hasc hasc' (hids.trans hids'.symm)]

theorem Decision.unique_iff {all worn : Finset PlayerId} {m : PlayerMatch}
    (h : Decision all worn m) (hcard : 1 < all.card) : worn = {p} ↔ m = .unique p := by
  cases h with
  | missing hnone => exact absurd hcard (by simp [hnone])
  | sole hsole => exact absurd hcard (by simp [hsole])
  | told _ hworn => rw [hworn, Finset.singleton_inj, unique.injEq]
  | ambiguous _ hnot _ _ => exact ⟨fun hp => absurd hp (hnot p), fun hp => by cases hp⟩

/-- Only which player alone wears the number matters, and that only among several. -/
theorem Decision.congr {all worn worn' : Finset PlayerId} {m : PlayerMatch}
    (h : Decision all worn m) (hsame : 1 < all.card → ∀ p, worn = {p} ↔ worn' = {p}) :
    Decision all worn' m := by
  cases h with
  | missing hnone => exact .missing hnone
  | sole hsole => exact .sole hsole
  | told hcard hworn => exact .told hcard ((hsame hcard _).1 hworn)
  | ambiguous hcard hnot hasc hids =>
    exact .ambiguous hcard (fun p hp => hnot p ((hsame hcard p).2 hp)) hasc hids

/-- The decision among several players, by the rows that carry the number. -/
theorem ofCandidates_of_several (uniform : Option String) (h : 1 < (distinct cs).length) :
    ofCandidates cs uniform = match (distinct cs).filter (wears uniform) with
      | [one] => .unique one.player
      | _ => .ambiguous ((distinct cs).foldl (fun done c => c.player.put done) []) := by
  rcases hd : distinct cs with _ | ⟨a, _ | ⟨b, rest⟩⟩
  · rw [hd] at h
    cases h
  · rw [hd] at h
    cases Nat.lt_irrefl _ h
  · simp only [ofCandidates, hd]
    cases hu : tellingUniform? uniform with
    | none =>
      have hnone : (a :: b :: rest).filter (wears uniform) = [] :=
        List.filter_eq_nil_iff.2 fun c _ => by simp [wears, hu]
      rw [hnone]
    | some u =>
      have hworn : (a :: b :: rest).filter (wears uniform) = wearing u (a :: b :: rest) :=
        List.filter_congr fun c _ => by simp [wears, hu]
      exact hworn ▸ rfl

theorem card_players_distinct (cs : List Candidate) :
    (players cs).card = (distinct cs).length := by
  have hnodup : ((distinct cs).map Candidate.player).Nodup := nodup_distinctAfter [] cs
  rw [← players_distinct, players, List.toFinset_card_of_nodup hnodup, List.length_map]

theorem card_firstWearers (uniform : Option String) (cs : List Candidate) :
    (firstWearers uniform cs).card = ((distinct cs).filter (wears uniform)).length := by
  have hnodup : (((distinct cs).filter (wears uniform)).map Candidate.player).Nodup :=
    (nodup_distinctAfter [] cs).sublist (List.filter_sublist.map _)
  rw [← wearers_distinct, wearers, players, List.toFinset_card_of_nodup hnodup, List.length_map]

/-- The decision is made by the first rows of the players. -/
theorem decision_ofCandidates (cs : List Candidate) (uniform : Option String) :
    Decision (players cs) (firstWearers uniform cs) (ofCandidates cs uniform) := by
  have hplayers := players_distinct cs
  have hcard := card_players_distinct cs
  rcases hd : distinct cs with _ | ⟨a, _ | ⟨b, rest⟩⟩
  · rw [hd] at hplayers
    simp only [ofCandidates, hd]
    exact .missing hplayers.symm
  · rw [hd] at hplayers
    simp only [ofCandidates, hd]
    exact .sole hplayers.symm
  · have hseveral : 1 < (distinct cs).length := by simp [hd]
    have hworn := wearers_distinct uniform cs
    have hlength := card_firstWearers uniform cs
    rw [ofCandidates_of_several uniform hseveral]
    rw [← hcard] at hseveral
    split
    · rename_i one hone
      rw [wearers, hone] at hworn
      exact .told hseveral hworn.symm
    · rename_i hnot
      have hopen : ∀ p, firstWearers uniform cs ≠ {p} := by
        intro p hp
        rw [hp, Finset.card_singleton] at hlength
        obtain ⟨one, hone⟩ := List.length_eq_one_iff.1 hlength.symm
        exact hnot one hone
      refine .ambiguous hseveral hopen (ascending_foldl_put .nil) ?_
      ext p
      rw [List.mem_toFinset, mem_foldl_put, hplayers]
      simp

/-- The rows that are passed over make no difference exactly when the number singles out the same
player among the first rows as among all rows. -/
theorem decision_wearers_iff (cs : List Candidate) (uniform : Option String) :
    Decision (players cs) (wearers uniform cs) (ofCandidates cs uniform) ↔
      (1 < (players cs).card →
        ∀ p, firstWearers uniform cs = {p} ↔ wearers uniform cs = {p}) := by
  have hfirst := decision_ofCandidates cs uniform
  constructor
  · intro hall hcard p
    rw [hfirst.unique_iff hcard, hall.unique_iff hcard]
  · exact hfirst.congr

theorem Agreeing.firstWearers_eq (h : Agreeing uniform cs) :
    firstWearers uniform cs = wearers uniform cs := by
  refine Finset.Subset.antisymm firstWearers_subset fun p hp => ?_
  obtain ⟨c, hc, hw, rfl⟩ := mem_wearers.1 hp
  have hplayer : c.player ∈ players (distinct cs) := by
    rw [players_distinct]
    exact mem_players.2 ⟨c, hc, rfl⟩
  obtain ⟨first, hfirst, heq⟩ := mem_players.1 hplayer
  have hfind := mem_distinct.1 hfirst
  obtain ⟨hmem, -⟩ := of_find?_player hfind
  have hsame : wears uniform first = wears uniform c := h first hmem c hc heq
  exact mem_firstWearers.2 ⟨first, heq ▸ hfind, hsame.trans hw⟩

theorem Agreeing.congr (h : Agreeing uniform cs) (hsame : ∀ c, c ∈ ds ↔ c ∈ cs) :
    Agreeing uniform ds :=
  fun c hc d hd => h c ((hsame c).1 hc) d ((hsame d).1 hd)

theorem wearers_congr (hsame : ∀ c, c ∈ ds ↔ c ∈ cs) :
    wearers uniform ds = wearers uniform cs := by
  ext p
  simp only [mem_wearers, hsame]

theorem players_congr (hsame : ∀ c, c ∈ ds ↔ c ∈ cs) : players ds = players cs := by
  ext p
  simp only [mem_players, hsame]

end

/-- The decision is that of the first rows of the players.  It is the decision for all rows exactly
when the passed-over rows do not change whom the number singles out, and so whenever the rows of a
player agree on the number; then neither the order of the rows nor their repetition matters. -/
theorem rows_decide (cs : List Candidate) (uniform : Option String) :
    Decision (players cs) (firstWearers uniform cs) (ofCandidates cs uniform) ∧
    (Decision (players cs) (wearers uniform cs) (ofCandidates cs uniform) ↔
      (1 < (players cs).card →
        ∀ p, firstWearers uniform cs = {p} ↔ wearers uniform cs = {p})) ∧
    (Agreeing uniform cs →
      Decision (players cs) (wearers uniform cs) (ofCandidates cs uniform) ∧
      ∀ ds, (∀ c, c ∈ ds ↔ c ∈ cs) → ofCandidates ds uniform = ofCandidates cs uniform) := by
  have hagreeing : ∀ ds, Agreeing uniform ds →
      Decision (players ds) (wearers uniform ds) (ofCandidates ds uniform) := by
    intro ds hds
    rw [← hds.firstWearers_eq]
    exact decision_ofCandidates ds uniform
  refine ⟨decision_ofCandidates cs uniform, decision_wearers_iff cs uniform, fun h => ?_⟩
  refine ⟨hagreeing cs h, fun ds hsame => ?_⟩
  have hds := hagreeing ds (h.congr hsame)
  rw [players_congr hsame, wearers_congr hsame] at hds
  exact hds.eq (hagreeing cs h)

/-- A player listed twice with one number, blanks aside, and another one. -/
def twiceListed : List Candidate :=
  [⟨⟨31⟩, some "7"⟩, ⟨⟨12⟩, some "8"⟩, ⟨⟨31⟩, some " 7 "⟩]

theorem rows_decide_twiceListed :
    Agreeing (some " 8") twiceListed ∧ ofCandidates twiceListed (some " 8") = .unique ⟨12⟩ ∧
    ofCandidates (twiceListed.reverse ++ twiceListed) (some " 8") = .unique ⟨12⟩ := by
  have hagree : Agreeing (some " 8") twiceListed := by decide +kernel
  obtain ⟨-, -, hdecide⟩ := rows_decide twiceListed (some " 8")
  obtain ⟨hdecision, hsame⟩ := hdecide hagree
  have hone : ofCandidates twiceListed (some " 8") = .unique ⟨12⟩ :=
    hdecision.eq (.told (by decide) (by decide +kernel))
  refine ⟨hagree, hone, ?_⟩
  rw [hsame (twiceListed.reverse ++ twiceListed) (by simp)]
  exact hone

/-- A player listed with two numbers, the second of which another player wears. -/
def twoNumbers : List Candidate :=
  [⟨⟨1⟩, some "7"⟩, ⟨⟨2⟩, some "8"⟩, ⟨⟨2⟩, some "7"⟩]

/-- One of two players who are listed with the number is taken, because the row of the other one is
passed over; in the opposite order the same rows are left open. -/
theorem guessed_among_wearers :
    Decision (players twoNumbers) (wearers (some "7") twoNumbers) (.ambiguous [⟨1⟩, ⟨2⟩]) ∧
    ofCandidates twoNumbers (some "7") = .unique ⟨1⟩ ∧
    ofCandidates twoNumbers.reverse (some "7") = .ambiguous [⟨1⟩, ⟨2⟩] ∧
    ¬Decision (players twoNumbers) (wearers (some "7") twoNumbers)
      (ofCandidates twoNumbers (some "7")) := by
  have hcalled : Decision (players twoNumbers) (wearers (some "7") twoNumbers)
      (.ambiguous [⟨1⟩, ⟨2⟩]) := by
    have hboth : wearers (some "7") twoNumbers = {⟨1⟩, ⟨2⟩} := by decide +kernel
    refine .ambiguous (by decide) (fun p hp => ?_) (by decide) (by decide)
    have hcard := congrArg Finset.card (hboth.symm.trans hp)
    rw [Finset.card_singleton] at hcard
    exact absurd hcard (by decide)
  have htaken : ofCandidates twoNumbers (some "7") = .unique ⟨1⟩ := by decide +kernel
  refine ⟨hcalled, htaken, by decide +kernel, fun h => ?_⟩
  cases (h.eq hcalled).symm.trans htaken

end Scorebook.PlayerMatch
