import Scorebook.Proofs.Ingest.Acceptance
import Scorebook.Proofs.Ingest.Schedules
import Scorebook.Proofs.Ingest.Seeking

/-!
# The lineup page is best effort

Nothing that comes of the lineup page decides how a game ends.  While sessions open, the roster
answers and writes succeed, the answers for the review page alone say how often a game is tried,
with what result, and what is kept of it up to players: `bareVerdict` says it without players.  The
attempts at a game are compared with it one by one, and two runs through it.
-/

namespace Scorebook.Ingest
open Text

/-! ### Verdicts without players -/

/-- The verdict without the players of its record and without the review items of players. -/
def Verdict.withoutPlayers : Verdict → Verdict
  | .keep b v review => .keep b.withoutPlayers v (review.filter isTeamItem)
  | v => v

theorem Verdict.outcome_withoutPlayers (v : Verdict) : v.withoutPlayers.outcome = v.outcome := by
  cases v <;> rfl

section
variable (h : Franchise.History) (g : GameId)

/-- What an answer for the review page leads to, without players. -/
def bareVerdict : Answer → Verdict
  | .ok markup =>
    match Page.extract h (Page.ofMarkup markup) g.text (some g.date) with
    | .ok b => .keep b.withoutPlayers (.ofBoxScore h.canonicalCodes b) (unresolvedTeams g b)
    | .error .noLayout => .noData
    | .error e => .failed e.message
  | .error e => .failed e.message

/-- The result of a game when the attempt of this number, with this answer, is the last one. -/
def bareResult (k : Nat) (a : Answer) : GameResult :=
  ⟨g.text, k,
    match a with
    | .ok _ => (bareVerdict h g a).outcome
    | .error e => if e.isRetryable then .failedTransient k e.message else .failed e.message⟩

end

theorem isTeamItem_of_mem_unresolvedTeams {g : GameId} {b : BoxScore} {i : ReviewItem}
    (h : i ∈ unresolvedTeams g b) : isTeamItem i = true := by
  obtain ⟨side, -, rfl⟩ := List.mem_map.1 h
  rfl

/-! ### Attempts -/

/-- Sessions open, the roster answers every question, and no write fails. -/
structure Undisturbed (xs : List Exchange) : Prop where
  sessions : Opened xs
  answered : Answered xs
  written : AllWritten xs

theorem Undisturbed.mono {xs ys : List Exchange} (h : Undisturbed ys) (hs : xs ⊆ ys) :
    Undisturbed xs where
  sessions := h.sessions.mono hs
  answered := fun q answer hm => h.answered q answer (hs hm)
  written := fun c failure hm => h.written c failure (hs hm)

/-- Where the roster never fails nothing is disturbed unless a session or a write fails. -/
theorem Undisturbed.of_calm {s : Setup} {xs : List Exchange} (h : Calm s xs)
    (hroster : ∀ q, ∃ cs, s.roster q = .ok cs) : Undisturbed xs where
  sessions := h.sessions
  answered := fun q answer hm => h.answered q answer hm ▸ hroster q
  written := h.written

section
variable {s : Setup} {g : GameId} {lineup : Lineup} {xs : List Exchange}

/-- Whoever is found, a page is examined to the same verdict up to players. -/
theorem withoutPlayers_of_inspect {markup : String} {v : Verdict}
    (h : (inspect s g lineup markup).Ends xs v) (ha : Answered xs) :
    v.withoutPlayers = bareVerdict s.history g (.ok markup) := by
  unfold inspect at h
  unfold bareVerdict
  cases hb : Page.extract s.history (Page.ofMarkup markup) g.text (some g.date) with
  | error e =>
    cases e
    all_goals
      simp only [hb] at h ⊢
      obtain ⟨-, rfl⟩ := h
      rfl
  | ok b =>
    simp only [hb] at h ⊢
    obtain ⟨qs, _, found, rfl, hsought, rfl, rfl⟩ := Work.ends_bind h
    obtain ⟨hsame, hitems, hnone⟩ := sought_of_seekPlayers hsought
    have hplayers : found.items.filter isTeamItem = [] :=
      List.filter_eq_nil_iff.2 fun i hi => Bool.eq_false_iff.1 (hitems i hi)
    have hteams : (unresolvedTeams g b).filter isTeamItem = unresolvedTeams g b :=
      List.filter_eq_self.2 fun i hi => isTeamItem_of_mem_unresolvedTeams hi
    rw [verdictOn, hnone ha.left]
    simp only [Verdict.withoutPlayers, List.filter_append, hplayers, hteams, List.append_nil, hsame,
      Validation.ofBoxScore_of_withoutPlayers hsame]

/-- After an answer for the review page another attempt is made if that may help, and otherwise the
game is kept as the answer says up to players. -/
theorem settle_undisturbed {a : Answer} {result : Attempt}
    (h : (settle s g lineup a).Ends xs result) (hu : Undisturbed xs) :
    (∃ e, a = .error e ∧ mayRetry a = true ∧ result = .retry e ∧ writesOf xs = []) ∨
      mayRetry a = false ∧ ∃ v : Verdict, v.withoutPlayers = bareVerdict s.history g a ∧
        result = .settled v.outcome ∧ writesOf xs = v.writes := by
  cases a with
  | error e =>
    obtain ⟨rfl, rfl⟩ := h
    by_cases hr : e.isRetryable
    · exact .inl ⟨e, rfl, hr, by rw [if_pos hr], rfl⟩
    · exact .inr ⟨by simpa [mayRetry] using hr, .failed e.message, rfl, if_neg hr, rfl⟩
  | ok markup =>
    obtain ⟨qs, ys, v, rfl, hv, h⟩ := Work.ends_bind h
    obtain ⟨ys, _, o, rfl, ho, rfl, rfl⟩ := Work.ends_bind h
    obtain ⟨⟨hquiet, -⟩, -, habout⟩ := inspect_ends hv
    obtain ⟨-, -, hall⟩ := keepVerdict_ends ho habout
    rw [List.append_nil] at hu ⊢
    obtain ⟨rfl, hw⟩ := hall hu.written.right
    refine .inr ⟨rfl, v, withoutPlayers_of_inspect hv hu.answered.left, rfl, ?_⟩
    rw [writesOf_append, hquiet, hw, List.nil_append]

/-- The work on a job fetches the review page once.  It is tried again when that may help and an
attempt is left, and otherwise ends as the answer says up to players. -/
theorem workOn_undisturbed {job : Job} {ending : Ending} (h : (workOn s job).Ends xs ending)
    (hu : Undisturbed xs) :
    ∃ a, repliesTo (job.game.reviewUrl s.settings.baseUrl) xs = [a] ∧
      ((ending = .again ∧ mayRetry a = true) ∨
        ∃ v : Verdict, v.withoutPlayers = bareVerdict s.history job.game a ∧
          ending = .finished (bareResult s.history job.game job.attempt a) ∧
          (job.attempt < s.settings.retry.maxAttempts → mayRetry a = false) ∧
          writesOf xs = v.writes ++ [.outcome (bareResult s.history job.game job.attempt a)]) := by
  obtain ⟨xs, ys, result, rfl, ha, h⟩ := Work.ends_bind h
  have hleft := hu.mono (List.subset_append_left xs ys)
  obtain ⟨la, a, zs, hpages, hw, hsub, hs⟩ := attempt_opened ha hleft.sessions
  have hreplies : ∀ ws, pagesOf ws = [] →
      repliesTo (job.game.reviewUrl s.settings.baseUrl) (xs ++ ws) = [a] := by
    intro ws hws
    have hnone : repliesTo (job.game.reviewUrl s.settings.baseUrl) ws = [] := by
      rw [repliesTo, hws, List.filterMap_nil]
    rw [repliesTo_append, review_replies_of_attempt hpages, hnone, List.append_nil]
  refine ⟨a, ?_⟩
  rcases settle_undisturbed hs (hleft.mono hsub) with
    ⟨e, rfl, hm, rfl, hnone⟩ | ⟨hm, v, hv, rfl, hwrites⟩
  · have he : e.isRetryable = true := hm
    unfold conclude at h
    by_cases hlt : job.attempt < s.settings.retry.maxAttempts
    · simp only [hlt, if_true] at h
      obtain ⟨rfl, rfl⟩ := h
      exact ⟨hreplies _ rfl, .inl ⟨rfl, hm⟩⟩
    · simp only [hlt, if_false] at h
      obtain ⟨rfl, hf, hp⟩ := finish_ends h
      have hresult : bareResult s.history job.game job.attempt (.error e) =
          ⟨job.game.text, job.attempt, .failedTransient job.attempt e.message⟩ := by
        simp only [bareResult, he, if_true]
      refine ⟨hreplies _ hp, .inr ⟨.failed e.message, rfl, ?_, fun h => absurd h hlt, ?_⟩⟩
      · rw [hresult]
      · rw [writesOf_append, hw, hnone, hf, hresult]
        rfl
  · obtain ⟨rfl, hf, hp⟩ := finish_ends h
    have hresult : bareResult s.history job.game job.attempt a =
        ⟨job.game.text, job.attempt, v.outcome⟩ := by
      rw [← v.outcome_withoutPlayers, hv]
      cases a with
      | ok markup => rfl
      | error e =>
        have he : e.isRetryable = false := hm
        simp only [bareResult, he]
        rfl
    refine ⟨hreplies _ hp, .inr ⟨v, hv, ?_, fun _ => hm, ?_⟩⟩
    · rw [hresult]
    · rw [writesOf_append, hw, hwrites, hf, hresult]

/-! ### Courses -/

/-- The attempt at which a game ends that gets these answers: the first with an answer that no
other attempt may mend, or the last one allowed. -/
structure StopsAt (f : Nat → Answer) (limit k : Nat) : Prop where
  pos : 1 ≤ k
  le : k ≤ limit
  retried : ∀ i, i + 1 < k → mayRetry (f i) = true
  last : k < limit → mayRetry (f (k - 1)) = false

theorem StopsAt.unique {f : Nat → Answer} {limit k k' : Nat} (h : StopsAt f limit k)
    (h' : StopsAt f limit k') : k = k' := by
  have hnot : ∀ {k k'}, StopsAt f limit k → StopsAt f limit k' → ¬k < k' := by
    intro k k' h h' hlt
    have hretry := h'.retried (k - 1) (by have := h.pos; omega)
    rw [h.last (Nat.lt_of_lt_of_le hlt h'.le)] at hretry
    cases hretry
  exact Nat.le_antisymm (Nat.le_of_not_lt (hnot h' h)) (Nat.le_of_not_lt (hnot h h'))

/-- Each attempt before the current one got one answer for the review page, and one that another
attempt may mend. -/
theorem Retried.review_replies {k : Nat} (h : Retried s g k xs) (hu : Undisturbed xs) :
    (repliesTo (g.reviewUrl s.settings.baseUrl) xs).length + 1 = k ∧
      ∀ a ∈ repliesTo (g.reviewUrl s.settings.baseUrl) xs, mayRetry a = true := by
  induction h with
  | first => exact ⟨rfl, fun a ha => (by cases ha)⟩
  | @next k xs ys _ hy ih =>
    obtain ⟨hlen, hretry⟩ := ih (hu.mono (List.subset_append_left xs ys))
    obtain ⟨a, hreplies, hend⟩ := workOn_undisturbed hy (hu.mono (List.subset_append_right xs ys))
    have hm : mayRetry a = true := by
      rcases hend with ⟨_, hm⟩ | ⟨_, _, hf, _⟩
      · exact hm
      · cases hf
    rw [repliesTo_append, hreplies]
    refine ⟨by simp [hlen], fun b hb => ?_⟩
    rcases List.mem_append.1 hb with hb | hb
    · exact hretry b hb
    · rw [List.mem_singleton.1 hb]
      exact hm

/-- The attempts at a game exchanged `xs`, and the last of them gave it its result. -/
inductive Concluded (s : Setup) (g : GameId) : List Exchange → GameResult → Prop
  | intro {k : Nat} {before current : List Exchange} {result : GameResult}
      (hb : Retried s g k before) (he : (workOn s ⟨g, k⟩).Ends current (.finished result)) :
      Concluded s g (before ++ current) result

/-- A game is concluded undisturbed while the fetches of its review page are answered in order. -/
structure GameUndisturbed (s : Setup) (g : GameId) (f : Nat → Answer) (xs : List Exchange)
    (result : GameResult) : Prop where
  concluded : Concluded s g xs result
  undisturbed : Undisturbed xs
  replies : Follows f (repliesTo (g.reviewUrl s.settings.baseUrl) xs)

/-- The attempts at a game end where the answers for its review page say, with the result and the
record, up to players, that they say. -/
theorem GameUndisturbed.ends {f : Nat → Answer} {result : GameResult}
    (h : GameUndisturbed s g f xs result) :
    ∃ k, StopsAt f s.settings.retry.maxAttempts k ∧ result = bareResult s.history g k (f (k - 1)) ∧
      ∃ v : Verdict, v.withoutPlayers = bareVerdict s.history g (f (k - 1)) ∧
        writesOf xs = v.writes ++ [.outcome result] := by
  obtain ⟨⟨hb, he⟩, hu, hf⟩ := h
  rename_i k before current
  obtain ⟨hlen, hretry⟩ := hb.review_replies (hu.mono (List.subset_append_left before current))
  obtain ⟨hk, hm⟩ := hb.bounds
  obtain ⟨a, hreplies, hend⟩ :=
    workOn_undisturbed he (hu.mono (List.subset_append_right before current))
  rcases hend with ⟨hagain, _⟩ | ⟨v, hv, hfinished, hlast, hwrites⟩
  · cases hagain
  rw [repliesTo_append, hreplies] at hf
  -- There were `k - 1` answers before, so the answer of this attempt stands in that place.
  obtain rfl : a = f (k - 1) := by
    have hnext := hf.next
    rwa [Nat.eq_sub_of_add_eq hlen] at hnext
  obtain rfl := Ending.finished.inj hfinished
  refine ⟨k, ⟨hk, hm, fun i hi => ?_, hlast⟩, rfl, v, hv, ?_⟩
  · have hget := List.getElem?_eq_getElem
      (l := repliesTo (g.reviewUrl s.settings.baseUrl) before) (i := i) (by omega)
    rw [← hf.left i _ hget]
    exact hretry _ (List.getElem_mem _)
  · rw [writesOf_append, hb.writes_nil, List.nil_append, hwrites]

/-- The answers for the review page of a game decide its result and, up to players, its record. -/
theorem GameUndisturbed.same {s' : Setup} {f : Nat → Answer} {xs' : List Exchange}
    {result result' : GameResult} (hhistory : s.history = s'.history)
    (hattempts : s.settings.retry.maxAttempts = s'.settings.retry.maxAttempts)
    (h : GameUndisturbed s g f xs result) (h' : GameUndisturbed s' g f xs' result') :
    result = result' ∧ ∃ v v' : Verdict, v.withoutPlayers = v'.withoutPlayers ∧
      writesOf xs = v.writes ++ [.outcome result] ∧
      writesOf xs' = v'.writes ++ [.outcome result] := by
  obtain ⟨k, hk, hresult, v, hv, hw⟩ := h.ends
  obtain ⟨k', hk', hresult', v', hv', hw'⟩ := h'.ends
  rw [← hattempts] at hk'
  obtain rfl := hk.unique hk'
  rw [← hhistory] at hresult' hv'
  have hsame : result = result' := hresult.trans hresult'.symm
  exact ⟨hsame, v, v', hv.trans hv'.symm, hw, hsame ▸ hw'⟩

end

/-! ### Runs -/

/-- The result of an identifier that stands in a report once. -/
theorem Report.get?_of_mem {r : Report} {result : GameResult} (hm : result ∈ r.results)
    (hone : (r.results.map GameResult.gameId).count result.gameId ≤ 1) :
    r.get? result.gameId = some result := by
  rw [List.count, List.countP_map, List.countP_eq_length_filter] at hone
  have hfilter : result ∈ r.results.filter fun g => g.gameId == result.gameId :=
    List.mem_filter.2 ⟨hm, beq_self_eq_true _⟩
  have hlength := Nat.le_antisymm hone (List.length_pos_of_mem hfilter)
  obtain ⟨only, honly⟩ := List.length_eq_one_iff.1 hlength
  have honly' : r.results.filter (fun g => g.gameId == result.gameId) = [only] := honly
  rw [honly'] at hfilter
  rw [Report.get?, ← List.head?_filter, honly', List.mem_singleton.1 hfilter, List.head?_cons]

namespace Run

/-- A run ended undisturbed over a batch that names a game in one spelling, while the fetches of the
review page of the game were answered in order. -/
structure EndedUndisturbed (s : Setup) (shared : Shared) (g : GameId) (f : Nat → Answer)
    (past : List Dealing) (r : Run) : Prop where
  reached : ∃ n id now ids, 1 ≤ n ∧ Reached s (startWith n id now shared ids) past r ∧
    (∃ x ∈ batchIds ids, GameId.decode x = .ok g) ∧ (spellings ids g.text).length ≤ 1
  ended : r.ended = true
  undisturbed : Undisturbed (past.map Dealing.exchange)
  replies : Follows f (repliesTo (g.reviewUrl s.settings.baseUrl) (past.map Dealing.exchange))

section
variable {s : Setup} {shared : Shared} {g : GameId} {f : Nat → Answer} {past : List Dealing}
  {r : Run}

/-- A run reports what its attempts at the game came to, and stores what they wrote. -/
theorem EndedUndisturbed.game (h : EndedUndisturbed s shared g f past r) :
    ∃ result, r.report.get? g.text = some result ∧
      GameUndisturbed s g f (gameExchanges g.text past) result ∧
      r.shared.store.copies g.text =
        (writesOf (gameExchanges g.text past)).foldl copiesAfter (shared.store.copies g.text) := by
  obtain ⟨⟨n, id, now, ids, hn, h, ⟨x, hx, hd⟩, hs⟩, he, hu, hf⟩ := h
  obtain ⟨cs, ht⟩ := h.tracked
  have hg : g ∈ (startWith n id now shared ids).queue.map Job.game :=
    List.mem_map.2 ⟨⟨g, 1⟩, mem_firstJobs.2 ⟨rfl, x, hx, hd⟩, rfl⟩
  obtain ⟨c, hm, rfl⟩ := List.mem_map.1 (ht.games.mem_iff.2 hg)
  obtain ⟨hpos, result, hr, -⟩ := h.courses_settled hn he ht c hm
  obtain ⟨hex, hpages⟩ := h.exchanges_of_course ht hm hs
  rw [GameId.reviewUrl, hpages, ← hex] at hf
  have hin : result ∈ r.report.results := by
    rw [(h.report_perm hn he ht).mem_iff]
    exact List.mem_append_right _ (List.mem_filterMap.2 ⟨c, hm, hr⟩)
  have hconcluded : Concluded s c.job.game (gameExchanges c.job.game.text past) result := by
    rw [hex]
    obtain ⟨⟨g, k⟩, before, current, place⟩ := c
    cases place with
    | waiting => cases hr
    | held w => cases hr
    | settled result' =>
      cases hr
      exact .intro hpos.before hpos.place
  have hgame : GameUndisturbed s c.job.game f (gameExchanges c.job.game.text past) result :=
    ⟨hconcluded, hu.mono (gameExchanges_subset _ past), hf⟩
  have hid : result.gameId = c.job.game.text := by
    obtain ⟨k, -, hresult, -⟩ := hgame.ends
    rw [hresult]
    rfl
  have hone : (r.report.results.map GameResult.gameId).count result.gameId ≤ 1 := by
    rw [hid, (h.report_ids_perm hn he).count_eq, count_resultIds (GameId.decode_text hd)]
    exact hs
  exact ⟨result, hid ▸ Report.get?_of_mem hin hone, hgame, h.copies_eq hu.written _⟩

/-- In undisturbed attempts at a game, and in undisturbed runs, that differ in what comes of lineup
pages, or in whether they are fetched, a game has the same result, and what is kept of it is the
same up to players. -/
theorem lineups_decide_nothing {s' : Setup} (hhistory : s.history = s'.history)
    (hattempts : s.settings.retry.maxAttempts = s'.settings.retry.maxAttempts) (g : GameId)
    (f : Nat → Answer) :
    (∀ xs xs' result result', GameUndisturbed s g f xs result →
      GameUndisturbed s' g f xs' result' →
      result = result' ∧ ∃ v v' : Verdict, v.withoutPlayers = v'.withoutPlayers ∧
        writesOf xs = v.writes ++ [.outcome result] ∧
        writesOf xs' = v'.writes ++ [.outcome result]) ∧
    ∀ shared shared' past past' r r', EndedUndisturbed s shared g f past r →
      EndedUndisturbed s' shared' g f past' r' →
      ∃ (result : GameResult) (v v' : Verdict), v.withoutPlayers = v'.withoutPlayers ∧
        r.report.get? g.text = some result ∧ r'.report.get? g.text = some result ∧
        writesOf (gameExchanges g.text past) = v.writes ++ [.outcome result] ∧
        writesOf (gameExchanges g.text past') = v'.writes ++ [.outcome result] ∧
        r.shared.store.copies g.text = v.writes.foldl copiesAfter (shared.store.copies g.text) ∧
        r'.shared.store.copies g.text =
          v'.writes.foldl copiesAfter (shared'.store.copies g.text) := by
  refine ⟨fun xs xs' result result' h h' => h.same hhistory hattempts h',
    fun shared shared' past past' r r' h h' => ?_⟩
  obtain ⟨result, hget, hgame, hcopies⟩ := h.game
  obtain ⟨result', hget', hgame', hcopies'⟩ := h'.game
  obtain ⟨rfl, v, v', hv, hw, hw'⟩ := hgame.same hhistory hattempts hgame'
  refine ⟨result, v, v', hv, hget, hget', hw, hw', ?_, ?_⟩
  · rw [hcopies, hw, List.foldl_append]
    rfl
  · rw [hcopies', hw', List.foldl_append]
    rfl

end

/-! ### A game with and without its lineup page -/

/-- A run of one worker over one game. -/
def oneStart (s : Setup) : Run :=
  startWith 1 .nil .epoch (.initial s.settings .empty) ["19900412SSSS0"]

def unlinkedPages (review : String) : List Event :=
  takeGame 0 ++ .tick 60000 :: getAnswer 0 true (.ok review)

theorem follow_unlinkedPages (review : String) :
    ((oneStart lateSetup).follow lateSetup (unlinkedPages review)).map (fun p =>
      ((p.1.map Dealing.exchange).all (Exchange.isCalm lateSetup),
        pagesOf (p.1.map Dealing.exchange), p.2.workers)) =
      some (true, [(playedGame.reviewUrl lateSetup.settings.baseUrl, .ok review)],
        [examining lateSetup 60000 (inspect lateSetup playedGame .empty review)]) := by rfl

theorem follow_linkedPages (lineup review : String) :
    ((oneStart linkedSetup).follow linkedSetup (soloPages lineup review)).map (fun p =>
      ((p.1.map Dealing.exchange).all (Exchange.isCalm linkedSetup),
        pagesOf (p.1.map Dealing.exchange), p.2.workers)) =
      some (true, [(playedGame.lineupUrl linkedSetup.settings.baseUrl, .ok lineup),
          (playedGame.reviewUrl linkedSetup.settings.baseUrl, .ok review)],
        [examining linkedSetup 120000
          (inspect linkedSetup playedGame (Lineup.ofMarkup lineup) review)]) := by rfl

theorem exists_unlinked : ∃ past r, Reached lateSetup (oneStart lateSetup) past r ∧
    r.ended = true ∧ Undisturbed (past.map Dealing.exchange) ∧
    pagesOf (past.map Dealing.exchange) =
      [(playedGame.reviewUrl lateSetup.settings.baseUrl, .ok shortMarkup)] := by
  have hfirst := follow_unlinkedPages shortMarkup
  rw [inspect_shortMarkup_with rfl] at hfirst
  obtain ⟨past, r, h, hcalm, hpages, he⟩ := exists_resumed
    (keepPages 0 4 ++ [.finish .epoch none]) [] (fun r => r.ended = true) hfirst
    (by decide +kernel)
  exact ⟨past, r, h, he, .of_calm (calm_of_all hcalm) fun q => ⟨[], rfl⟩, hpages⟩

theorem exists_linked : ∃ past r, Reached linkedSetup (oneStart linkedSetup) past r ∧
    r.ended = true ∧ Undisturbed (past.map Dealing.exchange) ∧
    pagesOf (past.map Dealing.exchange) =
      [(playedGame.lineupUrl linkedSetup.settings.baseUrl, .ok linkMarkup),
        (playedGame.reviewUrl linkedSetup.settings.baseUrl, .ok shortMarkup)] := by
  have hfirst := follow_linkedPages linkMarkup shortMarkup
  rw [ofMarkup_linkMarkup, inspect_shortMarkup_with (s := linkedSetup) rfl] at hfirst
  obtain ⟨past, r, h, hcalm, hpages, he⟩ := exists_resumed
    (keepPages 0 2 ++ [.finish .epoch none]) [] (fun r => r.ended = true) hfirst
    (by decide +kernel)
  exact ⟨past, r, h, he, .of_calm (calm_of_all hcalm) fun q => ⟨[], rfl⟩, hpages⟩

theorem follows_of_pages {url : String} {a : Answer} {xs : List Exchange}
    (h : ∀ p ∈ pagesOf xs, p.1 = url → p.2 = a) : Follows (fun _ => a) (repliesTo url xs) := by
  intro i b hb
  obtain ⟨p, hm, he⟩ := List.mem_filterMap.1 (List.mem_of_getElem? hb)
  split at he
  · rename_i hurl
    exact (Option.some.inj he).symm.trans (h p hm hurl)
  · cases he

/-- The batch of one game, undisturbed, when only the short page came for its review page. -/
theorem endedUndisturbed_of_pages {s : Setup} {past : List Dealing} {r : Run}
    (h : Reached s (oneStart s) past r) (he : r.ended = true)
    (hu : Undisturbed (past.map Dealing.exchange))
    (hp : ∀ p ∈ pagesOf (past.map Dealing.exchange),
      p.1 = playedGame.reviewUrl s.settings.baseUrl → p.2 = .ok shortMarkup) :
    EndedUndisturbed s (.initial s.settings .empty) playedGame (fun _ => .ok shortMarkup)
      past r where
  reached := ⟨1, .nil, .epoch, ["19900412SSSS0"], Nat.le_refl 1, h,
    ⟨"19900412SSSS0", by decide +kernel, by decide +kernel⟩, List.length_filter_le ..⟩
  ended := he
  undisturbed := hu
  replies := follows_of_pages hp

/-- A game has the same result without its lineup page and with one that links a player. -/
theorem linked_and_unlinked_agree : ∃ past past' r r' xs xs' result,
    EndedUndisturbed lateSetup (.initial lateSetup.settings .empty) playedGame
        (fun _ => .ok shortMarkup) past r ∧
      EndedUndisturbed linkedSetup (.initial linkedSetup.settings .empty) playedGame
        (fun _ => .ok shortMarkup) past' r' ∧
      (pagesOf (past.map Dealing.exchange)).length = 1 ∧
      (playedGame.lineupUrl linkedSetup.settings.baseUrl, .ok linkMarkup) ∈
        pagesOf (past'.map Dealing.exchange) ∧
      r.report.get? playedGame.text = some result ∧
      r'.report.get? playedGame.text = some result ∧
      GameUndisturbed lateSetup playedGame (fun _ => .ok shortMarkup) xs result ∧
      GameUndisturbed linkedSetup playedGame (fun _ => .ok shortMarkup) xs' result := by
  obtain ⟨past, r, h, he, hu, hpages⟩ := exists_unlinked
  obtain ⟨past', r', h', he', hu', hpages'⟩ := exists_linked
  have hrun := endedUndisturbed_of_pages h he hu fun p hm _ => by
    rw [hpages] at hm
    rw [List.mem_singleton.1 hm]
  have hrun' := endedUndisturbed_of_pages h' he' hu' fun p hm hurl => by
    rw [hpages'] at hm
    rcases List.mem_cons.1 hm with rfl | hm
    · exact absurd hurl (playedGame.lineupUrl_ne_reviewUrl _)
    · rw [List.mem_singleton.1 hm]
  have hhistory : lateSetup.history = linkedSetup.history := rfl
  have hattempts : lateSetup.settings.retry.maxAttempts =
      linkedSetup.settings.retry.maxAttempts := rfl
  obtain ⟨hgames, hruns⟩ := lineups_decide_nothing hhistory hattempts playedGame
    fun _ => .ok shortMarkup
  obtain ⟨result, _, _, -, hget, hget', -⟩ := hruns _ _ _ _ _ _ hrun hrun'
  obtain ⟨result₁, hget₁, hgame, -⟩ := hrun.game
  obtain ⟨result₂, -, hgame', -⟩ := hrun'.game
  obtain ⟨rfl, -⟩ := hgames _ _ _ _ hgame hgame'
  obtain rfl := Option.some.inj (hget₁.symm.trans hget)
  exact ⟨past, past', r, r', _, _, result₁, hrun, hrun', by rw [hpages]; rfl,
    by rw [hpages']; exact List.mem_cons_self, hget, hget', hgame, hgame'⟩

end Run

end Scorebook.Ingest
