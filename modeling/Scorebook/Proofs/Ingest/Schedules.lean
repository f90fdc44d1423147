import Scorebook.Proofs.Ingest.Acceptance
import Scorebook.Proofs.Ingest.GamesApart
import Scorebook.Proofs.Ingest.Seeking
import Scorebook.Proofs.Ingest.Spellings

/-!
# Runs come to the same in every order of events

The surroundings of a run may fix, for every address, the sequence of answers to its fetches.  When
a batch spells no game twice, the games of a run then do not touch each other: whatever the order of
events and the number of workers, each game comes to its `reference`, and so do its rows in the
store.
-/

namespace Scorebook.Ingest
open Text

/-! ### Runs in given surroundings -/

/-- The surroundings answer the fetches of every address in a given order, open every session, answer
from the roster and carry out every write. -/
structure Conforms (s : Setup) (replies : String → Nat → Answer) (past : List Dealing) : Prop where
  calm : Calm s (past.map Dealing.exchange)
  pages : ∀ url, Follows (replies url) (repliesTo url (past.map Dealing.exchange))

def answer (s : Setup) (replies : String → Nat → Answer) (id : String) : GameResult :=
  match GameId.decode id with
  | .ok g => (reference s g replies).1
  | .error e => ⟨id, 0, .failed e.message⟩

/-- A result is what the attempts at a game lead to when they are made one after another, and the
review page was fetched once for each of them. -/
structure ComesTo (s : Setup) (g : GameId) (replies : String → Nat → Answer) (past : List Dealing)
    (result : GameResult) : Prop where
  alone : result = (reference s g replies).1
  /-- The first answer that no other attempt may mend decides. -/
  decided : ∀ k, 1 ≤ k → k ≤ s.settings.retry.maxAttempts →
    (∀ i, 1 ≤ i → i < k → mayRetry (reviewReply s g replies i) = true) →
    mayRetry (reviewReply s g replies k) = false →
    result = ⟨g.text, k, outcomeOf s g (lineupReply s g replies k) (reviewReply s g replies k)⟩
  /-- Without such an answer the game fails with the last one. -/
  exhausted : (∀ i, 1 ≤ i → i ≤ s.settings.retry.maxAttempts →
      mayRetry (reviewReply s g replies i) = true) →
    ∃ e, reviewReply s g replies s.settings.retry.maxAttempts = .error e ∧
      result = ⟨g.text, s.settings.retry.maxAttempts,
        .failedTransient s.settings.retry.maxAttempts e.message⟩
  fetched : (repliesTo (g.reviewUrl s.settings.baseUrl) (past.map Dealing.exchange)).length =
    result.attempts

theorem comesTo_of_reference {s : Setup} {g : GameId} {replies : String → Nat → Answer}
    {past : List Dealing} {result : GameResult} (h : result = (reference s g replies).1)
    (hf : (repliesTo (g.reviewUrl s.settings.baseUrl) (past.map Dealing.exchange)).length =
      result.attempts) : ComesTo s g replies past result where
  alone := h
  decided := by
    intro k hk hm hretry hlast
    rw [h, reference_eq hk hm hretry fun _ => hlast, settledAt, resultAfter,
      outcomeAfter_of_mayRetry hlast]
  exhausted := by
    intro hretry
    have hmax := s.settings.retry.one_le_maxAttempts
    have hlast := hretry _ hmax (Nat.le_refl _)
    cases ha : reviewReply s g replies s.settings.retry.maxAttempts with
    | ok markup =>
      rw [ha] at hlast
      cases hlast
    | error e =>
      rw [ha] at hlast
      have he : e.isRetryable = true := hlast
      refine ⟨e, rfl, ?_⟩
      rw [h, reference_eq hmax (Nat.le_refl _) (fun i hi hlt => hretry i hi (Nat.le_of_lt hlt))
        fun hlt => absurd hlt (Nat.lt_irrefl _)]
      simp only [settledAt, resultAfter, outcomeAfter, ha, he, if_true]
  fetched := hf

/-- Results under different identifiers are reported in one order. -/
theorem ofResults_eq_of_perm {summary other : RunSummary} {xs ys : List GameResult}
    (hp : xs.Perm ys) (hn : (xs.map GameResult.gameId).Nodup) :
    (Report.ofResults summary xs).results = (Report.ofResults other ys).results := by
  have hsorted : ∀ l : List GameResult,
      (l.mergeSort fun a b => a.gameId ≤ b.gameId).Pairwise fun a b => a.gameId ≤ b.gameId := by
    intro l
    have hpair : (l.mergeSort fun a b => a.gameId ≤ b.gameId).Pairwise
        fun a b => decide (a.gameId ≤ b.gameId) = true := by
      refine List.pairwise_mergeSort (fun a b c hab hbc => ?_) (fun a b => ?_) l
      · rw [decide_eq_true_iff] at hab hbc ⊢
        exact String.le_trans hab hbc
      · rw [Bool.or_eq_true, decide_eq_true_iff, decide_eq_true_iff]
        exact String.le_total ..
    exact hpair.imp fun h => of_decide_eq_true h
  -- Sorted lists of the same results are equal when no two results compare as equal.
  refine List.Perm.eq_of_pairwise ?_ (hsorted xs) (hsorted ys)
    ((List.mergeSort_perm ..).trans (hp.trans (List.mergeSort_perm ..).symm))
  intro a b ha hb hab hba
  have ha' := (List.mergeSort_perm ..).mem_iff.1 ha
  have hb' := hp.mem_iff.2 ((List.mergeSort_perm ..).mem_iff.1 hb)
  exact List.inj_on_of_nodup_map hn ha' hb' (String.le_antisymm hab hba)

theorem answers_perm (s : Setup) (replies : String → Nat → Answer) (l : List String) :
    (l.map (answer s replies)).Perm (l.filterMap refusal? ++
      ((l.filterMap firstJob?).map Job.game).map fun g => (reference s g replies).1) := by
  induction l with
  | nil => exact .refl _
  | cons id rest ih =>
    cases hd : GameId.decode id with
    | error e =>
      have ha : answer s replies id = ⟨id, 0, .failed e.message⟩ := by simp only [answer, hd]
      rw [List.filterMap_cons_none (firstJob?_of_error hd),
        List.filterMap_cons_some (refusal?_of_error hd), List.map_cons, ha]
      exact ih.cons _
    | ok g =>
      have ha : answer s replies id = (reference s g replies).1 := by simp only [answer, hd]
      rw [List.filterMap_cons_some (firstJob?_of_ok hd),
        List.filterMap_cons_none (refusal?_of_ok hd), List.map_cons, ha]
      exact (ih.cons _).trans List.perm_middle.symm

namespace Run

section
variable {s : Setup} {n : Nat} {id : Uuid} {now : Instant} {shared : Shared} {ids : List String}
  {past : List Dealing} {r : Run} {replies : String → Nat → Answer}

/-- What a run exchanged for a game that the batch spells once is the course of the game, pages
included. -/
theorem Reached.exchanges_of_course (h : Reached s (startWith n id now shared ids) past r)
    {cs : List Course} (ht : Tracks s (startWith n id now shared ids) past r cs) {c : Course}
    (hm : c ∈ cs) (hs : (spellings ids c.job.game.text).length ≤ 1) :
    gameExchanges c.job.game.text past = c.exchanged ∧
      ∀ name, repliesTo (c.job.game.sectionUrl s.settings.baseUrl name)
        (past.map Dealing.exchange) =
          repliesTo (c.job.game.sectionUrl s.settings.baseUrl name) c.exchanged := by
  have hex := ht.inOrder c hm ((count_first_games _).trans_le hs)
  have hgame := ht.games.mem_iff.1 (List.mem_map.2 ⟨c, hm, rfl⟩)
  refine ⟨hex, fun name => ?_⟩
  rw [← hex]
  exact repliesTo_gameExchanges (fun g hg => decoded_of_mem_first_games hg) hgame h.proper

/-- In given surroundings every course of an ended run comes to the reference of its game. -/
theorem Reached.course_reference (h : Reached s (startWith n id now shared ids) past r)
    (hn : 1 ≤ n) (he : r.ended = true) (hs : ∀ t, (spellings ids t).length ≤ 1)
    (hc : Conforms s replies past) {cs : List Course}
    (ht : Tracks s (startWith n id now shared ids) past r cs) {c : Course} (hm : c ∈ cs) :
    ∃ result, c.result? = some result ∧
      (result, writesOf (gameExchanges c.job.game.text past)) = reference s c.job.game replies ∧
      (repliesTo (c.job.game.reviewUrl s.settings.baseUrl) (past.map Dealing.exchange)).length =
        result.attempts := by
  obtain ⟨hpos, result, hr, _, _⟩ := h.courses_settled hn he ht c hm
  obtain ⟨hex, hpages⟩ := h.exchanges_of_course ht hm (hs _)
  have hcalm : Calm s c.exchanged := hex ▸ hc.calm.mono (gameExchanges_subset _ past)
  have hreview := hc.pages (c.job.game.reviewUrl s.settings.baseUrl)
  have hlineup := hc.pages (c.job.game.lineupUrl s.settings.baseUrl)
  rw [GameId.reviewUrl, hpages] at hreview
  rw [GameId.lineupUrl, hpages] at hlineup
  refine ⟨result, hr, ?_⟩
  rw [hex, GameId.reviewUrl, hpages]
  obtain ⟨⟨g, k⟩, before, current, place⟩ := c
  cases place with
  | waiting => cases hr
  | held w => cases hr
  | settled result' =>
    cases hr
    exact reference_of_ends hpos.before hpos.place hcalm hreview hlineup

theorem Reached.report_eq (h : Reached s (startWith n id now shared ids) past r)
    (hn : 1 ≤ n) (he : r.ended = true) (hs : ∀ t, (spellings ids t).length ≤ 1)
    (hc : Conforms s replies past) : r.report.results =
      (Report.ofResults r.summary ((batchIds ids).map (answer s replies))).results := by
  obtain ⟨cs, ht⟩ := h.tracked
  have hcourses : cs.filterMap Course.result? =
      (cs.map fun c => c.job.game).map fun g => (reference s g replies).1 := by
    rw [List.map_map, ← List.filterMap_eq_map]
    apply List.filterMap_congr
    intro c hm
    obtain ⟨result, hr, href, _⟩ := h.course_reference hn he hs hc ht hm
    rw [hr, Function.comp_apply, Function.comp_apply, ← href]
  have hperm := h.report_perm hn he ht
  rw [hcourses] at hperm
  have hall := hperm.trans (((ht.games.map _).append_left _).trans (answers_perm s replies _).symm)
  have hids := (h.report_ids_perm hn he).nodup_iff.2 ((nodup_resultIds ids).2 hs)
  have hreport := (report_results_perm r).symm
  exact ofResults_eq_of_perm (hreport.trans hall) ((hreport.map _).nodup_iff.2 hids)

theorem Reached.comesTo (h : Reached s (startWith n id now shared ids) past r)
    (hn : 1 ≤ n) (he : r.ended = true) (hs : ∀ t, (spellings ids t).length ≤ 1)
    (hc : Conforms s replies past) {x : String} {g : GameId} (hx : x ∈ batchIds ids)
    (hd : GameId.decode x = .ok g) :
    ∃ result ∈ r.report.results, ComesTo s g replies past result := by
  obtain ⟨cs, ht⟩ := h.tracked
  have hg : g ∈ (startWith n id now shared ids).queue.map Job.game :=
    List.mem_map.2 ⟨⟨g, 1⟩, mem_firstJobs.2 ⟨rfl, x, hx, hd⟩, rfl⟩
  obtain ⟨c, hm, rfl⟩ := List.mem_map.1 (ht.games.mem_iff.2 hg)
  obtain ⟨result, hr, href, hfetched⟩ := h.course_reference hn he hs hc ht hm
  refine ⟨result, ?_, comesTo_of_reference (congrArg Prod.fst href) hfetched⟩
  rw [(h.report_perm hn he ht).mem_iff]
  exact List.mem_append_right _ (List.mem_filterMap.2 ⟨c, hm, hr⟩)

theorem Reached.writes_eq {n' : Nat} {id' : Uuid} {now' : Instant} {shared' : Shared}
    {past' : List Dealing} {r' : Run} (h : Reached s (startWith n id now shared ids) past r)
    (h' : Reached s (startWith n' id' now' shared' ids) past' r') (hn : 1 ≤ n) (hn' : 1 ≤ n')
    (he : r.ended = true) (he' : r'.ended = true) (hs : ∀ t, (spellings ids t).length ≤ 1)
    (hc : Conforms s replies past) (hc' : Conforms s replies past') (gameId : String) :
    writesOf (gameExchanges gameId past) = writesOf (gameExchanges gameId past') := by
  obtain ⟨cs, ht⟩ := h.tracked
  obtain ⟨cs', ht'⟩ := h'.tracked
  by_cases hg : ∃ g ∈ (startWith n id now shared ids).queue.map Job.game, g.text = gameId
  · obtain ⟨g, hg, rfl⟩ := hg
    obtain ⟨c, hm, hcg⟩ := List.mem_map.1 (ht.games.mem_iff.2 hg)
    obtain ⟨c', hm', hcg'⟩ := List.mem_map.1 (ht'.games.mem_iff.2 hg)
    obtain ⟨_, _, href, _⟩ := h.course_reference hn he hs hc ht hm
    obtain ⟨_, _, href', _⟩ := h'.course_reference hn' he' hs hc' ht' hm'
    rw [hcg] at href
    rw [hcg'] at href'
    exact (congrArg Prod.snd href).trans (congrArg Prod.snd href').symm
  · have hne : ∀ g ∈ (startWith n id now shared ids).queue.map Job.game, g.text ≠ gameId :=
      fun g hm ht => hg ⟨g, hm, ht⟩
    rw [h.gameExchanges_eq_nil hne, h'.gameExchanges_eq_nil hne]

/-- Two runs over a batch that spells no game twice, in the same surroundings and from the same
store, report the same results and leave the same rows of every game, with any numbers of workers
and in any order of events.  Every game comes to what it comes to alone. -/
theorem runs_agree {n' : Nat} {id' : Uuid} {now' : Instant} {shared' : Shared}
    {past' : List Dealing} {r' : Run} (hn : 1 ≤ n) (hn' : 1 ≤ n')
    (hs : ∀ t, (spellings ids t).length ≤ 1) (hstore : shared.store = shared'.store)
    (h : Reached s (startWith n id now shared ids) past r)
    (h' : Reached s (startWith n' id' now' shared' ids) past' r') (he : r.ended = true)
    (he' : r'.ended = true) (hc : Conforms s replies past) (hc' : Conforms s replies past') :
    r.report.results = r'.report.results ∧
      (∀ gameId, r.shared.store.copies gameId = r'.shared.store.copies gameId) ∧
      ∀ x ∈ batchIds ids, ∀ g, GameId.decode x = .ok g →
        ∃ result ∈ r.report.results, ComesTo s g replies past result := by
  refine ⟨?_, fun gameId => ?_, fun x hx g hd => h.comesTo hn he hs hc hx hd⟩
  · rw [h.report_eq hn he hs hc, h'.report_eq hn' he' hs hc']
    rfl
  · rw [h.copies_eq hc.calm.written, h'.copies_eq hc'.calm.written, hstore,
      h.writes_eq h' hn hn' he he' hs hc hc']

end

end Run

/-! ### Runs that are resumed -/

/-- A session that opens, a question that the roster of the setup answers, or a write that
succeeds. -/
def Exchange.isCalm (s : Setup) : Exchange → Bool
  | .session (.error _) => false
  | .question q answer => answer = s.roster q
  | .write _ (some _) => false
  | _ => true

theorem calm_of_all {s : Setup} {xs : List Exchange} (h : xs.all (Exchange.isCalm s) = true) :
    Calm s xs := by
  rw [List.all_eq_true] at h
  refine ⟨fun answer hm => ?_, fun q answer hm => of_decide_eq_true (h _ hm),
    fun c failure hm => ?_⟩
  · cases answer with
    | ok session => exact ⟨session, rfl⟩
    | error e => cases h _ hm
  · cases failure with
    | none => rfl
    | some e => cases h _ hm

/-- The answers for an address among pages. -/
def answersIn (pages : List (String × Answer)) (url : String) : List Answer :=
  pages.filterMap fun p => if p.1 = url then some p.2 else none

/-- Whether pages came in the given order for every address. -/
def areInOrder (replies : String → Nat → Answer) (pages : List (String × Answer)) : Bool :=
  pages.all fun p => (answersIn pages p.1).zipIdx.all fun a => a.1 = replies p.1 a.2

theorem follows_of_areInOrder {replies : String → Nat → Answer} {xs : List Exchange}
    (h : areInOrder replies (pagesOf xs) = true) (url : String) :
    Follows (replies url) (repliesTo url xs) := by
  intro i a ha
  obtain ⟨p, hp, hpage⟩ := List.mem_filterMap.1 (List.mem_of_getElem? ha)
  split at hpage
  · rename_i hurl
    subst hurl
    have hall := List.all_eq_true.1 (List.all_eq_true.1 h p hp)
    exact of_decide_eq_true (hall (a, i) (List.mem_zipIdx_iff_getElem?.2 ha))
  · cases hpage

theorem conforms_of_pages {s : Setup} {replies : String → Nat → Answer} {past : List Dealing}
    {pages : List (String × Answer)}
    (hcalm : (past.map Dealing.exchange).all (Exchange.isCalm s) = true)
    (hpages : pagesOf (past.map Dealing.exchange) = pages)
    (hreplies : areInOrder replies pages = true) : Conforms s replies past where
  calm := calm_of_all hcalm
  pages := follows_of_areInOrder (hpages ▸ hreplies)

namespace Run

/-- A run that comes to some workers, and goes on from them to what is looked for.  What the workers
are at may be written in another way in between. -/
theorem exists_resumed {s : Setup} {start : Run} {es : List Event} {ok : Exchange → Bool}
    {pages : List (String × Answer)} {ws : List Worker} (rest : List Event)
    (more : List (String × Answer)) (P : Run → Prop) [DecidablePred P]
    (hfirst : (start.follow s es).map (fun p =>
      ((p.1.map Dealing.exchange).all ok, pagesOf (p.1.map Dealing.exchange),
        p.2.workers)) = some (true, pages, ws))
    (hrest : ((resumed s start es ws).follow s rest).any (fun p =>
      (p.1.map Dealing.exchange).all ok &&
        decide (pagesOf (p.1.map Dealing.exchange) = more) && decide (P p.2)) = true) :
    ∃ past r, Reached s start past r ∧ (past.map Dealing.exchange).all ok = true ∧
      pagesOf (past.map Dealing.exchange) = pages ++ more ∧ P r := by
  obtain ⟨⟨past, r⟩, hfollow, hview⟩ := Option.map_eq_some_iff.1 hfirst
  simp only [Prod.mk.injEq] at hview
  obtain ⟨hok, hpages, hworkers⟩ := hview
  rw [resumed_eq hfollow hworkers] at hrest
  obtain ⟨⟨ds, last⟩, hlast, hview⟩ := (Option.any_eq_true ..).1 hrest
  simp only [Bool.and_eq_true, decide_eq_true_iff] at hview
  obtain ⟨⟨hok', hmore⟩, hP⟩ := hview
  refine ⟨_, last, (Reached.start.follow hfollow).follow hlast, ?_, ?_, hP⟩
  · rw [List.nil_append, List.map_append, List.all_append, hok, hok']
    rfl
  · rw [List.nil_append, List.map_append, pagesOf_append, hpages, hmore]

/-! ### A game that is kept and one that is tried again -/

def linkedSetup : Setup :=
  { lateSetup with settings := { lateSetup.settings with fetchLineup := true } }

/-- A lineup page that links the hitter of the short page. -/
def linkMarkup : String := "<ul><li><a href=PlayerDetail?playerId=7>A</a>No.5</ul>"

def linkedLineup : Lineup := ⟨[("A", [⟨⟨7⟩, some "5"⟩])]⟩

/-- A lineup page whose elements stand in order is given by its links as they stand. -/
theorem ofMarkup_eq_of_players {markup : String} {l : Lineup}
    (h : (Markup.placedIn [] (Markup.parse markup).nodes).Pairwise
        (fun p q => Markup.Document.madeBefore p q = true) ∧
      (((Markup.placedIn [] (Markup.parse markup).nodes).filter
        Lineup.isPlayerLink).foldl Lineup.insertLink .empty).players = l.players) :
    Lineup.ofMarkup markup = l := by
  obtain ⟨hsorted, hplayers⟩ := h
  rw [Lineup.ofMarkup, Lineup.ofDocument, Page.select_of_inOrder hsorted]
  generalize List.foldl Lineup.insertLink _ _ = read at hplayers ⊢
  cases read
  cases l
  exact congrArg Lineup.mk hplayers

theorem ofMarkup_linkMarkup : Lineup.ofMarkup linkMarkup = linkedLineup :=
  ofMarkup_eq_of_players (by decide +kernel)

/-- The verdict on the short page with a lineup. -/
def shortVerdictWith (s : Setup) (lineup : Lineup) : Work Verdict :=
  (seekPlayers s.resolver lineup (shortBoxScore playedGame)).bind fun found =>
    .done (verdictOn s playedGame (shortBoxScore playedGame) found)

theorem extract_shortPage : Page.extract lateSetup.history shortPage playedGame.text
    (some playedGame.date) = .ok (shortBoxScore playedGame) := by
  have hok : (Page.extract lateSetup.history shortPage playedGame.text
      (some playedGame.date)).isOk = true := by decide +kernel
  unfold shortBoxScore
  cases hb : Page.extract lateSetup.history shortPage playedGame.text (some playedGame.date) with
  | ok b => rfl
  | error e =>
    rw [hb] at hok
    cases hok

theorem inspect_shortMarkup_with {s : Setup} (hs : s.history = lateSetup.history)
    (lineup : Lineup) : inspect s playedGame lineup shortMarkup = shortVerdictWith s lineup :=
  inspect_of_page ofMarkup_shortMarkup (hs ▸ extract_shortPage)

/-- A worker that is about to examine the review page of the game. -/
def examining (s : Setup) (since : Nat) (verdict : Work Verdict) : Worker :=
  .busy ⟨playedGame, 1⟩ since ((verdict.bind fun v =>
    (keepVerdict v).bind fun outcome => .done (.settled outcome)).bind
      (Ingest.conclude s ⟨playedGame, 1⟩))

/-- A game that is fetched in vain, twice. -/
def retriedGame : GameId := ⟨"20240323HHLG0", ⟨2024, 3, 23, by decide⟩, 2024, "HH", "LG", 0⟩

/-- A run with so many workers over the two games. -/
def twoStart (workers : Nat) : Run :=
  startWith workers .nil .epoch (.initial linkedSetup.settings .empty)
    ["19900412SSSS0", "20240323HHLG0"]

/-- The pages of one game come at once.  The review page of the other one cannot be had at first,
and none of its pages exists. -/
def twoReplies (url : String) (place : Nat) : Answer :=
  let base := linkedSetup.settings.baseUrl
  if url = playedGame.lineupUrl base then .ok linkMarkup
  else if url = playedGame.reviewUrl base then .ok shortMarkup
  else if url = retriedGame.reviewUrl base ∧ place = 0 then .error (.status 503)
  else .error (.status 404)

/-- How a worker takes a game and fetches its two pages, from a time on. -/
def tryPages (i clock : Nat) (opens : Bool) (lineup review : Answer) : List Event :=
  takeGame i ++ .tick clock :: getAnswer i opens lineup ++
    .move i (.reserve 0) :: .tick (clock + 60000) :: getAnswer i false review

/-- How a worker keeps a game after so many questions about players whom nobody knows. -/
def keepPages (i questions : Nat) : List Event :=
  List.replicate questions (.move i (.ask (.ok []))) ++
    List.replicate 3 (.move i (.call .epoch none)) ++ [.handOver i, .collect]

/-- One worker has the pages of the first game. -/
def soloPages (lineup review : String) : List Event :=
  tryPages 0 60000 true (.ok lineup) (.ok review)

/-- The one worker keeps the first game and tries the second one twice. -/
def soloRest : List Event :=
  keepPages 0 2 ++ tryPages 0 180000 false (.error (.status 404)) (.error (.status 503)) ++
    [.handOver 0, .tick 300000, .fire 0] ++
    tryPages 0 360000 true (.error (.status 404)) (.error (.status 404)) ++
    [.move 0 (.call .epoch none), .handOver 0, .collect, .finish .epoch none]

/-- Of two workers the second one fails to get its game before the first one has its pages. -/
def pairPages (lineup review : String) : List Event :=
  takeGame 0 ++ tryPages 1 60000 true (.error (.status 404)) (.error (.status 503)) ++
    .handOver 1 :: getAnswer 0 true (.ok lineup) ++
    .move 0 (.reserve 0) :: .tick 180000 :: getAnswer 0 false (.ok review)

/-- The second worker is done with its game before the first one keeps its own. -/
def pairRest : List Event :=
  .fire 0 :: tryPages 1 240000 false (.error (.status 404)) (.error (.status 404)) ++
    [.move 1 (.call .epoch none), .handOver 1, .collect] ++ keepPages 0 2 ++ [.finish .epoch none]

/-- The identifiers of results with their attempts. -/
def attemptsOf (r : Run) : List (String × Nat) := r.results.map fun g => (g.gameId, g.attempts)

theorem follow_soloPages (lineup review : String) :
    ((twoStart 1).follow linkedSetup (soloPages lineup review)).map (fun p =>
      ((p.1.map Dealing.exchange).all (Exchange.isCalm linkedSetup),
        pagesOf (p.1.map Dealing.exchange), p.2.workers)) =
      some (true, [(playedGame.lineupUrl linkedSetup.settings.baseUrl, .ok lineup),
          (playedGame.reviewUrl linkedSetup.settings.baseUrl, .ok review)],
        [examining linkedSetup 120000
          (inspect linkedSetup playedGame (Lineup.ofMarkup lineup) review)]) := by rfl

theorem follow_pairPages (lineup review : String) :
    ((twoStart 2).follow linkedSetup (pairPages lineup review)).map (fun p =>
      ((p.1.map Dealing.exchange).all (Exchange.isCalm linkedSetup),
        pagesOf (p.1.map Dealing.exchange), p.2.workers)) =
      some (true, [(retriedGame.lineupUrl linkedSetup.settings.baseUrl, .error (.status 404)),
          (retriedGame.reviewUrl linkedSetup.settings.baseUrl, .error (.status 503)),
          (playedGame.lineupUrl linkedSetup.settings.baseUrl, .ok lineup),
          (playedGame.reviewUrl linkedSetup.settings.baseUrl, .ok review)],
        [examining linkedSetup 180000
          (inspect linkedSetup playedGame (Lineup.ofMarkup lineup) review), .idle]) := by rfl

theorem exists_solo : ∃ past r, Reached linkedSetup (twoStart 1) past r ∧
    Conforms linkedSetup twoReplies past ∧ r.ended = true ∧
    attemptsOf r = [("19900412SSSS0", 1), ("20240323HHLG0", 2)] ∧
    (r.shared.store.copies "19900412SSSS0").accepted.length = 1 ∧
    (r.shared.store.copies "19900412SSSS0").review.length = 2 := by
  have hfirst := follow_soloPages linkMarkup shortMarkup
  rw [ofMarkup_linkMarkup, inspect_shortMarkup_with (s := linkedSetup) rfl] at hfirst
  obtain ⟨past, r, h, hcalm, hpages, hr⟩ := exists_resumed soloRest
    [(retriedGame.lineupUrl linkedSetup.settings.baseUrl, .error (.status 404)),
      (retriedGame.reviewUrl linkedSetup.settings.baseUrl, .error (.status 503)),
      (retriedGame.lineupUrl linkedSetup.settings.baseUrl, .error (.status 404)),
      (retriedGame.reviewUrl linkedSetup.settings.baseUrl, .error (.status 404))]
    (fun r => r.ended = true ∧ attemptsOf r = [("19900412SSSS0", 1), ("20240323HHLG0", 2)] ∧
      (r.shared.store.copies "19900412SSSS0").accepted.length = 1 ∧
      (r.shared.store.copies "19900412SSSS0").review.length = 2)
    hfirst (by decide +kernel)
  exact ⟨past, r, h, conforms_of_pages hcalm hpages (by decide +kernel), hr⟩

theorem exists_pair : ∃ past r, Reached linkedSetup (twoStart 2) past r ∧
    Conforms linkedSetup twoReplies past ∧ r.ended = true ∧
    attemptsOf r = [("20240323HHLG0", 2), ("19900412SSSS0", 1)] := by
  have hfirst := follow_pairPages linkMarkup shortMarkup
  rw [ofMarkup_linkMarkup, inspect_shortMarkup_with (s := linkedSetup) rfl] at hfirst
  obtain ⟨past, r, h, hcalm, hpages, hr⟩ := exists_resumed pairRest
    [(retriedGame.lineupUrl linkedSetup.settings.baseUrl, .error (.status 404)),
      (retriedGame.reviewUrl linkedSetup.settings.baseUrl, .error (.status 404))]
    (fun r => r.ended = true ∧ attemptsOf r = [("20240323HHLG0", 2), ("19900412SSSS0", 1)])
    hfirst (by decide +kernel)
  exact ⟨past, r, h, conforms_of_pages hcalm hpages (by decide +kernel), hr⟩

/-- One worker, and two workers that finish in the other order, report the same and keep the same
rows of a game, while another game is tried twice. -/
theorem orders_of_two_games_agree : ∃ past past' r r',
    Reached linkedSetup (twoStart 1) past r ∧ Reached linkedSetup (twoStart 2) past' r' ∧
      attemptsOf r = [("19900412SSSS0", 1), ("20240323HHLG0", 2)] ∧
      attemptsOf r' = [("20240323HHLG0", 2), ("19900412SSSS0", 1)] ∧
      r.report.results = r'.report.results ∧
      (r'.shared.store.copies "19900412SSSS0").accepted.length = 1 ∧
      (r'.shared.store.copies "19900412SSSS0").review.length = 2 ∧
      ∃ result ∈ r'.report.results, ComesTo linkedSetup retriedGame twoReplies past result := by
  obtain ⟨past, r, hr, hc, he, hattempts, haccepted, hreview⟩ := exists_solo
  obtain ⟨past', r', hr', hc', he', hattempts'⟩ := exists_pair
  have hs := (nodup_resultIds ["19900412SSSS0", "20240323HHLG0"]).1 (by decide +kernel)
  obtain ⟨hresults, hcopies, hcomes⟩ :=
    runs_agree (Nat.le_refl 1) (Nat.le_succ 1) hs rfl hr hr' he he' hc hc'
  have hretried := hcomes "20240323HHLG0" (by decide +kernel) retriedGame (by decide +kernel)
  rw [hcopies] at haccepted hreview
  rw [hresults] at hretried
  exact ⟨past, past', r, r', hr, hr', hattempts, hattempts', hresults, haccepted, hreview, hretried⟩

end Run

end Scorebook.Ingest
