import Mathlib.Data.List.Forall2
import Scorebook.Proofs.Ingest.Recording

/-!
# Every identifier of a batch is answered once

When a run has ended, all of its courses are settled.  So the report has one result for every
identifier of the batch and no other, the summary counts these results, and each of them was
handed to the store once, in a record that says what it is.
-/

namespace Scorebook.Ingest
open Text

/-! ### The identifiers of a batch -/

theorem nodup_batchIds (ids : List String) : (batchIds ids).Nodup := nodup_eraseDups _

theorem mem_batchIds {ids : List String} {x : String} :
    x ∈ batchIds ids ↔ x ≠ "" ∧ ∃ y ∈ ids, trimmed y = x := by
  unfold batchIds
  rw [List.mem_eraseDups, List.mem_filter, List.mem_map, decide_eq_true_iff]
  exact and_comm

/-! ### Answers -/

/-- What the result of an identifier is: that of its refusal, or a result of its game after some of
the attempts allowed. -/
def Answers (s : Setup) (id : String) (g : GameResult) : Prop :=
  match GameId.decode id with
  | .error e => g = ⟨id, 0, .failed e.message⟩
  | .ok game =>
    g.gameId = game.text ∧ 1 ≤ g.attempts ∧ g.attempts ≤ s.settings.retry.maxAttempts

/-- The attempts of an answer can be counted with 32 bits. -/
theorem Answers.attempts_le {s : Setup} {id : String} {g : GameResult} (h : Answers s id g) :
    g.attempts ≤ maxU32 := by
  unfold Answers at h
  split at h
  · rw [h]
    exact Nat.zero_le _
  · exact Nat.le_trans h.2.2 s.settings.retry.maxAttempts_le

section
variable {s : Setup} {c : Course}

/-- A course that neither waits nor is with a worker has a result, which is the only one recorded
in it. -/
theorem Course.Possible.settled (h : c.Possible s) (hq : c.waiting? = none)
    (hw : c.worker? = none) :
    ∃ g, c.result? = some g ∧ Settles c.job c.current g ∧ recordedIn c.exchanged = [g] := by
  obtain ⟨job, before, current, place⟩ := c
  cases place with
  | waiting => cases hq
  | held w => cases hw
  | settled g =>
    have hends : (workOn s job).Ends current (.finished g) := h.place
    rcases workOn_ends hends with ⟨hagain, _⟩ | ⟨g', hg, hsettles⟩
    · cases hagain
    · cases hg
      obtain ⟨cs, hcs, hkeeps⟩ := hsettles.writes
      refine ⟨g, rfl, hsettles, ?_⟩
      have hb : recordedIn before = [] := congrArg _ h.before.writes_nil
      rw [Course.exchanged, recordedIn_append, hb, recordedIn, hcs, List.filterMap_append,
        hkeeps.results]
      rfl

theorem answers_of_settles {id : String} {g : GameResult}
    (hd : GameId.decode id = .ok c.job.game) (h : c.Possible s) (hs : Settles c.job c.current g) :
    Answers s id g := by
  obtain ⟨hpos, hle⟩ := h.before.bounds
  simp only [Answers, hd, hs.gameId, hs.attempts]
  exact ⟨trivial, hpos, hle⟩

/-- Refusals and settled courses answer the identifiers that they come from. -/
theorem answers_of_courses (l : List String) (cs : List Course)
    (hgames : (cs.map fun c => c.job.game).Perm ((l.filterMap firstJob?).map Job.game))
    (hcs : ∀ c ∈ cs, c.Possible s ∧ ∃ g, c.result? = some g ∧ Settles c.job c.current g) :
    ∃ results, results.Perm (l.filterMap refusal? ++ cs.filterMap Course.result?) ∧
      List.Forall₂ (Answers s) l results := by
  -- Induction on the batch: the course of a game is taken out of the list, wherever it stands.
  induction l generalizing cs with
  | nil =>
    have hnil : cs = [] := List.map_eq_nil_iff.1 (List.perm_nil.1 hgames)
    subst hnil
    exact ⟨[], .refl _, .nil⟩
  | cons id rest ih =>
    cases hd : GameId.decode id with
    | error e =>
      rw [List.filterMap_cons_none (firstJob?_of_error hd)] at hgames
      obtain ⟨results, hperm, hall⟩ := ih cs hgames hcs
      have ha : Answers s id ⟨id, 0, .failed e.message⟩ := by simp only [Answers, hd]
      refine ⟨_ :: results, ?_, .cons ha hall⟩
      rw [List.filterMap_cons_some (refusal?_of_error hd)]
      exact hperm.cons _
    | ok game =>
      rw [List.filterMap_cons_some (firstJob?_of_ok hd), List.map_cons] at hgames
      have hmem : game ∈ cs.map fun c => c.job.game := hgames.mem_iff.2 List.mem_cons_self
      obtain ⟨c, hc, hgame⟩ := List.mem_map.1 hmem
      obtain ⟨before, after, rfl⟩ := List.append_of_mem hc
      have hmid : (before ++ c :: after).Perm (c :: (before ++ after)) := List.perm_middle
      have hrest := (hmid.map fun c => c.job.game).symm.trans hgames
      rw [List.map_cons, hgame] at hrest
      obtain ⟨results, hperm, hall⟩ := ih (before ++ after) hrest.cons_inv
        fun d hd => hcs d (hmid.mem_iff.2 (List.mem_cons_of_mem _ hd))
      obtain ⟨hpos, g, hg, hs⟩ := hcs c hc
      refine ⟨g :: results, ?_, .cons (answers_of_settles (hgame ▸ hd) hpos hs) hall⟩
      rw [List.filterMap_cons_none (refusal?_of_ok hd)]
      refine (hperm.cons g).trans (List.perm_middle.symm.trans ?_)
      refine List.Perm.append_left _ (.trans ?_ (hmid.filterMap _).symm)
      rw [List.filterMap_cons_some hg]

end

/-! ### Recorded results -/

theorem recordedIn_perm {xs ys : List Exchange} (h : xs.Perm ys) :
    (recordedIn xs).Perm (recordedIn ys) := (h.filterMap _).filterMap _

/-- What a run exchanged is what it exchanged for itself and for its jobs. -/
theorem exchanges_perm (past : List Dealing) :
    (past.map Dealing.exchange).Perm (ownExchanges past ++ jobExchanges past) := by
  induction past with
  | nil => exact .refl _
  | cons d rest ih =>
    obtain ⟨job, x⟩ := d
    cases job with
    | none => exact ih.cons x
    | some job => exact (ih.cons x).trans List.perm_middle.symm

theorem recordedIn_courses {cs : List Course}
    (h : ∀ c ∈ cs, ∃ g, c.result? = some g ∧ recordedIn c.exchanged = [g]) :
    recordedIn (cs.flatMap Course.exchanged) = cs.filterMap Course.result? := by
  induction cs with
  | nil => rfl
  | cons c rest ih =>
    obtain ⟨⟨g, hg, hx⟩, hrest⟩ := List.forall_mem_cons.1 h
    rw [List.flatMap_cons, recordedIn_append, hx, ih hrest, List.filterMap_cons_some hg]
    rfl

/-! ### The report -/

/-- A report in which every identifier of a batch is answered once, the totals are those of the
results, and each result was handed to the store once, in a record of the run that says what it
is. -/
structure Complete (s : Setup) (ids : List String) (run : Uuid) (handed : List Handed)
    (report : Report) : Prop where
  once : ∃ answers : List (String × GameResult), (answers.map Prod.snd).Perm report.results ∧
    (answers.map Prod.fst).Nodup ∧
    (∀ id, id ∈ answers.map Prod.fst ↔ id ≠ "" ∧ ∃ x ∈ ids, trimmed x = id) ∧
    ∀ a ∈ answers, Answers s a.1 a.2
  recorded : ∃ told : List GameResult, told.Perm report.results ∧
    List.Forall₂ (fun h g => Tells run h.record g) handed told
  tallies : Tallies report.summary report.results
  /-- The totals are exact as long as the identifiers can be counted with 32 bits. -/
  exact : (batchIds ids).length < UInt32.size →
    report.summary.total.toNat = report.results.length ∧
      ∀ status, (report.summary.withStatus status).toNat =
        report.results.countP fun g => g.outcome.status = status

theorem report_results_perm (r : Run) : r.report.results.Perm r.results := List.mergeSort_perm ..

namespace Run

section
variable {s : Setup} {n : Nat} {id : Uuid} {now : Instant} {shared : Shared} {ids : List String}
  {past : List Dealing} {r : Run}

theorem Reached.courses_settled (h : Reached s (startWith n id now shared ids) past r)
    (hn : 1 ≤ n) (he : r.ended = true) {cs : List Course}
    (ht : Tracks s (startWith n id now shared ids) past r cs) :
    ∀ c ∈ cs, c.Possible s ∧ ∃ g, c.result? = some g ∧ Settles c.job c.current g ∧
      recordedIn c.exchanged = [g] := by
  obtain ⟨hq, htm, _, hheld⟩ := h.all_empty hn he
  have hwaiting := ht.waiting
  rw [hq, htm] at hwaiting
  have hworkers : (r.workers.filter fun w => w.job?.isSome) = [] := by
    rw [List.filter_eq_nil_iff]
    intro w hw
    rw [List.filterMap_eq_nil_iff.1 hheld w hw]
    exact Bool.false_ne_true
  have hplaces := ht.held
  rw [hworkers] at hplaces
  intro c hc
  have hpos := ht.possible c hc
  exact ⟨hpos, hpos.settled (List.filterMap_eq_nil_iff.1 (List.nil_perm.1 hwaiting) c hc)
    (List.filterMap_eq_nil_iff.1 (List.nil_perm.1 hplaces) c hc)⟩

theorem Reached.report_perm (h : Reached s (startWith n id now shared ids) past r) (hn : 1 ≤ n)
    (he : r.ended = true) {cs : List Course}
    (ht : Tracks s (startWith n id now shared ids) past r cs) : r.report.results.Perm
      ((batchIds ids).filterMap refusal? ++ cs.filterMap Course.result?) := by
  obtain ⟨_, hrf⟩ := h.nothing_left hn he
  obtain ⟨_, _, hdone, _⟩ := h.all_empty hn he
  have hresults := ht.results
  rw [hrf, hdone, List.append_nil, List.nil_append] at hresults
  exact (report_results_perm r).trans hresults

theorem Reached.exists_answers (h : Reached s (startWith n id now shared ids) past r)
    (hn : 1 ≤ n) (he : r.ended = true) : ∃ results, results.Perm r.report.results ∧
      List.Forall₂ (Answers s) (batchIds ids) results := by
  obtain ⟨cs, ht⟩ := h.tracked
  have hcs := h.courses_settled hn he ht
  obtain ⟨results, hperm, hall⟩ := answers_of_courses (batchIds ids) cs ht.games fun c hc =>
    ⟨(hcs c hc).1, (hcs c hc).2.imp fun g hg => ⟨hg.1, hg.2.1⟩⟩
  exact ⟨results, hperm.trans (h.report_perm hn he ht).symm, hall⟩

/-- When a run has ended, it has recorded the results that it reports. -/
theorem Reached.recordedIn_perm (h : Reached s (startWith n id now shared ids) past r) (hn : 1 ≤ n)
    (he : r.ended = true) : (recordedIn (past.map Dealing.exchange)).Perm r.report.results := by
  obtain ⟨cs, ht⟩ := h.tracked
  have hcs := h.courses_settled hn he ht
  have hrefusals := ht.refusals
  rw [(h.nothing_left hn he).2, List.append_nil] at hrefusals
  have hjobs := Ingest.recordedIn_perm ht.exchanged
  rw [recordedIn_courses fun c hc => (hcs c hc).2.imp fun g hg => ⟨hg.1, hg.2.2⟩] at hjobs
  have hpast := Ingest.recordedIn_perm (exchanges_perm past)
  rw [recordedIn_append, hrefusals] at hpast
  exact (hpast.trans (hjobs.append_left _)).trans (h.report_perm hn he ht).symm

theorem Reached.complete (h : Reached s (startWith n id now shared ids) past r) (hn : 1 ≤ n)
    (he : r.ended = true) {handed : List Handed}
    (hhanded : List.Forall₂ (fun h g => ∃ now, h.record = GameResult.record g id now) handed
      (recordedIn (past.map Dealing.exchange))) : Complete s ids id handed r.report := by
  obtain ⟨results, honce, hall⟩ := h.exists_answers hn he
  have hids : ((batchIds ids).zip results).map Prod.fst = batchIds ids :=
    List.map_fst_zip (Nat.le_of_eq hall.length_eq)
  have hresults : ((batchIds ids).zip results).map Prod.snd = results :=
    List.map_snd_zip (Nat.le_of_eq hall.length_eq.symm)
  have hanswers : ∀ a ∈ (batchIds ids).zip results, Answers s a.1 a.2 :=
    fun a ha => (List.forall₂_iff_zip.1 hall).2 ha
  have hrecorded := h.recordedIn_perm hn he
  have htallies := h.tallies.perm (report_results_perm r)
  refine ⟨⟨_, hresults.symm ▸ honce, hids.symm ▸ nodup_batchIds ids, ?_, hanswers⟩,
    ⟨_, hrecorded, ?_⟩, htallies, fun hlt => htallies.exact ?_⟩
  · rw [hids]
    exact fun id => mem_batchIds
  · -- A result that is recorded is reported, so its attempts are few enough for its record.
    rw [List.forall₂_iff_zip] at hhanded ⊢
    refine ⟨hhanded.1, fun {a g} ha => ?_⟩
    obtain ⟨time, hrecord⟩ := hhanded.2 ha
    have hg := honce.mem_iff.2 (hrecorded.mem_iff.1 (List.of_mem_zip ha).2)
    rw [← hresults] at hg
    obtain ⟨answer, hanswer, rfl⟩ := List.mem_map.1 hg
    exact hrecord ▸ tells_record (hanswers answer hanswer).attempts_le
  · rwa [← honce.length_eq, ← hall.length_eq]

/-- A run neither loses nor repeats a game.  Whatever events it went through, what is pending is on
the queue, with a worker, in a timer or reported and not collected, a worker is left as long as
something is pending, and the outcomes in the store grew by a row for every record that was handed
to it without failure.  When the run ends, its report is complete, and its results are those of the
records. -/
theorem every_game_answered_once (hn : 1 ≤ n) {es : List Event}
    (h : (startWith n id now shared ids).follow s es = some (past, r)) :
    r.pending = r.queue.length + r.heldCount + r.timers.length + r.done.length ∧
      (r.pending ≠ 0 → r.isAbandoned = false) ∧
      r.shared.outcomeRows = shared.outcomeRows ++
        ((startWith n id now shared ids).handed s es).filterMap Handed.row? ∧
      (r.ended = true →
        Complete s ids id ((startWith n id now shared ids).handed s es) r.report) := by
  have hreached := reached_iff_follow.2 ⟨es, h⟩
  obtain ⟨_, hhanded, hrows⟩ := handed_of_follow h
  exact ⟨hreached.pending_eq, hreached.not_abandoned hn, hrows,
    fun he => hreached.complete hn he hhanded⟩

end

/-- A setup without reference data, roster and lineup pages, its addresses without a host. -/
def bareSetup : Setup where
  settings := { Settings.default with baseUrl := "games", fetchLineup := false }
  history := .ofReference ⟨[], [], [], [], []⟩
  roster := fun _ => .ok []

/-- A run with so many workers, before its first event and that of any other. -/
def bareStart (workers : Nat) (ids : List String) : Run :=
  startWith workers .nil .epoch (.initial bareSetup.settings .empty) ids

/-- How a worker takes a game and reserves a slot for its review page. -/
def takeGame (i : Nat) : List Event := [.take i, .move i (.reserve 0)]

/-- How a worker fetches a page with this answer, over a session that it opens or one that is
parked. -/
def getAnswer (i : Nat) (opens : Bool) (answer : Answer) : List Event :=
  .move i .acquire :: (if opens then [.move i (.opened none)] else []) ++
    [.move i (.send (some answer)), .move i .receive, .move i .giveBack]

/-- How a worker learns that the review page is missing. -/
def missPage (i : Nat) (opens : Bool) : List Event :=
  getAnswer i opens (.error (.status 404)) ++ [.move i (.call .epoch none), .handOver i, .collect]

/-- How a worker fails to get the review page, and how its game comes back on the queue. -/
def retryPage (i : Nat) : List Event :=
  getAnswer i true (.error (.status 500)) ++ [.handOver i, .tick 60000, .fire 0]

/-- How a run goes that refuses one text, whose record is lost, and works twice on one game. -/
def refuseAndRetry : List Event :=
  .refuse .epoch (some "disk full") :: takeGame 0 ++ retryPage 0 ++ takeGame 0 ++
    missPage 0 true ++ [.finish .epoch none]

/-- A text that is no identifier, and a game whose page is missing at the second attempt, are
answered once each.  Both are recorded, and the store keeps what was not lost. -/
theorem refused_and_missing_answered :
    ∃ past r, 1 ≤ 1 ∧
      (bareStart 1 [" spring", "20240323HHLG0"]).follow bareSetup refuseAndRetry =
        some (past, r) ∧
      r.shared.outcomeRows.map (Store.Row.cell · "game_id") = [.text "20240323HHLG0"] ∧
      ((bareStart 1 [" spring", "20240323HHLG0"]).handed bareSetup refuseAndRetry).map
        (fun h => (h.record.gameId, h.record.status, h.record.attempts, h.record.messages)) =
          [("spring", .failed, 0, ["invalid game id \"spring\": expected 13 ASCII characters"]),
            ("20240323HHLG0", .failed, 2, ["unexpected status 404"])] ∧
      Complete bareSetup [" spring", "20240323HHLG0"] .nil
        ((bareStart 1 [" spring", "20240323HHLG0"]).handed bareSetup refuseAndRetry) r.report := by
  have hview : ((bareStart 1 [" spring", "20240323HHLG0"]).follow bareSetup refuseAndRetry).map
      (fun p => (p.2.ended, p.2.shared.outcomeRows.map (Store.Row.cell · "game_id"))) =
        some (true, [.text "20240323HHLG0"]) := by decide +kernel
  obtain ⟨⟨past, r⟩, hfollow, hr⟩ := Option.map_eq_some_iff.1 hview
  obtain ⟨hended, hrows⟩ := Prod.ext_iff.1 hr
  exact ⟨past, r, Nat.le_refl 1, hfollow, hrows, by decide +kernel,
    (every_game_answered_once (Nat.le_refl 1) hfollow).2.2.2 hended⟩

end Run

end Scorebook.Ingest
