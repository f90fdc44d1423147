import Scorebook.Proofs.Ingest.Accounts

/-!
# The courses of games

A run interleaves its games.  A `Course` is what one game has gone through so far: the attempts that
ended in another one, the exchanges of the current attempt, and where the game is.  `Run.Tracks`
says that a list of courses accounts for all of a run, its queue, timers, workers and results and
everything it exchanged for its games.  Every event moves one course on, so every run is tracked by
courses of the games that it started with.
-/

namespace Scorebook.Ingest
open Text

/-! ### Dealings by game -/

def Dealing.own? (d : Dealing) : Option Exchange :=
  match d.job with
  | none => some d.exchange
  | some _ => none

def Dealing.forJob? (d : Dealing) : Option Exchange :=
  match d.job with
  | none => none
  | some _ => some d.exchange

def Dealing.forGame? (gameId : String) (d : Dealing) : Option Exchange :=
  match d.job with
  | none => none
  | some job => if job.game.text = gameId then some d.exchange else none

def ownExchanges (past : List Dealing) : List Exchange := past.filterMap Dealing.own?

def jobExchanges (past : List Dealing) : List Exchange := past.filterMap Dealing.forJob?

def gameExchanges (gameId : String) (past : List Dealing) : List Exchange :=
  past.filterMap (Dealing.forGame? gameId)

def recordedIn (xs : List Exchange) : List GameResult := (writesOf xs).filterMap SinkCall.result?

@[simp] theorem recordedIn_append (xs ys : List Exchange) :
    recordedIn (xs ++ ys) = recordedIn xs ++ recordedIn ys := by
  simp only [recordedIn, writesOf_append, List.filterMap_append]

section
variable {past ds : List Dealing} {gameId : String}

theorem ownExchanges_append :
    ownExchanges (past ++ ds) = ownExchanges past ++ ownExchanges ds := List.filterMap_append

theorem jobExchanges_append :
    jobExchanges (past ++ ds) = jobExchanges past ++ jobExchanges ds := List.filterMap_append

theorem gameExchanges_append :
    gameExchanges gameId (past ++ ds) = gameExchanges gameId past ++ gameExchanges gameId ds :=
  List.filterMap_append

end

section
variable (job : Job) (xs : List Exchange)

theorem ownExchanges_of_job : ownExchanges (xs.map fun x => ⟨some job, x⟩) = [] := by
  simp [ownExchanges, List.filterMap_map, Function.comp_def, Dealing.own?]

theorem jobExchanges_of_job : jobExchanges (xs.map fun x => ⟨some job, x⟩) = xs := by
  simp [jobExchanges, List.filterMap_map, Function.comp_def, Dealing.forJob?]

theorem gameExchanges_of_job :
    gameExchanges job.game.text (xs.map fun x => ⟨some job, x⟩) = xs := by
  simp [gameExchanges, List.filterMap_map, Function.comp_def, Dealing.forGame?]

theorem gameExchanges_of_other {gameId : String} (h : job.game.text ≠ gameId) :
    gameExchanges gameId (xs.map fun x => ⟨some job, x⟩) = [] := by
  simp [gameExchanges, List.filterMap_map, Function.comp_def, Dealing.forGame?, h]

end

/-! ### First jobs -/

section
variable {x : String} {g : GameId} {e : GameIdError}

theorem firstJob?_of_ok (h : GameId.decode x = .ok g) : firstJob? x = some ⟨g, 1⟩ := by
  simp only [firstJob?, h]

theorem firstJob?_of_error (h : GameId.decode x = .error e) : firstJob? x = none := by
  simp only [firstJob?, h]

theorem refusal?_of_ok (h : GameId.decode x = .ok g) : refusal? x = none := by
  simp only [refusal?, h]

theorem refusal?_of_error (h : GameId.decode x = .error e) :
    refusal? x = some ⟨x, 0, .failed e.message⟩ := by
  simp only [refusal?, h]

end

/-! ### Courses -/

/-- The attempts at a game before the one of this number made these exchanges, and each of them
ended in another attempt. -/
inductive Retried (s : Setup) (g : GameId) : Nat → List Exchange → Prop
  | first : Retried s g 1 []
  | next {k : Nat} {xs ys : List Exchange} :
      Retried s g k xs → (workOn s ⟨g, k⟩).Ends ys .again → Retried s g (k + 1) (xs ++ ys)

theorem Retried.writes_nil {s : Setup} {g : GameId} {k : Nat} {xs : List Exchange}
    (h : Retried s g k xs) : writesOf xs = [] := by
  induction h with
  | first => rfl
  | next _ hy ih =>
    rcases workOn_ends hy with ⟨_, _, hw⟩ | ⟨g, hg, _⟩
    · rw [writesOf_append, ih, hw, List.append_nil]
    · cases hg

theorem Retried.bounds {s : Setup} {g : GameId} {k : Nat} {xs : List Exchange}
    (h : Retried s g k xs) : 1 ≤ k ∧ k ≤ s.settings.retry.maxAttempts := by
  cases h with
  | first => exact ⟨Nat.le_refl 1, s.settings.retry.one_le_maxAttempts⟩
  | next _ hy =>
    rcases workOn_ends hy with ⟨_, hlt, _⟩ | ⟨g, hg, _⟩
    · exact ⟨Nat.succ_le_succ (Nat.zero_le _), hlt⟩
    · cases hg

inductive Place where
  /-- On the queue or in a timer. -/
  | waiting
  | held (w : Worker)
  | settled (result : GameResult)

/-- What the place of a game says about its current attempt. -/
def Place.Fits (s : Setup) (job : Job) (current : List Exchange) : Place → Prop
  | waiting => current = []
  | held w => w.job? = some job ∧ w.Resumes s job current
  | settled g => (workOn s job).Ends current (.finished g)

/-- What a game has gone through. -/
structure Course where
  /-- The game, with the number of its current attempt. -/
  job : Job
  /-- What the attempts before the current one exchanged. -/
  before : List Exchange
  /-- What the current attempt exchanged. -/
  current : List Exchange
  place : Place

namespace Course

def exchanged (c : Course) : List Exchange := c.before ++ c.current

def waiting? (c : Course) : Option Job :=
  match c.place with
  | .waiting => some c.job
  | _ => none

def worker? (c : Course) : Option Worker :=
  match c.place with
  | .held w => some w
  | _ => none

def result? (c : Course) : Option GameResult :=
  match c.place with
  | .settled g => some g
  | _ => none

structure Possible (s : Setup) (c : Course) : Prop where
  before : Retried s c.job.game c.job.attempt c.before
  place : c.place.Fits s c.job c.current

/-- The course of a game that has not been worked on. -/
def fresh (job : Job) : Course := ⟨job, [], [], .waiting⟩

theorem fresh_possible (s : Setup) (g : GameId) : (fresh ⟨g, 1⟩).Possible s := ⟨.first, rfl⟩

end Course

namespace Run

/-- The courses account for all of a run. -/
structure Tracks (s : Setup) (start : Run) (past : List Dealing) (r : Run) (cs : List Course) :
    Prop where
  games : (cs.map fun c => c.job.game).Perm (start.queue.map Job.game)
  possible : ∀ c ∈ cs, c.Possible s
  waiting : (r.queue ++ r.timers.map Timer.job).Perm (cs.filterMap Course.waiting?)
  held : (r.workers.filter fun w => w.job?.isSome).Perm (cs.filterMap Course.worker?)
  results : (r.refused ++ (r.results ++ r.done)).Perm
    (start.refused ++ cs.filterMap Course.result?)
  refusals : recordedIn (ownExchanges past) ++ r.refused = start.refused
  exchanged : (jobExchanges past).Perm (cs.flatMap Course.exchanged)
  /-- A game whose identifier no other game has keeps the order of what was exchanged for it. -/
  inOrder : ∀ c ∈ cs, (start.queue.map fun job => job.game.text).count c.job.game.text ≤ 1 →
    gameExchanges c.job.game.text past = c.exchanged

section
variable {s : Setup} {start : Run} {past : List Dealing} {r : Run} {cs : List Course}

theorem Tracks.perm {cs' : List Course} (h : Tracks s start past r cs) (hp : cs'.Perm cs) :
    Tracks s start past r cs' where
  games := (hp.map _).trans h.games
  possible := fun c hc => h.possible c (hp.mem_iff.1 hc)
  waiting := h.waiting.trans (hp.filterMap _).symm
  held := h.held.trans (hp.filterMap _).symm
  results := h.results.trans ((hp.filterMap _).symm.append_left _)
  refusals := h.refusals
  exchanged := h.exchanged.trans (hp.flatMap_right _).symm
  inOrder := fun c hc => h.inOrder c (hp.mem_iff.1 hc)

theorem exists_cons_perm {β : Type} {f : Course → Option β} {b : β} (h : b ∈ cs.filterMap f) :
    ∃ c rest, (c :: rest).Perm cs ∧ f c = some b := by
  obtain ⟨c, hc, hb⟩ := List.mem_filterMap.1 h
  obtain ⟨before, after, rfl⟩ := List.append_of_mem hc
  exact ⟨c, before ++ after, List.perm_middle.symm, hb⟩

theorem Tracks.course_of_waiting {job : Job} (h : Tracks s start past r cs)
    (hj : job ∈ r.queue ++ r.timers.map Timer.job) :
    ∃ xs rest, Tracks s start past r (⟨job, xs, [], .waiting⟩ :: rest) ∧
      Retried s job.game job.attempt xs := by
  obtain ⟨c, rest, hp, hc⟩ := exists_cons_perm (h.waiting.mem_iff.1 hj)
  have ht := h.perm hp
  have hpos := ht.possible c List.mem_cons_self
  obtain ⟨j, xs, ys, place⟩ := c
  cases place with
  | waiting =>
    cases hc
    obtain rfl : ys = [] := hpos.place
    exact ⟨xs, rest, ht, hpos.before⟩
  | held w => cases hc
  | settled g => cases hc

theorem Tracks.course_of_held {i : Nat} {w : Worker} {job : Job} (h : Tracks s start past r cs)
    (hi : r.workers[i]? = some w) (hw : w.job? = some job) :
    ∃ xs ys rest, Tracks s start past r (⟨job, xs, ys, .held w⟩ :: rest) ∧
      Retried s job.game job.attempt xs ∧ w.Resumes s job ys := by
  have hm : w ∈ r.workers.filter fun w => w.job?.isSome :=
    List.mem_filter.2 ⟨List.mem_of_getElem? hi, by rw [hw]; rfl⟩
  obtain ⟨c, rest, hp, hc⟩ := exists_cons_perm (h.held.mem_iff.1 hm)
  have ht := h.perm hp
  have hpos := ht.possible c List.mem_cons_self
  obtain ⟨j, xs, ys, place⟩ := c
  cases place with
  | waiting => cases hc
  | held v =>
    cases hc
    obtain ⟨hj, hres⟩ := hpos.place
    obtain rfl : j = job := Option.some.inj (hj.symm.trans hw)
    exact ⟨xs, ys, rest, ht, hpos.before, hres⟩
  | settled g => cases hc

/-- A change of one worker changes what is held by this worker only. -/
theorem exists_held_perm {i : Nat} {w : Worker} (h : r.workers[i]? = some w) :
    ∃ others, (r.workers.filter fun w => w.job?.isSome).Perm
        ([w].filter (fun w => w.job?.isSome) ++ others) ∧
      ∀ v, ((r.put i v).workers.filter fun w => w.job?.isSome).Perm
        ([v].filter (fun w => w.job?.isSome) ++ others) := by
  obtain ⟨others, hw, hset⟩ := exists_perm_set h
  refine ⟨others.filter fun w => w.job?.isSome, ?_, fun v => ?_⟩
  · rw [← List.filter_append]
    exact hw.filter _
  · rw [← List.filter_append]
    exact (hset v).filter _

/-! ### Events -/

/-- Dealings of the run itself that record no result change no course. -/
theorem Tracks.own {c : SinkCall} {failure : Option String} (h : Tracks s start past r cs)
    (hc : c.result? = none) : Tracks s start (past ++ [⟨none, .write c failure⟩]) r cs where
  games := h.games
  possible := h.possible
  waiting := h.waiting
  held := h.held
  results := h.results
  refusals := by
    have hr : recordedIn (ownExchanges [⟨none, .write c failure⟩]) = [] :=
      List.filterMap_cons_none hc
    rw [ownExchanges_append, recordedIn_append, hr, List.append_nil]
    exact h.refusals
  exchanged := by
    rw [jobExchanges_append]
    exact (List.append_nil _).symm ▸ h.exchanged
  inOrder := fun c hc hn => by
    rw [gameExchanges_append]
    exact (List.append_nil _).trans (h.inOrder c hc hn)

/-- The next refused identifier is recorded. -/
theorem Tracks.refuse {r' : Run} {g : GameResult} {rest : List GameResult}
    {failure : Option String} (h : Tracks s start past r cs) (hg : r.refused = g :: rest)
    (hq : r'.queue = r.queue) (ht : r'.timers = r.timers) (hw : r'.workers = r.workers)
    (hd : r'.done = r.done) (hres : r'.results = r.results ++ [g]) (hrf : r'.refused = rest) :
    Tracks s start (past ++ [⟨none, .write (.outcome g) failure⟩]) r' cs where
  games := h.games
  possible := h.possible
  waiting := by
    rw [hq, ht]
    exact h.waiting
  held := by
    rw [hw]
    exact h.held
  results := by
    have hold := h.results
    rw [hg] at hold
    rw [hrf, hres, hd, List.append_assoc]
    have hmid : (rest ++ (r.results ++ g :: r.done)).Perm (g :: (rest ++ (r.results ++ r.done))) := by
      rw [← List.append_assoc, ← List.append_assoc]
      exact List.perm_middle
    exact hmid.trans hold
  refusals := by
    have hr : recordedIn (ownExchanges [⟨none, .write (.outcome g) failure⟩]) = [g] := rfl
    rw [ownExchanges_append, recordedIn_append, hr, hrf, List.append_assoc]
    rw [← h.refusals, hg]
    rfl
  exchanged := by
    rw [jobExchanges_append]
    exact (List.append_nil _).symm ▸ h.exchanged
  inOrder := fun c hc hn => by
    rw [gameExchanges_append]
    exact (List.append_nil _).trans (h.inOrder c hc hn)

/-- A worker takes a job: its course goes on with the worker. -/
theorem Tracks.take {i : Nat} {job : Job} {queue : List Job} (h : Tracks s start past r cs)
    (hi : r.workers[i]? = some .idle) (hq : r.queue = job :: queue) :
    ∃ cs', Tracks s start past
      ({ r with queue := queue }.put i (.busy job r.clock (workOn s job))) cs' := by
  have hm : job ∈ r.queue ++ r.timers.map Timer.job := by simp [hq]
  obtain ⟨xs, rest, ht, hxs⟩ := h.course_of_waiting hm
  obtain ⟨others, hw, hset⟩ := exists_held_perm hi
  refine ⟨⟨job, xs, [], .held (.busy job r.clock (workOn s job))⟩ :: rest, ?_⟩
  constructor
  · exact ht.games
  · have hrest := (List.forall_mem_cons.1 ht.possible).2
    exact List.forall_mem_cons.2 ⟨⟨hxs, rfl, Worker.resumes_taken s job r.clock⟩, hrest⟩
  · have hold := ht.waiting
    rw [hq] at hold
    exact hold.cons_inv
  · have hold : others.Perm (rest.filterMap Course.worker?) := hw.symm.trans ht.held
    exact (hset _).trans (hold.cons _)
  · exact ht.results
  · exact ht.refusals
  · exact ht.exchanged
  · obtain ⟨hjob, hrest⟩ := List.forall_mem_cons.1 ht.inOrder
    exact List.forall_mem_cons.2 ⟨hjob, hrest⟩

/-- A worker goes on with its job: the exchange of its turn joins the course of the job. -/
theorem Tracks.move {i : Nat} {w : Worker} {t : Turn} {run : Uuid} (h : Tracks s start past r cs)
    (hi : r.workers[i]? = some w) (ht : Worker.Turned run r.shared w t) :
    ∃ cs', Tracks s start (past ++ t.exchanged.map fun x => ⟨t.worker.job?, x⟩)
      ({ r with shared := t.shared }.put i t.worker) cs' := by
  obtain ⟨job, hw, hv⟩ := ht.job
  obtain ⟨xs, ys, rest, htr, hxs, hys⟩ := h.course_of_held hi hw
  obtain ⟨others, hold, hset⟩ := exists_held_perm hi
  refine ⟨⟨job, xs, ys ++ t.exchanged, .held t.worker⟩ :: rest, ?_⟩
  rw [hv]
  constructor
  · exact htr.games
  · have hrest := (List.forall_mem_cons.1 htr.possible).2
    exact List.forall_mem_cons.2 ⟨⟨hxs, hv, hys.turn ht⟩, hrest⟩
  · exact htr.waiting
  · have hw' : [w].filter (fun w => w.job?.isSome) = [w] := by simp [hw]
    have hv' : [t.worker].filter (fun w => w.job?.isSome) = [t.worker] := by simp [hv]
    rw [hw'] at hold
    have hrest : others.Perm (rest.filterMap Course.worker?) := (hold.symm.trans htr.held).cons_inv
    have hnew := hset t.worker
    rw [hv'] at hnew
    exact hnew.trans (hrest.cons _)
  · exact htr.results
  · rw [ownExchanges_append, ownExchanges_of_job, List.append_nil]
    exact htr.refusals
  · have hpast := htr.exchanged
    rw [jobExchanges_append, jobExchanges_of_job]
    simp only [List.flatMap_cons, Course.exchanged] at hpast ⊢
    refine (hpast.append_right t.exchanged).trans ?_
    rw [List.append_assoc, List.append_assoc, List.append_assoc, List.append_assoc]
    exact ((List.perm_append_comm.append_left ys).append_left xs)
  · obtain ⟨hjob, hrest⟩ := List.forall_mem_cons.1 htr.inOrder
    have htexts := htr.games.map GameId.text
    rw [List.map_map, List.map_map] at htexts
    -- The exchange joins its own course; another course that has to be in order has another text.
    refine List.forall_mem_cons.2 ⟨fun hn => ?_, fun c hc hn => ?_⟩
    · rw [gameExchanges_append, hjob hn, gameExchanges_of_job job]
      simp only [Course.exchanged, List.append_assoc]
    · have hne : job.game.text ≠ c.job.game.text := by
        intro he
        have hcount := Nat.le_trans (Nat.le_of_eq (htexts.count_eq c.job.game.text)) hn
        rw [List.map_cons, Function.comp_apply, he, List.count_cons_self] at hcount
        have hmem : c.job.game.text ∈ rest.map (GameId.text ∘ fun c => c.job.game) :=
          List.mem_map.2 ⟨c, hc, rfl⟩
        have hpos := List.count_pos_iff.2 hmem
        omega
      rw [gameExchanges_append, hrest c hc hn, gameExchanges_of_other job _ hne, List.append_nil]

/-- A worker reports a result: the course is settled. -/
theorem Tracks.report {i : Nat} {job : Job} {since : Nat} {g : GameResult}
    (h : Tracks s start past r cs)
    (hi : r.workers[i]? = some (.busy job since (.done (.finished g)))) :
    ∃ cs', Tracks s start past ({ r with done := r.done ++ [g] }.put i .idle) cs' := by
  obtain ⟨xs, ys, rest, ht, hxs, hys⟩ := h.course_of_held hi rfl
  obtain ⟨others, hold, hset⟩ := exists_held_perm hi
  refine ⟨⟨job, xs, ys, .settled g⟩ :: rest, ?_⟩
  constructor
  · exact ht.games
  · have hrest := (List.forall_mem_cons.1 ht.possible).2
    exact List.forall_mem_cons.2 ⟨⟨hxs, hys.ends⟩, hrest⟩
  · exact ht.waiting
  · exact (hset .idle).trans (hold.symm.trans ht.held).cons_inv
  · have hres := ht.results
    have hnew : (r.refused ++ (r.results ++ (r.done ++ [g]))).Perm
        (g :: (r.refused ++ (r.results ++ r.done))) := by
      rw [← List.append_assoc, ← List.append_assoc, List.append_assoc r.refused]
      exact List.perm_append_comm
    exact (hnew.trans (hres.cons g)).trans List.perm_middle.symm
  · exact ht.refusals
  · exact ht.exchanged
  · obtain ⟨hjob, hrest⟩ := List.forall_mem_cons.1 ht.inOrder
    exact List.forall_mem_cons.2 ⟨hjob, hrest⟩

/-- A job waits for another attempt: the course begins the next attempt. -/
theorem Tracks.wait {i : Nat} {job : Job} {since due : Nat} (h : Tracks s start past r cs)
    (hi : r.workers[i]? = some (.busy job since (.done .again))) :
    ∃ cs', Tracks s start past
      ({ r with timers := r.timers ++ [Timer.mk due { job with attempt := job.attempt + 1 }] }.put
        i .idle) cs' := by
  obtain ⟨xs, ys, rest, ht, hxs, hys⟩ := h.course_of_held hi rfl
  obtain ⟨others, hold, hset⟩ := exists_held_perm hi
  refine ⟨⟨{ job with attempt := job.attempt + 1 }, xs ++ ys, [], .waiting⟩ :: rest, ?_⟩
  constructor
  · exact ht.games
  · have hrest := (List.forall_mem_cons.1 ht.possible).2
    exact List.forall_mem_cons.2 ⟨⟨.next hxs hys.ends, rfl⟩, hrest⟩
  · have hw := ht.waiting
    simp only [put, List.map_append, List.map_cons, List.map_nil]
    rw [← List.append_assoc]
    exact (List.perm_append_singleton _ _).trans (hw.cons _)
  · exact (hset .idle).trans (hold.symm.trans ht.held).cons_inv
  · exact ht.results
  · exact ht.refusals
  · have hpast := ht.exchanged
    simp only [List.flatMap_cons, Course.exchanged, List.append_nil] at hpast ⊢
    exact hpast
  · obtain ⟨hjob, hrest⟩ := List.forall_mem_cons.1 ht.inOrder
    exact List.forall_mem_cons.2 ⟨fun hn => (hjob hn).trans (List.append_nil _).symm, hrest⟩

theorem Tracks.step {ds : List Dealing} {r' : Run} (h : Tracks s start past r cs)
    (hs : r.Steps s ds r') : ∃ cs', Tracks s start (past ++ ds) r' cs' := by
  cases hs with
  | tick hc =>
    rw [List.append_nil]
    exact ⟨cs, h.1, h.2, h.3, h.4, h.5, h.6, h.7, h.8⟩
  | refuse hg => exact ⟨cs, h.refuse hg rfl rfl rfl rfl rfl rfl⟩
  | take hi hq hr =>
    rw [List.append_nil]
    exact h.take hi hq
  | move hi ht => exact h.move hi (Worker.turned_of_turn ht)
  | report hi =>
    rw [List.append_nil]
    exact h.report hi
  | wait hi =>
    rw [List.append_nil]
    exact h.wait hi
  | fire hi hd =>
    rw [List.append_nil]
    obtain ⟨hlt, rfl⟩ := List.getElem?_eq_some_iff.1 hi
    have hperm := (List.getElem_cons_eraseIdx_perm hlt).map Timer.job
    refine ⟨cs, h.1, h.2, ?_, h.4, h.5, h.6, h.7, h.8⟩
    rw [List.append_assoc]
    exact (hperm.append_left r.queue).trans h.waiting
  | stop hi hs =>
    -- Neither an idle worker nor a stopped one holds a job.
    rw [List.append_nil]
    obtain ⟨others, hold, hset⟩ := exists_held_perm hi
    exact ⟨cs, h.1, h.2, h.3, ((hset .stopped).trans hold.symm).trans h.4, h.5, h.6, h.7, h.8⟩
  | collect hg hp =>
    rw [List.append_nil]
    refine ⟨cs, h.1, h.2, h.3, h.4, ?_, h.6, h.7, h.8⟩
    have hold := h.results
    rw [hg] at hold
    simp only [addResult, List.append_assoc]
    exact hold
  | @finish now failure hr hp =>
    have hf : Tracks s start (past ++ [⟨none, .write (.run (r.closing now)) failure⟩]) r cs :=
      h.own rfl
    exact ⟨cs, hf.1, hf.2, hf.3, hf.4, hf.5, hf.6, hf.7, hf.8⟩

end

/-! ### Runs -/

section
variable {s : Setup} {n : Nat} {id : Uuid} {now : Instant} {shared : Shared} {ids : List String}
  {past : List Dealing} {r : Run}

/-- A run starts with a first attempt at every game that is decoded from its batch. -/
theorem mem_firstJobs {job : Job} : job ∈ (startWith n id now shared ids).queue ↔
    job.attempt = 1 ∧ ∃ x ∈ batchIds ids, GameId.decode x = .ok job.game := by
  constructor
  · intro h
    obtain ⟨x, hx, hf⟩ := List.mem_filterMap.1 h
    cases hd : GameId.decode x with
    | ok g =>
      obtain rfl := Option.some.inj ((firstJob?_of_ok hd).symm.trans hf)
      exact ⟨rfl, x, hx, hd⟩
    | error e => cases (firstJob?_of_error hd).symm.trans hf
  · rintro ⟨hattempt, x, hx, hd⟩
    obtain ⟨g, k⟩ := job
    obtain rfl : k = 1 := hattempt
    exact List.mem_filterMap.2 ⟨x, hx, firstJob?_of_ok hd⟩

theorem decoded_of_mem_first_games {g : GameId}
    (h : g ∈ (startWith n id now shared ids).queue.map Job.game) :
    ∃ x, GameId.decode x = .ok g := by
  obtain ⟨job, hjob, rfl⟩ := List.mem_map.1 h
  obtain ⟨_, x, _, hd⟩ := mem_firstJobs.1 hjob
  exact ⟨x, hd⟩

theorem tracks_startWith : Tracks s (startWith n id now shared ids) []
    (startWith n id now shared ids) ((startWith n id now shared ids).queue.map Course.fresh) where
  games := by
    rw [List.map_map]
    rfl
  possible := by
    intro c hc
    obtain ⟨⟨g, k⟩, hjob, rfl⟩ := List.mem_map.1 hc
    obtain rfl : k = 1 := (mem_firstJobs.1 hjob).1
    exact Course.fresh_possible s g
  waiting := by
    have hw : Course.waiting? ∘ Course.fresh = some := rfl
    rw [List.filterMap_map, hw, List.filterMap_some]
    exact .of_eq (List.append_nil _)
  held := by
    have hw : Course.worker? ∘ Course.fresh = fun _ => none := rfl
    rw [List.filterMap_map, hw]
    simp [startWith, Worker.job?]
  results := by
    have hw : Course.result? ∘ Course.fresh = fun _ => none := rfl
    rw [List.filterMap_map, hw]
    simp [startWith]
  refusals := rfl
  exchanged := by
    have hw : ∀ job, (Course.fresh job).exchanged = [] := fun _ => rfl
    simp [jobExchanges, List.flatMap_map, hw]
  inOrder := by
    intro c hc _
    obtain ⟨job, _, rfl⟩ := List.mem_map.1 hc
    rfl

theorem Reached.tracked (h : Reached s (startWith n id now shared ids) past r) :
    ∃ cs, Tracks s (startWith n id now shared ids) past r cs := by
  refine h.invariant (P := fun past r => ∃ cs, Tracks s (startWith n id now shared ids) past r cs)
    ⟨_, tracks_startWith⟩ ?_
  intro past r ds r' _ _ hs ⟨cs, ih⟩
  exact ih.step hs

end

end Run

end Scorebook.Ingest
