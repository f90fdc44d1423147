import Scorebook.Proofs.Ingest.Reached

/-!
# The accounts of a run

The numbers of a run at any time.  The count of pending results is the number of jobs on the queue,
with workers and in timers together with the results that were not collected; no worker ever stops,
so a run ends only when nothing is pending; and the summary counts the results.
-/

namespace Scorebook.Ingest
open Text

namespace Worker

theorem isGone_of_job {w : Worker} {job : Job} (h : w.job? = some job) : w.isGone = false := by
  cases w with
  | stopped => cases h
  | _ => rfl

end Worker

namespace Run

def heldCount (r : Run) : Nat := (r.workers.filterMap Worker.job?).length

theorem exists_heldCount {r : Run} {i : Nat} {w : Worker} (h : r.workers[i]? = some w) :
    ∃ n, r.heldCount = w.job?.toList.length + n ∧
      ∀ v, (r.put i v).heldCount = v.job?.toList.length + n := by
  obtain ⟨others, hw, hset⟩ := exists_perm_set h
  have hcons : ∀ v : Worker, ((v :: others).filterMap Worker.job?).length =
      v.job?.toList.length + (others.filterMap Worker.job?).length := by
    intro v
    cases hv : v.job? <;> simp [hv, Nat.add_comm]
  refine ⟨(others.filterMap Worker.job?).length, ?_, fun v => ?_⟩
  · rw [heldCount, (hw.filterMap _).length_eq, hcons]
  · rw [heldCount, put, ((hset v).filterMap _).length_eq, hcons]

section
variable {s : Setup} {n : Nat} {id : Uuid} {now : Instant} {shared : Shared} {ids : List String}
  {past : List Dealing} {r : Run}

/-! ### Pending results -/

/-- What is pending is on the queue, with a worker, in a timer, or reported and not collected. -/
theorem Reached.pending_eq (h : Reached s (startWith n id now shared ids) past r) :
    r.pending = r.queue.length + r.heldCount + r.timers.length + r.done.length := by
  refine h.invariant (P := fun _ r => r.pending =
    r.queue.length + r.heldCount + r.timers.length + r.done.length) ?_ ?_
  · simp [startWith, heldCount, List.filterMap_replicate, Worker.job?]
  · intro past r ds r' _ _ hs ih
    -- A job is moved from one place to another; only a collected result leaves the count.
    cases hs with
    | tick hc => exact ih
    | refuse hg => exact ih
    | @take i job queue hi hq hr =>
      obtain ⟨k, hk, hset⟩ := exists_heldCount hi
      have hv := hset (.busy job r.clock (workOn s job))
      simp only [heldCount, put, Worker.job?, hq, Option.toList, List.length_cons,
        List.length_nil] at ih hk hv ⊢
      omega
    | @move i m w t hi ht =>
      obtain ⟨job, hw, ht⟩ := (Worker.turned_of_turn ht).job
      obtain ⟨k, hk, hset⟩ := exists_heldCount hi
      have hv := hset t.worker
      rw [ht] at hv
      rw [hw] at hk
      simp only [heldCount, put] at ih hk hv ⊢
      omega
    | report hi =>
      obtain ⟨k, hk, hset⟩ := exists_heldCount hi
      have hv := hset .idle
      simp only [heldCount, put, Worker.job?, Option.toList, List.length_append, List.length_cons,
        List.length_nil] at ih hk hv ⊢
      omega
    | wait hi =>
      obtain ⟨k, hk, hset⟩ := exists_heldCount hi
      have hv := hset .idle
      simp only [heldCount, put, Worker.job?, Option.toList, List.length_append, List.length_cons,
        List.length_nil] at ih hk hv ⊢
      omega
    | fire hi hd =>
      obtain ⟨hlt, _⟩ := List.getElem?_eq_some_iff.1 hi
      have he := List.length_eraseIdx_of_lt hlt
      simp only [heldCount, List.length_append, List.length_cons, List.length_nil] at ih ⊢
      omega
    | stop hi hs =>
      obtain ⟨k, hk, hset⟩ := exists_heldCount hi
      have hv := hset .stopped
      simp only [heldCount, put, Worker.job?] at ih hk hv ⊢
      omega
    | collect hg hp =>
      simp only [addResult, heldCount, hg, List.length_cons] at ih ⊢
      omega
    | finish hr hp => exact ih

/-! ### Workers -/

theorem senders_ne_zero (h : r.ended = false) : r.senders ≠ 0 := by
  simp only [senders, h, Bool.false_eq_true, if_false]
  omega

/-- No worker stops while the run goes on, and their number stays what it is. -/
theorem Reached.workers_stay (h : Reached s (startWith n id now shared ids) past r) :
    r.workers.length = min n (startWith n id now shared ids).queue.length ∧
      ∀ w ∈ r.workers, w.isGone = false := by
  refine h.invariant (P := fun _ r =>
    r.workers.length = min n (startWith n id now shared ids).queue.length ∧
      ∀ w ∈ r.workers, w.isGone = false) ?_ ?_
  · refine ⟨List.length_replicate, fun w hw => ?_⟩
    rw [List.eq_of_mem_replicate hw]
    rfl
  · intro past r ds r' _ hn hs ih
    have put_stay : ∀ i v, v.isGone = false →
        (r.workers.set i v).length = min n (startWith n id now shared ids).queue.length ∧
          ∀ w ∈ r.workers.set i v, w.isGone = false := by
      intro i v hv
      refine ⟨List.length_set.trans ih.1, fun w hw => ?_⟩
      rcases List.mem_or_eq_of_mem_set hw with hw | rfl
      · exact ih.2 w hw
      · exact hv
    cases hs with
    | tick hc => exact ih
    | refuse hg => exact ih
    | take hi hq hr => exact put_stay _ _ rfl
    | move hi ht =>
      obtain ⟨job, _, ht⟩ := (Worker.turned_of_turn ht).job
      exact put_stay _ _ (Worker.isGone_of_job ht)
    | report hi => exact put_stay _ _ rfl
    | wait hi => exact put_stay _ _ rfl
    | fire hi hd => exact ih
    -- A worker stops when nobody can send it a job any more, and the run itself still can.
    | stop hi hs => exact absurd hs (senders_ne_zero hn)
    | collect hg hp => exact ih
    | finish hr hp => exact ih

theorem Reached.pending_le (h : Reached s (startWith n id now shared ids) past r) :
    r.pending ≤ (startWith n id now shared ids).queue.length := by
  refine h.invariant (P := fun _ r => r.pending ≤ (startWith n id now shared ids).queue.length)
    (Nat.le_refl _) ?_
  intro past r ds r' _ _ hs ih
  cases hs with
  | collect hg hp => exact Nat.le_trans (Nat.sub_le ..) ih
  | _ => exact ih

/-- While results are pending there is a worker to report them. -/
theorem Reached.not_abandoned (h : Reached s (startWith n id now shared ids) past r) (hn : 1 ≤ n)
    (hp : r.pending ≠ 0) : r.isAbandoned = false := by
  obtain ⟨hlen, hgone⟩ := h.workers_stay
  have hle := h.pending_le
  -- Something is pending, so there was a job to start with, and a worker was started for it.
  have hpos : 0 < r.workers.length := by omega
  obtain ⟨w, hw⟩ := List.exists_mem_of_length_pos hpos
  have hall : r.workers.all Worker.isGone = false := by
    rw [List.all_eq_false]
    exact ⟨w, hw, by simp [hgone w hw]⟩
  rw [isAbandoned, hall, Bool.false_and]

/-- A run ends when nothing is pending and every refused identifier is recorded. -/
theorem Reached.nothing_left (h : Reached s (startWith n id now shared ids) past r) (hn : 1 ≤ n)
    (he : r.ended = true) : r.pending = 0 ∧ r.refused = [] := by
  revert he
  refine h.invariant (P := fun _ r => r.ended = true → r.pending = 0 ∧ r.refused = [])
    (fun he => by cases he) ?_
  intro past r ds r' hr hne hs _
  cases hs with
  | finish hrf hp =>
    intro _
    refine ⟨?_, hrf⟩
    rcases hp with hp | ha
    · exact hp
    · by_contra hp
      rw [hr.not_abandoned hn hp] at ha
      cases ha
  | _ => exact fun he => absurd (hne.symm.trans he) Bool.false_ne_true

theorem Reached.all_empty (h : Reached s (startWith n id now shared ids) past r) (hn : 1 ≤ n)
    (he : r.ended = true) :
    r.queue = [] ∧ r.timers = [] ∧ r.done = [] ∧ r.workers.filterMap Worker.job? = [] := by
  have hp := h.pending_eq
  rw [(h.nothing_left hn he).1, heldCount] at hp
  refine ⟨List.length_eq_zero_iff.1 ?_, List.length_eq_zero_iff.1 ?_,
    List.length_eq_zero_iff.1 ?_, List.length_eq_zero_iff.1 ?_⟩ <;> omega

end

end Run

/-! ### The summary -/

/-- The summary counts these results, in total and by status.  Its counts are 32-bit numbers. -/
structure Tallies (summary : RunSummary) (results : List GameResult) : Prop where
  total : summary.total = UInt32.ofNat results.length
  withStatus : ∀ status, summary.withStatus status =
    UInt32.ofNat (results.countP fun g => g.outcome.status = status)

theorem Tallies.addResult {r : Run} (h : Tallies r.summary r.results) (g : GameResult) :
    Tallies (r.addResult g).summary (r.addResult g).results := by
  constructor
  · simp only [Run.addResult, RunSummary.count, h.total, List.length_append, List.length_cons,
      List.length_nil, UInt32.ofNat_add]
    rfl
  · intro status
    simp only [Run.addResult, RunSummary.count, h.withStatus, List.countP_append,
      List.countP_singleton, UInt32.ofNat_add]
    by_cases hs : g.outcome.status = status
    · simp [hs]
    · simp [hs, Ne.symm hs]

theorem Tallies.perm {summary : RunSummary} {xs ys : List GameResult} (h : Tallies summary xs)
    (hp : ys.Perm xs) : Tallies summary ys where
  total := h.total.trans (congrArg UInt32.ofNat hp.length_eq.symm)
  withStatus := fun status => (h.withStatus status).trans
    (congrArg UInt32.ofNat (hp.countP_eq _).symm)

theorem Tallies.exact {summary : RunSummary} {xs : List GameResult} (h : Tallies summary xs)
    (hlt : xs.length < UInt32.size) : summary.total.toNat = xs.length ∧
      ∀ status, (summary.withStatus status).toNat =
        xs.countP fun g => g.outcome.status = status := by
  refine ⟨?_, fun status => ?_⟩
  · rw [h.total, UInt32.toNat_ofNat_of_lt' hlt]
  · have hle := List.countP_le_length (p := fun g => g.outcome.status = status) (l := xs)
    rw [h.withStatus, UInt32.toNat_ofNat_of_lt' (Nat.lt_of_le_of_lt hle hlt)]

theorem Run.Reached.tallies {s : Setup} {n : Nat} {id : Uuid} {now : Instant} {shared : Shared}
    {ids : List String} {past : List Dealing} {r : Run}
    (h : Run.Reached s (Run.startWith n id now shared ids) past r) : Tallies r.summary r.results := by
  refine h.invariant (P := fun _ r => Tallies r.summary r.results) ⟨rfl, fun _ => rfl⟩ ?_
  intro past r ds r' _ _ hs ih
  cases hs with
  | refuse hg => exact ih.addResult _
  | collect hg hp => exact ih.addResult _
  | finish hr hp => exact ⟨ih.total, ih.withStatus⟩
  | _ => exact ih

end Scorebook.Ingest
